import FleetDeploy.Proofs.Batch.Judging

/-!
# Errors on their way up

What goes wrong in a unit is an error there, a problem in the batch of the unit, one of several
problems in the error of the batch, and a problem again where that batch was itself the work of some
unit. Each of these passages could lose something: how bad the error is, whom it belongs to, or what
it says. This file says what each of them keeps. The grade is kept by all of them, so that what
comes out on top is as bad as the worst that went wrong at the bottom, however many batches lie in
between. To whom a problem belongs is settled by the first of them and by no later one.

* `FleetDeploy.DeployError.Attributed` – what there is to know of the problem that is made of an
  error;
* `FleetDeploy.Escalates` – what comes of a unit whose work may be a batch of its own, to any depth;
* `FleetDeploy.Escalates.severity_eq` – it is as bad as the worst that went wrong in it, by
  induction over the batches;
* `FleetDeploy.escalates_unchanged` – both passages together, with the verdict on a batch of such
  units.
-/

namespace FleetDeploy

/-! ### From an error to a problem -/

/-- **What a problem has of the error that it is made of**: its grade, and its text unless it was a
problem before. It belongs to some service: to the one that it is made for, unless it was a problem
of some service before, which then is left as it is. And with that its owner is settled. -/
structure DeployError.Attributed (e : DeployError) (service : ServiceName) (p : Problem) :
    Prop where
  severity : p.severity = e.severity
  owned : p.service.isSome
  owner : (∀ q, e = .problem q → q.service = none) → p.service = some service
  kept : ∀ q, e = .problem q → q.service.isSome → p = q
  told : ∀ q, e = .problem q → p.message = q.message ∧ p.remediation = q.remediation
  message : (∀ q, e ≠ .problem q) → p.message = e.message
  final : ∀ other, (DeployError.problem p).toProblem other = p

namespace DeployError

variable {e : DeployError} {service : ServiceName} {q : Problem}

/-- A problem of some service is left as it is. -/
theorem toProblem_of_owned (owned : q.service.isSome) :
    (DeployError.problem q).toProblem service = q := by
  rw [toProblem, if_pos owned]

/-- **All that can become of an error**: a problem of some service is left as it is, a problem of no
service is given to the service at hand, and any other error is told as a problem of that service. -/
theorem toProblem_cases (e : DeployError) (service : ServiceName) :
    (∃ q, e = .problem q ∧ q.service.isSome ∧ e.toProblem service = q) ∨
    (∃ q, e = .problem q ∧ q.service = none ∧ e.toProblem service = q.forService service) ∨
    ((∀ q, e ≠ .problem q) ∧ e.toProblem service = ⟨e.severity, e.message, some service, none⟩) := by
  cases e with
  | problem q =>
    by_cases owned : q.service.isSome
    · exact Or.inl ⟨q, rfl, owned, toProblem_of_owned owned⟩
    · have unowned : q.service = none := Option.not_isSome_iff_eq_none.mp owned
      have given : (DeployError.problem q).toProblem service = q.forService service := by
        rw [toProblem, if_neg owned]
      exact Or.inr (Or.inl ⟨q, rfl, unowned, given⟩)
  | _ =>
    refine Or.inr (Or.inr ⟨fun q same => ?_, rfl⟩)
    cases same

/-- **The problem that is made of an error.** -/
theorem attributed_toProblem (e : DeployError) (service : ServiceName) :
    e.Attributed service (e.toProblem service) := by
  have severity := e.severity_toProblem service
  rcases e.toProblem_cases service with
    ⟨q, rfl, owned, made⟩ | ⟨q, rfl, unowned, made⟩ | ⟨other, made⟩
  · rw [made] at severity ⊢
    have same : ∀ q', DeployError.problem q = .problem q' → q = q' := fun _ => problem.inj
    exact
      { severity := severity
        owned := owned
        owner := fun unowned => by simp [unowned q rfl] at owned
        kept := fun q' eq _ => same q' eq
        told := fun q' eq => by rw [same q' eq]; exact ⟨rfl, rfl⟩
        message := fun other => absurd rfl (other q)
        final := fun _ => toProblem_of_owned owned }
  · rw [made] at severity ⊢
    exact
      { severity := severity
        owned := rfl
        owner := fun _ => rfl
        kept := by
          rintro q' ⟨⟩ owned
          simp [unowned] at owned
        told := by
          rintro q' ⟨⟩
          exact ⟨rfl, rfl⟩
        message := fun other => absurd rfl (other q)
        final := fun _ => toProblem_of_owned rfl }
  · rw [made] at severity ⊢
    exact
      { severity := severity
        owned := rfl
        owner := fun _ => rfl
        kept := fun q same => absurd same (other q)
        told := fun q same => absurd same (other q)
        message := fun _ => rfl
        final := fun _ => toProblem_of_owned rfl }

end DeployError

/-! ### From batch to batch -/

/-- One unit of a batch that has ended, with the grades of what went wrong in it. -/
structure Part where
  service : ServiceName
  /-- How the unit ended, unless it was lost. -/
  report : Option UnitEnding
  grades : List Severity

/-- The outcome of a batch. -/
def Part.outcome (parts : List Part) : BatchOutcome :=
  .ofOutcomes (parts.map fun part => .ofReport part.service part.report)

/-- **What comes of a unit whose work may be a batch of its own**, to any depth, with the grades of
what went wrong at the bottom. A unit whose batch is tolerated has succeeded, and a unit whose batch
is not fails with the error of the batch. -/
inductive Escalates : Option UnitEnding → List Severity → Prop
  | succeeded : Escalates (some (.finished (.ok ()))) []
  | failed (e : DeployError) : Escalates (some (.finished (.error e))) [e.severity]
  | crashed (payload : Option String) : Escalates (some (.crashed payload)) [.fatal]
  | lost : Escalates none [.fatal]
  | batch {parts : List Part} {threshold : Severity} {e : DeployError}
      (each : ∀ part ∈ parts, Escalates part.report part.grades)
      (raised : (Part.outcome parts).raiseIfExceeds threshold = .error e) :
      Escalates (some (.finished (.error e))) (parts.flatMap (·.grades))

theorem Severity.worst_singleton (s : Severity) : Severity.worst [s] = s :=
  max_eq_right (none_le s)

/-- A unit that fails is as bad as its error. -/
theorem UnitOutcome.severity_of_error (service : ServiceName) (e : DeployError) :
    (ofReport service (some (.finished (.error e)))).severity = e.severity :=
  e.severity_toProblem service

/-- **A batch is as bad as the worst that went wrong in its units**, if each of the units is. -/
theorem Part.severity_outcome {parts : List Part}
    (each : ∀ part ∈ parts,
      (UnitOutcome.ofReport part.service part.report).severity = Severity.worst part.grades) :
    (outcome parts).severity = Severity.worst (parts.flatMap (·.grades)) := by
  refine eq_of_forall_ge_iff fun threshold => ?_
  rw [outcome, BatchOutcome.severity_le_iff, Severity.worst_le_iff, List.forall_mem_map]
  constructor
  · intro within grade mem
    obtain ⟨part, listed, mem⟩ := List.mem_flatMap.mp mem
    have worst := within part listed
    rw [each part listed, Severity.worst_le_iff] at worst
    exact worst grade mem
  · intro within part listed
    rw [each part listed, Severity.worst_le_iff]
    intro grade mem
    exact within grade (List.mem_flatMap.mpr ⟨part, listed, mem⟩)

namespace Escalates

variable {report : Option UnitEnding} {grades : List Severity} {e : DeployError}

/-- **What comes of a unit is as bad as the worst that went wrong in it.** -/
theorem severity_eq (escalates : Escalates report grades) (service : ServiceName) :
    (UnitOutcome.ofReport service report).severity = Severity.worst grades := by
  induction escalates generalizing service with
  | succeeded => rfl
  | failed e => rw [UnitOutcome.severity_of_error, Severity.worst_singleton]
  | crashed payload => rfl
  | lost => rfl
  | @batch parts threshold e each raised ih =>
    -- The error of the batch has its problems, and these are as bad as its units.
    obtain ⟨-, rfl⟩ := BatchOutcome.raiseIfExceeds_eq_error.mp raised
    rw [UnitOutcome.severity_of_error]
    exact Part.severity_outcome fun part listed => ih part listed part.service

/-- The error with which a unit fails is as bad as the worst that went wrong in it. -/
theorem severity_error (escalates : Escalates (some (.finished (.error e))) grades) :
    e.severity = Severity.worst grades := by
  rw [← escalates.severity_eq "", UnitOutcome.severity_of_error]

end Escalates

/-- A batch of such units is condemned if and only if something above the threshold went wrong. -/
theorem Part.raises_iff {parts : List Part}
    (each : ∀ part ∈ parts, Escalates part.report part.grades) (threshold : Severity) :
    (∃ e, (outcome parts).raiseIfExceeds threshold = .error e) ↔
      ∃ part ∈ parts, ∃ grade ∈ part.grades, threshold < grade := by
  have severity := Part.severity_outcome fun part listed =>
    (each part listed).severity_eq part.service
  calc (∃ e, (outcome parts).raiseIfExceeds threshold = .error e)
    _ ↔ threshold < (outcome parts).severity := by simp [BatchOutcome.raiseIfExceeds_eq_error]
    _ ↔ ∃ grade ∈ parts.flatMap (·.grades), threshold < grade := by
      rw [severity, Severity.lt_worst_iff]
    _ ↔ ∃ part ∈ parts, ∃ grade ∈ part.grades, threshold < grade := by
      simp only [List.mem_flatMap]
      grind

/-- **An error comes up as bad as it was.** The problem that is made of it has its grade and its
text and belongs to some service from then on. Through any number of batches, what comes up is as
bad as the worst that went wrong at the bottom, and a batch of such units is condemned if and only
if something above its threshold went wrong in one of them. -/
theorem escalates_unchanged :
    (∀ e service, DeployError.Attributed e service (e.toProblem service)) ∧
    (∀ report grades, Escalates report grades →
      (∀ service, (UnitOutcome.ofReport service report).severity = Severity.worst grades) ∧
      ∀ e, report = some (.finished (.error e)) → e.severity = Severity.worst grades) ∧
    ∀ parts : List Part, (∀ part ∈ parts, Escalates part.report part.grades) → ∀ threshold,
      (∃ e, (Part.outcome parts).raiseIfExceeds threshold = .error e) ↔
        ∃ part ∈ parts, ∃ grade ∈ part.grades, threshold < grade := by
  refine ⟨fun e service => e.attributed_toProblem service, fun report grades escalates => ?_,
    fun parts each threshold => Part.raises_iff each threshold⟩
  refine ⟨escalates.severity_eq, ?_⟩
  rintro e rfl
  exact escalates.severity_error

/-! ### A batch in a batch -/

/-- A shard is slow and another one does not answer. -/
def shards : List Part :=
  [⟨"db-1", some (.finished (.error (.problem (.withRemediation (.warning "slow") "add memory")))),
      [.warning]⟩,
    ⟨"db-2", some (.finished (.error (.timeout "task /tasks/1"))), [.fatal]⟩]

/-- The error of the two shards together. -/
def shardsError : DeployError := .aggregate .warning (Part.outcome shards).problems

/-- The shards are a unit of a batch, and that batch is a unit of another one. The error on top is
fatal as one of the shards is, and it has all their texts. -/
theorem escalates_unchanged_shards :
    ∃ e, Escalates (some (.finished (.error e))) [.warning, .fatal] ∧
      e.severity = .fatal ∧
      e.message = "1 problem(s) exceeded ERROR: [FATAL] db: 2 problem(s) exceeded WARNING: " ++
        "[WARNING] db-1: slow (add memory); [FATAL] db-2: Timeout waiting for task /tasks/1" := by
  have each : ∀ part ∈ shards, Escalates part.report part.grades :=
    List.forall_mem_cons.mpr ⟨.failed _, List.forall_mem_singleton.mpr (.failed _)⟩
  have raised : (Part.outcome shards).raiseIfExceeds .warning = .error shardsError := by rfl
  have inner : Escalates (some (.finished (.error shardsError))) [.warning, .fatal] :=
    .batch each raised
  let fleet : List Part :=
    [⟨"db", some (.finished (.error shardsError)), [.warning, .fatal]⟩,
      ⟨"web", some (.finished (.ok ())), []⟩]
  have units : ∀ part ∈ fleet, Escalates part.report part.grades :=
    List.forall_mem_cons.mpr ⟨inner, List.forall_mem_singleton.mpr .succeeded⟩
  have raised' : (Part.outcome fleet).raiseIfExceeds .error =
      .error (.aggregate .error (Part.outcome fleet).problems) := by rfl
  have outer := Escalates.batch units raised'
  refine ⟨_, outer, ?_, by decide +kernel⟩
  exact (escalates_unchanged.2.1 _ _ outer).2 _ rfl

end FleetDeploy
