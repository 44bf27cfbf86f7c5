import FleetDeploy.Outcome
import FleetDeploy.Proofs.Severity
import Mathlib.Data.List.Forall2
import Mathlib.Order.Bounds.Defs

/-!
# Judging a batch

A batch is judged by its worst problem. What that comes to for a list of outcomes is said here unit
by unit, without the detour over the list of problems: a batch is condemned if and only if one unit
has a problem above the threshold, and the error then has the problem of every unit that failed, the
tolerable ones among them. A unit whose problem is of the mildest grade has failed all the same; it
is told of in the error of a batch that others condemn, and condemns none.

* `FleetDeploy.UnitEnding.grade?`, `FleetDeploy.UnitOutcome.map_severity_ofReport` – how bad a
  unit's ending is, through all the ways in which an error becomes a problem;
* `FleetDeploy.BatchOutcome.severity_le_iff` – the grade of a batch is the least upper bound of the
  grades of its units;
* `FleetDeploy.Condemned`, `FleetDeploy.Tolerated` – what there is to know of a batch that is judged
  too bad, and of one that is not;
* `FleetDeploy.BatchOutcome.raiseIfExceeds_eq_ok`, `FleetDeploy.BatchOutcome.raiseIfExceeds_eq_error`
  – when a batch passes, and with what it fails;
* `FleetDeploy.BatchOutcome.raiseIfExceeds_cases` – every batch is condemned or tolerated.
-/

namespace FleetDeploy

/-! ### The grade of one unit -/

/-- A problem has the grade of the error that it was made of. -/
@[simp] theorem DeployError.severity_toProblem (e : DeployError) (service : ServiceName) :
    (e.toProblem service).severity = e.severity := by
  cases e with
  | problem p =>
    rw [toProblem]
    split <;> rfl
  | _ => rfl

/-- How bad an ending is, if anything is amiss: an error has a grade of its own, and a crash is
fatal. -/
def UnitEnding.grade? : UnitEnding → Option Severity
  | .finished (.ok ()) => none
  | .finished (.error e) => some e.severity
  | .crashed _ => some .fatal

namespace UnitOutcome

variable {o : UnitOutcome} {threshold : Severity}

/-- **The problem of a unit is as bad as its ending.** -/
theorem map_severity_ofReport (service : ServiceName) (ending : UnitEnding) :
    (ofReport service (some ending)).problem.map (·.severity) = ending.grade? := by
  rcases ending with (e | _) | payload
  · exact congrArg some (e.severity_toProblem service)
  · rfl
  · rfl

theorem severity_le_iff :
    o.severity ≤ threshold ↔ ∀ p, o.problem = some p → p.severity ≤ threshold := by
  rw [severity]
  split
  · next p has => simp [has]
  · next has => simp [has, Severity.none_le]

theorem lt_severity_iff :
    threshold < o.severity ↔ ∃ p, o.problem = some p ∧ threshold < p.severity := by
  rw [← not_le, severity_le_iff]
  push Not
  rfl

end UnitOutcome

/-! ### The grade of a batch -/

/-- Whether a unit has a problem above the threshold. -/
def SomeExceeds (threshold : Severity) (outcomes : List UnitOutcome) : Prop :=
  ∃ o ∈ outcomes, ∃ p, o.problem = some p ∧ threshold < p.severity

/-- **The problems of some outcomes**: one for each outcome that has one, in their order. -/
def OneForEachFailed (outcomes : List UnitOutcome) (problems : ProblemSet) : Prop :=
  List.Forall₂ (fun (o : UnitOutcome) p => o.problem = some p)
    (outcomes.filter fun o => !o.isSuccess) problems.problems

theorem oneForEachFailed_filterMap (outcomes : List UnitOutcome) :
    OneForEachFailed outcomes ⟨outcomes.filterMap (·.problem)⟩ := by
  rw [OneForEachFailed]
  induction outcomes with
  | nil => exact .nil
  | cons o rest ih =>
    obtain ⟨service, _ | p⟩ := o
    · exact ih
    · exact .cons rfl ih

namespace BatchOutcome

variable {outcomes outcomes' : List UnitOutcome} {threshold : Severity}

/-- **The grade of a batch is the least upper bound** of the grades of its units. -/
theorem severity_le_iff :
    (ofOutcomes outcomes).severity ≤ threshold ↔ ∀ o ∈ outcomes, o.severity ≤ threshold := by
  rw [severity, ProblemSet.maxSeverity, Severity.worst_le_iff]
  simp only [ofOutcomes, List.forall_mem_map, List.mem_filterMap, UnitOutcome.severity_le_iff]
  constructor
  · intro all o mem p has
    exact all p ⟨o, mem, has⟩
  · rintro all p ⟨o, mem, has⟩
    exact all o mem p has

/-- A batch lies above a threshold if and only if a problem of one of its units does. -/
theorem lt_severity_iff :
    threshold < (ofOutcomes outcomes).severity ↔ SomeExceeds threshold outcomes := by
  rw [← not_le, severity_le_iff]
  simp only [not_forall, not_le, UnitOutcome.lt_severity_iff, exists_prop]
  rfl

/-- The grade of a batch does not depend on the order of its units. -/
theorem severity_eq_of_perm (same : outcomes.Perm outcomes') :
    (ofOutcomes outcomes).severity = (ofOutcomes outcomes').severity :=
  Severity.worst_eq_of_perm ((same.filterMap _).map _)

/-- The grade of a batch in which anything is amiss is the greatest of the grades of its units. -/
theorem isGreatest_severity (amiss : ∃ o ∈ outcomes, ∃ p, o.problem = some p) :
    IsGreatest {grade | ∃ o ∈ outcomes, o.severity = grade} (ofOutcomes outcomes).severity := by
  obtain ⟨o, mem, p, has⟩ := amiss
  have some_grade : (ofOutcomes outcomes).problems.problems.map (·.severity) ≠ [] :=
    List.ne_nil_of_mem (List.mem_map_of_mem (List.mem_filterMap.mpr ⟨o, mem, has⟩))
  constructor
  · obtain ⟨p, listed, worst⟩ := List.mem_map.mp (Severity.worst_mem some_grade)
    obtain ⟨o, mem, has⟩ := List.mem_filterMap.mp listed
    exact ⟨o, mem, by rw [UnitOutcome.severity, has]; exact worst⟩
  · rintro grade ⟨o, mem, rfl⟩
    exact severity_le_iff.mp le_rfl o mem

theorem succeededCount_add_failed (b : BatchOutcome) :
    b.succeededCount + b.failed.length = b.outcomes.length := by
  rw [succeededCount, failed, ← List.countP_eq_length_filter]
  simpa using (List.length_eq_countP_add_countP (·.isSuccess) (l := b.outcomes)).symm

end BatchOutcome

/-! ### Judgements -/

/-- **A batch that is judged too bad**: the error has the threshold and the problem of every unit
that failed, in the order of the batch, and it is as bad as the worst unit. -/
structure Condemned (threshold : Severity) (outcomes : List UnitOutcome) (e : DeployError) :
    Prop where
  told : ∃ problems, e = .aggregate threshold problems ∧ OneForEachFailed outcomes problems
  worst : IsGreatest {grade | ∃ o ∈ outcomes, o.severity = grade} e.severity
  above : threshold < e.severity

/-- **A batch that is not judged too bad**: the outcomes are handed on as they are, each of those
that failed with its problem, and the grade lies within the threshold. -/
structure Tolerated (threshold : Severity) (outcomes : List UnitOutcome) (b : BatchOutcome) :
    Prop where
  unchanged : b.outcomes = outcomes
  worst : ∀ grade, b.severity ≤ grade ↔ ∀ o ∈ outcomes, o.severity ≤ grade
  within : b.severity ≤ threshold
  counted : b.succeededCount + b.failed.length = outcomes.length
  told : OneForEachFailed outcomes b.problems

namespace BatchOutcome

variable {outcomes outcomes' : List UnitOutcome} {threshold : Severity} {b b' : BatchOutcome}

/-- A batch that passes is graded within the threshold, and passes as it is. -/
theorem raiseIfExceeds_eq_ok :
    b.raiseIfExceeds threshold = .ok b' ↔ b.severity ≤ threshold ∧ b' = b := by
  rw [raiseIfExceeds, ProblemSet.exceeds]
  split
  · next above =>
    exact iff_of_false (by simp) fun within => not_lt.mpr within.1 (of_decide_eq_true above)
  · next within =>
    rw [decide_eq_true_iff, not_lt] at within
    exact ⟨fun same => ⟨within, (Except.ok.inj same).symm⟩, fun same => congrArg _ same.2.symm⟩

/-- A batch that does not pass is graded above the threshold, and fails with its problems. -/
theorem raiseIfExceeds_eq_error {e : DeployError} :
    b.raiseIfExceeds threshold = .error e ↔
      threshold < b.severity ∧ e = .aggregate threshold b.problems := by
  rw [raiseIfExceeds, ProblemSet.exceeds]
  split
  · next above =>
    exact ⟨fun same => ⟨of_decide_eq_true above, (Except.error.inj same).symm⟩,
      fun same => congrArg _ same.2.symm⟩
  · next within => exact iff_of_false (by simp) fun above => within (decide_eq_true above.1)

/-- **Every batch is condemned or tolerated**, and it is condemned if and only if one of its units
has a problem above the threshold. -/
theorem raiseIfExceeds_cases (outcomes : List UnitOutcome) (threshold : Severity) :
    (SomeExceeds threshold outcomes ∧
      ∃ e, (ofOutcomes outcomes).raiseIfExceeds threshold = .error e ∧
        Condemned threshold outcomes e) ∨
    (¬SomeExceeds threshold outcomes ∧
      (ofOutcomes outcomes).raiseIfExceeds threshold = .ok (ofOutcomes outcomes) ∧
        Tolerated threshold outcomes (ofOutcomes outcomes)) := by
  by_cases above : threshold < (ofOutcomes outcomes).severity
  · obtain ⟨o, mem, p, has, -⟩ := lt_severity_iff.mp above
    refine Or.inl ⟨lt_severity_iff.mp above, _, raiseIfExceeds_eq_error.mpr ⟨above, rfl⟩, ?_⟩
    exact
      { told := ⟨_, rfl, oneForEachFailed_filterMap outcomes⟩
        worst := isGreatest_severity ⟨o, mem, p, has⟩
        above := above }
  · have within := not_lt.mp above
    refine Or.inr ⟨fun exceeding => above (lt_severity_iff.mpr exceeding),
      raiseIfExceeds_eq_ok.mpr ⟨within, rfl⟩, ?_⟩
    exact
      { unchanged := rfl
        worst := fun grade => severity_le_iff
        within := within
        counted := succeededCount_add_failed _
        told := oneForEachFailed_filterMap outcomes }

/-- A batch that is tolerated is tolerated under a higher threshold. -/
theorem raiseIfExceeds_of_le {threshold' : Severity} (higher : threshold ≤ threshold')
    (tolerated : b.raiseIfExceeds threshold = .ok b) : b.raiseIfExceeds threshold' = .ok b :=
  raiseIfExceeds_eq_ok.mpr ⟨le_trans (raiseIfExceeds_eq_ok.mp tolerated).1 higher, rfl⟩

end BatchOutcome

end FleetDeploy
