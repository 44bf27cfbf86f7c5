import FleetDeploy.Proofs.Batch.Judging
import FleetDeploy.Proofs.Deployer.Schedules
import FleetDeploy.Proofs.Program.Calls

/-!
# The verdict of a call

A deployment or a rollback that has a plan carries it out, and then it is judged. This file says
what the verdict is, for every batch of outcomes and for every run: the call fails if and only if
one of its units has a problem above the threshold, and what it gives back tells of every unit.

* `FleetDeploy.Verdict` – the verdict on a list of outcomes;
* `FleetDeploy.BatchOperation.Judges` – a call whose verdict is that, whatever became of its units
  and in whichever order they stand;
* `FleetDeploy.BatchOperation.Lenient` – a call that tolerates more than another one;
* `FleetDeploy.Deployer.judges` – deployments and rollbacks judge so, and under a higher threshold
  they are more lenient.
-/

namespace FleetDeploy

variable {σ ρ : Type} {h : Handler σ}

/-- **The verdict on some outcomes**: how a call ends that gives back `outcomeOf` of its report. It
may be broken off by a collaborator that crashes, in one of the calls that `interrupt`. -/
structure Verdict (threshold : Severity) (outcomes : List UnitOutcome)
    (outcomeOf : ρ → BatchOutcome) (interrupts : Call → Prop)
    (ending : Ending (Except DeployError ρ)) (w : World σ) : Prop where
  fails_iff : (∃ e, ending = .finished (.error e)) ↔ SomeExceeds threshold outcomes
  error : ∀ e, ending = .finished (.error e) → Condemned threshold outcomes e
  report : ∀ r, ending = .finished (.ok r) → Tolerated threshold outcomes (outcomeOf r)
  crash : ∀ payload, ending = .crashed payload →
    ∃ c before, interrupts c ∧ w.journal = .called c (.crashed payload) :: before

/-- **The outcomes that a plan yields** when it is carried out: those of the endings of its units,
in the order of the plan. -/
structure Plan.Yields (h : Handler σ) (op : BatchOperation ρ) (plan : Plan) (w : World σ)
    (endings : List UnitEnding) (outcomes : List UnitOutcome) : Prop where
  carried : ∃ arrivals strands w',
    Interleaved h ((op.units plan).map .ofUnit) w arrivals strands w' ∧
    Strand.fates strands = endings.map some
  size : endings.length = plan.workItems.length
  own : outcomes = plan.workItems.zipWith
    (fun item ending => .ofReport item.service.name (some ending)) endings

namespace Plan.Yields

variable {op : BatchOperation ρ} {plan : Plan} {w : World σ} {endings : List UnitEnding}
  {outcomes : List UnitOutcome}

/-- A unit has a problem above the threshold if and only if it ended so badly. -/
theorem someExceeds_iff (yields : plan.Yields h op w endings outcomes) (threshold : Severity) :
    SomeExceeds threshold outcomes ↔
      ∃ ending ∈ endings, ∃ grade, ending.grade? = some grade ∧ threshold < grade := by
  have grades : outcomes.map (fun o => o.problem.map (·.severity)) = endings.map (·.grade?) := by
    rw [yields.own, List.map_zipWith]
    simp only [UnitOutcome.map_severity_ofReport]
    exact List.ext_getElem (by simp [yields.size]) (by simp)
  -- Both sides ask for a grade above the threshold in this list of grades.
  trans ∃ grade, some grade ∈ endings.map (·.grade?) ∧ threshold < grade
  · rw [← grades]
    simp only [SomeExceeds, List.mem_map, Option.map_eq_some_iff]
    grind
  · simp only [List.mem_map]
    grind

end Plan.Yields

/-- Where all units have ended, each fate is an ending. -/
theorem Strand.endings_of_ended {strands : List Strand} (ended : ∀ s ∈ strands, s.HasEnded) :
    ∃ endings : List UnitEnding, Strand.fates strands = endings.map some := by
  induction strands with
  | nil => exact ⟨[], rfl⟩
  | cons s rest ih =>
    obtain ⟨⟨ending, here⟩, others⟩ := List.forall_mem_cons.mp ended
    obtain ⟨endings, fates⟩ := ih others
    refine ⟨ending :: endings, ?_⟩
    rw [Strand.fates, List.map_cons, Strand.ending?, here, List.map_cons, ← fates]
    rfl

namespace BatchOperation

/-- **A call that judges its batch** by a threshold. -/
structure Judges (op : BatchOperation ρ) (threshold : Severity) (outcomeOf : ρ → BatchOutcome)
    (interrupts : Call → Prop) : Prop where
  /-- Whatever outcomes there are, the conclusion is the verdict on them. -/
  batch : ∀ {σ : Type} (h : Handler σ) (plan : Plan) (outcomes : List UnitOutcome) (w : World σ),
    Verdict threshold outcomes outcomeOf interrupts
      ((op.conclude plan (.ofOutcomes outcomes)).run.run h w).1
      ((op.conclude plan (.ofOutcomes outcomes)).run.run h w).2
  /-- Whichever way the units are interleaved, the call ends with the verdict on their outcomes. -/
  call : ∀ {σ : Type} {h : Handler σ} {w w₁ w' : World σ} {plan : Plan}
      {ending : Ending (Except DeployError ρ)},
    op.prepare.run.run h w = (.finished (.ok plan), w₁) → op.Runs h w ending w' →
      ∃ endings outcomes, plan.Yields h op w₁ endings outcomes ∧
        (SomeExceeds threshold outcomes ↔
          ∃ ending ∈ endings, ∃ grade, ending.grade? = some grade ∧ threshold < grade) ∧
        Verdict threshold outcomes outcomeOf interrupts ending w'
  /-- The order of the units makes no difference to the verdict. -/
  order : ∀ {σ : Type} (h : Handler σ) (plan : Plan) {outcomes outcomes' : List UnitOutcome}
      (v w : World σ), outcomes.Perm outcomes' →
    ((∃ e, ((op.conclude plan (.ofOutcomes outcomes)).run.run h v).1 = .finished (.error e)) ↔
      ∃ e, ((op.conclude plan (.ofOutcomes outcomes')).run.run h w).1 = .finished (.error e)) ∧
    (BatchOutcome.ofOutcomes outcomes).severity = (BatchOutcome.ofOutcomes outcomes').severity

/-- **A call that tolerates more than another one**: it prepares and works in the same way, and
where the other one does not fail it goes in the same way altogether. -/
structure Lenient (op op' : BatchOperation ρ) : Prop where
  prepare : op'.prepare = op.prepare
  body : op'.body = op.body
  conclude : ∀ {σ : Type} (h : Handler σ) (plan : Plan) (outcome : BatchOutcome) (w : World σ),
    (∀ e, ((op.conclude plan outcome).run.run h w).1 ≠ .finished (.error e)) →
      (op'.conclude plan outcome).run.run h w = (op.conclude plan outcome).run.run h w

variable {op op' : BatchOperation ρ}

/-- A run that does not fail is a run of every call that tolerates more. -/
theorem Lenient.runs (lenient : op.Lenient op') {w w' : World σ}
    {ending : Ending (Except DeployError ρ)} (succeeds : ∀ e, ending ≠ .finished (.error e))
    (ran : op.Runs h w ending w') : op'.Runs h w ending w' := by
  have units : op'.units = op.units := by
    funext plan
    rw [units, units, lenient.body]
  cases ran with
  | crashed prepared => exact .crashed (by rwa [lenient.prepare])
  | refused prepared => exact absurd rfl (succeeds _)
  | carriedOut prepared interleaved concluded =>
    refine .carriedOut (by rwa [lenient.prepare]) (by rwa [units]) ?_
    rw [units, lenient.conclude h _ _ _ (by rw [concluded]; exact succeeds), concluded]

/-- The outcomes of a call that has a plan, and its conclusion from them. -/
theorem yields_of_runs {w w₁ w' : World σ} {plan : Plan} {ending : Ending (Except DeployError ρ)}
    (prepared : op.prepare.run.run h w = (.finished (.ok plan), w₁))
    (ran : op.Runs h w ending w') :
    ∃ endings outcomes w₂, plan.Yields h op w₁ endings outcomes ∧
      (op.conclude plan (.ofOutcomes outcomes)).run.run h w₂ = (ending, w') := by
  cases ran with
  | crashed prepared' => cases prepared.symm.trans prepared'
  | refused prepared' => cases prepared.symm.trans prepared'
  | @carriedOut _ _ arrivals strands w₂ _ _ prepared' interleaved concluded =>
    obtain ⟨⟨⟩, rfl⟩ := Prod.mk.inj (prepared.symm.trans prepared')
    obtain ⟨endings, fates⟩ := Strand.endings_of_ended interleaved.all_ended
    have size := interleaved.length_fates
    rw [BatchOutcome.collect_of_delivers size.symm interleaved.delivers] at concluded
    refine ⟨endings, _, w₂, ⟨⟨arrivals, strands, w₂, interleaved, fates⟩, ?_, ?_⟩, concluded⟩
    · simpa [fates, units] using size
    · simp [fates, units, List.zipWith_map]

/-- A call judges its batch if its conclusion does: the rest is what carrying out a plan comes
to. -/
theorem Judges.of_batch {threshold : Severity} {outcomeOf : ρ → BatchOutcome}
    {interrupts : Call → Prop}
    (batch : ∀ {σ : Type} (h : Handler σ) (plan : Plan) (outcomes : List UnitOutcome) (w : World σ),
      Verdict threshold outcomes outcomeOf interrupts
        ((op.conclude plan (.ofOutcomes outcomes)).run.run h w).1
        ((op.conclude plan (.ofOutcomes outcomes)).run.run h w).2) :
    op.Judges threshold outcomeOf interrupts where
  batch := batch
  call := by
    intro σ h w w₁ w' plan ending prepared ran
    obtain ⟨endings, outcomes, w₂, yields, concluded⟩ := yields_of_runs prepared ran
    have verdict := batch h plan outcomes w₂
    rw [concluded] at verdict
    exact ⟨endings, outcomes, yields, yields.someExceeds_iff threshold, verdict⟩
  order h plan _ _ v w same := by
    refine ⟨?_, BatchOutcome.severity_eq_of_perm same⟩
    rw [(batch h plan _ v).fails_iff, (batch h plan _ w).fails_iff]
    exact exists_congr fun o => and_congr_left' same.mem_iff

end BatchOperation

/-! ### Deployments and rollbacks -/

namespace Deployer

variable {d : Deployer} {requested : List ServiceName} {resolved : ResolvedConfiguration}
  {outcomes : List UnitOutcome} {w : World σ}

/-- **A call that judges its batch and then does something that does not fail** comes to the verdict
on the batch, if it hands the outcome on. -/
theorem verdict_of_settle {next : BatchOutcome → Procedure ρ} {outcomeOf : ρ → BatchOutcome}
    {interrupts : Call → Prop} (asks : ∀ o, (next o).AsksOnly interrupts)
    (goes_on : ∀ {o : BatchOutcome} {v v' : World σ} {r : Except DeployError ρ},
      (next o).run.run h v = (.finished r, v') → ∃ report, r = .ok report ∧ outcomeOf report = o) :
    Verdict d.config.failureThreshold outcomes outcomeOf interrupts
      ((d.settle (.ofOutcomes outcomes) >>= next).run.run h w).1
      ((d.settle (.ofOutcomes outcomes) >>= next).run.run h w).2 := by
  obtain ⟨steps, settled⟩ := run_settle (d := d) (h := h) (.ofOutcomes outcomes) w
  rcases BatchOutcome.raiseIfExceeds_cases outcomes d.config.failureThreshold with
    ⟨exceeding, e, raised, condemned⟩ | ⟨within, raised, tolerated⟩
  · rw [raised] at settled
    rw [Procedure.run_bind_of_error settled]
    exact
      { fails_iff := iff_of_true ⟨e, rfl⟩ exceeding
        error := by
          rintro e' ⟨⟩
          exact condemned
        report := by
          rintro r ⟨⟩
        crash := by
          rintro payload ⟨⟩ }
  · rw [raised] at settled
    rw [Procedure.run_bind_of_ok settled]
    rcases ran : (next (.ofOutcomes outcomes)).run.run h ⟨w.state, steps ++ w.journal⟩ with
      ⟨r | payload, w'⟩
    · obtain ⟨report, rfl, handed_on⟩ := goes_on ran
      exact
        { fails_iff := iff_of_false (by rintro ⟨e, ⟨⟩⟩) within
          error := by
            rintro e ⟨⟩
          report := by
            rintro r ⟨⟩
            rwa [handed_on]
          crash := by
            rintro payload ⟨⟩ }
    · exact
        { fails_iff := iff_of_false (by rintro ⟨e, ⟨⟩⟩) within
          error := by
            rintro e ⟨⟩
          report := by
            rintro r ⟨⟩
          crash := by
            rintro payload' ⟨⟩
            exact (asks _).crash ran }

/-- The same deployer with another threshold. -/
def withThreshold (d : Deployer) (threshold : Severity) : Deployer :=
  { d with config := { d.config with failureThreshold := threshold } }

/-- A call that goes on from the judgement tolerates more under a higher threshold. -/
theorem settle_lenient {next : BatchOutcome → Procedure ρ} {threshold : Severity}
    (higher : d.config.failureThreshold ≤ threshold) {outcome : BatchOutcome}
    (succeeds : ∀ e, ((d.settle outcome >>= next).run.run h w).1 ≠ .finished (.error e)) :
    (d.withThreshold threshold).settle outcome = d.settle outcome := by
  obtain ⟨steps, settled⟩ := run_settle (d := d) (h := h) outcome w
  have tolerated : outcome.raiseIfExceeds d.config.failureThreshold = .ok outcome := by
    rcases raised : outcome.raiseIfExceeds d.config.failureThreshold with e | outcome'
    · rw [raised] at settled
      rw [Procedure.run_bind_of_error settled] at succeeds
      exact absurd rfl (succeeds e)
    · rw [(BatchOutcome.raiseIfExceeds_eq_ok.mp raised).2]
  rw [settle, settle, tolerated]
  exact congrArg _ (funext fun _ =>
    congrArg Procedure.ofExcept (BatchOutcome.raiseIfExceeds_of_le higher tolerated))

theorem judges_deploy : (d.deploy requested resolved).Judges d.config.failureThreshold
    (·.outcome) Call.Reaps := by
  refine .of_batch fun h plan outcomes w => verdict_of_settle (fun o => ?_) fun {o v v' r} ran => ?_
  · exact .bind (reapAccumulating_keepsTo _ _).asksOnly fun reaps => .pure _
  · rcases r with e | report
    · rcases Procedure.run_bind_eq_error ran with failed | ⟨reaps, w₁, -, failed⟩
      · exact absurd failed reapAccumulating_ne_error
      · cases failed
    · obtain ⟨reaps, w₁, -, done⟩ := Procedure.run_bind_eq_ok ran
      obtain ⟨⟨⟩, -⟩ := Prod.mk.inj done
      exact ⟨_, rfl, rfl⟩

theorem judges_rollback : (d.rollback requested resolved).Judges d.config.failureThreshold
    (·.outcome) fun _ => False := by
  refine .of_batch fun h plan outcomes w => verdict_of_settle (fun o => .pure _) fun ran => ?_
  obtain ⟨⟨⟩, -⟩ := Prod.mk.inj ran
  exact ⟨_, rfl, rfl⟩

theorem deploy_lenient {threshold : Severity} (higher : d.config.failureThreshold ≤ threshold) :
    (d.deploy requested resolved).Lenient ((d.withThreshold threshold).deploy requested resolved)
    where
  prepare := rfl
  body := rfl
  conclude h plan outcome w succeeds := by
    have settled := settle_lenient higher succeeds
    simp only [deploy, settled]
    rfl

theorem rollback_lenient {threshold : Severity} (higher : d.config.failureThreshold ≤ threshold) :
    (d.rollback requested resolved).Lenient
      ((d.withThreshold threshold).rollback requested resolved) where
  prepare := rfl
  body := rfl
  conclude h plan outcome w succeeds := by
    have settled := settle_lenient higher succeeds
    simp only [rollback, settled]

/-- **A deployment or a rollback that has a plan is judged by its worst unit**, and fails if and
only if that one has a problem above the threshold. The error has the problem of every unit that
failed, the tolerable ones included; a report has the outcomes as they are. Under a higher threshold
what has succeeded goes the same way. -/
theorem judges :
    ((d.deploy requested resolved).Judges d.config.failureThreshold (·.outcome) Call.Reaps ∧
      (d.rollback requested resolved).Judges d.config.failureThreshold (·.outcome) fun _ => False) ∧
    ∀ threshold, d.config.failureThreshold ≤ threshold →
      (d.deploy requested resolved).Lenient
          ((d.withThreshold threshold).deploy requested resolved) ∧
        (d.rollback requested resolved).Lenient
          ((d.withThreshold threshold).rollback requested resolved) :=
  ⟨⟨judges_deploy, judges_rollback⟩,
    fun _ higher => ⟨deploy_lenient higher, rollback_lenient higher⟩⟩

/-! ### A tolerable problem and one that is not -/

/-- A unit with a warning. -/
def slow : UnitOutcome := ⟨"api", some ((Problem.warning "slow").forService "api")⟩

/-- A unit with an error. -/
def down : UnitOutcome := ⟨"web", some ((Problem.error "down").forService "web")⟩

/-- A rollback of two units that warns of one fails because of the other, and its error tells of
both. Had there been the warning alone it would have succeeded, and would so under a higher
threshold. -/
theorem judges_slowAndDown :
    ofTwo.config.failureThreshold ≤ .error ∧
    Condemned .warning [slow, down]
      (.aggregate .warning
        ⟨[(Problem.warning "slow").forService "api", (Problem.error "down").forService "web"]⟩) ∧
    Tolerated .warning [slow] (.ofOutcomes [slow]) ∧
    (((ofTwo.withThreshold .error).rollback [] bothOn).conclude ⟨[]⟩
        (.ofOutcomes [slow])).run.run Fleet.respond ⟨twoAndOne, []⟩ =
      ((ofTwo.rollback [] bothOn).conclude ⟨[]⟩ (.ofOutcomes [slow])).run.run Fleet.respond
        ⟨twoAndOne, []⟩ := by
  have higher : ofTwo.config.failureThreshold ≤ .error := by decide
  obtain ⟨⟨-, judges⟩, lenient⟩ := @judges ofTwo [] bothOn
  refine ⟨higher, ?_, ?_, ?_⟩
  · exact (judges.batch Fleet.respond ⟨[]⟩ [slow, down] ⟨twoAndOne, []⟩).error _ rfl
  · exact (judges.batch Fleet.respond ⟨[]⟩ [slow] ⟨twoAndOne, []⟩).report _ rfl
  · refine (lenient .error higher).2.conclude Fleet.respond ⟨[]⟩ _ _ fun e failed => ?_
    cases failed

end Deployer

end FleetDeploy
