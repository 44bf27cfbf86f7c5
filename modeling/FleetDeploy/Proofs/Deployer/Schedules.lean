import FleetDeploy.Proofs.Batch.Alone
import FleetDeploy.Proofs.Deployer.Refusal
import FleetDeploy.Proofs.Reap.Conduct

/-!
# Calls under different schedules

The units of a call may be interleaved in whichever way, and a call does not say in which. This file
shows that nobody needs to know: two runs of a call that differ in how its units are interleaved
follow the same plan, have outcomes that are alike, come to the same verdict, reap the same and leave
the same running. What may differ is the number of an execution, where an error names one.

* `FleetDeploy.BatchOperation.CarriesOut` – the part of a run that comes before its conclusion;
* `FleetDeploy.BatchOperation.Plain` – what is asked of a call: it prepares by inspections, and its
  units keep each to a service of its own;
* `FleetDeploy.BatchOperation.Plain.carriesOut_alike` – the batch of a plain call does not depend on
  the schedule;
* `FleetDeploy.Deployer.runs_alike` – neither does a deployment or a rollback.
-/

namespace FleetDeploy

/-- Inspections lay out no scripts. -/
theorem Engine.Unscripted.of_inspected {f g : Fleet} (unscripted : f.engine.Unscripted)
    (inspected : f.Inspected g) : g.engine.Unscripted := by
  obtain ⟨names, rfl⟩ := inspected
  exact unscripted

namespace BatchOperation

variable {ρ : Type} {op : BatchOperation ρ}

/-- A run of a call up to its conclusion: the plan that was carried out, the outcome of the batch,
and the world in which the call concludes. -/
inductive CarriesOut {σ : Type} (h : Handler σ) (op : BatchOperation ρ) (w : World σ) :
    Plan → BatchOutcome → World σ → Prop
  | intro {plan w₁ arrivals strands w₂}
      (prepared : op.prepare.run.run h w = (.finished (.ok plan), w₁))
      (interleaved : Interleaved h ((op.units plan).map .ofUnit) w₁ arrivals strands w₂) :
      CarriesOut h op w plan (.collect ((op.units plan).map (·.service)) arrivals) w₂

/-- **A plain call** prepares by inspections alone, and its units keep each to a service of its
own. -/
structure Plain (op : BatchOperation ρ) : Prop where
  prepares : op.prepare.KeepsTo Call.IsInspection fun _ => True
  distinct : ∀ {f : Fleet} {plan : Plan} {w : World Fleet},
    op.prepare.run.run Fleet.respond ⟨f, []⟩ = (.finished (.ok plan), w) →
      (plan.workItems.map (·.service.name)).Nodup
  own : ∀ item : WorkItem, UnitAlike item.service.name none (op.body item).run (op.body item).run

/-- **The batch of a plain call does not depend on the schedule.** -/
theorem Plain.carriesOut_alike (plain : op.Plain) {f : Fleet} (unscripted : f.engine.Unscripted)
    {plan₁ plan₂ : Plan} {outcome₁ outcome₂ : BatchOutcome} {w₁ w₂ : World Fleet}
    (first : op.CarriesOut Fleet.respond ⟨f, []⟩ plan₁ outcome₁ w₁)
    (second : op.CarriesOut Fleet.respond ⟨f, []⟩ plan₂ outcome₂ w₂) :
    plan₁ = plan₂ ∧ outcome₁.Alike outcome₂ ∧ w₁.state.RunsSame w₂.state := by
  obtain ⟨prepared, interleaved⟩ := first
  obtain ⟨prepared', interleaved'⟩ := second
  -- Nothing is interleaved before the units are begun.
  obtain ⟨⟨⟩, rfl⟩ := Prod.mk.inj (prepared.symm.trans prepared')
  have distinct : ((op.units plan₁).map (·.service)).Nodup := by
    rw [units, List.map_map]
    exact plain.distinct prepared
  have still := unscripted.of_inspected (.run plain.prepares prepared (.refl f))
  have own : ∀ u ∈ op.units plan₁, UnitAlike u.service none u.body.run u.body.run := by
    intro u mem
    obtain ⟨item, -, rfl⟩ := List.mem_map.mp mem
    exact plain.own item
  obtain ⟨outcomes, arrangement, running⟩ := interleaved.alike interleaved' distinct still own
  exact ⟨rfl, outcomes, arrangement, running⟩

/-! ### Verdicts -/

/-- **The same verdict**: both calls crash, or are refused for the same reason, or fail with problems
that are alike, or succeed with reports that correspond. -/
inductive SameVerdict (R : ρ → ρ → Prop) :
    Ending (Except DeployError ρ) → Ending (Except DeployError ρ) → Prop
  | crashed (payload : Option String) : SameVerdict R (.crashed payload) (.crashed payload)
  | refused (e : DeployError) : SameVerdict R (.finished (.error e)) (.finished (.error e))
  | judged {threshold ps qs} (problems : List.Forall₂ Problem.Alike ps.problems qs.problems) :
      SameVerdict R (.finished (.error (.aggregate threshold ps)))
        (.finished (.error (.aggregate threshold qs)))
  | succeeded {r r'} (reports : R r r') : SameVerdict R (.finished (.ok r)) (.finished (.ok r'))

/-- **A call that does not depend on the schedule**: any two runs of it carry out the same plan, with
outcomes that are alike, come to the same verdict, and leave the same running. -/
structure ScheduleFree (op : BatchOperation ρ) (R : ρ → ρ → Prop) (f : Fleet) : Prop where
  batch : ∀ {plan₁ plan₂ : Plan} {outcome₁ outcome₂ : BatchOutcome} {w₁ w₂ : World Fleet},
    op.CarriesOut Fleet.respond ⟨f, []⟩ plan₁ outcome₁ w₁ →
      op.CarriesOut Fleet.respond ⟨f, []⟩ plan₂ outcome₂ w₂ →
        plan₁ = plan₂ ∧ outcome₁.Alike outcome₂
  verdict : ∀ {ending₁ ending₂ : Ending (Except DeployError ρ)} {w₁ w₂ : World Fleet},
    op.Runs Fleet.respond ⟨f, []⟩ ending₁ w₁ → op.Runs Fleet.respond ⟨f, []⟩ ending₂ w₂ →
      SameVerdict R ending₁ ending₂ ∧
        ∀ service, w₁.state.infrastructure.running? service =
          w₂.state.infrastructure.running? service

/-- What is asked of a conclusion: outcomes that are alike lead to the same verdict, and where the
same ran before, the same runs afterwards. -/
def ConcludesAlike (op : BatchOperation ρ) (R : ρ → ρ → Prop) : Prop :=
  ∀ {plan : Plan} {o o' : BatchOutcome} {v w : World Fleet}, o.Alike o' →
    v.state.RunsSame w.state →
      SameVerdict R ((op.conclude plan o).run.run Fleet.respond v).1
        ((op.conclude plan o').run.run Fleet.respond w).1 ∧
      ((op.conclude plan o).run.run Fleet.respond v).2.state.RunsSame
        ((op.conclude plan o').run.run Fleet.respond w).2.state

/-- **A plain call does not depend on the schedule**, if its conclusion does not depend on numbers. -/
theorem Plain.scheduleFree (plain : op.Plain) {R : ρ → ρ → Prop} (concludes : op.ConcludesAlike R)
    {f : Fleet} (unscripted : f.engine.Unscripted) : op.ScheduleFree R f where
  batch first second := by
    obtain ⟨plans, outcomes, -⟩ := plain.carriesOut_alike unscripted first second
    exact ⟨plans, outcomes⟩
  verdict first second := by
    -- Both runs are prepared alike, so they come equally far and six of nine cases do not occur.
    cases first with
    | crashed prepared =>
      cases second with
      | crashed prepared' =>
        obtain ⟨⟨⟩, rfl⟩ := Prod.mk.inj (prepared.symm.trans prepared')
        exact ⟨.crashed _, fun _ => rfl⟩
      | refused prepared' => cases prepared.symm.trans prepared'
      | carriedOut prepared' => cases prepared.symm.trans prepared'
    | refused prepared =>
      cases second with
      | crashed prepared' => cases prepared.symm.trans prepared'
      | refused prepared' =>
        obtain ⟨⟨⟩, rfl⟩ := Prod.mk.inj (prepared.symm.trans prepared')
        exact ⟨.refused _, fun _ => rfl⟩
      | carriedOut prepared' => cases prepared.symm.trans prepared'
    | carriedOut prepared interleaved concluded =>
      cases second with
      | crashed prepared' => cases prepared.symm.trans prepared'
      | refused prepared' => cases prepared.symm.trans prepared'
      | carriedOut prepared' interleaved' concluded' =>
        obtain ⟨rfl, outcomes, same⟩ := plain.carriesOut_alike unscripted
          (.intro prepared interleaved) (.intro prepared' interleaved')
        obtain ⟨verdicts, after⟩ := concludes outcomes same
        rw [concluded, concluded'] at verdicts after
        exact ⟨verdicts, after.running⟩

end BatchOperation

/-! ### Deployments and rollbacks -/

/-- Reports of a deployment that are alike. -/
structure DeployReport.Alike (r r' : DeployReport) : Prop where
  plan : r.plan = r'.plan
  outcome : r.outcome.Alike r'.outcome
  reaps : r.reaps = r'.reaps

/-- Reports of a rollback that are alike. -/
structure RollbackReport.Alike (r r' : RollbackReport) : Prop where
  plan : r.plan = r'.plan
  outcome : r.outcome.Alike r'.outcome

namespace Deployer

open BatchOperation (SameVerdict Plain ConcludesAlike ScheduleFree)

variable {d : Deployer} {requested : List ServiceName} {resolved : ResolvedConfiguration}

/-! ### What they have in common -/

/-- Where the services of a catalog are distinct, so are those of any plan. -/
theorem nodup_workItems (distinct : (d.catalog.services.map (·.name)).Nodup)
    {services : List Service} (found : d.catalog.prioritized requested = .ok services) {plan : Plan}
    (entries : plan.entries.map (·.service) = services.map (·.name)) :
    (plan.workItems.map (·.service.name)).Nodup := by
  have chosen := (Catalog.prioritized_sublist found).map (·.name)
  rw [← entries] at chosen
  exact distinct.sublist (plan.services_workItems_sublist.trans chosen)

/-- Judging a batch tells observers, and gives back the outcome or its problems. -/
theorem run_settle {σ : Type} {h : Handler σ} (outcome : BatchOutcome) (w : World σ) :
    ∃ steps, (d.settle outcome).run.run h w =
      (.finished (outcome.raiseIfExceeds d.config.failureThreshold),
        ⟨w.state, steps ++ w.journal⟩) := by
  rw [settle, Procedure.run_bind_of_ok (Procedure.run_forM_emit _ _ w), Procedure.run_ofExcept]
  exact ⟨_, rfl⟩

/-- Batches that are alike are both too bad, or neither is. -/
theorem raiseIfExceeds_alike {o o' : BatchOutcome} (outcomes : o.Alike o') (threshold : Severity) :
    (o.raiseIfExceeds threshold = .error (.aggregate threshold o.problems) ∧
      o'.raiseIfExceeds threshold = .error (.aggregate threshold o'.problems)) ∨
    (o.raiseIfExceeds threshold = .ok o ∧ o'.raiseIfExceeds threshold = .ok o') := by
  have grades : o.problems.exceeds threshold = o'.problems.exceeds threshold := by
    rw [ProblemSet.exceeds, ProblemSet.exceeds, outcomes.maxSeverity_eq]
  rw [BatchOutcome.raiseIfExceeds, BatchOutcome.raiseIfExceeds, grades]
  cases o'.problems.exceeds threshold
  · exact Or.inr ⟨rfl, rfl⟩
  · exact Or.inl ⟨rfl, rfl⟩

/-- What follows a judgement leads to the same verdict if it does so where neither batch is too
bad. -/
theorem settle_alike {ρ : Type} {R : ρ → ρ → Prop} {next : BatchOutcome → Procedure ρ}
    {o o' : BatchOutcome} (outcomes : o.Alike o')
    (follows : ∀ {v w : World Fleet}, v.state.RunsSame w.state →
      SameVerdict R ((next o).run.run Fleet.respond v).1 ((next o').run.run Fleet.respond w).1 ∧
        ((next o).run.run Fleet.respond v).2.state.RunsSame
          ((next o').run.run Fleet.respond w).2.state)
    {v w : World Fleet} (same : v.state.RunsSame w.state) :
    SameVerdict R ((d.settle o >>= next).run.run Fleet.respond v).1
        ((d.settle o' >>= next).run.run Fleet.respond w).1 ∧
      ((d.settle o >>= next).run.run Fleet.respond v).2.state.RunsSame
        ((d.settle o' >>= next).run.run Fleet.respond w).2.state := by
  obtain ⟨steps, settled⟩ := run_settle (d := d) (h := Fleet.respond) o v
  obtain ⟨steps', settled'⟩ := run_settle (d := d) (h := Fleet.respond) o' w
  rcases raiseIfExceeds_alike outcomes d.config.failureThreshold with ⟨bad, bad'⟩ | ⟨good, good'⟩
  · rw [bad] at settled
    rw [bad'] at settled'
    rw [Procedure.run_bind_of_error settled, Procedure.run_bind_of_error settled']
    exact ⟨.judged outcomes.problems, same⟩
  · rw [good] at settled
    rw [good'] at settled'
    rw [Procedure.run_bind_of_ok settled, Procedure.run_bind_of_ok settled']
    exact follows same

/-! ### Deployments -/

theorem reapFirst_keepsTo (settings : RuntimeSettings) (kind : ServiceKind) (source : UsageSource) :
    (d.reapFirst settings kind source).KeepsTo Call.Reaps fun _ => True := by
  rw [reapFirst]
  split
  · exact .pure _
  · refine .bind (.outcome (Reap.pass_keepsTo _ _ _ _)) fun report => ?_
    split
    · exact .pure _
    · exact .pure _

theorem reapAccumulating_keepsTo (settings : RuntimeSettings)
    (kinds : List (ServiceKind × UsageSource)) :
    (d.reapAccumulating settings kinds).KeepsTo Call.Reaps fun _ => True := by
  induction kinds with
  | nil => exact .pure _
  | cons kind rest ih =>
    exact .bind (reapFirst_keepsTo _ _ _) fun reports => .bind ih fun others => .pure _

theorem deploy_plain (distinct : (d.catalog.services.map (·.name)).Nodup) :
    (d.deploy requested resolved).Plain where
  prepares := by
    rw [prepare_deploy]
    exact preparation_keepsTo (Plan.forDeploy_keepsTo _) fun plan => announce_keepsTo plan _
  distinct prepared := by
    rw [prepare_deploy] at prepared
    obtain ⟨services, w₁, found, planned, -⟩ := plan_of_preparation prepared
    exact nodup_workItems distinct found (Plan.services_of_forDeploy planned)
  own item := item.dispatch_alike d.dispatchConfig resolved

/-- **A deployment concludes alike** from outcomes that are alike: the same is reaped. -/
theorem deploy_concludesAlike :
    (d.deploy requested resolved).ConcludesAlike DeployReport.Alike := by
  intro plan o o' v w outcomes same
  refine settle_alike outcomes (fun {v w} same => ?_) same
  -- What a pass asks for does not depend on the outcomes, and is answered the same.
  have reaping := Program.KeepsTo.run_congr
    (reapAccumulating_keepsTo (d := d) resolved.runtimeSettings accumulating)
    Fleet.RunsSame.respond same
  rcases reaped : (d.reapAccumulating resolved.runtimeSettings accumulating).run.run
    Fleet.respond v with ⟨ending, v'⟩
  rcases reaped' : (d.reapAccumulating resolved.runtimeSettings accumulating).run.run
    Fleet.respond w with ⟨ending', w'⟩
  rw [reaped, reaped'] at reaping
  obtain ⟨rfl, after⟩ := reaping
  rcases ending with (e | reaps) | payload
  · exact absurd reaped reapAccumulating_ne_error
  · rw [Procedure.run_bind_of_ok reaped, Procedure.run_bind_of_ok reaped']
    exact ⟨.succeeded ⟨rfl, outcomes, rfl⟩, after⟩
  · rw [Procedure.run_bind_of_crashed reaped, Procedure.run_bind_of_crashed reaped']
    exact ⟨.crashed payload, after⟩

/-! ### Rollbacks -/

theorem rollback_plain (distinct : (d.catalog.services.map (·.name)).Nodup) :
    (d.rollback requested resolved).Plain where
  prepares := by
    rw [prepare_rollback]
    refine preparation_keepsTo (Plan.forRollback_keepsTo _) fun plan => ?_
    exact .bind (.emit trivial) fun _ => announce_keepsTo plan _
  distinct prepared := by
    rw [prepare_rollback] at prepared
    obtain ⟨services, w₁, found, planned, -⟩ := plan_of_preparation prepared
    exact nodup_workItems distinct found (Plan.services_of_forRollback planned)
  own item := item.dispatch_alike d.dispatchConfig resolved

/-- **A rollback concludes alike** from outcomes that are alike. -/
theorem rollback_concludesAlike :
    (d.rollback requested resolved).ConcludesAlike RollbackReport.Alike := by
  intro plan o o' v w outcomes same
  refine settle_alike outcomes (fun {v w} same => ?_) same
  exact ⟨.succeeded ⟨rfl, outcomes⟩, same⟩

/-! ### Whole calls -/

/-- **Neither a deployment nor a rollback depends on the schedule.** In a catalog of distinct names,
and from a fleet in which no script is laid out for executions that are still to come, any two runs
come to the same verdict and leave the same running, however their units are interleaved. -/
theorem runs_alike (distinct : (d.catalog.services.map (·.name)).Nodup) {f : Fleet}
    (unscripted : f.engine.Unscripted) :
    (d.deploy requested resolved).ScheduleFree DeployReport.Alike f ∧
      (d.rollback requested resolved).ScheduleFree RollbackReport.Alike f :=
  ⟨(deploy_plain distinct).scheduleFree deploy_concludesAlike unscripted,
    (rollback_plain distinct).scheduleFree rollback_concludesAlike unscripted⟩

/-! ### Two rollbacks that fail, in two orders -/

/-- Of two units, the second one may be carried out first. -/
theorem interleaved_second_first {σ : Type} (h : Handler σ) (u v : WorkUnit) (w : World σ) :
    ∃ strands, Interleaved h [.ofUnit u, .ofUnit v] w
      [(1, (v.body.run.run h w).1), (0, (u.body.run.run h (v.body.run.run h w).2).1)] strands
      (u.body.run.run h (v.body.run.run h w).2).2 := by
  obtain ⟨own, second⟩ := Interleaved.of_run (h := h) v.body.run [.ofUnit u, .ofUnit v] 1 [] w rfl
  obtain ⟨own', first⟩ := Interleaved.of_run (h := h) u.body.run
    [.ofUnit u, ⟨own, .ended (v.body.run.run h w).1⟩] 0 [] (v.body.run.run h w).2 rfl
  refine ⟨_, second _ _ _ (first _ _ _ (.settled fun s mem => ?_))⟩
  simp only [List.set_cons_zero, List.mem_cons, List.not_mem_nil, or_false] at mem
  rcases mem with rfl | rfl
  · exact ⟨_, rfl⟩
  · exact ⟨_, rfl⟩

/-- A call with two items of work, of which the second one is carried out first. -/
theorem runs_second_first {ρ : Type} (op : BatchOperation ρ) (f : Fleet) (a b : WorkItem)
    {r : Except DeployError ρ} :
    let w := (op.prepare.run.run Fleet.respond ⟨f, []⟩).2
    let second := (op.body b).run.run Fleet.respond w
    let first := (op.body a).run.run Fleet.respond second.2
    let plan : Plan := ⟨[.dispatched a, .dispatched b]⟩
    (op.prepare.run.run Fleet.respond ⟨f, []⟩).1 = .finished (.ok plan) →
    ((op.conclude plan (.collect [a.service.name, b.service.name]
      [(1, second.1), (0, first.1)])).run.run Fleet.respond first.2).1 = .finished r →
    ∃ w', op.Runs Fleet.respond ⟨f, []⟩ (.finished r) w' := by
  intro w second first plan planned concluded
  obtain ⟨strands, interleaved⟩ := interleaved_second_first Fleet.respond
    ⟨a.service.name, op.body a⟩ ⟨b.service.name, op.body b⟩ w
  exact ⟨_, .carriedOut (Prod.ext planned rfl) interleaved (Prod.ext concluded rfl)⟩

/-- Two services with two versions each, whose executions fail. -/
def twoAndTwo : Fleet where
  infrastructure :=
    (Infrastructure.setRunning {}
      (((RunningService.empty "api").withVersion 1 ["a"]).withVersion 2 ["b"])).setRunning
        (((RunningService.empty "web").withVersion 1 ["c"]).withVersion 2 ["d"])
  engine := (Engine.failExecutions {} "api" .terminal).failExecutions "web" .canceled

/-- A deployer of the two services that asks twice for an execution. -/
def impatient : Deployer :=
  { ofTwo with config := { monitor := { pollIntervalMs := 1000, timeoutSecs := 1 } } }

/-- What there is to do for one of the services. -/
def rollbackItem (name : ServiceName) : WorkItem :=
  ⟨{ name }, .on, .stagedRollback, twoAndTwo.infrastructure.details name⟩

/-- The problems of the two services, whose executions have these numbers. -/
def problemsOf (api web : Nat) : ProblemSet where
  problems :=
    [(DeployError.executionFailed (Engine.referenceOf .pipeline api) .terminal).toProblem "api",
      (DeployError.executionFailed (Engine.referenceOf .pipeline web) .canceled).toProblem "web"]

/-- Whichever of the two is rolled back first, both fail, and the fleet is left the same. The one
that goes first has the execution with the number nought. -/
theorem runs_alike_twoAndTwo :
    problemsOf 0 1 ≠ problemsOf 1 0 ∧
    ∃ w₁ w₂,
      (impatient.rollback [] bothOn).Runs Fleet.respond ⟨twoAndTwo, []⟩
        (.finished (.error (.aggregate .warning (problemsOf 0 1)))) w₁ ∧
      (impatient.rollback [] bothOn).Runs Fleet.respond ⟨twoAndTwo, []⟩
        (.finished (.error (.aggregate .warning (problemsOf 1 0)))) w₂ ∧
      SameVerdict RollbackReport.Alike
        (.finished (.error (.aggregate .warning (problemsOf 0 1))))
        (.finished (.error (.aggregate .warning (problemsOf 1 0)))) ∧
      ∀ service, w₁.state.infrastructure.running? service =
        w₂.state.infrastructure.running? service := by
  have distinct : (impatient.catalog.services.map (·.name)).Nodup := by decide
  have unscripted : twoAndTwo.engine.Unscripted := fun _ _ _ => rfl
  have in_order : ((impatient.rollback [] bothOn).run Fleet.respond ⟨twoAndTwo, []⟩).1 =
      .finished (.error (.aggregate .warning (problemsOf 0 1))) := by decide +kernel
  have first := (impatient.rollback [] bothOn).runs_run Fleet.respond ⟨twoAndTwo, []⟩
  rw [in_order] at first
  obtain ⟨w₂, second⟩ := runs_second_first (impatient.rollback [] bothOn) twoAndTwo
    (rollbackItem "api") (rollbackItem "web")
    (r := .error (.aggregate .warning (problemsOf 1 0))) (by decide +kernel) (by decide +kernel)
  obtain ⟨verdicts, running⟩ := (runs_alike distinct unscripted).2.verdict first second
  exact ⟨by decide +kernel, _, w₂, first, second, verdicts, running⟩

end Deployer

end FleetDeploy
