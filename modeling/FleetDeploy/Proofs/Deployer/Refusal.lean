import FleetDeploy.Interleaving
import FleetDeploy.Proofs.Batch.Judging
import FleetDeploy.Proofs.Deployer.Preparation
import FleetDeploy.Proofs.Plan.Verdicts

/-!
# Calls that are refused

A call that changes the fleet may fail in two ways. Its batch may be judged too bad, when all of the
work has been done; that is the one failure after work has begun, and it has an error of its own.
Every other failure is a refusal: the call ends while it is being planned, and nothing has happened
but inspections, however many services had passed before the one that is in the way.

* `FleetDeploy.Deployer.Refused` – what a refused call leaves behind, and why it was refused;
* `FleetDeploy.Deployer.error_of_settle`, `FleetDeploy.Deployer.reapAccumulating_ne_error` – after
  the batch there is one error only;
* `FleetDeploy.Deployer.refused_of_failed` – a deployment or a rollback that fails with any other
  error has been refused.
-/

namespace FleetDeploy.Deployer

variable {σ : Type} {h : Handler σ} {d : Deployer} {requested : List ServiceName}
  {resolved : ResolvedConfiguration} {e : DeployError}

/-! ### After the batch -/

section Conclusion

variable {w w' : World σ}

/-- A batch that is judged fails with its problems. -/
theorem error_of_settle {outcome : BatchOutcome}
    (failed : (d.settle outcome).run.run h w = (.finished (.error e), w')) :
    ∃ threshold problems, e = .aggregate threshold problems := by
  rw [settle, Procedure.run_bind_of_ok (Procedure.run_forM_emit _ _ w),
    Procedure.run_ofExcept] at failed
  have raised := Ending.finished.inj (Prod.mk.inj failed).1
  exact ⟨_, _, (BatchOutcome.raiseIfExceeds_eq_error.mp raised).2⟩

/-- Reaping a service does not fail: a pass that does leaves no report. -/
theorem reapFirst_ne_error {settings : RuntimeSettings} {kind : ServiceKind}
    {source : UsageSource} :
    (d.reapFirst settings kind source).run.run h w ≠ (.finished (.error e), w') := by
  intro failed
  rw [reapFirst] at failed
  split at failed
  · cases failed
  · rcases Procedure.run_bind_eq_error failed with failed | ⟨report, w₁, -, failed⟩
    · rw [Procedure.run_outcome] at failed
      split at failed <;> cases failed
    · cases report <;> cases failed

theorem reapAccumulating_ne_error {settings : RuntimeSettings}
    {kinds : List (ServiceKind × UsageSource)} :
    (d.reapAccumulating settings kinds).run.run h w ≠ (.finished (.error e), w') := by
  induction kinds generalizing w with
  | nil => exact fun failed => by cases failed
  | cons entry rest ih =>
    intro failed
    rcases Procedure.run_bind_eq_error failed with failed | ⟨reports, w₁, -, failed⟩
    · exact reapFirst_ne_error failed
    · rcases Procedure.run_bind_eq_error failed with failed | ⟨others, w₂, -, failed⟩
      · exact ih failed
      · cases failed

/-- A deployment that fails when its batch has ended fails because of the batch. -/
theorem error_of_conclude_deploy {plan : Plan} {outcome : BatchOutcome}
    (failed : ((d.deploy requested resolved).conclude plan outcome).run.run h w =
      (.finished (.error e), w')) : ∃ threshold problems, e = .aggregate threshold problems := by
  rcases Procedure.run_bind_eq_error failed with failed | ⟨outcome, w₁, -, failed⟩
  · exact error_of_settle failed
  · rcases Procedure.run_bind_eq_error failed with failed | ⟨reaps, w₂, -, failed⟩
    · exact absurd failed reapAccumulating_ne_error
    · cases failed

/-- A rollback that fails when its batch has ended fails because of the batch. -/
theorem error_of_conclude_rollback {plan : Plan} {outcome : BatchOutcome}
    (failed : ((d.rollback requested resolved).conclude plan outcome).run.run h w =
      (.finished (.error e), w')) : ∃ threshold problems, e = .aggregate threshold problems := by
  rcases Procedure.run_bind_eq_error failed with failed | ⟨outcome, w₁, -, failed⟩
  · exact error_of_settle failed
  · cases failed

end Conclusion

/-! ### Refusals -/

/-- The event that a stage of a call begins. -/
def IsStage : DeployEvent → Prop
  | .stageStarted _ => True
  | _ => False

/-- **What a refused call leaves behind**: no call but inspections was made, nothing was told but that
a stage began, and the fleet is as it was but for the record of its inspections. Either the request
names a service that is not there, and then not even that happened, or something is wrong with one of
the services. -/
structure Refused (d : Deployer) (requested : List ServiceName) (settings : RuntimeSettings)
    (f : Fleet) (e : DeployError) (w : World Fleet) : Prop where
  steps : ∀ step ∈ w.journal, step.KeepsTo Call.IsInspection IsStage
  running : w.state.infrastructure.running = f.infrastructure.running
  engine : w.state.engine = f.engine
  fleet : f.Inspected w.state
  reason : (∃ name ∈ requested, d.catalog.get? name = none ∧ e = .unknownService name) ∨
    ∃ services, d.catalog.prioritized requested = .ok services ∧
      ∃ service ∈ services, Plan.Offence settings f service e
  unknown : ∀ name, e = .unknownService name → w = ⟨f, []⟩

section Refusals

variable {f : Fleet} {w : World Fleet}

/-- A request that names a service that is not there leaves nothing behind. -/
theorem refused_of_unknown {settings : RuntimeSettings}
    (unknown : d.catalog.prioritized requested = .error e) :
    Refused d requested settings f e ⟨f, []⟩ where
  steps _ mem := absurd mem List.not_mem_nil
  running := rfl
  engine := rfl
  fleet := .refl f
  reason := Or.inl (Catalog.error_of_prioritized unknown)
  unknown _ _ := rfl

/-- A plan that cannot be made leaves nothing behind but inspections. -/
theorem refused_of_plan {settings : RuntimeSettings} {services : List Service}
    {planning : Procedure Plan} {stage : String}
    (found : d.catalog.prioritized requested = .ok services)
    (keeps : planning.KeepsTo Call.IsInspection IsStage)
    (offended : ∃ service ∈ services, Plan.Offence settings f service e)
    (failed : planning.run.run Fleet.respond
      ((⟨f, []⟩ : World Fleet).record (.emitted (.stageStarted stage))) =
        (.finished (.error e), w)) : Refused d requested settings f e w := by
  have inspected : f.Inspected w.state := .run keeps failed (.refl f)
  have begun : (Step.emitted (.stageStarted stage)).KeepsTo Call.IsInspection IsStage := trivial
  have nothing : ∀ step ∈ ([] : List Step), step.KeepsTo Call.IsInspection IsStage :=
    fun _ mem => absurd mem List.not_mem_nil
  refine
    { steps := Program.KeepsTo.steps keeps failed (List.forall_mem_cons.mpr ⟨begun, nothing⟩)
      running := ?_
      engine := ?_
      fleet := inspected
      reason := Or.inr ⟨services, found, offended⟩
      unknown := ?_ }
  · obtain ⟨names, left⟩ := inspected
    rw [left]
  · obtain ⟨names, left⟩ := inspected
    rw [left]
  · -- What is wrong with a service is never that it is not there.
    rintro name rfl
    obtain ⟨service, -, offence⟩ := offended
    cases offence

/-- A preparation that fails leaves nothing behind but inspections, provided that its planning is
inspections and fails because of a service. -/
theorem refused_of_preparation {settings : RuntimeSettings} {stage : String}
    {planning : List Service → Procedure Plan} {tell : Plan → Procedure Unit}
    (keeps : ∀ services, (planning services).KeepsTo Call.IsInspection IsStage)
    (offended : ∀ {services : List Service} {v v' : World Fleet}, f.Inspected v.state →
      (planning services).run.run Fleet.respond v = (.finished (.error e), v') →
        ∃ service ∈ services, Plan.Offence settings f service e)
    (told : ∀ {plan : Plan} {v v' : World Fleet},
      (tell plan).run.run Fleet.respond v ≠ (.finished (.error e), v'))
    (failed : (d.preparation requested stage planning tell).run.run Fleet.respond ⟨f, []⟩ =
      (.finished (.error e), w)) : Refused d requested settings f e w := by
  rcases error_of_preparation told failed with ⟨unknown, rfl⟩ | ⟨services, found, failed⟩
  · exact refused_of_unknown unknown
  · exact refused_of_plan found (keeps services) (offended (.refl f) failed) failed

/-- **A call that fails before its batch is judged has been refused**, and has changed nothing. It
does not matter how the batch would have gone, nor how many services had been inspected by then. -/
theorem refused_of_failed
    (not_judged : ∀ threshold problems, e ≠ .aggregate threshold problems) :
    ((d.deploy requested resolved).Runs Fleet.respond ⟨f, []⟩ (.finished (.error e)) w →
      Refused d requested resolved.runtimeSettings f e w) ∧
    ((d.rollback requested resolved).Runs Fleet.respond ⟨f, []⟩ (.finished (.error e)) w →
      Refused d requested resolved.runtimeSettings f e w) := by
  constructor
  · intro ran
    cases ran with
    | refused prepared =>
      rw [prepare_deploy] at prepared
      exact refused_of_preparation (Plan.forDeploy_keepsTo _) Plan.error_of_forDeploy
        announce_ne_error prepared
    | carriedOut prepared interleaved concluded =>
      obtain ⟨threshold, problems, judged⟩ := error_of_conclude_deploy concluded
      exact absurd judged (not_judged threshold problems)
  · intro ran
    cases ran with
    | refused prepared =>
      rw [prepare_rollback] at prepared
      refine refused_of_preparation (Plan.forRollback_keepsTo _) Plan.error_of_forRollback
        (fun failed => ?_) prepared
      rw [Procedure.run_bind_of_ok (Procedure.run_emit _ _)] at failed
      exact announce_ne_error failed
    | carriedOut prepared interleaved concluded =>
      obtain ⟨threshold, problems, judged⟩ := error_of_conclude_rollback concluded
      exact absurd judged (not_judged threshold problems)

end Refusals

/-! ### Two services, the second of which has only one version -/

/-- A deployer of two services. -/
def ofTwo : Deployer := ⟨⟨[{ name := "api" }, { name := "web" }]⟩, {}⟩

/-- Both services are enabled. -/
def bothOn : ResolvedConfiguration :=
  ⟨(RuntimeSettings.withService {} "api" .on).withService "web" .on, ∅⟩

/-- A fleet with two versions of the first service and one version of the second. -/
def twoAndOne : Fleet where
  infrastructure :=
    (Infrastructure.setRunning {}
      (((RunningService.empty "api").withVersion 1 ["a"]).withVersion 2 ["b"])).setRunning
        ((RunningService.empty "web").withVersion 1 ["c"])

/-- The first service could be rolled back. It is not, because the second one could not be. -/
theorem refused_of_failed_twoAndOne :
    ∃ w, (ofTwo.rollback [] bothOn).Runs Fleet.respond ⟨twoAndOne, []⟩
        (.finished (.error (Plan.nothingToRollBack { name := "web" } 1))) w ∧
      w.state.infrastructure.inspected = ["api", "web"] ∧
      Refused ofTwo [] bothOn.runtimeSettings twoAndOne
        (Plan.nothingToRollBack { name := "web" } 1) w := by
  have ran : (ofTwo.rollback [] bothOn).Runs Fleet.respond ⟨twoAndOne, []⟩
      (.finished (.error (Plan.nothingToRollBack { name := "web" } 1))) _ := .refused rfl
  have not_judged : ∀ threshold problems,
      Plan.nothingToRollBack { name := "web" } 1 ≠ .aggregate threshold problems := by
    intro threshold problems judged
    cases judged
  exact ⟨_, ran, rfl, (refused_of_failed not_judged).2 ran⟩

end FleetDeploy.Deployer
