import FleetDeploy.Proofs.Batch.Judging
import FleetDeploy.Proofs.Batch.Moments
import FleetDeploy.Proofs.Deployer.Preparation
import FleetDeploy.Proofs.Plan.Grounds
import FleetDeploy.Proofs.Reap.Conduct

/-!
# What a call asks for

Each phase of a call has calls of its own, and they are read off the texts of the planner, of the
dispatcher and of the reaper, whatever the collaborators answer. A call prepares by inspecting
services that are enabled. A unit asks for nothing but what its mode is for, and of nobody but its
own service. A deployment that concludes reaps services that are enabled, provided that its batch is
not too bad; a rollback that concludes asks for nothing at all.

* `FleetDeploy.Plan.Inspects`, `FleetDeploy.WorkItem.Asks` – the calls of planning and of a unit;
  those of reaping are `FleetDeploy.Reap.Asks`;
* `FleetDeploy.WorkItem.dispatch_asksOnly` – what a unit asks for, by its mode;
* `FleetDeploy.Deployer.deploy_conduct`, `FleetDeploy.Deployer.rollback_conduct` – the conduct of a
  deployment and of a rollback.
-/

namespace FleetDeploy

/-! ### Planning -/

/-- **What planning asks for**: inspections of some services that are enabled. -/
def Plan.Inspects (services : List Service) (settings : RuntimeSettings) (c : Call) : Prop :=
  ∃ service ∈ services, settings.isEnabled service.name = true ∧ c = .inspect service settings

namespace Plan

variable {settings : RuntimeSettings} {service : Service} {services : List Service}

/-- The settings of a service tell whether it is enabled. -/
theorem isEnabled_of_settingsFor {own : ServiceSettings}
    (found : settingsFor settings service = .ok own) :
    settings.isEnabled service.name = own.enabled := by
  rw [RuntimeSettings.isEnabled, configured_of_settingsFor found]

/-- Only what is enabled is ever a candidate for a rollback. -/
theorem enabled_of_classifyRollback {own : ServiceSettings} {mode : DispatchMode}
    (dispatched : classifyRollback service own = .dispatch mode) : own.enabled = true := by
  by_contra off
  rw [classifyRollback, if_pos (by simpa using off)] at dispatched
  cases dispatched

theorem deployEntry_asksOnly (mem : service ∈ services) :
    (deployEntry settings service).AsksOnly (Inspects services settings) := by
  refine .ofExcept_bind fun own found => ?_
  split
  · exact .pure _
  · next on =>
    have enabled : settings.isEnabled service.name = true := by
      rw [isEnabled_of_settingsFor found]
      simpa using on
    exact .bind (.ask ⟨service, mem, enabled, rfl⟩) fun running => .pure _

theorem rollbackEntry_asksOnly (mem : service ∈ services) :
    (rollbackEntry settings service).AsksOnly (Inspects services settings) := by
  refine .ofExcept_bind fun own found => ?_
  split
  · exact .pure _
  · next dispatched =>
    have enabled : settings.isEnabled service.name = true := by
      rw [isEnabled_of_settingsFor found, enabled_of_classifyRollback dispatched]
    refine .bind (.ask ⟨service, mem, enabled, rfl⟩) fun running => ?_
    split
    · exact .throw _
    · exact .pure _

theorem entriesBy_asksOnly {calls : Call → Prop} {entry : Service → Procedure PlanEntry}
    (each : ∀ service ∈ services, (entry service).AsksOnly calls) :
    (entriesBy entry services).AsksOnly calls := by
  induction services with
  | nil => exact .pure _
  | cons service rest ih =>
    obtain ⟨first, others⟩ := List.forall_mem_cons.mp each
    exact .bind first fun entry => .bind (ih others) fun entries => .pure _

end Plan

/-! ### Units -/

/-- **What a unit asks for**, by its mode: a unit that is provisioned is staged and brought up; one
that is rolled out may have a load balancer made first, and is staged and submitted; one that is
rolled back is submitted. What has been submitted is waited for. -/
def WorkItem.Asks (config : DispatchConfig) (item : WorkItem) : Call → Prop
  | .stage service _ => service = item.service ∧ item.mode ≠ .stagedRollback
  | .ensureRunning service _ _ _ => service = item.service ∧ item.mode = .manual
  | .submitTask task =>
    item.mode = .stagedRollout ∧ task = RedBlack.upsertLoadBalancer item.service item.settings
  | .orchestrate pipeline =>
    (item.mode = .stagedRollout ∧ ∃ configs,
      pipeline = RedBlack.deployPipeline item.service item.settings configs config.retention) ∨
    item.mode = .stagedRollback ∧ pipeline = RedBlack.rollbackPipeline item.service
  | .executionStatus .. => True
  | _ => False

namespace Monitor

variable {calls : Call → Prop} {kind : ExecutionKind} {reference : ExecutionRef}

theorem conclude_asksOnly (status : ExecutionStatus) :
    (conclude reference status).AsksOnly calls := by
  rw [conclude]
  split
  · exact .pure _
  · exact .throw _

theorem poll_asksOnly (allowed : calls (.executionStatus kind reference))
    (interval rest remaining : Nat) :
    (poll interval rest kind reference remaining).AsksOnly calls := by
  induction remaining with
  | zero =>
    refine .bind (.ask allowed) fun status => ?_
    split
    · exact conclude_asksOnly status
    · exact .bind (.pause rest) fun _ => .throw _
  | succ remaining ih =>
    refine .bind (.ask allowed) fun status => ?_
    split
    · exact conclude_asksOnly status
    · exact .bind (.pause interval) fun _ => ih

/-- Whoever waits asks where the execution stands. -/
theorem await_asksOnly (allowed : calls (.executionStatus kind reference))
    (config : MonitorConfig) :
    (await config kind reference).AsksOnly calls :=
  poll_asksOnly allowed _ _ _

end Monitor

namespace WorkItem

variable (config : DispatchConfig) (resolved : ResolvedConfiguration) {item : WorkItem}

theorem manual_asksOnly (mode : item.mode = .manual) :
    (item.manual resolved).AsksOnly (item.Asks config) := by
  refine .bind (.emit _) fun _ => .bind (.ask ⟨rfl, by simp [mode]⟩) fun configs => ?_
  exact .ask (c := .ensureRunning item.service resolved configs item.settings.safeToUpdate)
    ⟨rfl, mode⟩

theorem upsertLoadBalancer_asksOnly (mode : item.mode = .stagedRollout) :
    (item.upsertLoadBalancer config).AsksOnly (item.Asks config) :=
  .bind (.emit _) fun _ => .bind (.ask ⟨mode, rfl⟩) fun _ => Monitor.await_asksOnly trivial _

theorem stagedRollout_asksOnly (mode : item.mode = .stagedRollout) :
    (item.stagedRollout config resolved).AsksOnly (item.Asks config) := by
  rw [stagedRollout]
  split
  on_goal 1 => refine .bind (upsertLoadBalancer_asksOnly config mode) fun _ => ?_
  all_goals
    refine .bind (.emit _) fun _ => .bind (.ask ⟨rfl, by simp [mode]⟩) fun configs => ?_
    exact .bind (.ask (Or.inl ⟨mode, configs, rfl⟩)) fun _ => Monitor.await_asksOnly trivial _

theorem stagedRollback_asksOnly (mode : item.mode = .stagedRollback) :
    (item.stagedRollback config).AsksOnly (item.Asks config) :=
  .bind (.emit _) fun _ => .bind (.ask (Or.inr ⟨mode, rfl⟩)) fun _ =>
    Monitor.await_asksOnly trivial _

/-- **What a unit asks for** is what its mode is for. -/
theorem dispatch_asksOnly (item : WorkItem) :
    (item.dispatch config resolved).AsksOnly (item.Asks config) := by
  refine .bind (.emit _) fun _ => ?_
  split
  · next mode => exact manual_asksOnly config resolved mode
  · next mode => exact stagedRollout_asksOnly config resolved mode
  · next mode => exact stagedRollback_asksOnly config mode

end WorkItem

/-! ### Deployments and rollbacks -/

namespace Deployer

variable {d : Deployer} {requested : List ServiceName} {resolved : ResolvedConfiguration}

/-- What a deployment asks for when its units have ended: services that are enabled are reaped, and
only if the batch is not too bad. -/
def ReapsEnabled (d : Deployer) (settings : RuntimeSettings) (outcome : BatchOutcome) (c : Call) :
    Prop :=
  outcome.severity ≤ d.config.failureThreshold ∧
    ∃ service ∈ d.catalog.services, settings.isEnabled service.name = true ∧
      Reap.Asks service settings c

section Conduct

variable {calls : Call → Prop}

theorem announce_asksOnly (plan : Plan) (waiting : String) :
    (announce plan waiting).AsksOnly calls :=
  .bind (.forM fun _ _ => .emit _) fun _ => .emit _

/-- A preparation asks for no more than its planning, which is about services of the catalog. -/
theorem preparation_asksOnly {stage : String} {planning : List Service → Procedure Plan}
    {tell : Plan → Procedure Unit}
    (plans : ∀ services, services.Sublist d.catalog.services → (planning services).AsksOnly calls)
    (tells : ∀ plan, (tell plan).AsksOnly calls) :
    (d.preparation requested stage planning tell).AsksOnly calls :=
  .ofExcept_bind fun services found => .bind (.emit _) fun _ =>
    .bind (plans services (Catalog.prioritized_sublist found)) fun plan =>
      .bind (tells plan) fun _ => .pure _

/-- What follows on a judgement is asked for only if the batch is not too bad. -/
theorem settle_bind_asksOnly {ρ : Type} {outcome : BatchOutcome} {next : BatchOutcome → Procedure ρ}
    (follows : outcome.severity ≤ d.config.failureThreshold → (next outcome).AsksOnly calls) :
    (d.settle outcome >>= next).AsksOnly calls := by
  rw [settle, bind_assoc]
  refine .bind (.forM fun _ _ => .emit _) fun _ => .ofExcept_bind fun outcome' judged => ?_
  obtain ⟨within, rfl⟩ := BatchOutcome.raiseIfExceeds_eq_ok.mp judged
  exact follows within

end Conduct

theorem reapFirst_asksOnly (settings : RuntimeSettings) (kind : ServiceKind)
    (source : UsageSource) :
    (d.reapFirst settings kind source).AsksOnly fun c => ∃ service ∈ d.catalog.services,
      settings.isEnabled service.name = true ∧ Reap.Asks service settings c := by
  rw [reapFirst]
  split
  · exact .pure _
  · next service found =>
    obtain ⟨first, enabled⟩ := Option.filter_eq_some_iff.mp found
    have mem : service ∈ d.catalog.services := List.mem_of_find?_eq_some first
    refine .bind (.outcome (Reap.pass_asksOnly.mono fun c asks => ?_)) fun report => ?_
    · exact ⟨service, mem, enabled, asks⟩
    · split
      · exact .pure _
      · exact .pure _

theorem reapAccumulating_asksOnly (settings : RuntimeSettings)
    (kinds : List (ServiceKind × UsageSource)) :
    (d.reapAccumulating settings kinds).AsksOnly fun c => ∃ service ∈ d.catalog.services,
      settings.isEnabled service.name = true ∧ Reap.Asks service settings c := by
  induction kinds with
  | nil => exact .pure _
  | cons kind rest ih =>
    exact .bind (reapFirst_asksOnly _ _ _) fun reports => .bind ih fun others => .pure _

/-- **The conduct of a deployment.** -/
theorem deploy_conduct : (d.deploy requested resolved).Conduct
    (Plan.Inspects d.catalog.services resolved.runtimeSettings)
    (WorkItem.Asks d.dispatchConfig) (d.ReapsEnabled resolved.runtimeSettings) where
  prepare := by
    rw [prepare_deploy]
    refine preparation_asksOnly (fun services chosen => ?_) fun plan => announce_asksOnly plan _
    refine .bind (Plan.entriesBy_asksOnly fun service mem => ?_) fun _ => .pure _
    exact Plan.deployEntry_asksOnly (chosen.subset mem)
  body item := item.dispatch_asksOnly d.dispatchConfig resolved
  conclude plan outcome := by
    refine settle_bind_asksOnly fun within => ?_
    refine .bind ((reapAccumulating_asksOnly _ _).mono fun c asks => ?_) fun reaps => .pure _
    exact ⟨within, asks⟩

/-- **The conduct of a rollback.** -/
theorem rollback_conduct : (d.rollback requested resolved).Conduct
    (Plan.Inspects d.catalog.services resolved.runtimeSettings)
    (WorkItem.Asks d.dispatchConfig) fun _ _ => False where
  prepare := by
    rw [prepare_rollback]
    refine preparation_asksOnly (fun services chosen => ?_) fun plan =>
      .bind (.emit _) fun _ => announce_asksOnly plan _
    refine .bind (Plan.entriesBy_asksOnly fun service mem => ?_) fun _ => .pure _
    exact Plan.rollbackEntry_asksOnly (chosen.subset mem)
  body item := item.dispatch_asksOnly d.dispatchConfig resolved
  conclude plan outcome := settle_bind_asksOnly fun _ => .pure _

end Deployer

end FleetDeploy
