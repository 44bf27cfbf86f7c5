import FleetDeploy.Proofs.Plan.Planning
import FleetDeploy.Proofs.Program.Calls

/-!
# What a plan rests on

A plan dispatches a service in some mode, and whoever carries it out relies on the planner to have
had grounds for it: the settings were those of the call, the service was enabled, a staged mode was
fit for it, and the snapshot that the item carries was taken when the plan was made. Here these
grounds are found in the run of the planner, and the snapshot in its journal. In a catalog of
distinct names it is the only one of its service, so that one may speak of the snapshot of a plan.

* `FleetDeploy.snapshotsOf` – the snapshots of a service among some steps;
* `FleetDeploy.WorkItem.Grounded` – what there is to know of an item of work;
* `FleetDeploy.Plan.rests_of_forDeploy`, `FleetDeploy.Plan.rests_of_forRollback` – every item of a
  plan is grounded, and carries the one snapshot of its service.
-/

namespace FleetDeploy

/-! ### Snapshots -/

/-- The snapshot of a service that a step took. -/
def Step.snapshot? (name : ServiceName) : Step → Option RunningService
  | .called (.inspect service _) (.answered (.ok running)) =>
    if service.name = name then some running else none
  | _ => none

/-- The snapshots of a service among some steps. -/
def snapshotsOf (name : ServiceName) (steps : List Step) : List RunningService :=
  steps.filterMap (·.snapshot? name)

/-- Whether a call takes a snapshot of a service. -/
def Call.Inspects (name : ServiceName) : Call → Prop
  | .inspect service _ => service.name = name
  | _ => False

section Snapshots

variable {name : ServiceName}

@[simp] theorem snapshotsOf_nil : snapshotsOf name [] = [] := rfl

@[simp] theorem snapshotsOf_append (steps steps' : List Step) :
    snapshotsOf name (steps ++ steps') = snapshotsOf name steps ++ snapshotsOf name steps' :=
  List.filterMap_append

theorem snapshotsOf_inspected (service : Service) (settings : RuntimeSettings)
    (running : RunningService) :
    snapshotsOf name [.called (.inspect service settings) (.answered (.ok running))] =
      if service.name = name then [running] else [] := by
  by_cases own : service.name = name
  · simp [snapshotsOf, Step.snapshot?, own]
  · simp [snapshotsOf, Step.snapshot?, own]

/-- Where nobody asks for a snapshot of a service there is none. -/
theorem snapshotsOf_eq_nil {steps : List Step}
    (none_asked : ∀ c ∈ callsOf steps, ¬c.Inspects name) :
    snapshotsOf name steps = [] := by
  rw [snapshotsOf, List.filterMap_eq_nil_iff]
  intro step mem
  rcases step with ⟨c, reply⟩ | event | ms
  · have not_here : ¬c.Inspects name := none_asked c (List.mem_filterMap.mpr ⟨_, mem, rfl⟩)
    cases c with
    | inspect service settings =>
      rcases reply with (e | running) | payload
      · rfl
      · exact if_neg not_here
      · rfl
    | _ => rfl
  · rfl
  · rfl

end Snapshots

/-! ### Grounds -/

/-- **What an item of work rests on**: the settings of the call, under which its service is enabled,
a service that is fit for its mode, and a snapshot that its mode can start from. -/
structure WorkItem.Grounded (settings : RuntimeSettings) (item : WorkItem) : Prop where
  configured : settings.get? item.service.name = some item.settings
  enabled : item.settings.enabled = true
  fit : item.mode ≠ .manual →
    item.service.requiredToBootstrap = false ∧ item.settings.safeToUpdate = true
  rollout : item.mode = .stagedRollout → item.running.latestEnabled.isSome
  rollback : item.mode = .stagedRollback → 2 ≤ item.running.versionCount

namespace Plan

section Classification

variable {settings : RuntimeSettings} {service : Service} {own : ServiceSettings}
  {running : RunningService} {mode : DispatchMode}

theorem configured_of_settingsFor (found : settingsFor settings service = .ok own) :
    settings.get? service.name = some own := by
  rw [settingsFor] at found
  split at found
  · next configured =>
    obtain rfl := Except.ok.inj found
    exact configured
  · cases found

/-- A deployment dispatches for good reasons. -/
theorem grounded_of_classifyDeploy (configured : settings.get? service.name = some own)
    (dispatched : classifyDeploy service own running = .dispatch mode) :
    WorkItem.Grounded settings ⟨service, own, mode, running⟩ := by
  -- What is provisioned directly needs to be enabled and nothing else.
  have directly (enabled : own.enabled = true) :
      WorkItem.Grounded settings ⟨service, own, .manual, running⟩ :=
    { configured := configured
      enabled := enabled
      fit := fun staged => absurd rfl staged
      rollout := nofun
      rollback := nofun }
  rw [classifyDeploy] at dispatched
  split at dispatched
  · cases dispatched
  · next on =>
    have enabled : own.enabled = true := by simpa using on
    split at dispatched
    · cases dispatched
      exact directly enabled
    · next staged =>
      split at dispatched
      · cases dispatched
        exact directly enabled
      · next serving =>
        cases dispatched
        exact
          { configured := configured
            enabled := enabled
            fit := fun _ => by simpa using staged
            rollout := fun _ => by simp [serving]
            rollback := nofun }

/-- A rollback dispatches for good reasons. -/
theorem grounded_of_classifyRollback (configured : settings.get? service.name = some own)
    (dispatched : classifyRollback service own = .dispatch mode)
    (enough : 2 ≤ running.versionCount) :
    WorkItem.Grounded settings ⟨service, own, mode, running⟩ := by
  rw [classifyRollback] at dispatched
  split at dispatched
  · cases dispatched
  · next on =>
    split at dispatched
    · cases dispatched
    · next needless =>
      split at dispatched
      · cases dispatched
      · next safe =>
        cases dispatched
        exact
          { configured := configured
            enabled := by simpa using on
            fit := fun _ => ⟨by simpa using needless, by simpa using safe⟩
            rollout := nofun
            rollback := fun _ => enough }

end Classification

/-! ### Entries -/

section Entries

variable {σ : Type} {h : Handler σ} {settings : RuntimeSettings} {service : Service}
  {services : List Service} {plan : Plan} {w w' : World σ}

/-- **How an entry comes about**: nobody is inspected but the service, and if it is dispatched then
for good reasons and with the one snapshot that was taken of it. -/
structure Grounds (settings : RuntimeSettings) (service : Service) (entry : PlanEntry)
    (steps : List Step) : Prop where
  others : ∀ name, service.name ≠ name → snapshotsOf name steps = []
  own : ∀ item, entry = .dispatched item → item.service = service ∧ item.Grounded settings ∧
    snapshotsOf service.name steps = [item.running]

theorem snapshotsOf_other {name : ServiceName} (other : service.name ≠ name)
    (running : RunningService) :
    snapshotsOf name [.called (.inspect service settings) (.answered (.ok running))] = [] := by
  rw [snapshotsOf_inspected, if_neg other]

/-- A service that is skipped has no work, whether or not it has been looked at. -/
theorem grounds_skipped {steps : List Step} (reason : SkipReason)
    (others : ∀ name, service.name ≠ name → snapshotsOf name steps = []) :
    Grounds settings service (.skipped service.name reason) steps where
  others := others
  own _ dispatched := by cases dispatched

/-- A service that is dispatched has been looked at once. -/
theorem grounds_dispatched {own : ServiceSettings} {mode : DispatchMode} {running : RunningService}
    (grounded : WorkItem.Grounded settings ⟨service, own, mode, running⟩) :
    Grounds settings service (.dispatched ⟨service, own, mode, running⟩)
      [.called (.inspect service settings) (.answered (.ok running))] where
  others _ other := snapshotsOf_other other running
  own item dispatched := by
    obtain rfl := PlanEntry.dispatched.inj dispatched
    exact ⟨rfl, grounded, by rw [snapshotsOf_inspected, if_pos rfl]⟩

/-- **The entry of a service in a deployment** has its grounds. -/
theorem grounds_of_deployEntry {entry : PlanEntry}
    (made : (deployEntry settings service).run.run h w = (.finished (.ok entry), w')) :
    ∃ steps, w'.journal = steps ++ w.journal ∧ Grounds settings service entry steps := by
  obtain ⟨own, w₁, found, made⟩ := Procedure.run_bind_eq_ok made
  obtain rfl : w = w₁ := congrArg Prod.snd found
  have configured := configured_of_settingsFor (Ending.finished.inj (congrArg Prod.fst found))
  split at made
  · obtain ⟨⟨⟩, rfl⟩ := Prod.mk.inj made
    exact ⟨[], rfl, grounds_skipped _ fun _ _ => rfl⟩
  · obtain ⟨running, w₂, seen, made⟩ := Procedure.run_bind_eq_ok made
    obtain ⟨s, -, rfl⟩ := Procedure.run_ask_eq seen
    obtain ⟨⟨⟩, rfl⟩ := Prod.mk.inj made
    refine ⟨[_], rfl, ?_⟩
    cases classified : classifyDeploy service own running with
    | dispatch mode => exact grounds_dispatched (grounded_of_classifyDeploy configured classified)
    | skip reason => exact grounds_skipped reason fun _ other => snapshotsOf_other other running

/-- **The entry of a service in a rollback** has its grounds. -/
theorem grounds_of_rollbackEntry {entry : PlanEntry}
    (made : (rollbackEntry settings service).run.run h w = (.finished (.ok entry), w')) :
    ∃ steps, w'.journal = steps ++ w.journal ∧ Grounds settings service entry steps := by
  obtain ⟨own, w₁, found, made⟩ := Procedure.run_bind_eq_ok made
  obtain rfl : w = w₁ := congrArg Prod.snd found
  have configured := configured_of_settingsFor (Ending.finished.inj (congrArg Prod.fst found))
  split at made
  · obtain ⟨⟨⟩, rfl⟩ := Prod.mk.inj made
    exact ⟨[], rfl, grounds_skipped _ fun _ _ => rfl⟩
  · next classified =>
    obtain ⟨running, w₂, seen, made⟩ := Procedure.run_bind_eq_ok made
    obtain ⟨s, -, rfl⟩ := Procedure.run_ask_eq seen
    split at made
    · cases made
    · next enough =>
      obtain ⟨⟨⟩, rfl⟩ := Prod.mk.inj made
      refine ⟨[_], rfl, grounds_dispatched ?_⟩
      exact grounded_of_classifyRollback configured classified (Nat.le_of_not_lt enough)

/-- **The entries of some services** have their grounds, and each item carries the one snapshot of
its service if the services have distinct names. -/
theorem grounds_of_entriesBy {entry : Service → Procedure PlanEntry} {entries : List PlanEntry}
    (each : ∀ {service : Service} {e : PlanEntry} {w w' : World σ},
      (entry service).run.run h w = (.finished (.ok e), w') →
        ∃ steps, w'.journal = steps ++ w.journal ∧ Grounds settings service e steps)
    (distinct : (services.map (·.name)).Nodup)
    (made : (entriesBy entry services).run.run h w = (.finished (.ok entries), w')) :
    ∃ steps, w'.journal = steps ++ w.journal ∧
      (∀ name, name ∉ services.map (·.name) → snapshotsOf name steps = []) ∧
      ∀ item, .dispatched item ∈ entries → item.service ∈ services ∧ item.Grounded settings ∧
        snapshotsOf item.service.name steps = [item.running] := by
  induction services generalizing w w' entries with
  | nil =>
    obtain ⟨⟨⟩, rfl⟩ := Prod.mk.inj made
    exact ⟨[], rfl, fun _ _ => rfl, fun _ mem => absurd mem List.not_mem_nil⟩
  | cons service rest ih =>
    obtain ⟨first, w₁, one, made⟩ := Procedure.run_bind_eq_ok made
    obtain ⟨others, w₂, more, made⟩ := Procedure.run_bind_eq_ok made
    obtain ⟨⟨⟩, rfl⟩ := Prod.mk.inj made
    obtain ⟨new, distinct⟩ := List.nodup_cons.mp distinct
    obtain ⟨steps, journal, grounds⟩ := each one
    obtain ⟨later, journal', nobody, grounded⟩ := ih distinct more
    refine ⟨later ++ steps, by rw [journal', journal, List.append_assoc], ?_, ?_⟩
    · intro name absent
      rw [List.map_cons, List.mem_cons, not_or] at absent
      rw [snapshotsOf_append, nobody name absent.2, grounds.others name (Ne.symm absent.1)]
      rfl
    · intro item mem
      rcases List.mem_cons.mp mem with first | mem
      · obtain ⟨rfl, grounded, snapshots⟩ := grounds.own item first.symm
        refine ⟨List.mem_cons_self, grounded, ?_⟩
        rw [snapshotsOf_append, nobody _ new, snapshots]
        rfl
      · obtain ⟨listed, grounded, snapshots⟩ := grounded item mem
        have other : service.name ≠ item.service.name := fun same =>
          new (List.mem_map.mpr ⟨item.service, listed, same.symm⟩)
        refine ⟨List.mem_cons_of_mem service listed, grounded, ?_⟩
        rw [snapshotsOf_append, snapshots, grounds.others _ other]
        rfl

/-- The work of a plan is what its entries dispatch. -/
theorem mem_workItems {item : WorkItem} :
    item ∈ plan.workItems ↔ .dispatched item ∈ plan.entries := by
  rw [workItems, List.mem_filterMap]
  constructor
  · rintro ⟨entry, mem, work⟩
    cases entry with
    | skipped service reason => cases work
    | dispatched item' =>
      obtain rfl := Option.some.inj work
      exact mem
  · exact fun mem => ⟨_, mem, rfl⟩

/-- **What the work of a plan rests on**, if the plan was made in these steps. -/
def Rests (settings : RuntimeSettings) (services : List Service) (plan : Plan) (steps : List Step) :
    Prop :=
  ∀ item ∈ plan.workItems, item.service ∈ services ∧ item.Grounded settings ∧
    snapshotsOf item.service.name steps = [item.running]

/-- **A plan of a deployment** rests on the snapshots that were taken for it. -/
theorem rests_of_forDeploy (distinct : (services.map (·.name)).Nodup)
    (planned : (forDeploy services settings).run.run h w = (.finished (.ok plan), w')) :
    ∃ steps, w'.journal = steps ++ w.journal ∧ plan.Rests settings services steps := by
  obtain ⟨entries, w₁, made, done⟩ := Procedure.run_bind_eq_ok planned
  obtain ⟨⟨⟩, rfl⟩ := Prod.mk.inj done
  obtain ⟨steps, journal, -, grounded⟩ := grounds_of_entriesBy grounds_of_deployEntry distinct made
  exact ⟨steps, journal, fun item mem => grounded item (mem_workItems.mp mem)⟩

/-- **A plan of a rollback** rests on the snapshots that were taken for it. -/
theorem rests_of_forRollback (distinct : (services.map (·.name)).Nodup)
    (planned : (forRollback services settings).run.run h w = (.finished (.ok plan), w')) :
    ∃ steps, w'.journal = steps ++ w.journal ∧ plan.Rests settings services steps := by
  obtain ⟨entries, w₁, made, done⟩ := Procedure.run_bind_eq_ok planned
  obtain ⟨⟨⟩, rfl⟩ := Prod.mk.inj done
  obtain ⟨steps, journal, -, grounded⟩ :=
    grounds_of_entriesBy grounds_of_rollbackEntry distinct made
  exact ⟨steps, journal, fun item mem => grounded item (mem_workItems.mp mem)⟩

end Entries

end Plan

end FleetDeploy
