import FleetDeploy.Proofs.Plan.Grounds

/-!
# What work a plan gives

Whatever the collaborators answer, the work of a plan is for services that the plan was made for,
and its modes are those of the call: nothing is rolled back by a deployment, and a rollback does
nothing else. The entries are looked at one by one for this, each in the run that made it, so that
it does not matter whether two services share a name.

* `FleetDeploy.Plan.Works` – the work of a plan is for these services and in these modes;
* `FleetDeploy.Plan.exists_of_entriesBy` – every entry was made for one of the services;
* `FleetDeploy.Plan.works_of_forDeploy`, `FleetDeploy.Plan.works_of_forRollback` – the work of a
  deployment and of a rollback.
-/

namespace FleetDeploy

namespace Plan

variable {σ : Type} {h : Handler σ} {settings : RuntimeSettings} {service : Service}
  {services : List Service} {own : ServiceSettings} {running : RunningService}
  {mode : DispatchMode} {item : WorkItem} {plan : Plan} {w w' : World σ}

/-- **Work for some services and in some modes.** -/
def Works (services : List Service) (modes : DispatchMode → Prop) (plan : Plan) : Prop :=
  ∀ item ∈ plan.workItems, item.service ∈ services ∧ modes item.mode

/-! ### Modes -/

/-- No service is rolled back by a deployment. -/
theorem ne_stagedRollback_of_classifyDeploy
    (dispatched : classifyDeploy service own running = .dispatch mode) :
    mode ≠ .stagedRollback := by
  rintro rfl
  rw [classifyDeploy] at dispatched
  split at dispatched
  · cases dispatched
  · split at dispatched
    · cases dispatched
    · split at dispatched <;> cases dispatched

/-- A service that a rollback does not skip is rolled back. -/
theorem eq_stagedRollback_of_classifyRollback
    (dispatched : classifyRollback service own = .dispatch mode) : mode = .stagedRollback := by
  rw [classifyRollback] at dispatched
  repeat' split at dispatched
  all_goals cases dispatched
  rfl

/-! ### Entries -/

theorem item_of_deployEntry
    (made : (deployEntry settings service).run.run h w = (.finished (.ok (.dispatched item)), w')) :
    item.service = service ∧ item.mode ≠ .stagedRollback := by
  obtain ⟨own, w₁, -, made⟩ := Procedure.run_bind_eq_ok made
  split at made
  · cases made
  · obtain ⟨running, w₂, -, made⟩ := Procedure.run_bind_eq_ok made
    obtain ⟨entered, -⟩ := Prod.mk.inj made
    have entered := Except.ok.inj (Ending.finished.inj entered)
    cases classified : classifyDeploy service own running with
    | skip reason =>
      rw [classified] at entered
      cases entered
    | dispatch mode =>
      rw [classified] at entered
      obtain rfl := PlanEntry.dispatched.inj entered
      exact ⟨rfl, ne_stagedRollback_of_classifyDeploy classified⟩

theorem item_of_rollbackEntry
    (made : (rollbackEntry settings service).run.run h w =
      (.finished (.ok (.dispatched item)), w')) :
    item.service = service ∧ item.mode = .stagedRollback := by
  obtain ⟨own, w₁, -, made⟩ := Procedure.run_bind_eq_ok made
  split at made
  · cases made
  · next classified =>
    obtain ⟨running, w₂, -, made⟩ := Procedure.run_bind_eq_ok made
    split at made
    · cases made
    · obtain ⟨⟨⟩, -⟩ := Prod.mk.inj made
      exact ⟨rfl, eq_stagedRollback_of_classifyRollback classified⟩

/-- **Every entry was made for one of the services.** -/
theorem exists_of_entriesBy {entry : Service → Procedure PlanEntry} {entries : List PlanEntry}
    (made : (entriesBy entry services).run.run h w = (.finished (.ok entries), w')) :
    ∀ e ∈ entries, ∃ service ∈ services, ∃ v v',
      (entry service).run.run h v = (.finished (.ok e), v') := by
  induction services generalizing w entries with
  | nil =>
    obtain ⟨⟨⟩, -⟩ := Prod.mk.inj made
    exact fun e mem => absurd mem List.not_mem_nil
  | cons service rest ih =>
    obtain ⟨first, w₁, one, made⟩ := Procedure.run_bind_eq_ok made
    obtain ⟨others, w₂, more, made⟩ := Procedure.run_bind_eq_ok made
    obtain ⟨⟨⟩, rfl⟩ := Prod.mk.inj made
    refine List.forall_mem_cons.mpr ⟨⟨service, List.mem_cons_self, w, w₁, one⟩, fun e mem => ?_⟩
    obtain ⟨service', listed, v, v', its⟩ := ih more e mem
    exact ⟨service', List.mem_cons_of_mem service listed, v, v', its⟩

/-! ### Plans -/

/-- A plan has the work of its entries. -/
theorem works_of_entriesBy {entry : Service → Procedure PlanEntry} {modes : DispatchMode → Prop}
    (each : ∀ {service : Service} {item : WorkItem} {v v' : World σ},
      (entry service).run.run h v = (.finished (.ok (.dispatched item)), v') →
        item.service = service ∧ modes item.mode)
    (planned : (do let entries ← entriesBy entry services; pure (⟨entries⟩ : Plan) :
      Procedure Plan).run.run h w = (.finished (.ok plan), w')) : plan.Works services modes := by
  obtain ⟨entries, w₁, made, done⟩ := Procedure.run_bind_eq_ok planned
  obtain ⟨⟨⟩, rfl⟩ := Prod.mk.inj done
  intro item mem
  obtain ⟨service, listed, v, v', its⟩ := exists_of_entriesBy made _ (mem_workItems.mp mem)
  obtain ⟨rfl, fits⟩ := each its
  exact ⟨listed, fits⟩

/-- **A deployment rolls nothing back.** -/
theorem works_of_forDeploy
    (planned : (forDeploy services settings).run.run h w = (.finished (.ok plan), w')) :
    plan.Works services (· ≠ .stagedRollback) :=
  works_of_entriesBy item_of_deployEntry planned

/-- **A rollback does nothing but roll back.** -/
theorem works_of_forRollback
    (planned : (forRollback services settings).run.run h w = (.finished (.ok plan), w')) :
    plan.Works services (· = .stagedRollback) :=
  works_of_entriesBy item_of_rollbackEntry planned

end Plan

end FleetDeploy
