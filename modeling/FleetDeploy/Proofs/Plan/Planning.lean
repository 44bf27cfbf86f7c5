import FleetDeploy.Fleet.Basic
import FleetDeploy.Plan.Planning
import FleetDeploy.Proofs.Program.Conduct

/-!
# What planning does

Planning reads the fleet and decides. It does not touch the fleet beyond having its inspections
counted, and it tells observers nothing, however far it comes; this is read off the text of the
planner. That there is one entry for each service is read off a run.

* `FleetDeploy.Plan.forDeploy_keepsTo`, `FleetDeploy.Plan.forRollback_keepsTo` – planning is
  inspections and nothing else;
* `FleetDeploy.Fleet.Inspected` – what inspections make of a fleet;
* `FleetDeploy.Plan.services_of_forDeploy`, `FleetDeploy.Plan.services_of_forRollback` – which
  services a plan has entries for;
* `FleetDeploy.Plan.Offence` – what may be wrong with a service.
-/

namespace FleetDeploy

/-- Whether a call takes a snapshot of a service. -/
def Call.IsInspection : Call → Prop
  | .inspect .. => True
  | _ => False

/-! ### What inspections make of a fleet -/

/-- Two fleets that differ in which services have been inspected, and in nothing else. -/
def Fleet.Inspected (f g : Fleet) : Prop :=
  ∃ names, g =
    { f with infrastructure :=
        { f.infrastructure with inspected := f.infrastructure.inspected ++ names } }

namespace Fleet.Inspected

theorem refl (f : Fleet) : f.Inspected f := ⟨[], by simp⟩

/-- One more inspection is one more entry in the record. -/
theorem respond {f g : Fleet} {c : Call} (inspection : c.IsInspection) (so_far : f.Inspected g) :
    f.Inspected (Fleet.respond c g).2 := by
  obtain ⟨names, rfl⟩ := so_far
  cases c with
  | inspect service settings =>
    exact ⟨names ++ [service.name], by simp [Fleet.respond, Infrastructure.inspect]⟩
  | _ => exact inspection.elim

/-- A run that makes inspections only is so many entries in the record. -/
theorem run {f : Fleet} {α : Type} {events : DeployEvent → Prop} {p : Procedure α}
    (keeps : p.KeepsTo Call.IsInspection events) {w w' : World Fleet}
    {ending : Ending (Except DeployError α)} (ran : p.run.run Fleet.respond w = (ending, w'))
    (so_far : f.Inspected w.state) : f.Inspected w'.state :=
  Program.KeepsTo.state keeps (fun _ _ => respond) ran so_far

theorem inspectionFailures_eq {f g : Fleet} (inspected : f.Inspected g) :
    g.infrastructure.inspectionFailures = f.infrastructure.inspectionFailures := by
  obtain ⟨names, rfl⟩ := inspected
  rfl

theorem details_eq {f g : Fleet} (inspected : f.Inspected g) (service : ServiceName) :
    g.infrastructure.details service = f.infrastructure.details service := by
  obtain ⟨names, rfl⟩ := inspected
  rfl

end Fleet.Inspected

namespace Plan

/-! ### The conduct of the planner -/

section Conduct

variable {events : DeployEvent → Prop} (settings : RuntimeSettings)

theorem deployEntry_keepsTo (service : Service) :
    (deployEntry settings service).KeepsTo Call.IsInspection events := by
  refine .bind (.ofExcept _) fun own => ?_
  split
  · exact .pure _
  · exact .bind (.ask trivial) fun running => .pure _

theorem rollbackEntry_keepsTo (service : Service) :
    (rollbackEntry settings service).KeepsTo Call.IsInspection events := by
  refine .bind (.ofExcept _) fun own => ?_
  split
  · exact .pure _
  · refine .bind (.ask trivial) fun running => ?_
    split
    · exact .throw _
    · exact .pure _

/-- Entries are made one after the other, and nothing is done in between. -/
theorem entriesBy_keepsTo {entry : Service → Procedure PlanEntry}
    (each : ∀ service, (entry service).KeepsTo Call.IsInspection events) (services : List Service) :
    (entriesBy entry services).KeepsTo Call.IsInspection events := by
  induction services with
  | nil => exact .pure _
  | cons service rest ih =>
    exact .bind (each service) fun first => .bind ih fun others => .pure _

/-- **Planning a deployment** is inspections and nothing else. -/
theorem forDeploy_keepsTo (services : List Service) :
    (forDeploy services settings).KeepsTo Call.IsInspection events :=
  .bind (entriesBy_keepsTo (deployEntry_keepsTo settings) services) fun _ => .pure _

/-- **Planning a rollback** is inspections and nothing else. -/
theorem forRollback_keepsTo (services : List Service) :
    (forRollback services settings).KeepsTo Call.IsInspection events :=
  .bind (entriesBy_keepsTo (rollbackEntry_keepsTo settings) services) fun _ => .pure _

end Conduct

/-! ### The services of a plan -/

section Services

variable {σ : Type} {h : Handler σ} {settings : RuntimeSettings} {service : Service}
  {services : List Service} {plan : Plan} {w w' : World σ}

theorem service_of_deployEntry {entry : PlanEntry}
    (made : (deployEntry settings service).run.run h w = (.finished (.ok entry), w')) :
    entry.service = service.name := by
  obtain ⟨own, w₁, -, made⟩ := Procedure.run_bind_eq_ok made
  split at made
  · obtain ⟨⟨⟩, -⟩ := Prod.mk.inj made
    rfl
  · obtain ⟨running, w₂, -, made⟩ := Procedure.run_bind_eq_ok made
    obtain ⟨same, -⟩ := Prod.mk.inj made
    obtain rfl := Except.ok.inj (Ending.finished.inj same)
    cases classifyDeploy service own running <;> rfl

theorem service_of_rollbackEntry {entry : PlanEntry}
    (made : (rollbackEntry settings service).run.run h w = (.finished (.ok entry), w')) :
    entry.service = service.name := by
  obtain ⟨own, w₁, -, made⟩ := Procedure.run_bind_eq_ok made
  split at made
  · obtain ⟨⟨⟩, -⟩ := Prod.mk.inj made
    rfl
  · obtain ⟨running, w₂, -, made⟩ := Procedure.run_bind_eq_ok made
    split at made
    · cases made
    · obtain ⟨⟨⟩, -⟩ := Prod.mk.inj made
      rfl

/-- There is one entry for each service, in the order of the services. -/
theorem services_of_entriesBy {entry : Service → Procedure PlanEntry} {entries : List PlanEntry}
    (each : ∀ {service : Service} {e : PlanEntry} {w w' : World σ},
      (entry service).run.run h w = (.finished (.ok e), w') → e.service = service.name)
    (made : (entriesBy entry services).run.run h w = (.finished (.ok entries), w')) :
    entries.map (·.service) = services.map (·.name) := by
  induction services generalizing w w' entries with
  | nil =>
    obtain ⟨⟨⟩, -⟩ := Prod.mk.inj made
    rfl
  | cons service rest ih =>
    obtain ⟨first, w₁, one, made⟩ := Procedure.run_bind_eq_ok made
    obtain ⟨others, w₂, more, made⟩ := Procedure.run_bind_eq_ok made
    obtain ⟨⟨⟩, -⟩ := Prod.mk.inj made
    rw [List.map_cons, List.map_cons, each one, ih more]

/-- **A plan of a deployment** has one entry for each service. -/
theorem services_of_forDeploy
    (planned : (forDeploy services settings).run.run h w = (.finished (.ok plan), w')) :
    plan.entries.map (·.service) = services.map (·.name) := by
  obtain ⟨entries, w₁, made, done⟩ := Procedure.run_bind_eq_ok planned
  obtain ⟨⟨⟩, -⟩ := Prod.mk.inj done
  exact services_of_entriesBy service_of_deployEntry made

/-- **A plan of a rollback** has one entry for each service. -/
theorem services_of_forRollback
    (planned : (forRollback services settings).run.run h w = (.finished (.ok plan), w')) :
    plan.entries.map (·.service) = services.map (·.name) := by
  obtain ⟨entries, w₁, made, done⟩ := Procedure.run_bind_eq_ok planned
  obtain ⟨⟨⟩, -⟩ := Prod.mk.inj done
  exact services_of_entriesBy service_of_rollbackEntry made

/-- The services that are dispatched are some of those that a plan has entries for. -/
theorem services_workItems_sublist (plan : Plan) :
    (plan.workItems.map (·.service.name)).Sublist (plan.entries.map (·.service)) := by
  obtain ⟨entries⟩ := plan
  induction entries with
  | nil => exact List.Sublist.refl []
  | cons entry rest ih =>
    cases entry with
    | skipped service reason => exact ih.cons service
    | dispatched item => exact ih.cons_cons item.service.name

end Services

/-! ### Why there is no plan -/

/-- **What may be wrong with a service**: nothing is configured for it, it cannot be inspected, or
there is nothing to roll back to. -/
inductive Offence (settings : RuntimeSettings) (f : Fleet) (service : Service) : DeployError → Prop
  | unconfigured (missing : settings.get? service.name = none) :
      Offence settings f service (.missingSettings service.name)
  | uninspectable {p : Problem}
      (fails : f.infrastructure.inspectionFailures.get? service.name = some p) :
      Offence settings f service (.problem p)
  | nothingToRollBack
      (few : (f.infrastructure.details service.name).versionCount < 2) :
      Offence settings f service
        (nothingToRollBack service (f.infrastructure.details service.name).versionCount)

end Plan

end FleetDeploy
