import FleetDeploy.Plan.Basic
import FleetDeploy.Program

/-!
# Planning

A plan is made before any work is begun. Each service needs settings, and each one that may have
something done to it is inspected, once and in order; the first service for which either fails ends
the planning, and there is no plan then. A rollback needs two versions of whatever it rolls back.
-/

namespace FleetDeploy.Plan

/-- The settings of a service, which have to be there. -/
def settingsFor (settings : RuntimeSettings) (service : Service) :
    Except DeployError ServiceSettings :=
  match settings.get? service.name with
  | some s => .ok s
  | none => .error (.missingSettings service.name)

/-- The entry of a classified service. -/
def entryOf (service : Service) (settings : ServiceSettings) (running : RunningService) :
    Classification → PlanEntry
  | .skip reason => .skipped service.name reason
  | .dispatch mode => .dispatched ⟨service, settings, mode, running⟩

/-- The entry of one service in a deployment. A disabled service is not inspected. -/
def deployEntry (settings : RuntimeSettings) (service : Service) : Procedure PlanEntry := do
  let own ← Procedure.ofExcept (settingsFor settings service)
  if !own.enabled then pure (.skipped service.name .disabled)
  else do
    let running ← Procedure.ask (.inspect service settings)
    pure (entryOf service own running (classifyDeploy service own running))

/-- Why a service with `n` versions cannot be rolled back. -/
def nothingToRollBack (service : Service) (n : Nat) : DeployError :=
  .precondition service.name
    ("has " ++ Text.natText n ++ " server group(s) - there is nothing to roll back to")

/-- The entry of one service in a rollback. Only a candidate is inspected. -/
def rollbackEntry (settings : RuntimeSettings) (service : Service) : Procedure PlanEntry := do
  let own ← Procedure.ofExcept (settingsFor settings service)
  match classifyRollback service own with
  | .skip reason => pure (.skipped service.name reason)
  | .dispatch mode => do
    let running ← Procedure.ask (.inspect service settings)
    if running.versionCount < 2 then throw (nothingToRollBack service running.versionCount)
    else pure (.dispatched ⟨service, own, mode, running⟩)

/-- The entries of some services, one after the other. -/
def entriesBy (entry : Service → Procedure PlanEntry) : List Service → Procedure (List PlanEntry)
  | [] => pure []
  | service :: rest => do
    let first ← entry service
    let others ← entriesBy entry rest
    pure (first :: others)

/-- The plan of a deployment. -/
def forDeploy (services : List Service) (settings : RuntimeSettings) : Procedure Plan := do
  let entries ← entriesBy (deployEntry settings) services
  pure ⟨entries⟩

/-- The plan of a rollback. -/
def forRollback (services : List Service) (settings : RuntimeSettings) : Procedure Plan := do
  let entries ← entriesBy (rollbackEntry settings) services
  pure ⟨entries⟩

end FleetDeploy.Plan
