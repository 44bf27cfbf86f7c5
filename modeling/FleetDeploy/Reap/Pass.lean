import FleetDeploy.Reap.Report
import FleetDeploy.Reap.Selection

/-!
# Reaping

One pass over the versions of a service: inspect it, and if it has more versions than are kept, ask
what is in use and delete the idle old ones, oldest first. A deletion that fails is noted and does
not keep the pass from going on. Where there are no more versions than are kept, nobody is asked
what is in use.
-/

namespace FleetDeploy.Reap

/-- The report with one more attempted deletion. -/
def note (report : ReapReport) (version : Version) : Except DeployError Unit → ReapReport
  | .ok () => { report with deleted := report.deleted ++ [version] }
  | .error e => { report with failed := report.failed ++ [⟨version, e.message⟩] }

/-- What observers are told before a deletion. -/
def announcement (service : Service) (version : Version) : String :=
  "Reaping old " ++ service.name ++ " server group sequence " ++ Text.natText version.toNat

/-- Deletes some versions, one after the other, and adds what came of it to a report. -/
def deleteAll (service : Service) (settings : ServiceSettings) (report : ReapReport) :
    List Version → Procedure ReapReport
  | [] => pure report
  | version :: rest => do
    Procedure.say (announcement service version)
    let answer ← Procedure.outcome (Procedure.ask (.deleteVersion service settings version))
    if answer.isOk then Procedure.emit (.versionReaped service.name version)
    deleteAll service settings (note report version answer) rest

/-- One pass over the versions of a service. -/
def pass (retention : RetentionPolicy) (source : UsageSource) (service : Service)
    (settings : RuntimeSettings) : Procedure ReapReport := do
  match settings.get? service.name with
  | none => throw (.missingSettings service.name)
  | some own => do
    let running ← Procedure.ask (.inspect service settings)
    if running.versionCount ≤ retention.keep then
      pure { service := service.name, kept := running.versions }
    else do
      let usage ← source.query
      let selection := ReapSelection.of (Usage.byVersion running usage) retention.keep
      deleteAll service own
        { service := service.name, kept := selection.kept, inUse := selection.inUse }
        selection.reapable

end FleetDeploy.Reap
