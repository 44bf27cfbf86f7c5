import FleetDeploy.Program

/-!
# Staging, logs and tunnels in memory

The simpler collaborators: a stager and a log collector that note whom they were called for and fail
where that is arranged, and the commands of ssh tunnels through one host.
-/

namespace FleetDeploy

/-- Whom a collaborator was called for, and for whom it fails. -/
structure Recorder where
  calls : List ServiceName := []
  failures : SortedMap ServiceName Problem := ∅
  deriving Inhabited

namespace Recorder

/-- The recorder with calls for a service failing. -/
def failFor (r : Recorder) (service : ServiceName) (p : Problem) : Recorder :=
  { r with failures := r.failures.insert service p }

/-- Notes a call, which gives back `value` unless it fails. -/
def note {α : Type} (r : Recorder) (service : ServiceName) (value : α) :
    Except DeployError α × Recorder :=
  let answer := match r.failures.get? service with
    | some p => .error (.problem p)
    | none => .ok value
  (answer, { r with calls := r.calls ++ [service] })

end Recorder

/-- The configuration that staging a service makes. -/
def stagedProfile (service : ServiceName) : ConfigSource where
  id := service ++ "-profile"
  mountPath := "/opt/" ++ service ++ "/config"

/-- The command of a tunnel through `host` to a service. -/
def tunnelCommand (host : String) (settings : RuntimeSettings) (service : ServiceName) :
    Except DeployError String :=
  match settings.get? service with
  | none => .error (.missingSettings service)
  | some own =>
    match own.port with
    | none => .error (.collaborator ("no port configured for " ++ service))
    | some port =>
      let port := Text.natText port.toNat
      .ok ("ssh -N -L " ++ port ++ ":" ++ own.address.getD "localhost" ++ ":" ++ port ++ " " ++ host)

end FleetDeploy
