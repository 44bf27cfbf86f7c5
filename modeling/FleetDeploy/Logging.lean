import FleetDeploy.Config.Basic

/-!
# Logging

A process has one place to which log lines go. It is chosen once, from the logging section of the
configuration, and a second attempt is an error.
-/

namespace FleetDeploy.LoggingConfig

/-- Why a second attempt fails. -/
def alreadyInstalled : DeployError :=
  .internal ("failed to install tracing subscriber: " ++
    "a global default trace dispatcher has already been set")

/-- Has log lines go where the configuration says, given what was chosen before; what is chosen
now is given back. -/
def install (chosen : Option LoggingConfig) (config : LoggingConfig) :
    Except DeployError LoggingConfig :=
  match chosen with
  | some _ => .error alreadyInstalled
  | none => .ok config

end FleetDeploy.LoggingConfig
