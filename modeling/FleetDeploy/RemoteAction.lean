import FleetDeploy.Wire.Record

/-!
# Actions for the operator

Some operations are not carried out by the deployer but handed back as a script that the operator
runs.
-/

namespace FleetDeploy

/-- A script handed back to the operator. -/
structure RemoteAction where
  script : String
  scriptDescription : String
  /-- Whether the script may be run without asking. -/
  autoRun : Bool
  deriving DecidableEq, Inhabited

namespace RemoteAction

/-- Whether there is nothing to run. -/
def isEmpty (a : RemoteAction) : Bool := a.script.isEmpty

/-- An action on the wire. -/
def record : Record RemoteAction where
  types := [String, String, Bool]
  fields :=
    .cons (.required "script" .text) <|
    .cons (.required "scriptDescription" .text) <|
    .cons (.required "autoRun" .bool) .nil
  pack := fun (script, scriptDescription, autoRun, ()) => ⟨script, scriptDescription, autoRun⟩
  unpack a := (a.script, a.scriptDescription, a.autoRun, ())

end RemoteAction

end FleetDeploy
