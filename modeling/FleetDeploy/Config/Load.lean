import FleetDeploy.Config.Environment
import FleetDeploy.Config.Read
import FleetDeploy.Config.Toml
import FleetDeploy.Text.Mark

/-!
# Loading a configuration

A configuration is put together from three layers: the defaults, a file, which need not exist, and
the environment. Later layers win, field by field. What comes out is read strictly enough to notice
a value that makes no sense, and is then validated.
-/

namespace FleetDeploy

namespace ConfigValue

mutual

/-- A JSON value as a configured one. A whole number beyond 63 bits becomes a number of double
precision. -/
def ofJson : Json → ConfigValue
  | .null => .null
  | .bool b => .bool b
  | .int i => if i < Text.signedLimit then .integer i else .float (.ofRatio false i.toNat 1)
  | .decimal l => .float (l.stepwise?.getD l.nearest)
  | .string s => .text s
  | .array items => .array (ofItems items)
  | .object fields => .table (ofFields fields)

/-- The items of a JSON array as configured values. -/
def ofItems : List Json → List ConfigValue
  | [] => []
  | x :: rest => ofJson x :: ofItems rest

/-- The fields of a JSON object as configured values. -/
def ofFields : List (String × Json) → List (String × ConfigValue)
  | [] => []
  | (name, x) :: rest => (name, ofJson x) :: ofFields rest

end

end ConfigValue

/-- The text of a configuration file, by its format. -/
inductive ConfigFile
  | json (text : String)
  | toml (text : String)

/-- A text as it is read from a file. -/
def ConfigFile.content (text : String) : String := String.ofList (Text.withoutMark text.toList)

/-- The layer that a file is, if it can be read and is a table. -/
def ConfigFile.layer? : ConfigFile → Option (List (String × ConfigValue))
  | .json text =>
    match Json.parse? (content text) with
    | some (.object fields) => some (ConfigValue.ofFields fields)
    | _ => none
  | .toml text => Toml.parse? (content text)

namespace DeployerConfig

/-- The tree of all layers. -/
def layered (file environment : List (String × ConfigValue)) : ConfigValue :=
  ((ConfigValue.layOver (.table []) (ConfigValue.ofConfig {})).layOver file).layOver environment

/-- The configuration of all layers, which has to be valid. -/
def ofLayers (file environment : List (String × ConfigValue)) : Except DeployError DeployerConfig :=
  match (layered file environment).toConfig? with
  | none => .error (.configuration "a value does not fit its field")
  | some config => do
    config.validate
    pure config

/-- The configuration of a file, if there is one, and some environment variables. -/
def load (file : Option ConfigFile) (bindings : List (String × String)) :
    Except DeployError DeployerConfig :=
  match file.elim (some []) (·.layer?) with
  | none => .error (.configuration "the file cannot be read")
  | some file => ofLayers file (Environment.layer bindings)

end DeployerConfig

end FleetDeploy
