import FleetDeploy.Config.Value
import FleetDeploy.Text.Lowercase

/-!
# The environment as a layer

A variable whose name begins with `BOSUN__`, in any case, configures something: two underscores in
the rest of the name lead into a section. Its text is taken for a truth value, a whole number or a
number if it reads as one, in this order, and otherwise as it is.
-/

namespace FleetDeploy.Environment

/-- What the names of the variables that configure something begin with, in lower case. -/
def namePrefix : String := "bosun__"

/-- Pairs of underscores as points. -/
def pointed : List Char → List Char
  | '_' :: '_' :: rest => '.' :: pointed rest
  | c :: rest => c :: pointed rest
  | [] => []

/-- The key that a variable sets, if it configures anything. -/
def keyOf? (name : String) : Option String :=
  let name := (Text.lowercase name).toList
  if namePrefix.toList.isPrefixOf name then
    some (String.ofList (pointed (name.drop namePrefix.length)))
  else none

/-- The value that a variable's text is. -/
def valueOf (text : String) : ConfigValue :=
  let lower := Text.lowercase text
  if lower = "true" then .bool true
  else if lower = "false" then .bool false
  else match Text.readSigned? (Text.signedLimit - 1) text.toList with
    | some i => .integer i
    | none =>
      match Binary64.ofText? text.toList with
      | some x => .float x
      | none => .text text

/-- The entry of one variable. -/
def entryOf? (binding : String × String) : Option (String × ConfigValue) :=
  (keyOf? binding.1).map fun key => (key, valueOf binding.2)

/-- The layer of some variables. -/
def layer (bindings : List (String × String)) : List (String × ConfigValue) :=
  bindings.filterMap entryOf?

end FleetDeploy.Environment
