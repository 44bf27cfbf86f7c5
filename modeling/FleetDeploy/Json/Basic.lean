import FleetDeploy.Number.Reading

/-!
# JSON values

Everything that travels between the deployer and the pipeline engine, and everything that is
configured in a JSON file, is a value of this type. Whole numbers are kept apart from numbers with
a fraction or an exponent, because no field of a record ever accepts the latter for the former.
-/

namespace FleetDeploy

/-- A JSON value. A whole number lies between `-2 ^ 63` and `2 ^ 64 - 1`; what is written with a
fraction or an exponent, or lies outside, is a `decimal`, and so is the zero with a minus sign. An
object from a text has each of its names once. -/
inductive Json
  | null
  | bool (value : Bool)
  | int (value : Int)
  | decimal (value : Literal)
  | string (value : String)
  | array (items : List Json)
  | object (fields : List (String × Json))

namespace Json

/-- The field `name` of an object. -/
def field? (name : String) : Json → Option Json
  | .object fields => fields.lookup name
  | _ => none

/-- A natural number as a value. -/
def nat (n : Nat) : Json := .int n

end Json

end FleetDeploy
