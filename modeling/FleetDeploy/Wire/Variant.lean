import FleetDeploy.Wire.Record

/-!
# Words and variants

Two more shapes of values on the wire.

* An **enumeration** travels as one word for each of its values (`Codec.words`). The word may also
  be given as the only field of an object, with nothing in it.
* A **variant** is a record that names its kind in a field of its own, `type`. Given as an array, it
  names its kind first (`Variant.split`). Inside a variant a word may be given as a field holding an
  empty object as well as nothing (`Codec.wordsInside`).
-/

namespace FleetDeploy

/-! ### Enumerations -/

namespace Codec

variable {α : Type}

/-- The value that a word stands for. -/
def ofWord? (all : List α) (word : α → String) (s : String) : Option α :=
  all.find? fun x => word x = s

/-- The values `all`, each travelling as its word. -/
def words (all : List α) (word : α → String) : Codec α where
  encode x := .string (word x)
  decode
    | .string s => ofWord? all word s
    | .object [(s, .null)] => ofWord? all word s
    | _ => none

/-- The values `all` inside a variant. -/
def wordsInside (all : List α) (word : α → String) : Codec α where
  encode x := .string (word x)
  decode
    | .string s => ofWord? all word s
    | .object [(s, .null)] => ofWord? all word s
    | .object [(s, .object [])] => ofWord? all word s
    | _ => none

end Codec

/-! ### Variants -/

namespace Variant

/-- The name of the field that holds the kind. -/
def kindField : String := "type"

/-- The variant `kind` with the parts `parts`. -/
def encode {αs : List Type} (kind : String) (fields : Fields αs) (parts : Tuple αs) : Json :=
  .object ((kindField, .string kind) :: fields.writeObject parts)

/-- The kind of a variant and what holds its parts. -/
def split : Json → Option (String × Json)
  | .object fields =>
    match fields.lookup kindField with
    | some (.string kind) => some (kind, .object fields)
    | _ => none
  | .array (.string kind :: items) => some (kind, .array items)
  | _ => none

end Variant

end FleetDeploy
