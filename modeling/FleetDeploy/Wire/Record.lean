import FleetDeploy.Wire.Codec

/-!
# Records

A record travels as an object with a field for each part, and may also be given as an array of the
parts in their order. What may be left out is a matter of each field, and differs between the two
forms: a field with a default may be left out of the object and from the end of the array, a field
that may be absent only of the object, any other field of neither. Names that no field has are
passed over; items beyond the last field are refused.

A record is described once, as a list of fields (`Fields`) together with the passage between the
record and the tuple of its parts (`Record`); writing and both forms of reading are computed from
the description.
-/

namespace FleetDeploy

/-- Whether a field may be left out, and what it is then. -/
inductive Presence (α : Type)
  /-- The field has to be given. -/
  | required
  /-- The field may be left out of an object; it is `absent` then. -/
  | optional (absent : α)
  /-- The field may be left out of an object and from the end of an array. -/
  | defaulted (value : α)

namespace Presence

variable {α : Type}

/-- What a field left out of an object is. -/
def inObject : Presence α → Option α
  | .required => none
  | .optional absent => some absent
  | .defaulted value => some value

/-- What a field left out from the end of an array is. -/
def inArray : Presence α → Option α
  | .required => none
  | .optional _ => none
  | .defaulted value => some value

end Presence

/-- One field of a record. -/
structure Field (α : Type) where
  name : String
  codec : Codec α
  presence : Presence α

namespace Field

variable {α : Type}

/-- A field that has to be given. -/
def required (name : String) (codec : Codec α) : Field α := ⟨name, codec, .required⟩

/-- A field with a default. -/
def defaulted (name : String) (codec : Codec α) (value : α) : Field α :=
  ⟨name, codec, .defaulted value⟩

/-- A field whose value may be absent; it need not be mentioned in an object then. -/
def optional (name : String) (codec : Codec α) : Field (Option α) :=
  ⟨name, .nullable codec, .optional none⟩

/-- A field whose value may be absent and is so by default. -/
def absentByDefault (name : String) (codec : Codec α) : Field (Option α) :=
  ⟨name, .nullable codec, .defaulted none⟩

/-- The field of an object with these fields. -/
def readObject (f : Field α) (fields : List (String × Json)) : Option α :=
  match fields.lookup f.name with
  | some j => f.codec.decode j
  | none => f.presence.inObject

/-- The field at the front of an array, with what follows it. -/
def readArray (f : Field α) : List Json → Option (α × List Json)
  | j :: rest => (f.codec.decode j).map fun x => (x, rest)
  | [] => f.presence.inArray.map fun x => (x, [])

end Field

/-- The parts of a record, one of each type of a list. -/
def Tuple : List Type → Type
  | [] => Unit
  | α :: αs => α × Tuple αs

/-- The fields of a record in their order, with the types of their values. -/
inductive Fields : List Type → Type 1
  | nil : Fields []
  | cons {α : Type} {αs : List Type} (field : Field α) (rest : Fields αs) : Fields (α :: αs)

namespace Fields

/-- The names, in order. -/
def names : {αs : List Type} → Fields αs → List String
  | _, .nil => []
  | _, .cons f rest => f.name :: rest.names

/-- The parts as fields of an object. -/
def writeObject : {αs : List Type} → Fields αs → Tuple αs → List (String × Json)
  | _, .nil, _ => []
  | _, .cons f rest, (x, xs) => (f.name, f.codec.encode x) :: rest.writeObject xs

/-- The parts as items of an array. -/
def writeArray : {αs : List Type} → Fields αs → Tuple αs → List Json
  | _, .nil, _ => []
  | _, .cons f rest, (x, xs) => f.codec.encode x :: rest.writeArray xs

/-- The parts found among the fields of an object. -/
def readObject : {αs : List Type} → Fields αs → List (String × Json) → Option (Tuple αs)
  | _, .nil, _ => some ()
  | _, .cons f rest, fields => do
    let x ← f.readObject fields
    let xs ← rest.readObject fields
    pure (x, xs)

/-- The parts that the items of an array are. -/
def readArray : {αs : List Type} → Fields αs → List Json → Option (Tuple αs)
  | _, .nil, [] => some ()
  | _, .nil, _ :: _ => none
  | _, .cons f rest, items => do
    let (x, items) ← f.readArray items
    let xs ← rest.readArray items
    pure (x, xs)

/-- The parts given in either form. -/
def read {αs : List Type} (fields : Fields αs) : Json → Option (Tuple αs)
  | .object given => fields.readObject given
  | .array items => fields.readArray items
  | _ => none

end Fields

/-- A record type as the tuple of its fields. -/
structure Record (ρ : Type) where
  types : List Type
  fields : Fields types
  pack : Tuple types → ρ
  unpack : ρ → Tuple types
  pack_unpack : ∀ x, pack (unpack x) = x := by intro x; rfl
  unpack_pack : ∀ t, unpack (pack t) = t := by intro t; rfl

/-- A record travels as an object; it is read from an object or an array. -/
def Record.codec {ρ : Type} (r : Record ρ) : Codec ρ where
  encode x := .object (r.fields.writeObject (r.unpack x))
  decode j := (r.fields.read j).map r.pack

end FleetDeploy
