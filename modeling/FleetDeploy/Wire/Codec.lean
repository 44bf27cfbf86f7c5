import FleetDeploy.Json.Basic
import FleetDeploy.SortedMap

/-!
# Codecs

How a value of each type travels as JSON. A codec writes every value and reads what it is given
strictly: no number stands in for a text or a text for a number, a whole number has to fit the width
of its field, and `null` is read only where a value may be absent. Why a reading failed is not
kept, since no answer shows it.

* `Codec` – a writer and a reader;
* `Codec.bool`, `Codec.text`, `Codec.uint16`, `Codec.uint32`, `Codec.uint64` – the scalars;
* `Codec.nullable`, `Codec.list`, `Codec.map`, `Codec.set` – what is built from them;
* `Codec.RoundTrips` – reading what was written gives the value back.
-/

namespace FleetDeploy

/-- How values of a type are written as JSON and read back. -/
structure Codec (α : Type) where
  encode : α → Json
  decode : Json → Option α

namespace Codec

variable {α β κ : Type}

/-- Reading what was written gives the value back. -/
def RoundTrips (c : Codec α) : Prop := ∀ x, c.decode (c.encode x) = some x

/-- A truth value. -/
def bool : Codec Bool where
  encode b := .bool b
  decode
    | .bool b => some b
    | _ => none

/-- A text. -/
def text : Codec String where
  encode s := .string s
  decode
    | .string s => some s
    | _ => none

/-- The natural number that a value is, if it lies below `bound`. -/
def natBelow? (bound : Nat) : Json → Option Nat
  | .int i => if 0 ≤ i ∧ i < bound then some i.toNat else none
  | _ => none

/-- A whole number of 16 bits. -/
def uint16 : Codec UInt16 where
  encode n := .nat n.toNat
  decode j := (natBelow? UInt16.size j).map UInt16.ofNat

/-- A whole number of 32 bits. -/
def uint32 : Codec UInt32 where
  encode n := .nat n.toNat
  decode j := (natBelow? UInt32.size j).map UInt32.ofNat

/-- A whole number of 64 bits. -/
def uint64 : Codec UInt64 where
  encode n := .nat n.toNat
  decode j := (natBelow? UInt64.size j).map UInt64.ofNat

/-- A value that may be absent, which is written `null`. -/
def nullable (c : Codec α) : Codec (Option α) where
  encode
    | none => .null
    | some x => c.encode x
  decode
    | .null => some none
    | j => (c.decode j).map some

/-- A list, as an array of its items. -/
def list (c : Codec α) : Codec (List α) where
  encode xs := .array (xs.map c.encode)
  decode
    | .array xs => xs.mapM c.decode
    | _ => none

end Codec

/-! ### Maps and sets -/

/-- How keys of a map are written as names of an object and read back. -/
structure KeyCodec (κ : Type) where
  write : κ → String
  read : String → Option κ

namespace KeyCodec

/-- A text is its own name. -/
def text : KeyCodec String where
  write s := s
  read s := some s

/-- A whole number of 32 bits in its shortest decimal form. -/
def uint32 : KeyCodec UInt32 where
  write n := Text.natText n.toNat
  read s :=
    let cs := s.toList
    if cs.head? = some '0' ∧ cs.length ≠ 1 then none
    else ((Text.readNat? cs).filter (· < UInt32.size)).map UInt32.ofNat

end KeyCodec

namespace Codec

variable {α κ : Type} [LT κ] [DecidableLT κ] [DecidableEq κ] [LE κ] [Std.IsLinearOrder κ]
  [Std.LawfulOrderLT κ]

/-- The key and the value of one field of an object. -/
def decodeEntry (k : KeyCodec κ) (c : Codec α) (e : String × Json) : Option (κ × α) := do
  let key ← k.read e.1
  let value ← c.decode e.2
  pure (key, value)

/-- A map, as an object with a field for each entry. -/
def map (k : KeyCodec κ) (c : Codec α) : Codec (SortedMap κ α) where
  encode m := .object (m.entries.map fun e => (k.write e.1, c.encode e.2))
  decode
    | .object fields => (fields.mapM (decodeEntry k c)).map SortedMap.ofList
    | _ => none

/-- A set, as an array of its members. Repetitions and order of what is read do not matter. -/
def set (c : Codec κ) : Codec (SortedSet κ) where
  encode s := .array (s.members.map c.encode)
  decode
    | .array xs => (xs.mapM c.decode).map SortedSet.ofList
    | _ => none

end Codec

end FleetDeploy
