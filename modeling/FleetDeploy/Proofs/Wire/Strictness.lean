import FleetDeploy.Pipeline
import FleetDeploy.Plan.Classification
import FleetDeploy.Proofs.Wire.RoundTrip

/-!
# One bad value spoils the whole

Reading is strict all the way down. A value is made of others – the items of a list, the entries of
a map, the parts of a record or of a variant – and each of those is read by a codec of its own
(`FleetDeploy.Codec.Inside`); if any of them cannot be read, at whatever depth, nothing can
(`FleetDeploy.Codec.Inside.decode_eq_none`). What cannot be read anywhere is `null` for a type
without absent values, a number that is not whole, a whole number that does not fit, and a text in
the place of a number (`FleetDeploy.Codec.Misfit`).

Values under names that no field has are not inside a record: nothing is read from them.
-/

namespace FleetDeploy

/-! ### Keys -/

/-- **A key is read in its shortest form** and in no other. -/
theorem KeyCodec.write_of_uint32_read {name : String} {v : UInt32}
    (read : uint32.read name = some v) : uint32.write v = name := by
  simp only [uint32] at read
  split at read
  · cases read
  · next short =>
    obtain ⟨n, below, rfl⟩ := Option.map_eq_some_iff.mp read
    obtain ⟨digits, fits⟩ := Option.filter_eq_some_iff.mp below
    have shortest (nought : name.toList.head? = some '0') : name.toList.length = 1 := by
      by_contra long
      exact short ⟨nought, long⟩
    have written : name.toList = Text.writeNat n :=
      (Text.readNat?_eq_some_iff.mp digits).eq_writeNat shortest
    have back : (UInt32.ofNat n).toNat = n := UInt32.toNat_ofNat_of_lt (of_decide_eq_true fits)
    simp only [uint32, back, Text.natText, ← written, String.ofList_toList]

/-! ### Where the parts stand -/

namespace Fields

variable {α : Type} {αs : List Type} {fields : Fields αs} {body j : Json} {p : Place α αs}

/-- What holds the parts of a record holds `j` as the part at a place: in an object under the name
of the field, in an array at the same place. -/
def Gives (fields : Fields αs) (body : Json) (p : Place α αs) (j : Json) : Prop :=
  match body with
  | .object given => given.lookup (fields.field p).name = some j
  | .array items => items[p.index]? = some j
  | _ => False

/-- **A part that cannot be read** spoils all the others. -/
theorem read_eq_none (gives : fields.Gives body p j)
    (refused : (fields.field p).codec.decode j = none) : fields.read body = none := by
  cases body with
  | object given =>
    refine readObject_eq_none p ?_
    rw [Field.readObject, show given.lookup _ = some j from gives]
    exact refused
  | array items =>
    refine readArray_eq_none p ?_
    rw [show items[p.index]? = some j from gives]
    exact refused
  | null | bool | int | decimal | string => exact gives.elim

end Fields

/-- **The kinds of the variants** that records hold, each with the fields that it leads to. -/
inductive Variant.Kind : {α : Type} → {αs : List Type} → Codec α → String → Fields αs → Prop
  | upsertLoadBalancer :
    Kind TaskOperation.codec "upsertLoadBalancer" TaskOperation.upsertLoadBalancerFields
  | deployServerGroup : Kind StageDefinition.codec "deployServerGroup" StageDefinition.deployFields
  | enableServerGroup : Kind StageDefinition.codec "enableServerGroup" StageDefinition.trafficFields
  | disableServerGroup :
    Kind StageDefinition.codec "disableServerGroup" StageDefinition.trafficFields

/-- A variant whose parts cannot be read cannot be read. -/
theorem Variant.Kind.decode_eq_none {α : Type} {αs : List Type} {c : Codec α} {name : String}
    {fields : Fields αs} {body parts : Json} (kind : Kind c name fields)
    (split : Variant.split body = some (name, parts)) (refused : fields.read parts = none) :
    c.decode body = none := by
  cases kind <;>
    simp only [TaskOperation.codec, StageDefinition.codec, split, refused, Option.bind_eq_bind,
      Option.bind_some, Option.bind_none]

/-- The decision of a classification and its detail, in either form. -/
inductive Classification.Parts : Json → Json → Json → Prop
  | object {given : List (String × Json)} {decision detail : Json}
    (first : given.lookup "decision" = some decision)
    (second : given.lookup "detail" = some detail) : Parts (.object given) decision detail
  | array {decision detail : Json} : Parts (.array [decision, detail]) decision detail

theorem Classification.Parts.decode_eq {body decision detail : Json}
    (parts : Parts body decision detail) :
    Classification.codec.decode body = Classification.ofParts decision detail := by
  cases parts with
  | object first second =>
    simp only [codec, first, second, Option.bind_eq_bind, Option.bind_some]
  | array => rfl

namespace Codec

/-- A key of a map, as the text that it is. -/
def ofKey {κ : Type} (keys : KeyCodec κ) : Codec κ where
  encode key := .string (keys.write key)
  decode
    | .string name => keys.read name
    | _ => none

/-- **Reading `j` by `c` comes to reading `k` by `d`**: `k` is `j` itself, or stands in one of the
places of it that something is read from. -/
inductive Inside {β : Type} (d : Codec β) (k : Json) : {α : Type} → Codec α → Json → Prop
  | here : Inside d k d k
  /-- From `null` nothing more is read where a value may be absent. -/
  | present {α : Type} {c : Codec α} {j : Json} (present : j ≠ .null) (inside : Inside d k c j) :
    Inside d k (.nullable c) j
  | item {α : Type} {c : Codec α} {j : Json} {items : List Json} (mem : j ∈ items)
    (inside : Inside d k c j) : Inside d k (.list c) (.array items)
  | member {κ : Type} [LT κ] [DecidableLT κ] [DecidableEq κ] [LE κ] [Std.IsLinearOrder κ]
    [Std.LawfulOrderLT κ] {c : Codec κ} {j : Json} {items : List Json} (mem : j ∈ items)
    (inside : Inside d k c j) : Inside d k (.set c) (.array items)
  /-- The names of an object are read as the keys of a map. -/
  | key {κ ν : Type} [LT κ] [DecidableLT κ] [DecidableEq κ] [LE κ] [Std.IsLinearOrder κ]
    [Std.LawfulOrderLT κ] {keys : KeyCodec κ} {c : Codec ν} {name : String} {j : Json}
    {entries : List (String × Json)} (mem : (name, j) ∈ entries)
    (inside : Inside d k (ofKey keys) (.string name)) : Inside d k (.map keys c) (.object entries)
  | value {κ ν : Type} [LT κ] [DecidableLT κ] [DecidableEq κ] [LE κ] [Std.IsLinearOrder κ]
    [Std.LawfulOrderLT κ] {keys : KeyCodec κ} {c : Codec ν} {name : String} {j : Json}
    {entries : List (String × Json)} (mem : (name, j) ∈ entries) (inside : Inside d k c j) :
    Inside d k (.map keys c) (.object entries)
  | field {ρ α : Type} {r : Record ρ} {p : Place α r.types} {body j : Json}
    (gives : r.fields.Gives body p j) (inside : Inside d k (r.fields.field p).codec j) :
    Inside d k r.codec body
  | part {α γ : Type} {αs : List Type} {c : Codec γ} {name : String} {fields : Fields αs}
    {p : Place α αs} {body parts j : Json} (kind : Variant.Kind c name fields)
    (split : Variant.split body = some (name, parts)) (gives : fields.Gives parts p j)
    (inside : Inside d k (fields.field p).codec j) : Inside d k c body
  | decision {body decision detail : Json} (parts : Classification.Parts body decision detail)
    (inside : Inside d k Classification.Decision.codec decision) :
    Inside d k Classification.codec body
  /-- The decision tells what the detail is read as. -/
  | reason {body decision detail : Json} (parts : Classification.Parts body decision detail)
    (skip : Classification.Decision.codec.decode decision = some .skip)
    (inside : Inside d k SkipReason.codec detail) : Inside d k Classification.codec body
  | mode {body decision detail : Json} (parts : Classification.Parts body decision detail)
    (dispatch : Classification.Decision.codec.decode decision = some .dispatch)
    (inside : Inside d k DispatchMode.codec detail) : Inside d k Classification.codec body

/-! ### Failing anywhere is failing altogether -/

/-- One item that cannot be read spoils a list. -/
theorem mapM_eq_none {α β : Type} {read : α → Option β} {x : α} {xs : List α} (mem : x ∈ xs)
    (refused : read x = none) : xs.mapM read = none := by
  induction mem with
  | head rest => simp [refused]
  | tail y mem ih => simp [ih]

section Containers

variable {κ ν : Type} [LT κ] [DecidableLT κ] [DecidableEq κ] [LE κ] [Std.IsLinearOrder κ]
  [Std.LawfulOrderLT κ] {keys : KeyCodec κ} {c : Codec ν} {name : String} {j : Json}
  {entries : List (String × Json)}

/-- One entry whose key or value cannot be read spoils a map. -/
theorem map_decode_eq_none (mem : (name, j) ∈ entries)
    (refused : keys.read name = none ∨ c.decode j = none) :
    (map keys c).decode (.object entries) = none := by
  have entry : decodeEntry keys c (name, j) = none := by
    rcases refused with key | value
    · simp [decodeEntry, key]
    · simp [decodeEntry, value]
  simp only [map, mapM_eq_none mem entry, Option.map_none]

end Containers

/-- **What cannot be read somewhere inside cannot be read.** -/
theorem Inside.decode_eq_none {α β : Type} {d : Codec β} {k : Json} {c : Codec α} {j : Json}
    (inside : Inside d k c j) (refused : d.decode k = none) : c.decode j = none := by
  induction inside with
  | here => exact refused
  | present present _ ih => simp only [nullable_decode present, ih, Option.map_none]
  | item mem _ ih => exact mapM_eq_none mem ih
  | member mem _ ih => simp only [set, mapM_eq_none mem ih, Option.map_none]
  | key mem _ ih => exact map_decode_eq_none mem (.inl ih)
  | value mem _ ih => exact map_decode_eq_none mem (.inr ih)
  | field gives _ ih =>
    simp only [Record.codec, Fields.read_eq_none gives ih, Option.map_none]
  | part kind split gives _ ih => exact kind.decode_eq_none split (Fields.read_eq_none gives ih)
  | decision parts _ ih =>
    simp only [parts.decode_eq, Classification.ofParts, ih, Option.bind_eq_bind, Option.bind_none]
  | reason parts skip _ ih =>
    simp only [parts.decode_eq, Classification.ofParts, skip, ih, Option.bind_eq_bind,
      Option.bind_none, Option.bind_some]
  | mode parts dispatch _ ih =>
    simp only [parts.decode_eq, Classification.ofParts, dispatch, ih, Option.bind_eq_bind,
      Option.bind_none, Option.bind_some]

/-! ### What cannot be read -/

/-- **The codecs of whole numbers**, each with where its numbers end. -/
inductive Whole : {α : Type} → Codec α → Nat → Prop
  | uint16 : Whole .uint16 UInt16.size
  | uint32 : Whole .uint32 UInt32.size
  | uint64 : Whole .uint64 UInt64.size

end Codec

mutual

/-- **The codecs of types without absent values**, put together from codecs of the same sort: a
value may be absent as a part of a record or of a variant and nowhere else. -/
inductive Codec.Plain : {α : Type} → Codec α → Prop
  | bool : Codec.Plain .bool
  | text : Codec.Plain .text
  | uint16 : Codec.Plain .uint16
  | uint32 : Codec.Plain .uint32
  | uint64 : Codec.Plain .uint64
  | words {α : Type} {all : List α} {word : α → String} : Codec.Plain (.words all word)
  | wordsInside {α : Type} {all : List α} {word : α → String} : Codec.Plain (.wordsInside all word)
  | list {α : Type} {c : Codec α} (items : Codec.Plain c) : Codec.Plain (.list c)
  | set {κ : Type} [LT κ] [DecidableLT κ] [DecidableEq κ] [LE κ] [Std.IsLinearOrder κ]
    [Std.LawfulOrderLT κ] {c : Codec κ} (members : Codec.Plain c) : Codec.Plain (.set c)
  | map {κ ν : Type} [LT κ] [DecidableLT κ] [DecidableEq κ] [LE κ] [Std.IsLinearOrder κ]
    [Std.LawfulOrderLT κ] {keys : KeyCodec κ} {c : Codec ν} (values : Codec.Plain c) :
    Codec.Plain (.map keys c)
  | record {ρ : Type} {r : Record ρ} (declared : Fields.Declared r.fields) : Codec.Plain r.codec
  | taskOperation (declared : Fields.Declared TaskOperation.upsertLoadBalancerFields) :
    Codec.Plain TaskOperation.codec
  | stageDefinition (deploy : Fields.Declared StageDefinition.deployFields)
    (traffic : Fields.Declared StageDefinition.trafficFields) : Codec.Plain StageDefinition.codec
  | classification : Codec.Plain Classification.codec

/-- **A field is declared in one of four ways**: it has to be given; or its value may be absent,
which it is when an object leaves the field out, and under `absentByDefault` also when an array
does; or it has another default. No field but those whose values may be absent is read from
`null`. -/
inductive Field.Declared : {α : Type} → Field α → Prop
  | required {α : Type} {name : String} {c : Codec α} (plain : Codec.Plain c) :
    Field.Declared (.required name c)
  | optional {α : Type} {name : String} {c : Codec α} (plain : Codec.Plain c) :
    Field.Declared (.optional name c)
  | absentByDefault {α : Type} {name : String} {c : Codec α} (plain : Codec.Plain c) :
    Field.Declared (.absentByDefault name c)
  | defaulted {α : Type} {name : String} {c : Codec α} {value : α} (plain : Codec.Plain c) :
    Field.Declared (.defaulted name c value)

/-- Every field is declared in one of the four ways. -/
inductive Fields.Declared : {αs : List Type} → Fields αs → Prop
  | nil : Fields.Declared .nil
  | cons {α : Type} {αs : List Type} {f : Field α} {rest : Fields αs} (field : Field.Declared f)
    (others : Fields.Declared rest) : Fields.Declared (.cons f rest)

end

namespace Codec

/-- **A value that does not fit its type**: `null` or a number that is not whole for any type
without absent values, a whole number outside the width of its type, a text in the place of a
number, and a key that is written like no number of its type. -/
inductive Misfit : {α : Type} → Codec α → Json → Prop
  | null {α : Type} {c : Codec α} (plain : c.Plain) : Misfit c .null
  | decimal {α : Type} {c : Codec α} (plain : c.Plain) (value : Literal) :
    Misfit c (.decimal value)
  | outside {α : Type} {c : Codec α} {size : Nat} (whole : c.Whole size) {i : Int}
    (outside : ¬(0 ≤ i ∧ i < size)) : Misfit c (.int i)
  | quoted {α : Type} {c : Codec α} {size : Nat} (whole : c.Whole size) (s : String) :
    Misfit c (.string s)
  | key {name : String} (unwritten : ∀ v, KeyCodec.uint32.write v ≠ name) :
    Misfit (ofKey .uint32) (.string name)

/-- Neither nothing nor a number that is not whole is a value of a type without absent values. -/
theorem Plain.decode_eq_none {α : Type} {c : Codec α} (plain : c.Plain) :
    c.decode .null = none ∧ ∀ value, c.decode (.decimal value) = none := by
  cases plain <;> exact ⟨rfl, fun _ => rfl⟩

/-- A whole number is read from a whole number only, and only if it fits. -/
theorem Whole.decode_eq_none {α : Type} {c : Codec α} {size : Nat} (whole : c.Whole size) :
    (∀ i : Int, ¬(0 ≤ i ∧ i < size) → c.decode (.int i) = none) ∧
      ∀ s, c.decode (.string s) = none := by
  have refused {bound : Nat} {i : Int} (outside : ¬(0 ≤ i ∧ i < bound)) :
      natBelow? bound (.int i) = none := if_neg outside
  cases whole with
  | uint16 => exact ⟨fun i outside => congrArg (Option.map _) (refused outside), fun _ => rfl⟩
  | uint32 => exact ⟨fun i outside => congrArg (Option.map _) (refused outside), fun _ => rfl⟩
  | uint64 => exact ⟨fun i outside => congrArg (Option.map _) (refused outside), fun _ => rfl⟩

/-- **What does not fit cannot be read.** -/
theorem Misfit.decode_eq_none {α : Type} {c : Codec α} {j : Json} (misfit : Misfit c j) :
    c.decode j = none := by
  cases misfit with
  | null plain => exact plain.decode_eq_none.1
  | decimal plain value => exact plain.decode_eq_none.2 value
  | outside whole outside => exact whole.decode_eq_none.1 _ outside
  | quoted whole s => exact whole.decode_eq_none.2 s
  | @key name unwritten =>
    rcases read : KeyCodec.uint32.read name with _ | v
    · exact read
    · exact absurd (KeyCodec.write_of_uint32_read read) (unwritten v)

end Codec

end FleetDeploy
