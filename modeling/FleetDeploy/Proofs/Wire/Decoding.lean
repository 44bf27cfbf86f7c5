import FleetDeploy.Proofs.Wire.Strictness
import FleetDeploy.Proofs.Wire.Types

/-!
# Records depend on their known fields only

What is decoded as a record depends on the fields of the record and on nothing else, and on each of
them in the way that the field is declared. A maintainer who adds a field to a record declares in
the same line whether it may be left out of an object, whether it may be left off an array, and what
it is then; this file states what follows for whoever sends the record.

* `FleetDeploy.Record.DecodesKnownFields` – all of it, for one record;
* `FleetDeploy.Record.decodesKnownFields` – it holds of every record with distinct names and
  declared fields;
* `FleetDeploy.RecordType.decodes_known_fields` – it holds of every record that travels;
* `FleetDeploy.RecordType.decode_writeArray` – each of them is read back from an array, too.
-/

namespace FleetDeploy

/-- **Decoding depends on known fields only.** -/
structure Record.DecodesKnownFields {ρ : Type} (r : Record ρ) : Prop where
  /-- Each field has to be given, or has a default, or may be absent. -/
  declared : r.fields.Declared
  /-- What the values under the names of the fields are decoded to decides about the object. -/
  known : ∀ {given given' : List (String × Json)},
    (∀ {α : Type} (p : Place α r.types),
      (given.lookup (r.fields.field p).name).map (r.fields.field p).codec.decode =
        (given'.lookup (r.fields.field p).name).map (r.fields.field p).codec.decode) →
      r.codec.decode (.object given) = r.codec.decode (.object given')
  /-- A name that no field has may be added anywhere, with any value. -/
  unknown : ∀ {before after : List (String × Json)} {name : String} {j : Json},
    name ∉ r.fields.names →
      r.codec.decode (.object (before ++ (name, j) :: after)) =
        r.codec.decode (.object (before ++ after))
  /-- Without the name of a field the others are decoded as before, and the field is at its default;
  if it has none, nothing is decoded. -/
  dropped : ∀ {given : List (String × Json)} {x : ρ} {α : Type} (p : Place α r.types),
    r.codec.decode (.object given) = some x →
      r.codec.decode (.object (given.filter (·.1 ≠ (r.fields.field p).name))) =
        (r.fields.field p).presence.inObject.map fun v => r.pack (p.set v (r.unpack x))
  /-- An array with the values of the fields in their order is decoded as the object is, and so it
  is without those at the end that have a default and are at it. -/
  listed : ∀ {given : List (String × Json)} {x : ρ} {items : List Json},
    r.codec.decode (.object given) = some x → r.fields.Lists given (r.unpack x) items →
      r.codec.decode (.array items) = some x
  /-- An array with more items than there are fields is not decoded. -/
  long : ∀ {items : List Json}, r.fields.names.length < items.length →
    r.codec.decode (.array items) = none
  /-- An array that leaves out a field without a default is not decoded. -/
  short : ∀ {items : List Json} {α : Type} {p : Place α r.types}, items.length ≤ p.index →
    (∀ v, (r.fields.field p).presence ≠ .defaulted v) → r.codec.decode (.array items) = none
  /-- A value that does not fit its type, in a field or deeper inside one, spoils the whole. -/
  strict : ∀ {β : Type} {d : Codec β} {j k : Json}, d.Inside k r.codec j → d.Misfit k →
    r.codec.decode j = none

namespace Record

variable {ρ : Type} {r : Record ρ}

/-- What is decoded is packed from the parts that are read. -/
theorem decode_eq_some_iff {j : Json} {x : ρ} :
    r.codec.decode j = some x ↔ r.fields.read j = some (r.unpack x) := by
  rw [codec, Option.map_eq_some_iff]
  constructor
  · rintro ⟨parts, read, rfl⟩
    rw [read, r.unpack_pack]
  · intro read
    exact ⟨r.unpack x, read, r.pack_unpack x⟩

/-- **A record with distinct names and declared fields** depends on these fields only. -/
theorem decodesKnownFields (distinct : r.fields.names.Nodup) (declared : r.fields.Declared) :
    r.DecodesKnownFields where
  declared := declared
  known same := congrArg (Option.map r.pack) (Fields.readObject_congr same)
  unknown {before after name j} new := by
    refine congrArg (Option.map r.pack) (Fields.readObject_congr fun p => ?_)
    have other : ((r.fields.field p).name == name) = false :=
      beq_false_of_ne (ne_of_mem_of_not_mem (r.fields.name_field_mem p) new)
    rw [List.lookup_append, List.lookup_append, List.lookup_cons, other]
  dropped p decoded := by
    have read : r.fields.readObject _ = some _ := decode_eq_some_iff.mp decoded
    have others := Fields.readObject_filter p distinct read
    exact (congrArg (Option.map r.pack) others).trans (Option.map_map ..)
  listed decoded lists := by
    have read : r.fields.readObject _ = some _ := decode_eq_some_iff.mp decoded
    exact decode_eq_some_iff.mpr (Fields.readArray_of_lists read lists)
  long long := by
    rw [Fields.length_names] at long
    exact congrArg (Option.map r.pack) (Fields.readArray_of_long long)
  short {items α p} short noDefault := by
    refine congrArg (Option.map r.pack) (Fields.readArray_eq_none p ?_)
    rw [List.getElem?_eq_none short, Field.readItem]
    rcases presence : (r.fields.field p).presence with _ | _ | v
    · rfl
    · rfl
    · exact absurd presence (noDefault v)
  strict inside misfit := inside.decode_eq_none misfit.decode_eq_none

end Record

namespace RecordType

/-- No two fields of a record have the same name. -/
theorem distinct (t : RecordType) : t.record.fields.names.Nodup := by
  cases t <;> decide

/-- Every field of every record is declared in one of the four ways. -/
theorem declared (t : RecordType) : t.record.fields.Declared := by
  -- The first way that fits is taken, and `defaulted` is the last one: it would fit a field that is
  -- absent by default as well, whose type is not one without absent values.
  cases t <;> repeat' constructor

/-- **Every record that travels** depends on its known fields only. -/
theorem decodes_known_fields (t : RecordType) : t.record.DecodesKnownFields :=
  Record.decodesKnownFields t.distinct t.declared

/-- What became of a unit may be left out of an object if there was no problem, but not of an
array. -/
example : UnitOutcome.record.codec.decode (.object [("service", .string "gate")]) =
      some ⟨"gate", none⟩ ∧
    UnitOutcome.record.codec.decode (.array [.string "gate"]) = none :=
  ⟨rfl, rfl⟩

/-- A port that does not fit, three levels down, spoils the settings of all services. -/
example : RuntimeSettings.record.codec.decode (.object [("services", .object [("gate", .object
    [("enabled", .bool true), ("safe_to_update", .bool true), ("port", .int 65536)])])]) = none :=
  rfl

/-- **Every record is read back** from the array of its parts as well. -/
theorem decode_writeArray (t : RecordType) (x : t.Carrier) :
    t.record.codec.decode (.array (t.record.fields.writeArray (t.record.unpack x))) = some x :=
  (Record.decodesKnownFields t.distinct t.declared).listed (t.faithful.roundTrips x)
    (Fields.lists_writeArray t.distinct)

end RecordType

end FleetDeploy
