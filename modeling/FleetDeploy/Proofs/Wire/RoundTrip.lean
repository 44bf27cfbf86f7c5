import FleetDeploy.Proofs.SortedMap
import FleetDeploy.Proofs.Text.Decimal
import FleetDeploy.Proofs.Wire.KnownFields
import FleetDeploy.Wire.Variant

/-!
# Codecs that read back what they write

A codec is put together from others, and whether it reads back what it writes is decided part by
part. Two things could go wrong in between. A value that may be absent is written `null` if it is,
so that nothing else may be written `null` (`FleetDeploy.Codec.Faithful`); and the parts of a record
are found by their names, so that no two of them may have one name, nor the name of the field that
holds the kind of a variant.

* `FleetDeploy.KeyCodec.uint32_roundTrips` – the keys of maps are read back;
* `FleetDeploy.SortedMap.ofList_entries`, `FleetDeploy.SortedSet.ofList_members` – a map is the map
  of its entries, and a set the set of its members;
* `FleetDeploy.Codec.faithful_words` – so is a word, if no two values have the same;
* `FleetDeploy.Record.faithful`, `FleetDeploy.Variant.decode_encode` – so are records and variants
  with distinct names.
-/

namespace FleetDeploy

/-! ### Keys -/

namespace KeyCodec

variable {κ : Type}

/-- Reading a name that was written gives the key back. -/
def RoundTrips (k : KeyCodec κ) : Prop := ∀ x, k.read (k.write x) = some x

@[simp] theorem text_roundTrips : text.RoundTrips := fun _ => rfl

@[simp] theorem uint32_roundTrips : uint32.RoundTrips := by
  intro n
  have shortest : ¬((Text.writeNat n.toNat).head? = some '0' ∧
      (Text.writeNat n.toNat).length ≠ 1) := by
    rintro ⟨nought, long⟩
    rw [Text.head?_writeNat nought] at long
    exact long rfl
  have fits : n.toNat < UInt32.size := n.toNat_lt
  simp only [uint32, Text.natText, String.toList_ofList, if_neg shortest, Text.readNat?_writeNat]
  simp [fits]

end KeyCodec

/-! ### Maps and sets from their entries -/

section Ascending

variable {κ ν : Type} [LT κ] [DecidableLT κ] [DecidableEq κ] [LE κ] [Std.IsLinearOrder κ]
  [Std.LawfulOrderLT κ]

/-- Entries that come in ascending order are put one behind the other. -/
theorem SortedMap.entries_foldl_insert {m : SortedMap κ ν} {l : List (κ × ν)}
    (ascending : (m.entries ++ l).Pairwise fun a b => a.1 < b.1) :
    (l.foldl (fun m e => m.insert e.1 e.2) m).entries = m.entries ++ l := by
  induction l generalizing m with
  | nil => simp
  | cons e rest ih =>
    have above : ∀ e' ∈ m.entries, e'.1 < e.1 := fun e' mem =>
      (List.pairwise_append.mp ascending).2.2 e' mem e List.mem_cons_self
    have placed : (m.insert e.1 e.2).entries = m.entries ++ [e] := insertEntry_of_forall_lt above
    rw [List.foldl_cons, ih (by rwa [placed, List.append_assoc]), placed, List.append_assoc]
    rfl

/-- **A map is the map of its entries.** -/
theorem SortedMap.ofList_entries (m : SortedMap κ ν) : SortedMap.ofList m.entries = m :=
  SortedMap.ext (SortedMap.entries_foldl_insert (m := SortedMap.empty) m.ascending)

/-- A member that is greater than all others is put at the end. -/
theorem insertKey_of_forall_lt {k : κ} {l : List κ} (above : ∀ x ∈ l, x < k) :
    insertKey k l = l ++ [k] := by
  induction l with
  | nil => rfl
  | cons x rest ih =>
    obtain ⟨first, others⟩ := List.forall_mem_cons.mp above
    have after : ¬k < x := by grind
    have other : ¬k = x := by grind
    rw [insertKey, if_neg after, if_neg other, ih others, List.cons_append]

/-- Members that come in ascending order are put one behind the other. -/
theorem SortedSet.members_foldl_insert {s : SortedSet κ} {l : List κ}
    (ascending : (s.members ++ l).Pairwise (· < ·)) :
    (l.foldl (fun s k => s.insert k) s).members = s.members ++ l := by
  induction l generalizing s with
  | nil => simp
  | cons k rest ih =>
    have above : ∀ x ∈ s.members, x < k := fun x mem =>
      (List.pairwise_append.mp ascending).2.2 x mem k List.mem_cons_self
    have placed : (s.insert k).members = s.members ++ [k] := insertKey_of_forall_lt above
    rw [List.foldl_cons, ih (by rwa [placed, List.append_assoc]), placed, List.append_assoc]
    rfl

/-- **A set is the set of its members.** -/
theorem SortedSet.ofList_members (s : SortedSet κ) : SortedSet.ofList s.members = s :=
  SortedSet.ext (SortedSet.members_foldl_insert (s := SortedSet.empty) s.ascending)

end Ascending

/-! ### Codecs -/

namespace Codec

variable {α κ : Type}

/-- **A faithful codec** reads back what it writes, and writes nothing that could be taken for an
absent value. -/
structure Faithful (c : Codec α) : Prop where
  roundTrips : c.RoundTrips
  present : ∀ x, c.encode x ≠ .null

@[simp] theorem roundTrips_of_faithful {c : Codec α} (faithful : c.Faithful) : c.RoundTrips :=
  faithful.roundTrips

@[simp] theorem faithful_bool : bool.Faithful := ⟨fun _ => rfl, nofun⟩

@[simp] theorem text_roundTrips : text.RoundTrips := fun _ => rfl

@[simp] theorem faithful_text : text.Faithful := ⟨text_roundTrips, nofun⟩

/-- A number that fits is read back. -/
theorem natBelow?_nat {bound n : Nat} (fits : n < bound) : natBelow? bound (.nat n) = some n := by
  have fits : 0 ≤ (n : Int) ∧ (n : Int) < bound := by omega
  rw [Json.nat, natBelow?, if_pos fits, Int.toNat_natCast]

@[simp] theorem faithful_uint16 : uint16.Faithful where
  roundTrips n := by simp [uint16, natBelow?_nat n.toNat_lt]
  present := nofun

@[simp] theorem faithful_uint32 : uint32.Faithful where
  roundTrips n := by simp [uint32, natBelow?_nat n.toNat_lt]
  present := nofun

@[simp] theorem faithful_uint64 : uint64.Faithful where
  roundTrips n := by simp [uint64, natBelow?_nat n.toNat_lt]
  present := nofun

/-- What may be absent and is not is read as what it is. -/
theorem nullable_decode {c : Codec α} {j : Json} (present : j ≠ .null) :
    (nullable c).decode j = (c.decode j).map some := by
  cases j with
  | null => exact absurd rfl present
  | _ => rfl

/-- What may be absent is read back, as what is present is not written as if it were absent. -/
@[simp] theorem nullable_roundTrips {c : Codec α} (faithful : c.Faithful) :
    (nullable c).RoundTrips := by
  rintro (_ | x)
  · rfl
  · have read : (nullable c).decode (c.encode x) = (c.decode (c.encode x)).map some :=
      nullable_decode (faithful.present x)
    exact read.trans (congrArg (Option.map some) (faithful.roundTrips x))

/-- Items that are read back one by one are read back together. -/
theorem mapM_map {β : Type} {write : α → β} {read : β → Option α} {xs : List α}
    (back : ∀ x, read (write x) = some x) : (xs.map write).mapM read = some xs := by
  induction xs with
  | nil => rfl
  | cons x rest ih => simp [back, ih]

@[simp] theorem list_roundTrips {c : Codec α} (items : c.RoundTrips) : (list c).RoundTrips :=
  fun _ => mapM_map items

section Containers

variable [LT κ] [DecidableLT κ] [DecidableEq κ] [LE κ] [Std.IsLinearOrder κ] [Std.LawfulOrderLT κ]

@[simp] theorem map_roundTrips {k : KeyCodec κ} {c : Codec α} (keys : k.RoundTrips)
    (values : c.RoundTrips) : (map k c).RoundTrips := by
  intro m
  have entry (e : κ × α) : decodeEntry k c (k.write e.1, c.encode e.2) = some e := by
    simp [decodeEntry, keys e.1, values e.2]
  have entries : (m.entries.map fun e => (k.write e.1, c.encode e.2)).mapM (decodeEntry k c) =
      some m.entries := mapM_map entry
  simp only [map, entries, Option.map_some, SortedMap.ofList_entries]

@[simp] theorem set_roundTrips {c : Codec κ} (members : c.RoundTrips) : (set c).RoundTrips := by
  intro s
  have read : (s.members.map c.encode).mapM c.decode = some s.members := mapM_map members
  simp only [set, read, Option.map_some, SortedSet.ofList_members]

end Containers

/-! ### Words -/

section Words

variable {all : List α} {word : α → String}

/-- **A word tells its value** if all values are listed and no two have the same word. -/
theorem ofWord?_word (complete : ∀ x, x ∈ all) (distinct : (all.map word).Nodup) (x : α) :
    ofWord? all word (word x) = some x := by
  rcases found : ofWord? all word (word x) with _ | y
  · exact absurd (List.find?_eq_none.mp found x (complete x)) (by simp)
  · have same : word y = word x := by simpa using List.find?_some found
    exact congrArg some (List.inj_on_of_nodup_map distinct (complete y) (complete x) same)

theorem faithful_words (complete : ∀ x, x ∈ all) (distinct : (all.map word).Nodup) :
    (words all word).Faithful :=
  ⟨ofWord?_word complete distinct, nofun⟩

theorem faithful_wordsInside (complete : ∀ x, x ∈ all) (distinct : (all.map word).Nodup) :
    (wordsInside all word).Faithful :=
  ⟨ofWord?_word complete distinct, nofun⟩

end Words

end Codec

/-! ### Records and variants -/

namespace Field

variable {α : Type} (name : String) (c : Codec α) (value : α)

@[simp] theorem codec_required : (required name c).codec = c := rfl

@[simp] theorem codec_defaulted : (defaulted name c value).codec = c := rfl

@[simp] theorem codec_optional : (optional name c).codec = .nullable c := rfl

@[simp] theorem codec_absentByDefault : (absentByDefault name c).codec = .nullable c := rfl

end Field

namespace Fields

/-- The codec of every field reads back what it writes. -/
def RoundTrip : {αs : List Type} → Fields αs → Prop
  | _, .nil => True
  | _, .cons f rest => f.codec.RoundTrips ∧ rest.RoundTrip

@[simp] theorem roundTrip_nil : Fields.nil.RoundTrip := trivial

@[simp] theorem roundTrip_cons {α : Type} {αs : List Type} {f : Field α} {rest : Fields αs} :
    (Fields.cons f rest).RoundTrip ↔ f.codec.RoundTrips ∧ rest.RoundTrip :=
  Iff.rfl

variable {αs : List Type} {fields : Fields αs}

theorem RoundTrip.field {α : Type} (roundTrip : fields.RoundTrip) (p : Place α αs) :
    (fields.field p).codec.RoundTrips := by
  induction fields with
  | nil => nomatch p
  | cons f rest ih =>
    cases p with
    | here => exact roundTrip.1
    | later p => exact ih roundTrip.2 p

/-- **Every part is found by its name**, whatever stands before the parts under other names. -/
theorem readObject_writeObject (before : List (String × Json)) (parts : Tuple αs)
    (roundTrip : fields.RoundTrip) (distinct : (before.map (·.1) ++ fields.names).Nodup) :
    fields.readObject (before ++ fields.writeObject parts) = some parts := by
  obtain ⟨-, distinct, apart⟩ := List.nodup_append.mp distinct
  refine readObject_eq_some_iff.mpr fun p => ?_
  have absent : before.lookup (fields.field p).name = none := by
    rw [List.lookup_eq_none_iff]
    intro e mem
    have other := apart e.1 (List.mem_map_of_mem mem) _ (fields.name_field_mem p)
    exact bne_iff_ne.mpr other.symm
  rw [Field.readObject, List.lookup_append, absent, Option.none_or, lookup_writeObject p distinct]
  exact roundTrip.field p (p.get parts)

end Fields

/-- **A variant is read back** if its parts are, no two of them have the same name, none of them has
that of the kind, and the kind leads to the fields. -/
theorem Variant.decode_encode {α : Type} {αs : List Type} {kind : String} {x : α} {c : Codec α}
    {decode : String × Json → Option α} {pack : Tuple αs → Option α} {parts : Tuple αs}
    (fields : Fields αs) (written : c.encode x = Variant.encode kind fields parts)
    (reads : ∀ j, c.decode j = (Variant.split j).bind decode)
    (leads : ∀ j, decode (kind, j) = (fields.read j).bind pack) (packed : pack parts = some x)
    (distinct : (Variant.kindField :: fields.names).Nodup) (roundTrip : fields.RoundTrip) :
    c.decode (c.encode x) = some x := by
  have split : Variant.split (Variant.encode kind fields parts) =
      some (kind, Variant.encode kind fields parts) := by
    simp [Variant.encode, Variant.split]
  have read : fields.read (Variant.encode kind fields parts) = some parts :=
    Fields.readObject_writeObject [(Variant.kindField, .string kind)] parts roundTrip distinct
  rw [written, reads, split, Option.bind_some, leads, read, Option.bind_some, packed]

/-- **A record is read back** if its parts are, and no two of them have the same name. -/
theorem Record.faithful {ρ : Type} {r : Record ρ} (distinct : r.fields.names.Nodup)
    (roundTrip : r.fields.RoundTrip) : r.codec.Faithful where
  roundTrips x := by
    have read : r.fields.read (.object (r.fields.writeObject (r.unpack x))) = some (r.unpack x) :=
      Fields.readObject_writeObject [] (r.unpack x) roundTrip distinct
    simp only [codec, read, Option.map_some, r.pack_unpack]
  present := nofun

end FleetDeploy
