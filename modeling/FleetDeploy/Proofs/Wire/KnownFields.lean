import FleetDeploy.Wire.Record
import Mathlib.Data.List.Nodup

/-!
# What the parts of a record are read from

A record is read part by part, and every part is read from one thing only: of an object from what is
given under the name of the part, of an array from what is given at its place. What either form
makes of a record follows from this: names that no part has do not matter, a part that is left out
is what its field says, and the items of an array are read as the fields of an object are.

* `FleetDeploy.Place` – the places of the parts, with the part and the field at each;
* `FleetDeploy.Fields.readObject_eq_some_iff`, `FleetDeploy.Fields.readArray_eq_some_iff` – the one
  thing that each part is read from;
* `FleetDeploy.Fields.readObject_filter` – what is read when a name is dropped;
* `FleetDeploy.Fields.Lists`, `FleetDeploy.Fields.readArray_of_lists` – the arrays that give the
  same as an object, of which what is written is one (`FleetDeploy.Fields.lists_writeArray`).
-/

namespace FleetDeploy

/-! ### Places -/

/-- **A place** in a list of types at which `α` stands. -/
inductive Place (α : Type) : List Type → Type 1
  | here {αs : List Type} : Place α (α :: αs)
  | later {β : Type} {αs : List Type} (place : Place α αs) : Place α (β :: αs)

namespace Place

variable {α : Type}

/-- How many types stand before a place. -/
def index : {αs : List Type} → Place α αs → Nat
  | _, .here => 0
  | _, .later p => p.index + 1

/-- The part at a place. -/
def get : {αs : List Type} → Place α αs → Tuple αs → α
  | _, .here, (x, _) => x
  | _, .later p, (_, xs) => p.get xs

/-- The parts with another one at a place. -/
def set : {αs : List Type} → Place α αs → α → Tuple αs → Tuple αs
  | _, .here, x, (_, xs) => (x, xs)
  | _, .later p, x, (y, ys) => (y, p.set x ys)

end Place

namespace Field

variable {α : Type}

/-- The field of an array with this item at its place. -/
def readItem (f : Field α) : Option Json → Option α
  | some j => f.codec.decode j
  | none => f.presence.inArray

/-- The field of an object with what is decoded from the value of its name, if that is given. -/
theorem readObject_eq (f : Field α) (given : List (String × Json)) :
    f.readObject given = ((given.lookup f.name).map f.codec.decode).getD f.presence.inObject := by
  rw [readObject]
  cases given.lookup f.name <;> rfl

/-- The front of an array is the item at its first place. -/
theorem readArray_eq (f : Field α) (items : List Json) :
    f.readArray items = (f.readItem items[0]?).map fun x => (x, items.tail) := by
  cases items <;> rfl

end Field

namespace Fields

variable {α : Type} {αs : List Type} {fields : Fields αs}

/-- The field at a place. -/
def field : {αs : List Type} → Fields αs → Place α αs → Field α
  | _, .cons f _, .here => f
  | _, .cons _ rest, .later p => rest.field p

theorem length_names (fields : Fields αs) : fields.names.length = αs.length := by
  induction fields with
  | nil => rfl
  | cons f rest ih => exact congrArg (· + 1) ih

theorem name_field_mem (fields : Fields αs) (p : Place α αs) :
    (fields.field p).name ∈ fields.names := by
  induction fields with
  | nil => nomatch p
  | cons f rest ih =>
    cases p with
    | here => exact List.mem_cons_self
    | later p => exact List.mem_cons_of_mem _ (ih p)

/-! ### One part, one thing to read it from -/

variable {given given' : List (String × Json)} {items : List Json} {parts : Tuple αs}

section Cons

variable {β : Type} {βs : List Type} {f : Field β} {rest : Fields βs} {parts : Tuple (β :: βs)}

theorem readObject_cons_eq_some_iff :
    (cons f rest).readObject given = some parts ↔
      f.readObject given = some parts.1 ∧ rest.readObject given = some parts.2 := by
  constructor
  · intro read
    obtain ⟨x, first, behind⟩ := Option.bind_eq_some_iff.mp read
    obtain ⟨xs, others, ⟨⟩⟩ := Option.bind_eq_some_iff.mp behind
    exact ⟨first, others⟩
  · rintro ⟨first, others⟩
    rw [readObject, first, others]
    rfl

theorem readArray_cons_eq_some_iff :
    (cons f rest).readArray items = some parts ↔
      f.readItem items[0]? = some parts.1 ∧ rest.readArray items.tail = some parts.2 := by
  rw [readArray, f.readArray_eq]
  constructor
  · intro read
    obtain ⟨⟨x, behind⟩, front, tail⟩ := Option.bind_eq_some_iff.mp read
    obtain ⟨x, first, ⟨⟩⟩ := Option.map_eq_some_iff.mp front
    obtain ⟨xs, others, ⟨⟩⟩ := Option.bind_eq_some_iff.mp tail
    exact ⟨first, others⟩
  · rintro ⟨first, others⟩
    simp only [first, others, Option.map_some, Option.bind_eq_bind, Option.bind_some]
    rfl

end Cons

/-- **Parts read from an object** are each read from what is given under its name. -/
theorem readObject_eq_some_iff :
    fields.readObject given = some parts ↔
      ∀ {α : Type} (p : Place α αs), (fields.field p).readObject given = some (p.get parts) := by
  induction fields with
  | nil =>
    refine ⟨fun _ _ p => ?_, fun _ => rfl⟩
    exact nomatch p
  | cons f rest ih =>
    rw [readObject_cons_eq_some_iff, ih]
    constructor
    · rintro ⟨first, others⟩ α p
      cases p with
      | here => exact first
      | later p => exact others p
    · intro each
      exact ⟨each .here, fun p => each p.later⟩

/-- **Parts read from an array** are each read from the item at its place, and no items are left
over. -/
theorem readArray_eq_some_iff :
    fields.readArray items = some parts ↔
      items.length ≤ αs.length ∧
        ∀ {α : Type} (p : Place α αs),
          (fields.field p).readItem items[p.index]? = some (p.get parts) := by
  induction fields generalizing items with
  | nil =>
    cases items with
    | nil => exact ⟨fun _ => ⟨Nat.le_refl _, fun p => nomatch p⟩, fun _ => rfl⟩
    | cons j items => exact ⟨nofun, fun ⟨short, _⟩ => absurd short (Nat.not_succ_le_zero _)⟩
  | cons f rest ih =>
    rw [readArray_cons_eq_some_iff, ih, List.length_tail]
    constructor
    · rintro ⟨first, short, others⟩
      -- The places behind the first one are one closer to the front of what is left.
      refine ⟨Nat.le_add_of_sub_le short, fun p => ?_⟩
      cases p with
      | here => exact first
      | later p =>
        have read := others p
        rwa [List.getElem?_tail] at read
    · rintro ⟨short, each⟩
      refine ⟨each .here, Nat.sub_le_of_le_add short, fun p => ?_⟩
      rw [List.getElem?_tail]
      exact each p.later

/-! ### Names that are known and names that are not -/

/-- What is found when a name is dropped: nothing under it, and what was there under the others. -/
theorem lookup_filter_ne (dropped name : String) :
    (given.filter (·.1 ≠ dropped)).lookup name =
      if name = dropped then none else given.lookup name := by
  induction given with
  | nil => simp
  | cons e rest ih =>
    by_cases gone : e.1 = dropped
    · rw [List.filter_cons_of_neg (by simpa using gone), ih]
      split
      · rfl
      · next other => rw [List.lookup_cons, beq_false_of_ne (gone ▸ other)]
    · rw [List.filter_cons_of_pos (by simpa using gone), List.lookup_cons, List.lookup_cons, ih]
      by_cases same : name = e.1
      · subst same
        simp [gone]
      · rw [beq_false_of_ne same]

/-- **Only what is given under the names of the fields** matters, and only what it is decoded to. -/
theorem readObject_congr
    (same : ∀ {α : Type} (p : Place α αs),
      (given.lookup (fields.field p).name).map (fields.field p).codec.decode =
        (given'.lookup (fields.field p).name).map (fields.field p).codec.decode) :
    fields.readObject given = fields.readObject given' := by
  ext parts
  have each {α : Type} (p : Place α αs) :
      (fields.field p).readObject given = (fields.field p).readObject given' := by
    rw [Field.readObject_eq, Field.readObject_eq, same p]
  simp only [readObject_eq_some_iff, each]

/-- **Without a name** every other field is what it was, and the field of that name is what it is
when it is left out. -/
theorem readObject_filter (p : Place α αs) (distinct : fields.names.Nodup)
    (read : fields.readObject given = some parts) :
    fields.readObject (given.filter (·.1 ≠ (fields.field p).name)) =
      (fields.field p).presence.inObject.map fun x => p.set x parts := by
  induction fields with
  | nil => nomatch p
  | cons f rest ih =>
    obtain ⟨x, xs⟩ := parts
    obtain ⟨new, distinct⟩ := List.nodup_cons.mp distinct
    obtain ⟨first, others⟩ := readObject_cons_eq_some_iff.mp read
    -- Either this name is dropped, and all fields behind it are read as before, or one of theirs
    -- is, and this field is.
    cases p with
    | here =>
      have kept : rest.readObject (given.filter (·.1 ≠ f.name)) = some xs := by
        rw [← others]
        refine readObject_congr fun p => ?_
        rw [lookup_filter_ne, if_neg (ne_of_mem_of_not_mem (rest.name_field_mem p) new)]
      have dropped : f.readObject (given.filter (·.1 ≠ f.name)) = f.presence.inObject := by
        rw [Field.readObject, lookup_filter_ne, if_pos rfl]
      simp only [readObject, field, dropped, kept]
      cases f.presence.inObject <;> rfl
    | later p =>
      have kept : f.readObject (given.filter (·.1 ≠ (rest.field p).name)) = some x := by
        rw [← first, Field.readObject, Field.readObject, lookup_filter_ne,
          if_neg (ne_of_mem_of_not_mem (rest.name_field_mem p) new).symm]
      simp only [readObject, field, kept, ih p distinct others]
      cases (rest.field p).presence.inObject <;> rfl

/-! ### Arrays -/

/-- **The items list the fields** of an object in their order, each as it is given there; where the
object leaves a field out, with something that is read as what the field is then. Fields at the end
may be missing if they have a default and are at it. -/
structure Lists (fields : Fields αs) (given : List (String × Json)) (parts : Tuple αs)
    (items : List Json) : Prop where
  short : items.length ≤ αs.length
  item : ∀ {α : Type} {p : Place α αs} {j : Json}, items[p.index]? = some j →
    given.lookup (fields.field p).name = some j ∨
      given.lookup (fields.field p).name = none ∧
        (fields.field p).codec.decode j = (fields.field p).presence.inObject
  missing : ∀ {α : Type} {p : Place α αs}, items[p.index]? = none →
    (fields.field p).presence = .defaulted (p.get parts)

/-- **An array that lists the fields** of an object is read as the object is. -/
theorem readArray_of_lists (read : fields.readObject given = some parts)
    (lists : fields.Lists given parts items) : fields.readArray items = some parts := by
  refine readArray_eq_some_iff.mpr ⟨lists.short, fun p => ?_⟩
  have asObject := readObject_eq_some_iff.mp read p
  rcases at_place : items[p.index]? with _ | j
  · rw [Field.readItem, lists.missing at_place, Presence.inArray]
  · rw [Field.readItem, ← asObject, Field.readObject]
    rcases lists.item at_place with found | ⟨absent, same⟩
    · rw [found]
    · rw [absent, same]

/-- What is written for a part stands at its place in the array. -/
theorem getElem?_writeArray (p : Place α αs) :
    (fields.writeArray parts)[p.index]? = some ((fields.field p).codec.encode (p.get parts)) := by
  induction fields with
  | nil => nomatch p
  | cons f rest ih =>
    cases p with
    | here => rfl
    | later p => exact ih p

/-- What is written for a part stands under its name in the object. -/
theorem lookup_writeObject (p : Place α αs) (distinct : fields.names.Nodup) :
    (fields.writeObject parts).lookup (fields.field p).name =
      some ((fields.field p).codec.encode (p.get parts)) := by
  induction fields with
  | nil => nomatch p
  | cons f rest ih =>
    obtain ⟨x, xs⟩ := parts
    obtain ⟨new, distinct⟩ := List.nodup_cons.mp distinct
    cases p with
    | here => exact List.lookup_cons_self
    | later p =>
      have other : ((rest.field p).name == f.name) = false :=
        beq_false_of_ne (ne_of_mem_of_not_mem (rest.name_field_mem p) new)
      rw [writeObject, field, List.lookup_cons, other]
      exact ih p distinct

/-- **What is written as an array** lists the fields of what is written as an object. -/
theorem lists_writeArray (distinct : fields.names.Nodup) :
    fields.Lists (fields.writeObject parts) parts (fields.writeArray parts) where
  short := by
    induction fields with
    | nil => exact Nat.le_refl _
    | cons f rest ih => exact Nat.succ_le_succ (ih (List.nodup_cons.mp distinct).2)
  item {α p j} at_place := by
    rw [getElem?_writeArray] at at_place
    exact .inl ((lookup_writeObject p distinct).trans at_place)
  missing {α p} at_place := by
    rw [getElem?_writeArray] at at_place
    exact absurd at_place (Option.some_ne_none _)

/-- **Items left over** are refused. -/
theorem readArray_of_long (long : αs.length < items.length) : fields.readArray items = none := by
  rw [Option.eq_none_iff_forall_ne_some]
  intro parts read
  exact absurd (readArray_eq_some_iff.mp read).1 (Nat.not_le_of_lt long)

/-- **An array is refused** if the field at some place cannot be had from its item. -/
theorem readArray_eq_none (p : Place α αs)
    (refused : (fields.field p).readItem items[p.index]? = none) :
    fields.readArray items = none := by
  rw [Option.eq_none_iff_forall_ne_some]
  intro parts read
  exact Option.some_ne_none _ (((readArray_eq_some_iff.mp read).2 p).symm.trans refused)

/-- **An object is refused** if the field at some place cannot be had from it. -/
theorem readObject_eq_none (p : Place α αs)
    (refused : (fields.field p).readObject given = none) : fields.readObject given = none := by
  rw [Option.eq_none_iff_forall_ne_some]
  intro parts read
  exact Option.some_ne_none _ ((readObject_eq_some_iff.mp read p).symm.trans refused)

end Fields

end FleetDeploy
