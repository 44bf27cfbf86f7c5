/-!
# Finite maps in the order of their keys

Fleet state, settings and reports are keyed by names and version numbers, and every place that
walks over them does so in ascending key order. A `SortedMap` is therefore a list of entries whose
keys strictly ascend, with the order as a field of the type: two maps with the same bindings are
the same value, and the list of keys needs no sorting.

* `SortedMap.insert`, `SortedMap.erase`, `SortedMap.get?` – the operations;
* `SortedMap.get?_insert`, `SortedMap.get?_erase` – what they do to a lookup;
* `SortedSet` – the same for bare keys, used for the members of a server group.
-/

namespace FleetDeploy

/-! ### Inserting into an ascending list -/

section Entries

variable {κ ν : Type} [LT κ] [DecidableLT κ] [DecidableEq κ]

/-- The entry for `k` set to `v`, at its place in the order. -/
def insertEntry (k : κ) (v : ν) : List (κ × ν) → List (κ × ν)
  | [] => [(k, v)]
  | e :: rest =>
    if k < e.1 then (k, v) :: e :: rest
    else if k = e.1 then (k, v) :: rest
    else e :: insertEntry k v rest

/-- The key `k` at its place in the order, unless it is there already. -/
def insertKey (k : κ) : List κ → List κ
  | [] => [k]
  | x :: rest =>
    if k < x then k :: x :: rest
    else if k = x then x :: rest
    else x :: insertKey k rest

theorem mem_insertEntry {k : κ} {v : ν} {e : κ × ν} {l : List (κ × ν)} :
    e ∈ insertEntry k v l → e = (k, v) ∨ e ∈ l := by
  induction l with
  | nil => simp [insertEntry]
  | cons hd tl ih => rw [insertEntry]; split <;> grind

theorem mem_insertKey {k x : κ} {l : List κ} : x ∈ insertKey k l ↔ x = k ∨ x ∈ l := by
  induction l with
  | nil => simp [insertKey]
  | cons hd tl ih => rw [insertKey]; split <;> grind

variable [LE κ] [Std.IsLinearOrder κ] [Std.LawfulOrderLT κ]

theorem insertEntry_ascending (k : κ) (v : ν) {l : List (κ × ν)}
    (h : l.Pairwise (fun a b => a.1 < b.1)) :
    (insertEntry k v l).Pairwise (fun a b => a.1 < b.1) := by
  induction l with
  | nil => simp [insertEntry]
  | cons hd tl ih =>
    have hhd := (List.pairwise_cons.1 h).1
    have htl := ih h.of_cons
    rw [insertEntry]
    split
    · refine h.cons fun a ha => ?_
      rcases List.mem_cons.1 ha with rfl | ha
      · assumption
      · have := hhd _ ha; grind
    · split
      · refine h.of_cons.cons fun a ha => ?_
        have := hhd _ ha; grind
      · refine htl.cons fun a ha => ?_
        rcases mem_insertEntry ha with rfl | ha
        · grind
        · exact hhd _ ha

theorem insertKey_ascending (k : κ) {l : List κ} (h : l.Pairwise (· < ·)) :
    (insertKey k l).Pairwise (· < ·) := by
  induction l with
  | nil => simp [insertKey]
  | cons hd tl ih =>
    have hhd := (List.pairwise_cons.1 h).1
    have htl := ih h.of_cons
    rw [insertKey]
    split
    · refine h.cons fun a ha => ?_
      rcases List.mem_cons.1 ha with rfl | ha
      · assumption
      · have := hhd _ ha; grind
    · split
      · exact h
      · refine htl.cons fun a ha => ?_
        rcases mem_insertKey.1 ha with rfl | ha
        · grind
        · exact hhd _ ha

end Entries

/-! ### Maps -/

/-- A finite map as its entries in strictly ascending key order. -/
structure SortedMap (κ ν : Type) [LT κ] where
  entries : List (κ × ν)
  ascending : entries.Pairwise (fun a b => a.1 < b.1)
  deriving DecidableEq

namespace SortedMap

section Basic

variable {κ ν μ : Type} [LT κ]

/-- The map with no entries. -/
def empty : SortedMap κ ν := ⟨[], .nil⟩

instance : EmptyCollection (SortedMap κ ν) := ⟨empty⟩

instance : Inhabited (SortedMap κ ν) := ⟨empty⟩

/-- The keys, ascending. -/
def keys (m : SortedMap κ ν) : List κ := m.entries.map (·.1)

/-- How many entries there are. -/
def size (m : SortedMap κ ν) : Nat := m.entries.length

/-- Every value replaced by its image; the keys stay. -/
def mapValues (f : κ → ν → μ) (m : SortedMap κ ν) : SortedMap κ μ :=
  ⟨m.entries.map (fun e => (e.1, f e.1 e.2)), by
    simpa [List.pairwise_map] using m.ascending⟩

theorem ext {a b : SortedMap κ ν} (h : a.entries = b.entries) : a = b := by
  cases a; cases b; simp_all

variable [DecidableEq κ]

/-- The value bound to `k`. -/
def get? (m : SortedMap κ ν) (k : κ) : Option ν := m.entries.lookup k

/-- The value bound to `k`, or `default` where there is none. -/
def getD (m : SortedMap κ ν) (k : κ) (default : ν) : ν := (m.get? k).getD default

/-- Whether `k` is bound. -/
def contains (m : SortedMap κ ν) (k : κ) : Bool := (m.get? k).isSome

/-- The map without `k`. -/
def erase (m : SortedMap κ ν) (k : κ) : SortedMap κ ν :=
  ⟨m.entries.filter (fun e => !decide (e.1 = k)), m.ascending.filter _⟩

end Basic

section Order

variable {κ ν : Type} [LT κ] [DecidableLT κ] [DecidableEq κ] [LE κ] [Std.IsLinearOrder κ]
  [Std.LawfulOrderLT κ]

/-- The map with `k` bound to `v`, whatever it was bound to before. -/
def insert (m : SortedMap κ ν) (k : κ) (v : ν) : SortedMap κ ν :=
  ⟨insertEntry k v m.entries, insertEntry_ascending k v m.ascending⟩

/-- The map of a list of bindings, of which later ones win. -/
def ofList (l : List (κ × ν)) : SortedMap κ ν := l.foldl (fun m e => m.insert e.1 e.2) empty

/-- The value at `k` replaced by `f` of what is there. -/
def alter (m : SortedMap κ ν) (k : κ) (f : Option ν → ν) : SortedMap κ ν :=
  m.insert k (f (m.get? k))

omit [LE κ] [Std.IsLinearOrder κ] [Std.LawfulOrderLT κ] in
theorem lookup_insertEntry (k k' : κ) (v : ν) (l : List (κ × ν)) :
    (insertEntry k v l).lookup k' = if k' = k then some v else l.lookup k' := by
  induction l with
  | nil => simp only [insertEntry, List.lookup_cons, List.lookup_nil]; grind
  | cons e rest ih =>
    obtain ⟨x, w⟩ := e
    rw [insertEntry]
    split
    · simp only [List.lookup_cons]; grind
    · split
      · simp only [List.lookup_cons]; grind
      · simp only [List.lookup_cons, ih]; grind

/-- Looking up after an insertion: the new value at its key, what was there before elsewhere. -/
theorem get?_insert (m : SortedMap κ ν) (k k' : κ) (v : ν) :
    (m.insert k v).get? k' = if k' = k then some v else m.get? k' :=
  lookup_insertEntry k k' v m.entries

omit [DecidableLT κ] [LE κ] [Std.IsLinearOrder κ] [Std.LawfulOrderLT κ] in
/-- Looking up after an erasure: nothing at its key, what was there before elsewhere. -/
theorem get?_erase (m : SortedMap κ ν) (k k' : κ) :
    (m.erase k).get? k' = if k' = k then none else m.get? k' := by
  obtain ⟨l, h⟩ := m
  simp only [erase, get?]
  clear h
  induction l with
  | nil => simp
  | cons e rest ih =>
    obtain ⟨x, w⟩ := e
    simp only [List.filter_cons, List.lookup_cons]
    split <;> grind

end Order

end SortedMap

/-! ### Sets -/

/-- A finite set as its members in strictly ascending order. -/
structure SortedSet (κ : Type) [LT κ] where
  members : List κ
  ascending : members.Pairwise (· < ·)
  deriving DecidableEq

namespace SortedSet

variable {κ : Type} [LT κ]

/-- The set with no members. -/
def empty : SortedSet κ := ⟨[], .nil⟩

instance : EmptyCollection (SortedSet κ) := ⟨empty⟩

instance : Inhabited (SortedSet κ) := ⟨empty⟩

instance : Membership κ (SortedSet κ) := ⟨fun s x => x ∈ s.members⟩

/-- How many members there are. -/
def size (s : SortedSet κ) : Nat := s.members.length

/-- The members with a property. -/
def filter (p : κ → Bool) (s : SortedSet κ) : SortedSet κ :=
  ⟨s.members.filter p, s.ascending.filter p⟩

theorem ext {a b : SortedSet κ} (h : a.members = b.members) : a = b := by
  cases a; cases b; simp_all

variable [DecidableLT κ] [DecidableEq κ] [LE κ] [Std.IsLinearOrder κ] [Std.LawfulOrderLT κ]

/-- The set with `k` added. -/
def insert (s : SortedSet κ) (k : κ) : SortedSet κ :=
  ⟨insertKey k s.members, insertKey_ascending k s.ascending⟩

/-- The set of the items of a list. -/
def ofList (l : List κ) : SortedSet κ := l.foldl (fun s k => s.insert k) empty

end SortedSet

end FleetDeploy
