import FleetDeploy.SortedMap

/-!
# Lookups in finite maps

A `FleetDeploy.SortedMap` is its list of entries, in strictly ascending order of their keys. So a
key occurs once, and what is looked up is what is in the list (`SortedMap.mem_entries`); the keys of
a map are the keys for which a lookup finds something, in ascending order, and a map is told by its
lookups (`SortedMap.ext_get?`). A key that is erased leaves the others as they are, and one that is
greater than all others comes last (`SortedMap.keys_erase`, `SortedMap.keys_insert_of_forall_lt`).
-/

namespace FleetDeploy.SortedMap

variable {κ ν μ : Type} [LT κ]

/-- Each key occurs once, after all lesser ones. -/
theorem keys_ascending (m : SortedMap κ ν) : m.keys.Pairwise (· < ·) :=
  List.pairwise_map.mpr m.ascending

theorem length_keys (m : SortedMap κ ν) : m.keys.length = m.size := List.length_map _

@[simp] theorem keys_mapValues (f : κ → ν → μ) (m : SortedMap κ ν) :
    (m.mapValues f).keys = m.keys := by
  simp [keys, mapValues, Function.comp_def]

variable [DecidableEq κ]

@[simp] theorem get?_empty (k : κ) : (∅ : SortedMap κ ν).get? k = none := rfl

@[simp] theorem get?_mapValues (f : κ → ν → μ) (m : SortedMap κ ν) (k : κ) :
    (m.mapValues f).get? k = (m.get? k).map (f k) := by
  obtain ⟨entries, ascending⟩ := m
  simp only [get?, mapValues]
  clear ascending
  induction entries with
  | nil => rfl
  | cons e rest ih =>
    obtain ⟨x, v⟩ := e
    simp only [List.map_cons, List.lookup_cons, ih]
    by_cases hx : k = x
    · subst hx
      simp
    · simp [beq_eq_false_iff_ne.mpr hx]

theorem mem_keys_of_get? {m : SortedMap κ ν} {k : κ} {v : ν} (found : m.get? k = some v) :
    k ∈ m.keys := by
  obtain ⟨before, after, split, -⟩ := List.lookup_eq_some_iff.mp found
  rw [keys, split]
  simp

/-- **What is looked up is what is there.** -/
theorem mem_entries [LE κ] [Std.IsLinearOrder κ] [Std.LawfulOrderLT κ] {m : SortedMap κ ν} {k : κ}
    {v : ν} : (k, v) ∈ m.entries ↔ m.get? k = some v := by
  obtain ⟨entries, ascending⟩ := m
  simp only [get?]
  induction entries with
  | nil => simp
  | cons e rest ih =>
    obtain ⟨x, w⟩ := e
    have later := (List.pairwise_cons.mp ascending).1
    rw [List.mem_cons, List.lookup_cons, ih ascending.of_cons]
    by_cases hx : k = x
    · subst hx
      -- No later entry has the key of the first one.
      have absent : rest.lookup k ≠ some v := fun found => by
        have := later _ ((ih ascending.of_cons).mpr found)
        grind
      simp [absent, eq_comm]
    · simp [beq_eq_false_iff_ne.mpr hx, hx]

theorem mem_keys [LE κ] [Std.IsLinearOrder κ] [Std.LawfulOrderLT κ] {m : SortedMap κ ν} {k : κ} :
    k ∈ m.keys ↔ ∃ v, m.get? k = some v := by
  refine ⟨fun mem => ?_, fun ⟨v, found⟩ => mem_keys_of_get? found⟩
  obtain ⟨e, there, rfl⟩ := List.mem_map.mp mem
  exact ⟨e.2, mem_entries.mp there⟩

/-- **A map is told by its lookups.** -/
theorem ext_get? [LE κ] [Std.IsLinearOrder κ] [Std.LawfulOrderLT κ] {m m' : SortedMap κ ν}
    (same : ∀ k, m.get? k = m'.get? k) : m = m' := by
  have once (l : SortedMap κ ν) : l.entries.Nodup :=
    l.ascending.imp fun before same => by grind
  have entries : m.entries.Perm m'.entries := by
    refine (List.perm_ext_iff_of_nodup (once m) (once m')).mpr fun (k, v) => ?_
    rw [mem_entries, mem_entries, same]
  exact ext (entries.eq_of_pairwise (fun a b _ _ before after => by grind) m.ascending m'.ascending)

/-! ### The keys after a change -/

theorem keys_erase (m : SortedMap κ ν) (k : κ) :
    (m.erase k).keys = m.keys.filter fun k' => !decide (k' = k) := by
  rw [keys, keys, erase, List.filter_map]
  rfl

section Order

variable [DecidableLT κ] [LE κ] [Std.IsLinearOrder κ] [Std.LawfulOrderLT κ]

/-- An entry whose key is greater than all others is put at the end. -/
theorem insertEntry_of_forall_lt {k : κ} {v : ν} {l : List (κ × ν)} (above : ∀ e ∈ l, e.1 < k) :
    insertEntry k v l = l ++ [(k, v)] := by
  induction l with
  | nil => rfl
  | cons e rest ih =>
    obtain ⟨first, others⟩ := List.forall_mem_cons.mp above
    have after : ¬k < e.1 := by grind
    have other : ¬k = e.1 := by grind
    rw [insertEntry, if_neg after, if_neg other, ih others, List.cons_append]

theorem getD_insert (m : SortedMap κ ν) (k k' : κ) (v default : ν) :
    (m.insert k v).getD k' default = if k' = k then v else m.getD k' default := by
  rw [getD, get?_insert]
  split <;> rfl

theorem keys_insert_of_forall_lt {m : SortedMap κ ν} {k : κ} {v : ν}
    (above : ∀ k' ∈ m.keys, k' < k) : (m.insert k v).keys = m.keys ++ [k] := by
  have entries : insertEntry k v m.entries = m.entries ++ [(k, v)] :=
    insertEntry_of_forall_lt fun e mem => above e.1 (List.mem_map_of_mem mem)
  show (insertEntry k v m.entries).map (·.1) = m.keys ++ [k]
  rw [entries, List.map_append]
  rfl

end Order

end FleetDeploy.SortedMap
