import FleetDeploy.Proofs.SortedMap
import FleetDeploy.Reap.Selection
import Mathlib.Data.List.Count
import Mathlib.Data.List.Lattice

/-!
# Which versions may go

`FleetDeploy.ReapSelection.of` cuts the list of versions at the place where the newest ones begin.
Here that is said of one version at a time: it is old if enough others are newer
(`mem_take_iff_countP`), and it may go if it is old and idle (`ReapSelection.mem_reapable_iff`). It
is also said of the whole list: its newer part is kept, and the older part is divided by usage
(`ReapSelection.of_append`).

* `FleetDeploy.ReapSelection.Partitions` – versions divided among three lists, by age and usage;
* `FleetDeploy.ReapSelection.partitions_versions` – a selection divides the versions so, and the
  more versions are kept, the earlier the list of those that may go breaks off.
-/

namespace FleetDeploy

/-- **Being old is having enough newer ones.** What stands before the last `keep` places of an
ascending list is what at least `keep` of its members are greater than. -/
theorem mem_take_iff_countP {l : List Version} (ascending : l.Pairwise (· < ·)) {keep : Nat}
    {v : Version} :
    v ∈ l.take (l.length - keep) ↔ v ∈ l ∧ keep ≤ l.countP fun u => decide (v < u) := by
  induction l with
  | nil => simp
  | cons x rest ih =>
    have above := (List.pairwise_cons.mp ascending).1
    by_cases fits : keep ≤ rest.length
    · -- The least version is old, as all others are newer.
      have all : rest.countP (fun u => decide (x < u)) = rest.length :=
        List.countP_eq_length.mpr fun u mem => decide_eq_true (above u mem)
      have cut : (x :: rest).length - keep = rest.length - keep + 1 := by
        rw [List.length_cons]
        omega
      rw [cut, List.take_succ_cons, List.mem_cons, List.mem_cons, ih ascending.of_cons,
        List.countP_cons]
      by_cases first : v = x
      · subst first
        simp [all, fits]
      · by_cases mem : v ∈ rest
        · have below : ¬v < x := by
            have := above v mem
            grind
          simp [first, below]
        · simp [first, mem]
    · have cut : (x :: rest).length - keep = 0 := by
        rw [List.length_cons]
        omega
      rw [cut]
      refine iff_of_false (by simp) ?_
      rintro ⟨mem, newer⟩
      have itself : (x :: rest).countP (fun u => decide (v < u)) < (x :: rest).length := by
        rw [List.countP_lt_length_iff]
        exact ⟨v, mem, by simp⟩
      rw [List.length_cons] at itself
      omega

namespace ReapSelection

variable (usage : VersionUsage) (keep : Nat)

/-- Where there are no more versions than are kept the cut is in front of all of them, so that one
formula covers both cases. -/
theorem reapable_eq :
    (ReapSelection.of usage keep).reapable =
      (usage.keys.take (usage.keys.length - keep)).filter fun v => decide (usage.getD v 0 = 0) := by
  rw [ReapSelection.of]
  by_cases few : usage.keys.length ≤ keep
  · simp [few, Nat.sub_eq_zero_of_le few]
  · simp only [few, if_false]
    refine List.filter_congr fun v _ => ?_
    by_cases idle : usage.getD v 0 = 0 <;> simp [idle, Nat.pos_iff_ne_zero]

variable {usage keep}

/-- **A version may go if it is old and idle.** -/
theorem mem_reapable_iff {v : Version} :
    v ∈ (ReapSelection.of usage keep).reapable ↔
      v ∈ usage.keys ∧ keep ≤ (usage.keys.countP fun u => decide (v < u)) ∧
        ¬0 < usage.getD v 0 := by
  rw [reapable_eq, List.mem_filter, mem_take_iff_countP usage.keys_ascending, decide_eq_true_iff,
    and_assoc, Nat.not_lt, Nat.le_zero]

theorem reapable_ascending : (ReapSelection.of usage keep).reapable.Pairwise (· < ·) := by
  rw [reapable_eq]
  exact (usage.keys_ascending.sublist (List.take_sublist _ _)).filter _

/-! ### The old and the new -/

variable (usage keep) in
/-- The versions are in two parts, the newer of which is what is kept. -/
theorem exists_parts :
    ∃ old new, usage.keys = old ++ new ∧ new.length = min keep usage.keys.length := by
  refine ⟨_, _, (List.take_append_drop (usage.keys.length - keep) _).symm, ?_⟩
  rw [List.length_drop]
  omega

/-- **The verdict on versions in two parts**, the newer of which is what is kept. -/
theorem of_append {old new : List Version} (keys : usage.keys = old ++ new)
    (count : new.length = min keep usage.keys.length) :
    ReapSelection.of usage keep =
      { kept := new
        inUse := old.filter fun v => decide (0 < usage.getD v 0)
        reapable := old.filter fun v => !decide (0 < usage.getD v 0) } := by
  rw [keys, List.length_append] at count
  rw [ReapSelection.of]
  simp only [keys, List.length_append]
  by_cases few : old.length + new.length ≤ keep
  · have nothing : old = [] := List.length_eq_zero_iff.mp (by omega)
    rw [if_pos few, nothing]
    rfl
  · have cut : old.length + new.length - keep = old.length := by omega
    rw [if_neg few, cut, List.take_left, List.drop_left]

section Parts

variable {old new : List Version} (keys : usage.keys = old ++ new)

include keys

/-- What is kept is newer than everything else. -/
theorem lt_of_parts {u v : Version} (older : u ∈ old) (newer : v ∈ new) : u < v := by
  have ascending := usage.keys_ascending
  rw [keys] at ascending
  exact (List.pairwise_append.mp ascending).2.2 u older v newer

/-- The old versions are those that are not kept. -/
theorem mem_old_iff {v : Version} : v ∈ old ↔ v ∉ new ∧ ∃ n, usage.get? v = some n := by
  rw [← SortedMap.mem_keys, keys, List.mem_append]
  constructor
  · intro older
    have not_newer : v ∉ new := fun newer => Std.lt_irrefl (lt_of_parts keys older newer)
    exact ⟨not_newer, Or.inl older⟩
  · rintro ⟨not_newer, older | newer⟩
    · exact older
    · exact absurd newer not_newer

end Parts

/-! ### The three lists -/

/-- **Versions divided among three lists**: the newest are kept, the others are in use or may go, as
something runs on them or not. -/
structure Partitions (usage : VersionUsage) (keep : Nat) (s : ReapSelection) : Prop where
  /-- Each version is in one of the lists, and is there once. -/
  once : (s.kept ++ s.inUse ++ s.reapable).Perm usage.keys
  kept_ascending : s.kept.Pairwise (· < ·)
  inUse_ascending : s.inUse.Pairwise (· < ·)
  reapable_ascending : s.reapable.Pairwise (· < ·)
  kept_inUse : s.kept.Disjoint s.inUse
  kept_reapable : s.kept.Disjoint s.reapable
  inUse_reapable : s.inUse.Disjoint s.reapable
  kept_length : s.kept.length = min keep usage.size
  kept_newest : ∀ v ∈ s.kept, ∀ u ∈ usage.keys, u ∉ s.kept → u < v
  mem_inUse : ∀ v, v ∈ s.inUse ↔ v ∉ s.kept ∧ ∃ n, usage.get? v = some n ∧ 0 < n
  mem_reapable : ∀ v, v ∈ s.reapable ↔ v ∉ s.kept ∧ usage.get? v = some 0

/-- The versions are divided by age first, and what is old by usage. -/
theorem partitions_of : (ReapSelection.of usage keep).Partitions usage keep := by
  obtain ⟨old, new, keys, count⟩ := exists_parts usage keep
  have ascending := usage.keys_ascending
  rw [keys, List.pairwise_append] at ascending
  obtain ⟨old_ascending, new_ascending, older⟩ := ascending
  have apart : new.Disjoint old := fun v newer_v older_v =>
    Std.lt_irrefl (older v older_v v newer_v)
  rw [of_append keys count]
  constructor
  case once =>
    rw [keys, List.append_assoc]
    have divided := List.filter_append_perm (fun v => decide (0 < usage.getD v 0)) old
    exact (divided.append_left new).trans List.perm_append_comm
  case kept_ascending => exact new_ascending
  case inUse_ascending => exact old_ascending.filter _
  case reapable_ascending => exact old_ascending.filter _
  case kept_inUse => exact fun v kept busy => apart kept (List.mem_filter.mp busy).1
  case kept_reapable => exact fun v kept idle => apart kept (List.mem_filter.mp idle).1
  case inUse_reapable =>
    intro v busy idle
    have used := (List.mem_filter.mp busy).2
    have unused := (List.mem_filter.mp idle).2
    simp [used] at unused
  case kept_length => rw [← usage.length_keys]; exact count
  case kept_newest =>
    intro v kept u there not_kept
    have older_u : u ∈ old := (mem_old_iff keys).mpr ⟨not_kept, SortedMap.mem_keys.mp there⟩
    exact lt_of_parts keys older_u kept
  case mem_inUse =>
    intro v
    rw [List.mem_filter, mem_old_iff keys, decide_eq_true_iff, and_assoc, SortedMap.getD]
    refine and_congr_right fun _ => ?_
    cases usage.get? v <;> simp
  case mem_reapable =>
    intro v
    rw [List.mem_filter, mem_old_iff keys, and_assoc, SortedMap.getD]
    refine and_congr_right fun _ => ?_
    cases usage.get? v <;> simp

/-- Where more versions are kept, fewer are old. -/
theorem reapable_prefix {keep' : Nat} (more : keep ≤ keep') :
    (ReapSelection.of usage keep').reapable <+: (ReapSelection.of usage keep).reapable := by
  rw [reapable_eq, reapable_eq]
  have shorter : usage.keys.length - keep' ≤ usage.keys.length - keep := by omega
  exact (List.take_prefix_take_left shorter).filter _

/-- **A selection divides the versions** among its three lists, whatever is in use and however many
are kept. Where more versions are kept, what may go is the beginning of what might go otherwise. -/
theorem partitions_versions (usage : VersionUsage) (keep : Nat) :
    (ReapSelection.of usage keep).Partitions usage keep ∧
      ∀ keep', keep ≤ keep' →
        (ReapSelection.of usage keep').reapable <+: (ReapSelection.of usage keep).reapable :=
  ⟨partitions_of, fun _ more => reapable_prefix more⟩

/-- Of five versions, of which the second is in use and two are kept, two may go; if four are kept,
it is the first of these. -/
theorem partitions_versions_fiveVersions :
    let usage : VersionUsage := .ofList [(1, 0), (2, 3), (3, 0), (4, 1), (5, 0)]
    ReapSelection.of usage 2 = ⟨[4, 5], [2], [1, 3]⟩ ∧
      (ReapSelection.of usage 4).reapable = [1] ∧
      (ReapSelection.of usage 2).Partitions usage 2 ∧
      (ReapSelection.of usage 4).reapable <+: (ReapSelection.of usage 2).reapable := by
  intro usage
  obtain ⟨partitions, shorter⟩ := partitions_versions usage 2
  exact ⟨by decide, by decide, partitions, shorter 4 (by decide)⟩

end ReapSelection

end FleetDeploy
