import FleetDeploy.Problem
import Mathlib.Order.MinMax

/-!
# The order of severities

A batch is judged by the worst of its grades, so what there is to know of a judgement is that the
worst of some grades is their least upper bound. All of it follows from that: the worst grade lies
above a threshold if and only if some grade does, it is one of the grades if there are any, and it
does not depend on their order.

* `FleetDeploy.Severity.worst_le_iff` – the worst grade is the least upper bound;
* `FleetDeploy.Severity.lt_worst_iff`, `FleetDeploy.Severity.worst_mem`,
  `FleetDeploy.Severity.worst_eq_of_perm` – what follows;
* `FleetDeploy.ProblemSet.exceeds_iff` – a set of problems lies above a threshold if and only if one
  of the problems does.
-/

namespace FleetDeploy

namespace Severity

theorem rank_injective {a b : Severity} (same : a.rank = b.rank) : a = b := by
  cases a <;> cases b <;> first | rfl | cases same

/-- The grades are ordered as their places are. -/
instance : LinearOrder Severity where
  le_refl a := Nat.le_refl a.rank
  le_trans _ _ _ := Nat.le_trans
  lt_iff_le_not_ge _ _ := Nat.lt_iff_le_and_not_ge
  le_antisymm _ _ below above := rank_injective (Nat.le_antisymm below above)
  le_total a b := Nat.le_total a.rank b.rank
  max_def _ _ := rfl
  toDecidableLE := inferInstance
  toDecidableEq := inferInstance
  toDecidableLT := inferInstance
  compare_eq_compareOfLessAndEq a b := by cases a <;> cases b <;> rfl

theorem none_le (s : Severity) : Severity.none ≤ s := Nat.zero_le s.rank

variable {l l' : List Severity} {s t : Severity}

theorem foldl_max_le_iff : l.foldl max s ≤ t ↔ s ≤ t ∧ ∀ r ∈ l, r ≤ t := by
  induction l generalizing s with
  | nil => simp
  | cons r rest ih => rw [List.foldl_cons, ih, max_le_iff, List.forall_mem_cons, and_assoc]

/-- **The worst grade is the least upper bound** of the grades. -/
theorem worst_le_iff : worst l ≤ t ↔ ∀ s ∈ l, s ≤ t := by
  rw [worst, foldl_max_le_iff, and_iff_right (none_le t)]

theorem le_worst (mem : s ∈ l) : s ≤ worst l := worst_le_iff.mp le_rfl s mem

/-- The worst grade lies above a threshold if and only if some grade does. -/
theorem lt_worst_iff : t < worst l ↔ ∃ s ∈ l, t < s := by
  rw [← not_le, worst_le_iff]
  push Not
  rfl

theorem foldl_max_mem : l.foldl max s ∈ s :: l := by
  induction l generalizing s with
  | nil => exact List.mem_singleton_self s
  | cons r rest ih =>
    rw [List.foldl_cons]
    rcases max_choice s r with left | right
    · rw [left]
      exact List.cons_subset_cons s (List.subset_cons_self r rest) ih
    · rw [right]
      exact List.mem_cons_of_mem s ih

/-- The worst of some grades is one of them. -/
theorem worst_mem (some_grade : l ≠ []) : worst l ∈ l := by
  rcases List.mem_cons.mp (foldl_max_mem (l := l) (s := .none)) with mild | mem
  · -- If the worst of them is `none`, then so is each of them.
    obtain ⟨s, mem⟩ := List.exists_mem_of_ne_nil l some_grade
    have least : s = .none := le_antisymm ((le_worst mem).trans_eq mild) (none_le s)
    rw [worst, mild, ← least]
    exact mem
  · exact mem

/-- The worst grade does not depend on the order of the grades. -/
theorem worst_eq_of_perm (same : l.Perm l') : worst l = worst l' := by
  refine eq_of_forall_ge_iff fun t => ?_
  rw [worst_le_iff, worst_le_iff]
  exact forall_congr' fun s => by rw [same.mem_iff]

end Severity

namespace ProblemSet

variable {s : ProblemSet} {threshold : Severity}

/-- **A set of problems lies above a threshold** if and only if one of the problems does. -/
theorem exceeds_iff : s.exceeds threshold = true ↔ ∃ p ∈ s.problems, threshold < p.severity := by
  rw [exceeds, decide_eq_true_iff, maxSeverity, Severity.lt_worst_iff]
  simp

end ProblemSet

end FleetDeploy
