import FleetDeploy.Proofs.Severity
import Mathlib.Order.Bounds.Defs

/-!
# Merging sets of problems

The problems of several batches are collected by merging, and nothing may depend on how the merging
was done: which sets were put together first, or whether some of them were empty. Merging appends,
so that sets form a monoid with the empty set as its unit, and each thing that is asked of a set is
told of a merged one by the same thing of its parts. The grade of the whole is the greater of the
two grades, and the text of the whole is made of the two texts.

An empty set and a set whose worst grade is `none` have the same grade, and no threshold tells them
apart. What tells them apart is the text: the separator stands between problems, whatever their
grade is, and an empty set has no part in it.

* `FleetDeploy.Severity.worst_append` – the worst of two lists of grades;
* `FleetDeploy.ProblemSet.display_merge` – the text of a merged set;
* `FleetDeploy.ProblemSet.merges_as_monoid` – all of it together.
-/

namespace FleetDeploy

/-- The worst grade of two lists is the worse of the two. -/
theorem Severity.worst_append (l l' : List Severity) :
    worst (l ++ l') = max (worst l) (worst l') := by
  refine eq_of_forall_ge_iff fun t => ?_
  rw [max_le_iff, worst_le_iff, worst_le_iff, worst_le_iff, List.forall_mem_append]

namespace ProblemSet

variable {s s' : ProblemSet} {t u : Severity}

/-! ### A monoid -/

theorem merge_assoc (a b c : ProblemSet) : (a.merge b).merge c = a.merge (b.merge c) :=
  congrArg ProblemSet.mk (List.append_assoc a.problems b.problems c.problems)

@[simp] theorem empty_merge (a : ProblemSet) : empty.merge a = a := rfl

@[simp] theorem merge_empty (a : ProblemSet) : a.merge empty = a :=
  congrArg ProblemSet.mk (List.append_nil a.problems)

theorem isEmpty_iff : s.isEmpty = true ↔ s = empty := by
  rw [isEmpty, List.isEmpty_iff]
  constructor
  · intro nothing
    exact congrArg ProblemSet.mk nothing
  · rintro rfl
    rfl

/-! ### Grades -/

theorem maxSeverity_merge (a b : ProblemSet) :
    (a.merge b).maxSeverity = max a.maxSeverity b.maxSeverity := by
  rw [maxSeverity, merge, List.map_append, Severity.worst_append]
  rfl

theorem exceeds_merge (a b : ProblemSet) (t : Severity) :
    (a.merge b).exceeds t = (a.exceeds t || b.exceeds t) := by
  rw [exceeds, maxSeverity_merge, Bool.eq_iff_iff, Bool.or_eq_true, decide_eq_true_iff, lt_max_iff,
    exceeds, exceeds, decide_eq_true_iff, decide_eq_true_iff]

/-- What lies above a threshold lies above a lower one. -/
theorem exceeds_of_le (le : t ≤ u) (above : s.exceeds u = true) : s.exceeds t = true := by
  rw [exceeds, decide_eq_true_iff] at above ⊢
  exact lt_of_le_of_lt le above

/-- The grade of a set is the greatest among its problems, if it has any. -/
theorem isGreatest_maxSeverity (nonempty : s ≠ empty) :
    IsGreatest {r | ∃ p ∈ s.problems, p.severity = r} s.maxSeverity := by
  have some_grade : s.problems.map (·.severity) ≠ [] := by
    intro nothing
    exact nonempty (congrArg ProblemSet.mk (List.map_eq_nil_iff.mp nothing))
  refine ⟨List.mem_map.mp (Severity.worst_mem some_grade), ?_⟩
  rintro _ ⟨p, mem, rfl⟩
  exact Severity.le_worst (List.mem_map_of_mem mem)

theorem maxSeverity_eq_of_perm (same : s.problems.Perm s'.problems) :
    s.maxSeverity = s'.maxSeverity :=
  Severity.worst_eq_of_perm (same.map (·.severity))

/-! ### Texts -/

/-- **The text of a merged set** is made of the texts of its parts, with the separator between them
if there is something on both of its sides. -/
theorem display_merge (a b : ProblemSet) :
    (a.merge b).display =
      if a.isEmpty then b.display
      else if b.isEmpty then a.display
      else a.display ++ "; " ++ b.display := by
  split
  · next left =>
    rw [isEmpty_iff.mp left, empty_merge]
  · next left =>
    split
    · next right =>
      rw [isEmpty_iff.mp right, merge_empty]
    · next right =>
      have shown {s : ProblemSet} (nonempty : ¬s.isEmpty = true) :
          s.problems.map (·.display) ≠ [] := by
        rwa [isEmpty, List.isEmpty_iff, ← List.map_eq_nil_iff (f := (·.display))] at nonempty
      rw [display, merge, List.map_append,
        String.intercalate_append_of_ne_nil (shown left) (shown right)]
      rfl

/-! ### All of it together -/

/-- **What a merged set has of its parts**: their problems, one after the other and none of them
lost, repeated or moved; the greater of their grades, so that it lies above a threshold if one of
them does; and their texts. -/
structure MergedOf (m a b : ProblemSet) : Prop where
  problems : m.problems = a.problems ++ b.problems
  maxSeverity : m.maxSeverity = max a.maxSeverity b.maxSeverity
  exceeds : ∀ t, m.exceeds t = true ↔ a.exceeds t = true ∨ b.exceeds t = true
  display : m.display =
    if a.isEmpty then b.display
    else if b.isEmpty then a.display
    else a.display ++ "; " ++ b.display

/-- **The grade of a set** is an upper bound of the grades of its problems and one of them, unless
there are none, and it does not depend on their order. What lies above a threshold lies above all
lower ones. -/
structure Graded (s : ProblemSet) : Prop where
  bound : ∀ p ∈ s.problems, p.severity ≤ s.maxSeverity
  attained : s.isEmpty = false → ∃ p ∈ s.problems, p.severity = s.maxSeverity
  mildest : s.isEmpty = true → s.maxSeverity = .none
  perm : ∀ s' : ProblemSet, s.problems.Perm s'.problems → s'.maxSeverity = s.maxSeverity
  exceeds_iff : ∀ t, s.exceeds t = true ↔ ∃ p ∈ s.problems, t < p.severity
  antitone : ∀ t u, t ≤ u → s.exceeds u = true → s.exceeds t = true

theorem mergedOf_merge (a b : ProblemSet) : (a.merge b).MergedOf a b where
  problems := rfl
  maxSeverity := maxSeverity_merge a b
  exceeds t := by rw [exceeds_merge, Bool.or_eq_true]
  display := display_merge a b

theorem graded (s : ProblemSet) : s.Graded where
  bound p mem := Severity.le_worst (List.mem_map_of_mem mem)
  attained some_problem := by
    refine (isGreatest_maxSeverity ?_).1
    rintro rfl
    cases some_problem
  mildest nothing := by
    rw [isEmpty_iff.mp nothing]
    rfl
  perm s' same := maxSeverity_eq_of_perm same.symm
  exceeds_iff t := ProblemSet.exceeds_iff
  antitone t u le := exceeds_of_le le

/-- **Sets of problems form a monoid under merging**, and what is asked of a merged set is told by
its parts. -/
theorem merges_as_monoid :
    (∀ a b c : ProblemSet, (a.merge b).merge c = a.merge (b.merge c)) ∧
    (∀ a : ProblemSet, empty.merge a = a ∧ a.merge empty = a) ∧
    (∀ a b : ProblemSet, (a.merge b).MergedOf a b) ∧
    ∀ s : ProblemSet, s.Graded :=
  ⟨merge_assoc, fun a => ⟨empty_merge a, merge_empty a⟩, mergedOf_merge, graded⟩

/-- A problem of the mildest grade is told nevertheless, and an empty set is not. -/
example :
    ((empty.merge ⟨[⟨.none, "late", none, none⟩]⟩).merge ⟨[.warning "slow"]⟩).display =
      "[NONE] late; [WARNING] slow" := by
  decide +kernel

end ProblemSet

end FleetDeploy
