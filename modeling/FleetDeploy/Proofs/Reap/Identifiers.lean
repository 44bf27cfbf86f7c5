import FleetDeploy.Reap.Usage
import Mathlib.Data.List.Basic

/-!
# Composite identifiers

The engine tells what runs where by texts in two parts, the name of a unit and the instance it runs
on, with an `@` between them. An identifier that is passed over, or cut in the wrong place, makes a
version that is at work look idle, and what looks idle is deleted. So it is said here which texts
are read, to the letter, and what is read of them; all other texts are passed over, and they are
told by where the `@` stands in them.

* `FleetDeploy.Usage.splitOn_eq_pair` – the texts that are split in two;
* `FleetDeploy.Usage.Names` – the instance that a composite identifier is about; it is the one that
  `FleetDeploy.Usage.parseInstance?` reads (`parseInstance?_eq_some_iff`);
* `FleetDeploy.Usage.exists_names_iff` – an identifier is about some instance just if it has one
  `@`, which stands neither first nor last;
* `FleetDeploy.Usage.reads_identifiers` – what is read, what is read apart and what is passed over.
-/

namespace FleetDeploy.Usage

variable {composite : String}

/-! ### Reading -/

/-- A text in two parts is split in two, and each part is free of the separator. -/
theorem splitOn_eq_pair {c : Char} {l a b : List Char} :
    l.splitOn c = [a, b] ↔ l = a ++ c :: b ∧ c ∉ a ∧ c ∉ b := by
  have other {l : List Char} (absent : c ∉ l) : ∀ x ∈ l, (x == c) = false := by
    rintro x mem
    refine beq_eq_false_iff_ne.mpr ?_
    rintro rfl
    exact absent mem
  have alone {l : List Char} (absent : c ∉ l) : l.splitOn c = [l] := by
    rw [List.splitOn_eq_splitOnP]
    exact List.splitOnP_eq_singleton (other absent)
  have apart {a l : List Char} (absent : c ∉ a) : (a ++ c :: l).splitOn c = a :: l.splitOn c := by
    rw [List.splitOn_eq_splitOnP, List.splitOn_eq_splitOnP]
    exact List.splitOnP_append_cons_of_forall_mem (other absent) c (by simp) l
  constructor
  · intro split
    by_cases present : c ∈ l
    · obtain ⟨first, rest, rfl, absent⟩ := List.eq_append_cons_of_mem present
      rw [apart absent, List.cons.injEq] at split
      obtain ⟨rfl, tail⟩ := split
      by_cases again : c ∈ rest
      · obtain ⟨second, third, rfl, absent'⟩ := List.eq_append_cons_of_mem again
        rw [apart absent', List.cons.injEq] at tail
        exact absurd tail.2 (List.splitOn_ne_nil c third)
      · rw [alone again, List.cons.injEq] at tail
        exact ⟨by rw [tail.1], absent, tail.1 ▸ again⟩
    · rw [alone present] at split
      simp at split
  · rintro ⟨rfl, absent, absent'⟩
    rw [apart absent, alone absent']

/-- **The instance that a composite identifier is about**: the identifier is a unit and the
instance, neither of them empty, with the only `@` between them. -/
def Names (composite : String) (inst : InstanceId) : Prop :=
  ∃ unit : String, composite = unit ++ "@" ++ inst ∧ unit ≠ "" ∧ inst ≠ "" ∧
    '@' ∉ unit.toList ∧ '@' ∉ inst.toList

theorem parseInstance?_eq_some_iff {inst : InstanceId} :
    parseInstance? composite = some inst ↔ Names composite inst := by
  constructor
  · intro parsed
    rw [parseInstance?] at parsed
    split at parsed
    case h_2 => simp at parsed
    case h_1 unit rest split =>
      obtain ⟨whole, absent, absent'⟩ := splitOn_eq_pair.mp split
      by_cases blank : unit.isEmpty || rest.isEmpty
      · simp [blank] at parsed
      · rw [if_neg blank, Option.some.injEq] at parsed
        subst parsed
        simp only [Bool.or_eq_true, List.isEmpty_iff, not_or] at blank
        refine ⟨String.ofList unit, ?_, ?_, ?_, by simpa using absent, by simpa using absent'⟩
        · rw [← String.toList_inj]
          simp [whole]
        · simpa [← String.toList_inj] using blank.1
        · simpa [← String.toList_inj] using blank.2
  · rintro ⟨unit, rfl, someUnit, someInst, absent, absent'⟩
    have split : (unit ++ "@" ++ inst).toList.splitOn '@' = [unit.toList, inst.toList] :=
      splitOn_eq_pair.mpr ⟨by simp, absent, absent'⟩
    have filled : ¬(unit.toList.isEmpty || inst.toList.isEmpty) = true := by
      simp [someUnit, someInst]
    rw [parseInstance?, split]
    dsimp only
    rw [if_neg filled, String.ofList_toList]

/-! ### Passing over -/

/-- A text in two parts, neither of them empty and both free of the separator, is a text with one
separator that stands neither first nor last. -/
theorem exists_parts_iff {c : Char} {l : List Char} :
    (∃ a b, l = a ++ c :: b ∧ a ≠ [] ∧ b ≠ [] ∧ c ∉ a ∧ c ∉ b) ↔
      l.count c = 1 ∧ l.head? ≠ some c ∧ l.getLast? ≠ some c := by
  constructor
  · rintro ⟨a, b, rfl, some_a, some_b, absent, absent'⟩
    have count : (a ++ c :: b).count c = a.count c + (b.count c + 1) := by
      rw [List.count_append, List.count_cons_self]
    refine ⟨?_, ?_, ?_⟩
    · rw [count, List.count_eq_zero.mpr absent, List.count_eq_zero.mpr absent']
    · rw [List.head?_append_of_ne_nil a some_a]
      intro first
      exact absent (List.mem_of_head? first)
    · rw [List.append_cons, List.getLast?_append_of_ne_nil _ some_b]
      intro last
      exact absent' (List.mem_of_getLast? last)
  · rintro ⟨once, first, last⟩
    have present : c ∈ l := List.count_pos_iff.mp (by omega)
    obtain ⟨a, b, rfl, absent⟩ := List.eq_append_cons_of_mem present
    refine ⟨a, b, rfl, ?_, ?_, absent, ?_⟩
    · rintro rfl
      exact first rfl
    · rintro rfl
      exact last List.getLast?_concat
    · rw [List.count_append, List.count_cons_self] at once
      exact List.count_eq_zero.mp (by omega)

/-- **What is about an instance** has one `@`, and something on either side of it. -/
theorem exists_names_iff :
    (∃ inst, Names composite inst) ↔ composite.toList.count '@' = 1 ∧
      composite.toList.head? ≠ some '@' ∧ composite.toList.getLast? ≠ some '@' := by
  rw [← exists_parts_iff]
  constructor
  · rintro ⟨inst, unit, rfl, some_unit, some_inst, absent, absent'⟩
    refine ⟨unit.toList, inst.toList, by simp, ?_, ?_, absent, absent'⟩
    · simpa using some_unit
    · simpa using some_inst
  · rintro ⟨a, b, whole, some_a, some_b, absent, absent'⟩
    refine ⟨String.ofList b, String.ofList a, ?_, ?_, ?_, by simpa, by simpa⟩
    · rw [← String.toList_inj]
      simp [whole]
    · simpa [← String.toList_inj] using some_a
    · simpa [← String.toList_inj] using some_b

theorem parseInstance?_eq_none_iff :
    parseInstance? composite = none ↔ composite.toList.count '@' ≠ 1 ∨
      composite.toList.head? = some '@' ∨ composite.toList.getLast? = some '@' := by
  have unread : parseInstance? composite = none ↔ ¬∃ inst, Names composite inst := by
    simp only [← parseInstance?_eq_some_iff, ← Option.isSome_iff_exists,
      Option.not_isSome_iff_eq_none]
  rw [unread, exists_names_iff]
  tauto

/-! ### Reading to the letter -/

/-- What may stand on either side of the `@`. -/
def IsPart (text : String) : Prop := text ≠ "" ∧ '@' ∉ text.toList

/-- **Reading composite identifiers to the letter.** -/
structure ReadsIdentifiers (read : String → Option InstanceId) : Prop where
  /-- A text is read just if it is two parts with an `@` between, and then as the second one. -/
  read_iff : ∀ composite inst, read composite = some inst ↔
    ∃ unit, IsPart unit ∧ IsPart inst ∧ composite = unit ++ "@" ++ inst
  /-- The instance is read back, whatever the unit is called. -/
  reads_back : ∀ {unit inst}, IsPart unit → IsPart inst → read (unit ++ "@" ++ inst) = some inst
  /-- Identifiers are read alike just if they are about the same instance. -/
  alike_iff : ∀ {unit unit' inst inst'}, IsPart unit → IsPart inst → IsPart unit' → IsPart inst' →
    (read (unit ++ "@" ++ inst) = read (unit' ++ "@" ++ inst') ↔ inst = inst')
  /-- Passed over is what has no `@`, or several, or nothing on one side of it. -/
  skip_iff : ∀ composite, read composite = none ↔ composite.toList.count '@' ≠ 1 ∨
    composite.toList.head? = some '@' ∨ composite.toList.getLast? = some '@'

/-- **Composite identifiers are read to the letter**, so that no live instance is taken for an idle
one, nor for another one. -/
theorem reads_identifiers : ReadsIdentifiers parseInstance? := by
  have read_iff (composite : String) (inst : InstanceId) : parseInstance? composite = some inst ↔
      ∃ unit, IsPart unit ∧ IsPart inst ∧ composite = unit ++ "@" ++ inst := by
    rw [parseInstance?_eq_some_iff, Names]
    refine exists_congr fun unit => ?_
    rw [IsPart, IsPart]
    tauto
  have reads_back {unit : String} {inst : InstanceId} (part : IsPart unit) (part' : IsPart inst) :
      parseInstance? (unit ++ "@" ++ inst) = some inst :=
    (read_iff _ _).mpr ⟨unit, part, part', rfl⟩
  refine ⟨read_iff, reads_back, ?_, fun _ => parseInstance?_eq_none_iff⟩
  intro unit unit' inst inst' part part_inst part' part_inst'
  rw [reads_back part part_inst, reads_back part' part_inst', Option.some.injEq]

/-- The separator is one character, however many bytes those around it take. -/
example : parseInstance? "é@–ß" = some "–ß" ∧ parseInstance? "a@@b" = none ∧
    parseInstance? "a@b@" = none ∧ parseInstance? "@" = none ∧ parseInstance? "" = none := by
  decide

end FleetDeploy.Usage
