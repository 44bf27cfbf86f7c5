import FleetDeploy.Text.Decimal
import Mathlib.Data.List.Basic
import Mathlib.Data.List.Induction

/-!
# What the decimal form of a number is

Numbers are read from runs of digits and written as such, and this file says which runs are read,
and as which numbers. Noughts at the front of a run make no difference to its worth, so that a
number has many forms that are read back, and among them the shortest one and those that are filled
up to a width.

* `FleetDeploy.Text.Decimal` – the runs of digits and what they are worth;
* `FleetDeploy.Text.readNat?_eq_some_iff`, `FleetDeploy.Text.readUnsigned?_eq_some_iff` – these runs
  are read and no others, the latter with a sign and up to a bound;
* `FleetDeploy.Text.decimal_writeNat`, `FleetDeploy.Text.decimal_writePadded` – what is written is
  one of them;
* `FleetDeploy.Text.Decimal.eq_writeNat` – the shortest form is the one without noughts at its
  front.
-/

namespace FleetDeploy.Text

/-- **A run of one or more digits** that is worth `n`. -/
structure Decimal (cs : List Char) (n : Nat) : Prop where
  nonempty : cs ≠ []
  digits : ∀ c ∈ cs, c.isDigit
  worth : Nat.ofDigitChars 10 cs 0 = n

variable {c : Char} {cs : List Char} {acc n bound : Nat}

/-! ### Reading -/

theorem digit?_eq_some_iff {d : Nat} :
    digit? c = some d ↔ c.isDigit ∧ c.toNat - '0'.toNat = d := by
  have bounds : ('0' ≤ c ∧ c ≤ '9') ↔ c.isDigit := by
    simp [Char.isDigit, Char.le_def, UInt32.le_iff_toNat_le]
  rw [digit?]
  split
  · next within => simp [bounds.mp within]
  · next outside => simp [mt bounds.mpr outside]

/-- **Digits are added up** as they are read, and nothing but digits is read. -/
theorem readDigits?_eq_some_iff :
    readDigits? acc cs = some n ↔ (∀ c ∈ cs, c.isDigit) ∧ Nat.ofDigitChars 10 cs acc = n := by
  induction cs generalizing acc with
  | nil => simp [readDigits?]
  | cons c cs ih =>
    rw [readDigits?, Option.bind_eq_some_iff, List.forall_mem_cons, Nat.ofDigitChars_cons]
    constructor
    · rintro ⟨d, first, others⟩
      obtain ⟨digit, rfl⟩ := digit?_eq_some_iff.mp first
      obtain ⟨digits, worth⟩ := ih.mp others
      exact ⟨⟨digit, digits⟩, worth⟩
    · rintro ⟨⟨digit, digits⟩, worth⟩
      exact ⟨_, digit?_eq_some_iff.mpr ⟨digit, rfl⟩, ih.mpr ⟨digits, worth⟩⟩

/-- **What is read without a sign** is a run of digits. -/
theorem readNat?_eq_some_iff : readNat? cs = some n ↔ Decimal cs n := by
  rcases cs with _ | ⟨c, cs⟩
  · refine ⟨nofun, fun decimal => absurd rfl decimal.nonempty⟩
  · rw [readNat?, readDigits?_eq_some_iff]
    constructor
    · rintro ⟨digits, worth⟩
      exact ⟨List.cons_ne_nil c cs, digits, worth⟩
    · rintro ⟨-, digits, worth⟩
      exact ⟨digits, worth⟩

/-- A run of digits does not begin with a character that is not one. -/
theorem Decimal.ne_cons (decimal : Decimal cs n) (other : ¬c.isDigit) (rest : List Char) :
    cs ≠ c :: rest := by
  rintro rfl
  exact other (decimal.digits c List.mem_cons_self)

/-- **What is read with a sign** is a run of digits, behind one plus sign at most, up to the
bound. -/
theorem readUnsigned?_eq_some_iff :
    readUnsigned? bound cs = some n ↔
      n ≤ bound ∧ ∃ digits, Decimal digits n ∧ (cs = digits ∨ cs = '+' :: digits) := by
  simp only [readUnsigned?, Option.filter_eq_some_iff, decide_eq_true_iff, readNat?_eq_some_iff]
  rw [and_comm]
  refine and_congr_right fun _ => ?_
  split
  · next rest =>
    constructor
    · intro decimal
      exact ⟨rest, decimal, Or.inr rfl⟩
    · rintro ⟨digits, decimal, same | same⟩
      · exact absurd same.symm (decimal.ne_cons (by decide) rest)
      · obtain rfl := List.tail_eq_of_cons_eq same
        exact decimal
  · next plain =>
    constructor
    · intro decimal
      exact ⟨cs, decimal, Or.inl rfl⟩
    · rintro ⟨digits, decimal, rfl | signed⟩
      · exact decimal
      · exact absurd signed (plain digits)

/-! ### Writing -/

theorem decimal_writeNat (n : Nat) : Decimal (writeNat n) n where
  nonempty := Nat.toDigits_ne_nil
  digits _ mem := Nat.isDigit_of_mem_toDigits (by decide) (by decide) mem
  worth := Nat.ofDigitChars_ten_toDigits

/-- Noughts at the front make no difference. -/
theorem Decimal.replicate_append (decimal : Decimal cs n) (k : Nat) :
    Decimal (List.replicate k '0' ++ cs) n where
  nonempty := List.append_ne_nil_of_right_ne_nil _ decimal.nonempty
  digits := by
    rw [List.forall_mem_append]
    refine ⟨fun c nought => ?_, decimal.digits⟩
    rw [List.eq_of_mem_replicate nought]
    rfl
  worth := by
    rw [Nat.ofDigitChars_append, Nat.ofDigitChars_replicate_zero, Nat.mul_zero, decimal.worth]

theorem decimal_writePadded (width n : Nat) : Decimal (writePadded width n) n :=
  (decimal_writeNat n).replicate_append (width - (writeNat n).length)

/-- **A number is read back** from its decimal form. -/
theorem readNat?_writeNat (n : Nat) : readNat? (writeNat n) = some n :=
  readNat?_eq_some_iff.mpr (decimal_writeNat n)

/-- Every digit is worth less than ten, and is the digit of that worth. -/
theorem digitChar_worth (digit : c.isDigit) :
    c.toNat - '0'.toNat < 10 ∧ (c.toNat - '0'.toNat).digitChar = c := by
  obtain ⟨least, greatest⟩ : '0'.toNat ≤ c.toNat ∧ c.toNat ≤ '9'.toNat := by
    simpa [Char.isDigit, UInt32.le_iff_toNat_le] using digit
  obtain ⟨d, worth⟩ := Nat.exists_eq_add_of_le least
  have small : d < 10 := by
    have nine : '9'.toNat = '0'.toNat + 9 := rfl
    omega
  have every : ∀ d < 10, (Char.ofNat ('0'.toNat + d)).toNat - '0'.toNat < 10 ∧
      ((Char.ofNat ('0'.toNat + d)).toNat - '0'.toNat).digitChar = Char.ofNat ('0'.toNat + d) := by
    decide
  rw [← Char.ofNat_toNat c, worth]
  exact every d small

/-- **Without noughts at its front** a run of digits is the shortest form of what it is worth. -/
theorem Decimal.eq_writeNat (decimal : Decimal cs n)
    (shortest : cs.head? = some '0' → cs.length = 1) : cs = writeNat n := by
  induction cs using List.reverseRecOn generalizing n with
  | nil => exact absurd rfl decimal.nonempty
  | append_singleton front c ih =>
    obtain ⟨small, same⟩ := digitChar_worth (decimal.digits c (by simp))
    have last : Nat.toDigits 10 (c.toNat - '0'.toNat) = [c] := by
      rw [Nat.toDigits_of_lt_base small, same]
    have worth := decimal.worth
    rw [Nat.ofDigitChars_append, Nat.ofDigitChars_cons, Nat.ofDigitChars_nil] at worth
    by_cases only : front = []
    · subst only
      rw [writeNat, ← worth]
      simpa using last.symm
    · have notNought : front.head? ≠ some '0' := by
        intro nought
        have one := shortest (by rw [List.head?_append_of_ne_nil _ only, nought])
        simp [only] at one
      have written : front = writeNat (Nat.ofDigitChars 10 front 0) :=
        ih ⟨only, fun c mem => decimal.digits c (List.mem_append_left _ mem), rfl⟩
          fun nought => absurd nought notNought
      have positive : 0 < Nat.ofDigitChars 10 front 0 := by
        refine Nat.pos_of_ne_zero fun zero => notNought ?_
        rw [written, zero]
        rfl
      rw [writeNat, ← worth, ← Nat.toDigits_append_toDigits (by decide) positive small, last]
      exact congrArg (· ++ [c]) written

/-- Only nought begins with a nought. -/
theorem head?_writeNat {n : Nat} (nought : (writeNat n).head? = some '0') : n = 0 := by
  induction n using Nat.strongRecOn with
  | ind n ih =>
    rw [writeNat, Nat.toDigits_eq_if (by decide)] at nought
    split at nought
    · simpa using nought
    · rw [List.head?_append_of_ne_nil _ Nat.toDigits_ne_nil] at nought
      have := ih (n / 10) (by omega) nought
      omega

end FleetDeploy.Text
