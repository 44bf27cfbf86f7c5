import FleetDeploy.Proofs.Text.Decimal
import FleetDeploy.Version

/-!
# The texts that name a version

A version is named by its number, and people may put the letter of the displayed form in front of
it, a plus sign, and any number of noughts. This file says that such texts are read and no others,
and that every version is read back from the text it is displayed as, however many digits it has.

* `FleetDeploy.Version.Names` – the texts that name a number;
* `FleetDeploy.Version.parse_eq_ok_iff`, `FleetDeploy.Version.parse_eq_error_iff` – these are read,
  up to the greatest number of 32 bits, and anything else is given back as it is;
* `FleetDeploy.Version.parse_display` – the displayed form is among them.
-/

namespace FleetDeploy.Version

open Text (Decimal)

/-- **The texts that name a number**: one letter or none, one plus sign or none, and then a run of
one or more digits that is worth the number. -/
def Names (text : String) (n : Nat) : Prop :=
  ∃ letter sign digits, (letter = [] ∨ letter = ['v']) ∧ (sign = [] ∨ sign = ['+']) ∧
    Decimal digits n ∧ text.toList = letter ++ sign ++ digits

variable {text : String} {n : Nat} {v : Version} {e : InvalidVersion}

/-! ### Reading -/

/-- Where what is left does not begin with the letter, there was one letter at most. -/
theorem digitsOf_eq_iff {cs rest : List Char} (other : ∀ cs, rest ≠ 'v' :: cs) :
    digitsOf cs = rest ↔ cs = rest ∨ cs = 'v' :: rest := by
  unfold digitsOf
  split
  · next found =>
    constructor
    · rintro rfl
      exact Or.inr rfl
    · rintro (same | same)
      · exact absurd same.symm (other found)
      · exact List.tail_eq_of_cons_eq same
  · next plain =>
    constructor
    · exact Or.inl
    · rintro (same | same)
      · exact same
      · exact absurd same (plain rest)

theorem names_iff :
    Names text n ↔ ∃ digits, Decimal digits n ∧
      (digitsOf text.toList = digits ∨ digitsOf text.toList = '+' :: digits) := by
  constructor
  · rintro ⟨letter, sign, digits, lettered, signed, decimal, spelled⟩
    have bare : ∀ cs, digits ≠ 'v' :: cs := decimal.ne_cons (by decide)
    refine ⟨digits, decimal, ?_⟩
    rw [digitsOf_eq_iff bare, digitsOf_eq_iff (by simp), spelled]
    rcases lettered with rfl | rfl <;> rcases signed with rfl | rfl <;> simp
  · rintro ⟨digits, decimal, left⟩
    have bare : ∀ cs, digits ≠ 'v' :: cs := decimal.ne_cons (by decide)
    rw [digitsOf_eq_iff bare, digitsOf_eq_iff (by simp)] at left
    rcases left with (spelled | spelled) | (spelled | spelled)
    · exact ⟨[], [], digits, Or.inl rfl, Or.inl rfl, decimal, spelled⟩
    · exact ⟨['v'], [], digits, Or.inr rfl, Or.inl rfl, decimal, spelled⟩
    · exact ⟨[], ['+'], digits, Or.inl rfl, Or.inr rfl, decimal, spelled⟩
    · exact ⟨['v'], ['+'], digits, Or.inr rfl, Or.inr rfl, decimal, spelled⟩

theorem parse?_eq_some_iff : parse? text = some v ↔ Names text v.toNat := by
  simp only [parse?, Option.map_eq_some_iff, Text.readUnsigned?_eq_some_iff, ← names_iff]
  constructor
  · rintro ⟨n, ⟨le, names⟩, rfl⟩
    rwa [UInt32.toNat_ofNat_of_lt' (Nat.lt_of_le_pred (by decide) le)]
  · intro names
    exact ⟨v.toNat, ⟨Nat.le_pred_of_lt v.toNat_lt, names⟩, UInt32.ofNat_toNat⟩

/-- **What is read** is what names the version. -/
theorem parse_eq_ok_iff : parse text = .ok v ↔ Names text v.toNat := by
  rw [← parse?_eq_some_iff, parse]
  split
  · next w read => simp [read]
  · next failed => simp [failed]

/-- **What is not read** names no number up to the greatest version, and is given back as it is. -/
theorem parse_eq_error_iff :
    parse text = .error e ↔ (∀ n ≤ 4294967295, ¬Names text n) ∧ e = ⟨text⟩ := by
  have unread : parse? text = none ↔ ∀ n ≤ 4294967295, ¬Names text n := by
    rw [Option.eq_none_iff_forall_ne_some]
    constructor
    · intro none n le names
      have fits : n < UInt32.size := Nat.lt_succ_of_le le
      refine none (UInt32.ofNat n) (parse?_eq_some_iff.mpr ?_)
      rwa [UInt32.toNat_ofNat_of_lt' fits]
    · intro none v read
      exact none v.toNat (Nat.le_of_lt_succ v.toNat_lt) (parse?_eq_some_iff.mp read)
  rw [← unread, parse]
  split
  · next v read => simp [read]
  · next failed => simp [failed, eq_comm]

/-! ### Reading back -/

/-- A version is read back from its number in decimal. -/
theorem parse_natText (v : Version) : parse (Text.natText v.toNat) = .ok v :=
  parse_eq_ok_iff.mpr
    ⟨[], [], Text.writeNat v.toNat, Or.inl rfl, Or.inl rfl, Text.decimal_writeNat v.toNat,
      String.toList_ofList⟩

/-- **A version is read back** from the text it is displayed as. -/
theorem parse_display (v : Version) : parse v.display = .ok v :=
  parse_eq_ok_iff.mpr
    ⟨['v'], [], Text.writePadded 3 v.toNat, Or.inr rfl, Or.inl rfl,
      Text.decimal_writePadded 3 v.toNat, String.toList_ofList⟩

theorem display_injective : Function.Injective display := by
  intro v w same
  have read : parse v.display = .ok w := by rw [same, parse_display]
  exact Except.ok.inj ((parse_display v).symm.trans read)

/-- **The texts that are read as versions.** A text is read if and only if it names a number up to
the greatest of 32 bits, and then as that number; any other text is an error that has the whole
text. Every version is read back from its displayed form and from its plain number, and no two
versions are displayed alike. -/
theorem parses_names :
    (∀ text v, parse text = .ok v ↔ Names text v.toNat) ∧
    (∀ text, (∃ v, parse text = .ok v) ↔ ∃ n ≤ 4294967295, Names text n) ∧
    (∀ text e, parse text = .error e ↔ (∀ n ≤ 4294967295, ¬Names text n) ∧ e = ⟨text⟩) ∧
    (∀ v : Version, parse v.display = .ok v ∧ parse (Text.natText v.toNat) = .ok v) ∧
    Function.Injective display := by
  refine ⟨fun _ _ => parse_eq_ok_iff, fun text => ?_, fun _ _ => parse_eq_error_iff,
    fun v => ⟨parse_display v, parse_natText v⟩, display_injective⟩
  constructor
  · rintro ⟨v, read⟩
    exact ⟨v.toNat, Nat.le_of_lt_succ v.toNat_lt, parse_eq_ok_iff.mp read⟩
  · rintro ⟨n, le, names⟩
    refine ⟨UInt32.ofNat n, parse_eq_ok_iff.mpr ?_⟩
    rwa [UInt32.toNat_ofNat_of_lt' (Nat.lt_succ_of_le le)]

/-- The letter comes before the sign, and at most once; noughts may be any number. -/
example :
    parse "v+0007" = .ok 7 ∧ parse "+v7" = .error ⟨"+v7"⟩ ∧ parse "vv1" = .error ⟨"vv1"⟩ ∧
      parse "4294967296" = .error ⟨"4294967296"⟩ := by
  decide +kernel

end FleetDeploy.Version
