/-!
# Numbers of double precision, exactly

A configured value written with a fraction or an exponent is a number of the 64-bit binary format:
it is rounded when it is read, and rounded again when an integer is wanted of it. So that these
roundings can be reasoned about, a number is held here as sign, mantissa and exponent and computed
on with natural numbers; no machine arithmetic is involved.

* `Binary64.ofRatio` – the nearest number to a fraction, a tie going to the even mantissa;
* `Binary64.ofDecimal` – the nearest number to digits and a power of ten;
* `Binary64.scaleByTen` – multiplication by a power of ten, itself first rounded;
* `Binary64.roundToNat` – the nearest natural number, a half going up, capped from above.
-/

namespace FleetDeploy

/-- A number of the 64-bit binary format. A finite one is worth `mantissa · 2 ^ exponent`, with the
sign in front, and its mantissa has at most 53 bits. -/
inductive Binary64
  | nan
  | infinite (negative : Bool)
  | finite (negative : Bool) (mantissa : Nat) (exponent : Int)
  deriving DecidableEq

namespace Binary64

/-- The least exponent of a mantissa; all numbers are multiples of two to this power. -/
def minExponent : Int := -1074

/-- The greatest exponent of a mantissa. -/
def maxExponent : Int := 971

/-- The fraction `num / den` as numerator and denominator after multiplication by `2 ^ k`. -/
def shifted (num den : Nat) (k : Int) : Nat × Nat :=
  if 0 ≤ k then (num <<< k.toNat, den) else (num, den <<< (-k).toNat)

/-- The exponent at which the mantissa of `num / den` has 53 bits before the point, or the least
one where that would be lower. -/
def exponentOf (num den : Nat) : Int :=
  let guess : Int := (num.log2 : Int) - den.log2 - 52
  let (n, d) := shifted num den (-guess - 52)
  max (if n < d then guess - 1 else guess) minExponent

/-- The quotient `n / d` rounded to the nearest natural number, a tie going to the even one. -/
def roundEven (n d : Nat) : Nat :=
  let q := n / d
  let r := n % d
  if 2 * r < d then q else if d < 2 * r then q + 1 else q + q % 2

/-- The number nearest to `num / den`, for a positive `den`. -/
def ofRatio (negative : Bool) (num den : Nat) : Binary64 :=
  if num = 0 then .finite negative 0 0
  else
    let e := exponentOf num den
    let (n, d) := shifted num den (-e)
    let m := roundEven n d
    let (m, e) := if m = 1 <<< 53 then (1 <<< 52, e + 1) else (m, e)
    if maxExponent < e then .infinite negative else .finite negative m e

/-- How many decimal digits a number has. -/
def digitCount (n : Nat) : Nat := (Nat.toDigits 10 n).length

/-- The power of ten with exponent `k`. -/
def tenTo (k : Nat) : Nat := Nat.pow 10 k

/-- The number nearest to `digits · 10 ^ exponent`. What lies far outside the format is decided by
its size alone. -/
def ofDecimal (negative : Bool) (digits : Nat) (exponent : Int) : Binary64 :=
  let size : Int := digitCount digits + exponent
  if digits = 0 then .finite negative 0 0
  else if 310 < size then .infinite negative
  else if size < -330 then .finite negative 0 0
  else if 0 ≤ exponent then ofRatio negative (digits * tenTo exponent.toNat) 1
  else ofRatio negative digits (tenTo (-exponent).toNat)

/-- A finite number as sign, numerator and denominator. -/
def ratio (negative : Bool) (mantissa : Nat) (exponent : Int) : Bool × Nat × Nat :=
  (negative, shifted mantissa 1 exponent)

/-- A number multiplied by `10 ^ k`, the power and the product each rounded to the format. -/
def scaleByTen (x : Binary64) (k : Int) : Binary64 :=
  match x, ofDecimal false 1 k.natAbs with
  | .finite s m e, .finite _ m' e' =>
    let (_, n, d) := ratio s m e
    let (_, n', d') := ratio false m' e'
    if 0 ≤ k then ofRatio s (n * n') (d * d') else ofRatio s (n * d') (d * n')
  | x, _ => x

/-- Whether a number is zero, of either sign. -/
def isZero : Binary64 → Bool
  | .finite _ m _ => m == 0
  | _ => false

/-- Whether a number is neither infinite nor undefined. -/
def isFinite : Binary64 → Bool
  | .finite .. => true
  | _ => false

/-- The nearest natural number, a half going up: what is below zero or no number counts as zero,
what is above `cap` as `cap`. -/
def roundToNat (cap : Nat) : Binary64 → Nat
  | .nan => 0
  | .infinite negative => if negative then 0 else cap
  | .finite true _ _ => 0
  | .finite false m e =>
    let (n, d) := shifted m 1 e
    min cap ((2 * n + d) / (2 * d))

end Binary64

end FleetDeploy
