import FleetDeploy.Number.Binary64
import FleetDeploy.Text.Decimal

/-!
# The shortest decimal form

Where a text is wanted and a number was configured, the number is written with the fewest digits
that read back as the same number, and of those the nearest to it; always positionally, without an
exponent. The search is over decimal grids: for one digit, two digits and so on, the two points of
the grid around the number are tried, and the first grid with a point that rounds back to the
number wins. Where both do and are equally near, the greater one is taken.
-/

namespace FleetDeploy.Binary64

/-- The closed interval, or the open one for an odd mantissa, of what rounds to a positive number,
in units of a quarter of its last place. -/
structure Neighbourhood where
  low : Nat
  value : Nat
  high : Nat
  closed : Bool

/-- The neighbourhood of `m · 2 ^ e`. At a power of two the number below is half as far. -/
def neighbourhood (m : Nat) (e : Int) : Neighbourhood where
  low := 4 * m - (if m = 1 <<< 52 ∧ minExponent < e then 1 else 2)
  value := 4 * m
  high := 4 * m + 2
  closed := m % 2 == 0

/-- The power of ten just above `n / d`: the least `x` with `n / d < 10 ^ x`. -/
def magnitude (n d : Nat) : Int :=
  if d ≤ n then digitCount (n / d)
  else 1 - (((List.range 330).find? fun k => d ≤ n * tenTo k).getD 330 : Nat)

/-- The point of the grid `10 ^ p` that stands for `m · 2 ^ e`, if one of the two around it does:
`c` for the point `c · 10 ^ p`. -/
def gridPoint? (m : Nat) (e : Int) (p : Int) : Option Nat :=
  let h := neighbourhood m e
  -- In units of a quarter of the last place, a step of the grid is `step / per`.
  let (step, per) := shifted (if 0 ≤ p then tenTo p.toNat else 1)
    (if 0 ≤ p then 1 else tenTo (-p).toNat) (2 - e)
  let inside (c : Nat) : Bool :=
    if h.closed then h.low * per ≤ c * step && c * step ≤ h.high * per
    else h.low * per < c * step && c * step < h.high * per
  let below := h.value * per / step
  let above := below + 1
  match inside below, inside above with
  | true, true =>
    some (if h.value * per - below * step < above * step - h.value * per then below else above)
  | true, false => some below
  | false, true => some above
  | false, false => none

/-- Digits and power of ten without trailing zeros, for at most `fuel` of them. -/
def trimZeros : Nat → Nat → Int → Nat × Int
  | 0, c, p => (c, p)
  | fuel + 1, c, p => if c ≠ 0 ∧ c % 10 = 0 then trimZeros fuel (c / 10) (p + 1) else (c, p)

/-- The fewest digits that read back as `m · 2 ^ e`, with their power of ten. -/
def shortestDigits (m : Nat) (e : Int) : Nat × Int :=
  let (n, d) := shifted m 1 e
  let x := magnitude n d
  let found := (List.range 17).findSome? fun k =>
    let p := x - (k + 1 : Nat)
    (gridPoint? m e p).map fun c => (c, p)
  let (c, p) := found.getD (m, e)
  trimZeros 20 c p

/-- The number `c · 10 ^ p` written out. -/
def positional (c : Nat) (p : Int) : List Char :=
  let digits := Text.writeNat c
  if 0 ≤ p then digits ++ List.replicate p.toNat '0'
  else
    let places := (-p).toNat
    if places < digits.length then
      digits.take (digits.length - places) ++ '.' :: digits.drop (digits.length - places)
    else '0' :: '.' :: (List.replicate (places - digits.length) '0' ++ digits)

/-- A number as text. -/
def display : Binary64 → String
  | .nan => "NaN"
  | .infinite negative => if negative then "-inf" else "inf"
  | .finite negative m e =>
    let digits :=
      if m = 0 then ['0']
      else
        let (c, p) := shortestDigits m e
        positional c p
    String.ofList (if negative then '-' :: digits else digits)

end FleetDeploy.Binary64
