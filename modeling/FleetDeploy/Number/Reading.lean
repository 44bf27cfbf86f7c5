import FleetDeploy.Number.Binary64
import FleetDeploy.Text.Decimal

/-!
# Reading numbers of double precision

A number is written as digits with an optional point among or around them and an optional power
of ten, or as one of the words for infinity and for no number; a sign may stand in front. Nothing
else, no blank either, may surround it.
-/

namespace FleetDeploy

/-- A number literal: its sign, the digits before the point and those after it, and the power of
ten by which it is multiplied. -/
structure Literal where
  negative : Bool
  whole : List Char
  places : List Char := []
  power : Int := 0
  deriving DecidableEq

namespace Literal

/-- All digits of a literal as one number. -/
def digits (l : Literal) : Nat := (Text.readNat? (l.whole ++ l.places)).getD 0

/-- The power of ten by which all digits, taken as one number, are multiplied. -/
def exponent (l : Literal) : Int := l.power - l.places.length

/-- The number of double precision nearest to a literal. -/
def nearest (l : Literal) : Binary64 := .ofDecimal l.negative l.digits l.exponent

/-- The number that digits make after others worth `n`, as far as it fits into 64 bits, with how
many digits are left then. -/
def absorb (n : Nat) : List Char → Nat × Nat
  | [] => (n, 0)
  | c :: cs =>
    let next := 10 * n + (Text.digit? c).getD 0
    if next < UInt64.size then absorb next cs else (n, cs.length + 1)

/-- The number of double precision that a stepwise reader makes of a literal. The digits before the
point are taken as far as they fit into 64 bits, and each one left counts for a power of ten; then
those after the point are taken, again as far as they fit. The result is rounded, then scaled by the
power of ten, by `10 ^ 308` at a time where that is needed. `none` where a step leaves the format.

A digit after the point may fit where one before it did not; it then stands in the place of the
latter. -/
def stepwise? (l : Literal) : Option Binary64 :=
  let (n, left) := absorb 0 l.whole
  let (n, unread) := absorb n l.places
  let k := l.power + left - (l.places.length - unread : Nat)
  let f := Binary64.ofRatio l.negative n 1
  if n = 0 then some f
  else if 308 < k then none
  else
    let steps := if k < -308 then ((-k - 1) / 308).toNat else 0
    if 3 < steps then some (.finite l.negative 0 0)
    else
      let g := (List.range steps).foldl (fun x _ => x.scaleByTen (-308)) f
      some (g.scaleByTen (k + 308 * steps)) |>.filter (·.isFinite)

end Literal

namespace Binary64

/-- The longest run of digits at the front, and what follows it. -/
def digitRun (cs : List Char) : List Char × List Char :=
  (cs.takeWhile Text.isDigit, cs.dropWhile Text.isDigit)

/-- A power of ten after its mark: an optional sign and one or more digits, and nothing else. -/
def readExponent? : List Char → Option Int
  | '-' :: cs => (Text.readNat? cs).map fun n => -(n : Int)
  | '+' :: cs => (Text.readNat? cs).map fun n => (n : Int)
  | cs => (Text.readNat? cs).map fun n => (n : Int)

/-- Digits with an optional point and an optional power of ten. -/
def readLiteral? (negative : Bool) (cs : List Char) : Option Literal :=
  let (whole, rest) := digitRun cs
  let (places, rest) := match rest with
    | '.' :: rest => digitRun rest
    | _ => ([], rest)
  let exponent := match rest with
    | [] => some 0
    | c :: rest => if c = 'e' ∨ c = 'E' then readExponent? rest else none
  if whole.isEmpty && places.isEmpty then none
  else exponent.map fun k => ⟨negative, whole, places, k⟩

/-- A number as written in a text. -/
def ofText? (cs : List Char) : Option Binary64 :=
  let (negative, cs) := match cs with
    | '-' :: cs => (true, cs)
    | '+' :: cs => (false, cs)
    | _ => (false, cs)
  let word := String.ofList (cs.map Char.toLower)
  if word = "inf" ∨ word = "infinity" then some (.infinite negative)
  else if word = "nan" then some .nan
  else (readLiteral? negative cs).map (·.nearest)

end Binary64

end FleetDeploy
