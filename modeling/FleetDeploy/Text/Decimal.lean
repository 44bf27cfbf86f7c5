/-!
# Whole numbers in decimal

Version numbers, ports and configured limits are written and read in decimal. This file has the
two directions on lists of characters:

* `readNat?` – a run of one or more digits, leading zeros allowed, of any length;
* `readUnsigned?`, `readSigned?` – the same with an optional sign and a bound on the value;
* `writeNat`, `writeInt`, `writePadded` – the shortest form, and the form padded with zeros.

Only the ten digits of the basic alphabet count as digits.
-/

namespace FleetDeploy.Text

/-- The value of a digit. -/
def digit? (c : Char) : Option Nat :=
  if '0' ≤ c ∧ c ≤ '9' then some (c.toNat - '0'.toNat) else none

/-- Whether a character is one of the ten digits. -/
def isDigit (c : Char) : Bool := (digit? c).isSome

/-- The value of the digits `cs` written after digits worth `acc`. -/
def readDigits? (acc : Nat) : List Char → Option Nat
  | [] => some acc
  | c :: cs => (digit? c).bind fun d => readDigits? (10 * acc + d) cs

/-- The value of a run of one or more digits. -/
def readNat? : List Char → Option Nat
  | [] => none
  | c :: cs => readDigits? 0 (c :: cs)

/-- A number from `0` to `bound`, with an optional plus sign. -/
def readUnsigned? (bound : Nat) (cs : List Char) : Option Nat :=
  let digits := match cs with
    | '+' :: rest => rest
    | _ => cs
  (readNat? digits).filter (· ≤ bound)

/-- A number from `-(bound + 1)` to `bound`, with an optional sign. -/
def readSigned? (bound : Nat) (cs : List Char) : Option Int :=
  match cs with
  | '-' :: rest => ((readNat? rest).filter (· ≤ bound + 1)).map fun n => -(n : Int)
  | _ => (readUnsigned? bound cs).map fun n => (n : Int)

/-- Where the whole numbers of 64 bits with a sign end: they lie from `-signedLimit` up to, but
without, `signedLimit`. -/
def signedLimit : Nat := UInt64.size / 2

/-- The shortest decimal form. -/
def writeNat (n : Nat) : List Char := Nat.toDigits 10 n

/-- The shortest decimal form, with a minus sign below zero. -/
def writeInt (i : Int) : List Char :=
  if i < 0 then '-' :: writeNat i.natAbs else writeNat i.natAbs

/-- The decimal form in at least `width` digits, filled up with zeros on the left. -/
def writePadded (width : Nat) (n : Nat) : List Char :=
  (writeNat n).leftpad width '0'

/-- A number as text. -/
def natText (n : Nat) : String := String.ofList (writeNat n)

end FleetDeploy.Text
