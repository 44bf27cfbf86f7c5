import FleetDeploy.Json.Basic

/-!
# Reading JSON

A reader of JSON texts, strict in every respect: no comments, no trailing commas, no control
characters inside strings, no lone halves of surrogate pairs, no numbers outside the range of double
precision, and no deeper nesting than `maxDepth`. Of several fields of one name in an object the
last one counts.
-/

namespace FleetDeploy.Json

/-- How many arrays and objects may be open at once. -/
def maxDepth : Nat := 127

/-- The text without the blanks at its front. -/
def skipBlank (cs : List Char) : List Char :=
  cs.dropWhile fun c => c = ' ' ∨ c = '\t' ∨ c = '\n' ∨ c = '\r'

/-- The value of a hexadecimal digit. -/
def hexDigit? (c : Char) : Option Nat :=
  if '0' ≤ c ∧ c ≤ '9' then some (c.toNat - '0'.toNat)
  else if 'a' ≤ c ∧ c ≤ 'f' then some (c.toNat - 'a'.toNat + 10)
  else if 'A' ≤ c ∧ c ≤ 'F' then some (c.toNat - 'A'.toNat + 10)
  else none

/-- The value of four hexadecimal digits. -/
def hexQuad? (a b c d : Char) : Option Nat := do
  let a ← hexDigit? a
  let b ← hexDigit? b
  let c ← hexDigit? c
  let d ← hexDigit? d
  pure (((a * 16 + b) * 16 + c) * 16 + d)

/-- The character that a backslash and `c` stand for. -/
def escape? (c : Char) : Option Char :=
  match c with
  | '"' => some '"'
  | '\\' => some '\\'
  | '/' => some '/'
  | 'b' => some '\x08'
  | 'f' => some '\x0c'
  | 'n' => some '\n'
  | 'r' => some '\r'
  | 't' => some '\t'
  | _ => none

/-- The rest of a string after its opening quote, with what follows the closing one. The characters
read so far are `acc`, last first; `high` is the first half of a surrogate pair still waiting for
its second. -/
def readString? (high : Option Nat) (acc : List Char) : List Char → Option (String × List Char)
  | [] => none
  | '"' :: rest => if high.isNone then some (String.ofList acc.reverse, rest) else none
  | '\\' :: 'u' :: a :: b :: c :: d :: rest =>
    match hexQuad? a b c d, high with
    | some unit, none =>
      if 0xD800 ≤ unit ∧ unit < 0xDC00 then readString? (some unit) acc rest
      else if 0xDC00 ≤ unit ∧ unit < 0xE000 then none
      else readString? none (Char.ofNat unit :: acc) rest
    | some unit, some first =>
      if 0xDC00 ≤ unit ∧ unit < 0xE000 then
        readString? none
          (Char.ofNat (0x10000 + (first - 0xD800) * 0x400 + (unit - 0xDC00)) :: acc) rest
      else none
    | none, _ => none
  | '\\' :: c :: rest =>
    match escape? c, high with
    | some c, none => readString? none (c :: acc) rest
    | _, _ => none
  | c :: rest =>
    if c.toNat < 0x20 ∨ high.isSome then none else readString? none (c :: acc) rest

/-- The fraction of a number, if there is one: at least one digit after a point. -/
def readFraction? : List Char → Option (List Char × List Char)
  | '.' :: rest =>
    let (places, rest) := Binary64.digitRun rest
    if places.isEmpty then none else some (places, rest)
  | rest => some ([], rest)

/-- The power of ten of a number, if there is one: a mark, an optional sign and at least one
digit. -/
def readPower? : List Char → Option (Option Int × List Char)
  | c :: rest =>
    if c = 'e' ∨ c = 'E' then
      let (negative, rest) := match rest with
        | '-' :: rest => (true, rest)
        | '+' :: rest => (false, rest)
        | _ => (false, rest)
      let (digits, rest) := Binary64.digitRun rest
      (Text.readNat? digits).map fun n => (some (if negative then -(n : Int) else n), rest)
    else some (none, c :: rest)
  | [] => some (none, [])

/-- A number, with what follows it. -/
def readNumber? (cs : List Char) : Option (Json × List Char) := do
  let (negative, cs) := match cs with
    | '-' :: rest => (true, rest)
    | _ => (false, cs)
  let (whole, rest) := Binary64.digitRun cs
  if whole.head? = some '0' ∧ whole.length ≠ 1 then none
  let (places, rest) ← readFraction? rest
  let (power, rest) ← readPower? rest
  let digits ← Text.readNat? whole
  let value : Int := if negative then -(digits : Int) else digits
  if places.isEmpty ∧ power.isNone ∧ ¬(negative ∧ digits = 0) ∧
      -Text.signedLimit ≤ value ∧ value < UInt64.size then
    pure (.int value, rest)
  else
    let literal : Literal := ⟨negative, whole, places, power.getD 0⟩
    if literal.stepwise?.isSome then pure (.decimal literal, rest) else none

/-- The fields of an object with each name once, the last one given. -/
def lastFields : List (String × Json) → List (String × Json)
  | [] => []
  | e :: rest => if rest.any (·.1 = e.1) then lastFields rest else e :: lastFields rest

mutual

/-- A value, with what follows it. The argument `fuel` exceeds the length of the text; at most
`depth` arrays and objects may open inside one another. -/
def readValue? (fuel depth : Nat) (cs : List Char) : Option (Json × List Char) :=
  match fuel with
  | 0 => none
  | fuel + 1 =>
    match skipBlank cs with
    | '"' :: rest => (readString? none [] rest).map fun (s, rest) => (.string s, rest)
    | 't' :: 'r' :: 'u' :: 'e' :: rest => some (.bool true, rest)
    | 'f' :: 'a' :: 'l' :: 's' :: 'e' :: rest => some (.bool false, rest)
    | 'n' :: 'u' :: 'l' :: 'l' :: rest => some (.null, rest)
    | '[' :: rest =>
      if depth = 0 then none
      else match skipBlank rest with
        | ']' :: rest => some (.array [], rest)
        | rest => (readItems? fuel (depth - 1) rest).map fun (xs, rest) => (.array xs, rest)
    | '\x7b' :: rest =>
      if depth = 0 then none
      else match skipBlank rest with
        | '\x7d' :: rest => some (.object [], rest)
        | rest =>
          (readFields? fuel (depth - 1) rest).map fun (es, rest) => (.object (lastFields es), rest)
    | cs => readNumber? cs

/-- One or more items of an array up to its closing bracket. -/
def readItems? (fuel depth : Nat) (cs : List Char) : Option (List Json × List Char) :=
  match fuel with
  | 0 => none
  | fuel + 1 => do
    let (x, rest) ← readValue? fuel depth cs
    match skipBlank rest with
    | ',' :: rest =>
      let (xs, rest) ← readItems? fuel depth rest
      pure (x :: xs, rest)
    | ']' :: rest => pure ([x], rest)
    | _ => none

/-- One or more fields of an object up to its closing brace. -/
def readFields? (fuel depth : Nat) (cs : List Char) : Option (List (String × Json) × List Char) :=
  match fuel with
  | 0 => none
  | fuel + 1 => do
    let '"' :: rest := skipBlank cs | none
    let (name, rest) ← readString? none [] rest
    let ':' :: rest := skipBlank rest | none
    let (x, rest) ← readValue? fuel depth rest
    match skipBlank rest with
    | ',' :: rest =>
      let (es, rest) ← readFields? fuel depth rest
      pure ((name, x) :: es, rest)
    | '\x7d' :: rest => pure ([(name, x)], rest)
    | _ => none

end

/-- The value that a text is. -/
def parse? (text : String) : Option Json := do
  let cs := text.toList
  let (value, rest) ← readValue? (cs.length + 1) maxDepth cs
  if (skipBlank rest).isEmpty then pure value else none

end FleetDeploy.Json
