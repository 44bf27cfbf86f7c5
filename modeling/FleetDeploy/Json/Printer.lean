import FleetDeploy.Json.Basic

/-!
# Writing JSON

A value as one line of text in the basic alphabet: every other character of a string is written by
its number, as a surrogate pair where it needs one.
-/

namespace FleetDeploy.Json

/-- A 16-bit unit by its number. -/
def unitText (n : Nat) : List Char :=
  ['\\', 'u'] ++ (Nat.toDigits 16 n).leftpad 4 '0'

/-- How one character stands in a string. -/
def charText (c : Char) : List Char :=
  if c = '"' then ['\\', '"']
  else if c = '\\' then ['\\', '\\']
  else if 0x20 ≤ c.toNat ∧ c.toNat < 0x7F then [c]
  else if c.toNat < 0x10000 then unitText c.toNat
  else
    let n := c.toNat - 0x10000
    unitText (0xD800 + n / 0x400) ++ unitText (0xDC00 + n % 0x400)

/-- A string between its quotes. -/
def stringText (s : String) : String :=
  String.ofList ('"' :: s.toList.flatMap charText ++ ['"'])

/-- A number literal. -/
def literalText (l : Literal) : String :=
  String.ofList ((if l.negative then ['-'] else []) ++ Text.writeNat l.digits ++ 'e' ::
    Text.writeInt l.exponent)

mutual

/-- A value as text. -/
def render : Json → String
  | .null => "null"
  | .bool b => if b then "true" else "false"
  | .int i => String.ofList (Text.writeInt i)
  | .decimal l => literalText l
  | .string s => stringText s
  | .array xs => "[" ++ ",".intercalate (renderItems xs) ++ "]"
  | .object es => "\x7b" ++ ",".intercalate (renderFields es) ++ "\x7d"

/-- The items of an array, each as text. -/
def renderItems : List Json → List String
  | [] => []
  | x :: xs => render x :: renderItems xs

/-- The fields of an object, each as text. -/
def renderFields : List (String × Json) → List String
  | [] => []
  | (name, x) :: es => (stringText name ++ ":" ++ render x) :: renderFields es

end

end FleetDeploy.Json
