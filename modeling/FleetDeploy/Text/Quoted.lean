import FleetDeploy.Text.Unseen

/-!
# Quoted text

An error about a text the program could not read shows that text between double quotes, in a form
that cannot be mistaken for its surroundings: the quote, the backslash and the usual control
characters are escaped with a backslash, and any other character without a picture of its own is
spelled by its number in hexadecimal.
-/

namespace FleetDeploy.Text

/-- A character spelled by its number, as `\u` and hexadecimal digits in braces. -/
def spelled (c : Char) : List Char :=
  ['\\', 'u', '\x7b'] ++ Nat.toDigits 16 c.toNat ++ ['\x7d']

/-- How one character stands in a quoted text. -/
def quotedChar (c : Char) : List Char :=
  if c = '\x00' then ['\\', '0']
  else if c = '\t' then ['\\', 't']
  else if c = '\r' then ['\\', 'r']
  else if c = '\n' then ['\\', 'n']
  else if c = '\\' then ['\\', '\\']
  else if c = '"' then ['\\', '"']
  else if isUnseen c then spelled c
  else [c]

/-- A text between double quotes. -/
def quoted (s : String) : String :=
  String.ofList ('"' :: s.toList.flatMap quotedChar ++ ['"'])

end FleetDeploy.Text
