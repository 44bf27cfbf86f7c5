/-!
# Byte order marks

Some editors begin a file with the character `U+FEFF`, which in other encodings tells the order of
bytes and here says nothing. It is taken off before the file is read.
-/

namespace FleetDeploy.Text

/-- The characters of a text without a byte order mark in front of them. -/
def withoutMark : List Char → List Char
  | c :: cs => if c.toNat = 0xFEFF then cs else c :: cs
  | [] => []

end FleetDeploy.Text
