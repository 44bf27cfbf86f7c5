import FleetDeploy.Text.Decimal
import FleetDeploy.Text.Quoted
import FleetDeploy.Wire.Codec

/-!
# Versions of a server group

Each deployment of a service brings up a server group with the next sequence number. The number is
all there is to a version, so the order of versions is the order in which they were made. People
write it `v007`; what they write is read with or without the letter and the zeros.
-/

namespace FleetDeploy

/-- The sequence number of a server group. -/
abbrev Version := UInt32

/-- A text that names no version. -/
structure InvalidVersion where
  text : String
  deriving DecidableEq

namespace Version

/-- The version made after this one; `none` at the last number there is. -/
def next? (v : Version) : Option Version :=
  if v.toNat + 1 < UInt32.size then some (v + 1) else none

/-- A version as people read it: the letter and at least three digits. -/
def display (v : Version) : String := String.ofList ('v' :: Text.writePadded 3 v.toNat)

/-- The digits of a version's text: what follows one leading letter, if there is one. -/
def digitsOf : List Char → List Char
  | 'v' :: rest => rest
  | cs => cs

/-- The version that a text names. -/
def parse? (text : String) : Option Version :=
  (Text.readUnsigned? (UInt32.size - 1) (digitsOf text.toList)).map UInt32.ofNat

/-- Why a text names no version: the text itself, quoted. -/
def parseError (text : String) : String := "invalid server group version: " ++ Text.quoted text

/-- The version that a text names; the whole text again if it names none. -/
def parse (text : String) : Except InvalidVersion Version :=
  match parse? text with
  | some v => .ok v
  | none => .error ⟨text⟩

/-- A version on the wire. -/
def codec : Codec Version := .uint32

/-- A version as the name of a field. -/
def keyCodec : KeyCodec Version := .uint32

end Version

end FleetDeploy
