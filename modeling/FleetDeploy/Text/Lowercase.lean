import FleetDeploy.Text.CaseTables
import FleetDeploy.Text.Unseen

/-!
# Lower case

The text of a timeout names what was waited for in lower case, and the names of environment
variables, the words for truth values and the names of severities are compared without regard to
case. All of them use the one mapping of this file, the full lower-case mapping of the Unicode
standard: a letter at a time, except that a capital dotted i becomes two characters and that a
capital sigma takes its final form at the end of a word.
-/

namespace FleetDeploy.Text

/-- The lower-case form of one character, its neighbours apart. -/
def lowercaseChar (c : Char) : List Char :=
  if c.toNat < 128 then [c.toLower]
  else if c.toNat = 0x130 then ['i', Char.ofNat 0x307]
  else match lowercaseRuns.find? (·.contains c.toNat) with
    | some run => [Char.ofNat (c.toNat + run.shift).toNat]
    | none => [c]

/-- Whether the first character that the case of a word does not pass over is a letter with
case. -/
def startsCased (cs : List Char) : Bool :=
  match cs.dropWhile (fun c => inRanges caseIgnorableRanges c.toNat) with
  | [] => false
  | c :: _ => inRanges casedRanges c.toNat

/-- The lower-case form of a text whose preceding characters, nearest first, are `before`. -/
def lowercaseAfter (before : List Char) : List Char → List Char
  | [] => []
  | c :: rest =>
    let lower :=
      if c.toNat = 0x3A3 then
        if startsCased before && !startsCased rest then [Char.ofNat 0x3C2] else [Char.ofNat 0x3C3]
      else lowercaseChar c
    lower ++ lowercaseAfter (c :: before) rest

/-- A text in lower case. -/
def lowercase (s : String) : String := String.ofList (lowercaseAfter [] s.toList)

end FleetDeploy.Text
