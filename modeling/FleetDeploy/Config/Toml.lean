import FleetDeploy.Config.Value
import FleetDeploy.Json.Parser
import FleetDeploy.Text.Mark

/-!
# Configuration files in TOML

A reader of the part of TOML that configuration files use: comments, headers of tables, and keys
with a text, a whole number, a number or a truth value. Keys may be dotted and quoted, a text may go
over several lines. A key or a table that is defined twice, a number that does not fit, and anything
else that is not TOML makes the whole file unreadable.
-/

namespace FleetDeploy.Toml

open ConfigValue (skipBlank)

/-! ### Lexical matters -/

/-- Whether a character may stand in a comment or a text. -/
def isPlain (c : Char) : Bool := c = '\t' || (0x20 ≤ c.toNat && c.toNat ≠ 0x7F)

/-- What follows the end of a line, which is a line feed, after a carriage return or not. -/
def newLine? : List Char → Option (List Char)
  | '\n' :: rest => some rest
  | '\r' :: '\n' :: rest => some rest
  | _ => none

/-- What follows a line of which nothing but blanks and a comment is left. The last line of a file
need not have an end. -/
def endLine? (cs : List Char) : Option (List Char) :=
  let rest := match skipBlank cs with
    | '#' :: rest => rest.dropWhile isPlain
    | rest => rest
  if rest.isEmpty then some [] else newLine? rest

/-- The character of a number that a text may hold. -/
def charOf? (n : Nat) : Option Char :=
  if n < 0xD800 ∨ (0xE000 ≤ n ∧ n < 0x110000) then some (Char.ofNat n) else none

/-- The character that a backslash and `c` stand for. -/
def escape? (c : Char) : Option Char := if c = '/' then none else Json.escape? c

/-! ### Texts -/

/-- Whether a text goes over several lines. -/
inductive Extent
  | line
  | lines
  deriving DecidableEq

/-- The rest of a quoted text after its opening quotes, with what follows the closing ones; the
characters so far are `acc`, last first.

A text over several lines ends at three quotes, and up to two more in front of them are part of it.
A backslash at the end of a line takes the line's end away together with all blanks and line ends
that follow: these are passed over while `folding` is set. -/
def readQuoted? (extent : Extent) (folding : Bool) (acc : List Char) :
    List Char → Option (String × List Char)
  | [] => none
  | '"' :: rest =>
    if extent = .line then some (String.ofList acc.reverse, rest)
    else match rest with
      | '"' :: '"' :: '"' :: '"' :: rest => some (String.ofList ('"' :: '"' :: acc).reverse, rest)
      | '"' :: '"' :: '"' :: rest => some (String.ofList ('"' :: acc).reverse, rest)
      | '"' :: '"' :: rest => some (String.ofList acc.reverse, rest)
      | rest => readQuoted? extent false ('"' :: acc) rest
  | '\\' :: 'u' :: a :: b :: c :: d :: rest =>
    match (Json.hexQuad? a b c d).bind charOf? with
    | some x => readQuoted? extent false (x :: acc) rest
    | none => none
  | '\\' :: 'U' :: a :: b :: c :: d :: e :: f :: g :: h :: rest =>
    match Json.hexQuad? a b c d, Json.hexQuad? e f g h with
    | some high, some low =>
      match charOf? (high * 0x10000 + low) with
      | some x => readQuoted? extent false (x :: acc) rest
      | none => none
    | _, _ => none
  | '\\' :: c :: rest =>
    match escape? c with
    | some x => readQuoted? extent false (x :: acc) rest
    | none =>
      if extent = .lines && (newLine? (skipBlank (c :: rest))).isSome then
        readQuoted? extent true acc (c :: rest)
      else none
  | '\r' :: '\n' :: rest =>
    if extent = .line then none
    else readQuoted? extent folding (if folding then acc else '\n' :: acc) rest
  | '\n' :: rest =>
    if extent = .line then none
    else readQuoted? extent folding (if folding then acc else '\n' :: acc) rest
  | c :: rest =>
    if folding && (c = ' ' || c = '\t') then readQuoted? extent true acc rest
    else if isPlain c then readQuoted? extent false (c :: acc) rest
    else none

/-- The rest of a text taken as it is, after its opening quotes, with what follows the closing ones;
the characters so far are `acc`, last first. Only the ends of lines are made the same. -/
def readVerbatim? (extent : Extent) (acc : List Char) : List Char → Option (String × List Char)
  | [] => none
  | '\'' :: rest =>
    if extent = .line then some (String.ofList acc.reverse, rest)
    else match rest with
      | '\'' :: '\'' :: '\'' :: '\'' :: rest =>
        some (String.ofList ('\'' :: '\'' :: acc).reverse, rest)
      | '\'' :: '\'' :: '\'' :: rest => some (String.ofList ('\'' :: acc).reverse, rest)
      | '\'' :: '\'' :: rest => some (String.ofList acc.reverse, rest)
      | rest => readVerbatim? extent ('\'' :: acc) rest
  | '\r' :: '\n' :: rest =>
    if extent = .line then none else readVerbatim? extent ('\n' :: acc) rest
  | '\n' :: rest => if extent = .line then none else readVerbatim? extent ('\n' :: acc) rest
  | c :: rest => if isPlain c then readVerbatim? extent (c :: acc) rest else none

/-- A text in any form, with what follows it. The end of a line right after three opening quotes is
no part of the text. -/
def readText? : List Char → Option (String × List Char)
  | '"' :: '"' :: '"' :: rest => readQuoted? .lines false [] ((newLine? rest).getD rest)
  | '\'' :: '\'' :: '\'' :: rest => readVerbatim? .lines [] ((newLine? rest).getD rest)
  | '"' :: rest => readQuoted? .line false [] rest
  | '\'' :: rest => readVerbatim? .line [] rest
  | _ => none

/-! ### Keys -/

/-- Whether a character may stand in a key without quotes. -/
def isBare (c : Char) : Bool := c.isAlphanum || c = '_' || c = '-'

/-- One part of a key, with what follows it. -/
def readPart? : List Char → Option (String × List Char)
  | '"' :: rest => readQuoted? .line false [] rest
  | '\'' :: rest => readVerbatim? .line [] rest
  | cs =>
    let part := cs.takeWhile isBare
    if part.isEmpty then none else some (String.ofList part, cs.dropWhile isBare)

/-- A key of one or more parts between points, with what follows it and the blanks after it. The
argument `fuel` exceeds the length of the text. -/
def readKey? : Nat → List Char → Option (List String × List Char)
  | 0, _ => none
  | fuel + 1, cs => do
    let (part, rest) ← readPart? (skipBlank cs)
    match skipBlank rest with
    | '.' :: rest =>
      let (parts, rest) ← readKey? fuel rest
      pure (part :: parts, rest)
    | rest => pure ([part], rest)

/-! ### Values -/

/-- Digits of one kind with single underscores between them, without the underscores. -/
def digitsOnly? (isKind : Char → Bool) : List Char → Option (List Char)
  | [] => none
  | [c] => if isKind c then some [c] else none
  | c :: '_' :: rest => if isKind c then (digitsOnly? isKind rest).map (c :: ·) else none
  | c :: rest => if isKind c then (digitsOnly? isKind rest).map (c :: ·) else none

/-- The value of digits to a base. -/
def valueTo (base : Nat) (cs : List Char) : Nat :=
  cs.foldl (fun n c => n * base + (Json.hexDigit? c).getD 0) 0

/-- A whole number without a sign, to the base that its beginning names. -/
def readBased? : List Char → Option Nat
  | '0' :: 'x' :: rest =>
    (digitsOnly? (fun c => (Json.hexDigit? c).isSome) rest).map (valueTo 16)
  | '0' :: 'o' :: rest => (digitsOnly? (fun c => '0' ≤ c && c ≤ '7') rest).map (valueTo 8)
  | '0' :: 'b' :: rest => (digitsOnly? (fun c => c = '0' || c = '1') rest).map (valueTo 2)
  | _ => none

/-- Decimal digits of a whole number, which has no leading zeros. -/
def wholeDigits? (cs : List Char) : Option (List Char) :=
  (digitsOnly? Text.isDigit cs).filter fun ds => ds.head? ≠ some '0' || ds.length = 1

/-- The sign in front of a number, if there is one. -/
def readSign : List Char → Option Bool × List Char
  | '-' :: rest => (some true, rest)
  | '+' :: rest => (some false, rest)
  | cs => (none, cs)

/-- A whole number of 64 bits. -/
def readInteger? (cs : List Char) : Option Int := do
  let (sign, body) := readSign cs
  let n ← match sign, readBased? body with
    | none, some n => some n
    | _, _ => (wholeDigits? body).bind Text.readNat?
  let value : Int := if sign = some true then -(n : Int) else n
  if -Text.signedLimit ≤ value ∧ value < Text.signedLimit then pure value else none

/-- The power of ten after its mark. -/
def readPower? (cs : List Char) : Option Int := do
  let (sign, body) := readSign cs
  let n ← (digitsOnly? Text.isDigit body).bind Text.readNat?
  pure (if sign = some true then -(n : Int) else n)

/-- A number with a fraction or a power of ten, or a word for one that is not finite. A number above
all finite ones is not read. -/
def readFloat? (cs : List Char) : Option Binary64 := do
  let (sign, body) := readSign cs
  let negative := sign = some true
  if body = ['i', 'n', 'f'] then pure (.infinite negative)
  else if body = ['n', 'a', 'n'] then pure .nan
  else do
    let isMark (c : Char) : Bool := c = 'e' || c = 'E'
    let mantissa := body.takeWhile fun c => !isMark c
    let power ← match body.dropWhile fun c => !isMark c with
      | [] => some none
      | _ :: rest => (readPower? rest).map some
    let whole := mantissa.takeWhile fun c => c ≠ '.'
    let places ← match mantissa.dropWhile fun c => c ≠ '.' with
      | [] => if power.isSome then some [] else none
      | _ :: rest => digitsOnly? Text.isDigit rest
    let whole ← wholeDigits? whole
    let x := Literal.nearest ⟨negative, whole, places, power.getD 0⟩
    if x = .infinite false then none else pure x

/-- A value that is not quoted. -/
def readBareValue? (cs : List Char) : Option ConfigValue :=
  if cs = ['t', 'r', 'u', 'e'] then some (.bool true)
  else if cs = ['f', 'a', 'l', 's', 'e'] then some (.bool false)
  else match readInteger? cs with
    | some i => some (.integer i)
    | none => (readFloat? cs).map .float

/-- A value, with what follows it. -/
def readValue? (cs : List Char) : Option (ConfigValue × List Char) :=
  if cs.head? = some '"' ∨ cs.head? = some '\'' then
    (readText? cs).map fun (s, rest) => (.text s, rest)
  else
    let isBody (c : Char) : Bool := isBare c || c = '+' || c = '.'
    (readBareValue? (cs.takeWhile isBody)).map fun v => (v, cs.dropWhile isBody)

/-! ### Documents -/

/-- What has been read of a file. -/
structure Document where
  root : ConfigValue := .table []
  /-- The table that keys are set in. -/
  current : List String := []
  /-- The tables that have had a header. -/
  headed : List (List String) := []
  /-- The tables made by dotted keys. -/
  dotted : List (List String) := []

/-- The value at a path of names. -/
def valueAt? (v : ConfigValue) : List String → Option ConfigValue
  | [] => some v
  | name :: rest => (v.get? name).bind fun inner => valueAt? inner rest

/-- Whether there is a table at a path, or nothing yet. -/
def isTableOrNothing (v : ConfigValue) (path : List String) : Bool :=
  match valueAt? v path with
  | none | some (.table _) => true
  | _ => false

/-- The beginnings of a path, from the empty one to the whole. -/
def beginnings (path : List String) : List (List String) :=
  (List.range (path.length + 1)).map fun n => path.take n

/-- A tree with a value at a path. -/
def setAt (value : ConfigValue) : List String → ConfigValue → ConfigValue
  | [], _ => value
  | name :: rest, v => v.put name (setAt value rest ((v.get? name).getD (.table [])))

/-- The document after a header. -/
def Document.header? (d : Document) (path : List String) : Option Document :=
  if d.headed.contains path || d.dotted.contains path then none
  else if !(beginnings path).all (isTableOrNothing d.root) then none
  else
    let table := (valueAt? d.root path).getD (.table [])
    some
      { d with
        root := setAt table path d.root, current := path, headed := path :: d.headed }

/-- The document after a key with its value. The tables that a dotted key leads through must not
have a header of their own, and the last of them must have been made by a dotted key, if not by
this one. -/
def Document.assign? (d : Document) (key : List String) (value : ConfigValue) : Option Document :=
  let path := d.current ++ key
  let tables := ((beginnings key).drop 1).dropLast.map (d.current ++ ·)
  let isFresh (table : List String) : Bool := (valueAt? d.root table).isNone
  let isOpen (table : List String) : Bool :=
    isTableOrNothing d.root table && !d.headed.contains table
  if !tables.all isOpen then none
  else if tables.getLast?.any fun table => !isFresh table && !d.dotted.contains table then none
  else if !isFresh path then none
  else
    some { d with root := setAt value path d.root, dotted := tables.filter isFresh ++ d.dotted }

/-- The document after what a line holds, with the rest of that line and all that follows. -/
def Document.entry? (d : Document) (cs : List Char) : Option (Document × List Char) :=
  match skipBlank cs with
  | '[' :: rest => do
    let (path, rest) ← readKey? (rest.length + 1) rest
    let ']' :: rest := rest | none
    pure (← d.header? path, rest)
  | cs => do
    let (key, rest) ← readKey? (cs.length + 1) cs
    let '=' :: rest := rest | none
    let (value, rest) ← readValue? (skipBlank rest)
    pure (← d.assign? key value, rest)

/-- The document after all lines. The argument `fuel` exceeds the length of the text. -/
def Document.lines? : Nat → Document → List Char → Option Document
  | _, d, [] => some d
  | 0, _, _ => none
  | fuel + 1, d, cs =>
    match endLine? cs with
    | some rest => d.lines? fuel rest
    | none => do
      let (d, rest) ← d.entry? cs
      d.lines? fuel (← endLine? rest)

/-- The entries of a file. A byte order mark at its beginning is no part of it. -/
def parse? (text : String) : Option (List (String × ConfigValue)) := do
  let cs := Text.withoutMark text.toList
  let document ← Document.lines? (cs.length + 1) {} cs
  pure document.root.entries

end FleetDeploy.Toml
