import FleetDeploy.Number.Reading
import FleetDeploy.Text.Lowercase

/-!
# Trees of configured values

Whatever a configuration comes from, a file or the environment, it becomes a tree of this type, and
trees are laid over one another. A table laid over a table goes key by key, at every depth; anything
else takes the place of what was there. A table laid over something that is not a table keeps only
what it has itself – and an empty one leaves the thing as it was, because there is no key at which
anything would be put.

Keys are compared without regard to case: a layer has them in any case, the tree that layers are
laid over has them in lower case.
-/

namespace FleetDeploy

/-- A configured value. A table has each key once, as it is written. -/
inductive ConfigValue
  | null
  | bool (value : Bool)
  | integer (value : Int)
  | float (value : Binary64)
  | text (value : String)
  | array (items : List ConfigValue)
  | table (entries : List (String × ConfigValue))

namespace ConfigValue

/-- The entries of a table; none of anything else. -/
def entries : ConfigValue → List (String × ConfigValue)
  | .table entries => entries
  | _ => []

/-- The value at a key of a table. -/
def get? (v : ConfigValue) (key : String) : Option ConfigValue := v.entries.lookup key

/-- The entries with a key set, at its place or at the end. -/
def putEntry (key : String) (value : ConfigValue) :
    List (String × ConfigValue) → List (String × ConfigValue)
  | [] => [(key, value)]
  | e :: rest => if e.1 = key then (key, value) :: rest else e :: putEntry key value rest

/-- The table with a key set. What is not a table becomes one. -/
def put (v : ConfigValue) (key : String) (value : ConfigValue) : ConfigValue :=
  .table (putEntry key value v.entries)

mutual

/-- A value laid over what is there, if anything is. -/
def overlay (existing : Option ConfigValue) : ConfigValue → ConfigValue
  | .table entries => overlayAll (existing.getD (.table [])) entries
  | value => value

/-- The entries of a table laid over a value, with their keys in lower case. -/
def overlayAll (target : ConfigValue) : List (String × ConfigValue) → ConfigValue
  | [] => target
  | (key, value) :: rest =>
    let key := Text.lowercase key
    overlayAll (target.put key (overlay (target.get? key) value)) rest

end

/-! ### Paths -/

/-- One step of a path into a tree. A place below zero is counted from the end of an array. -/
inductive Segment
  | key (name : String)
  | index (place : Int)
  deriving DecidableEq

/-- The items of an array; none of anything else. -/
def items : ConfigValue → List ConfigValue
  | .array items => items
  | _ => []

/-- The place among the items that is meant. What would lie before the first item is the first. -/
def placeOf (v : ConfigValue) (place : Int) : Nat :=
  if 0 ≤ place then place.toNat else v.items.length - place.natAbs

/-- The array with an item set. What is not an array becomes one, filled up with nulls. -/
def putItem (v : ConfigValue) (place : Nat) (value : ConfigValue) : ConfigValue :=
  .array ((v.items ++ List.replicate (place + 1 - v.items.length) ConfigValue.null).set place value)

/-- A tree with a value laid at a path. What is in the way of the path is replaced. -/
def layAt (value : ConfigValue) : List Segment → ConfigValue → ConfigValue
  | [], _ => value
  | [.key name], tree => tree.put name (overlay (tree.get? name) value)
  | [.index place], tree => tree.putItem (tree.placeOf place) value
  | .key name :: rest, tree =>
    tree.put name (layAt value rest ((tree.get? name).getD .null))
  | .index place :: rest, tree =>
    let place := tree.placeOf place
    tree.putItem place (layAt value rest (tree.items[place]?.getD .null))

/-- Whether a character may stand in a name of a path. -/
def isNameChar (c : Char) : Bool :=
  c.isAlphanum || c = '_' || c = '-' || c = ' '

/-- A name at the front of a path, in lower case, with what follows it. -/
def readName? (cs : List Char) : Option (String × List Char) :=
  let name := cs.takeWhile isNameChar
  if name.isEmpty then none
  else some (Text.lowercase (String.ofList name), cs.dropWhile isNameChar)

/-- The text without the blanks at its front. -/
def skipBlank (cs : List Char) : List Char := cs.dropWhile fun c => c = ' ' || c = '\t'

/-- A place of an array between its brackets, with what follows the closing one. It has 64 bits and
may have blanks around it. -/
def readPlace? (cs : List Char) : Option (Int × List Char) := do
  let cs := skipBlank cs
  let (negative, cs) := match cs with
    | '-' :: rest => (true, rest)
    | _ => (false, cs)
  let n ← Text.readNat? (cs.takeWhile Text.isDigit)
  let ']' :: rest := skipBlank (cs.dropWhile Text.isDigit) | none
  if negative then
    if n ≤ Text.signedLimit then pure (-(n : Int), rest) else none
  else if n < Text.signedLimit then pure ((n : Int), rest) else none

/-- The steps of a path after its first name: names after points, places between brackets. The
argument `fuel` exceeds the length of the text. -/
def readSteps? : Nat → List Char → Option (List Segment)
  | _, [] => some []
  | 0, _ => none
  | fuel + 1, '.' :: rest => do
    let (name, rest) ← readName? rest
    let steps ← readSteps? fuel rest
    pure (.key name :: steps)
  | fuel + 1, '[' :: rest => do
    let (place, rest) ← readPlace? rest
    let steps ← readSteps? fuel rest
    pure (.index place :: steps)
  | _, _ => none

/-- The path that a key is, with its names in lower case. A key that is not written as a path is a
single name. -/
def pathOf (key : String) : List Segment :=
  let path := do
    let (name, rest) ← readName? key.toList
    let steps ← readSteps? (rest.length + 1) rest
    pure (Segment.key name :: steps)
  path.getD [.key (Text.lowercase key)]

/-- A tree with the entries of a layer laid over it, each at the path that its key is. -/
def layOver (tree : ConfigValue) (layer : List (String × ConfigValue)) : ConfigValue :=
  layer.foldl (fun tree e => layAt e.2 (pathOf e.1) tree) tree

end ConfigValue

end FleetDeploy
