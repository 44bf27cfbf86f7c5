import FleetDeploy.Program

/-!
# A cache in memory

The keys of the infrastructure's cache. A pattern that ends in a star stands for every key that
starts with what is before the star; any other pattern stands for itself. A star elsewhere is a
character like all others.
-/

namespace FleetDeploy

/-- The keys of a cache, and the services for which a flush fails. -/
structure KeySpace where
  keys : SortedSet String := ∅
  failures : SortedMap ServiceName Problem := ∅
  deriving Inhabited

namespace KeySpace

/-- Whether a key is one that a pattern stands for. -/
def covers (pattern key : String) : Bool :=
  match pattern.toList.getLast? with
  | some '*' => pattern.toList.dropLast.isPrefixOf key.toList
  | _ => decide (key = pattern)

/-- The cache with more keys. -/
def insertKeys (k : KeySpace) (keys : List String) : KeySpace :=
  { k with keys := keys.foldl (fun s key => s.insert key) k.keys }

/-- The cache with flushes for a service failing. -/
def failFor (k : KeySpace) (service : ServiceName) (p : Problem) : KeySpace :=
  { k with failures := k.failures.insert service p }

/-- Removes the keys that a pattern stands for, and tells how many there were. -/
def flush (k : KeySpace) (service : ServiceName) (pattern : String) :
    Except DeployError Nat × KeySpace :=
  match k.failures.get? service with
  | some p => (.error (.problem p), k)
  | none =>
    let kept := k.keys.filter fun key => !covers pattern key
    (.ok (k.keys.size - kept.size), { k with keys := kept })

end KeySpace

end FleetDeploy
