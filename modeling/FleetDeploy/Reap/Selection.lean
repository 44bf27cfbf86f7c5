import FleetDeploy.Reap.Usage

/-!
# Which versions may go

Of the versions of a service the newest are kept, as many as the retention policy says. Of the older
ones those in use stay, and the idle ones may be removed.
-/

namespace FleetDeploy

/-- The versions of a service, sorted by what becomes of them; each list ascends. -/
structure ReapSelection where
  kept : List Version := []
  inUse : List Version := []
  reapable : List Version := []
  deriving DecidableEq

/-- What becomes of the versions when the newest `keep` are kept. -/
def ReapSelection.of (usage : VersionUsage) (keep : Nat) : ReapSelection :=
  let versions := usage.keys
  if versions.length ≤ keep then { kept := versions }
  else
    let candidates := versions.take (versions.length - keep)
    let busy (v : Version) : Bool := decide (0 < usage.getD v 0)
    { kept := versions.drop (versions.length - keep)
      inUse := candidates.filter busy
      reapable := candidates.filter fun v => !busy v }

end FleetDeploy
