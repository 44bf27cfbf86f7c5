import FleetDeploy.Service

/-!
# How many versions stay

The retention policy says how many of the newest server groups of a service survive a deployment.
For a stateless service the rollout itself is told to keep to that number and to scale the rest
down; a stateful service keeps all of its server groups.
-/

namespace FleetDeploy

/-- How many of the newest versions are kept. -/
structure RetentionPolicy where
  maxRemaining : UInt32 := 2
  deriving DecidableEq, Inhabited

namespace RetentionPolicy

/-- Whether anything is kept at all; a policy that keeps nothing is refused. -/
def isValid (p : RetentionPolicy) : Bool := decide (0 < p.maxRemaining)

/-- The number of versions kept. -/
def keep (p : RetentionPolicy) : Nat := p.maxRemaining.toNat

/-- A retention policy on the wire. -/
def record : Record RetentionPolicy where
  types := [UInt32]
  fields := .cons (.defaulted "max_remaining_versions" .uint32 2) .nil
  pack := fun (maxRemaining, ()) => ⟨maxRemaining⟩
  unpack p := (p.maxRemaining, ())

end RetentionPolicy

/-- What a rollout does with the server groups that it replaces. -/
structure RolloutParameters where
  /-- How many server groups may remain; any number if absent. -/
  maxRemaining : Option UInt32
  /-- Whether replaced server groups are scaled down. -/
  scaleDown : Bool
  deriving DecidableEq, Inhabited

namespace RolloutParameters

/-- The parameters of a rollout of a service under a policy. -/
def forService (service : Service) (policy : RetentionPolicy) : RolloutParameters :=
  if service.stateful then ⟨none, false⟩ else ⟨some policy.maxRemaining, true⟩

/-- Rollout parameters on the wire. -/
def record : Record RolloutParameters where
  types := [Option UInt32, Bool]
  fields := .cons (.optional "max_remaining" .uint32) <| .cons (.required "scale_down" .bool) .nil
  pack := fun (maxRemaining, scaleDown, ()) => ⟨maxRemaining, scaleDown⟩
  unpack p := (p.maxRemaining, p.scaleDown, ())

end RolloutParameters

end FleetDeploy
