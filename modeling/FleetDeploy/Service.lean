import FleetDeploy.Problem

/-!
# Services

A `Service` is one deployable component of the fleet as the catalog knows it: what never changes
while the deployer runs. The settings that operators turn, such as whether a service is enabled,
are kept apart, in `FleetDeploy.Settings`.
-/

namespace FleetDeploy

/-- The part a service plays, where the deployer treats it specially. -/
inductive ServiceKind
  /-- Runs pipelines; its old server groups are reaped once no execution needs them. -/
  | pipelineRunner
  /-- Bakes images; its old server groups are reaped once no bake needs them. -/
  | imageBaker
  /-- Holds the caches of the infrastructure. -/
  | cacheStore
  /-- Any other service. -/
  | standard
  deriving DecidableEq, Inhabited

namespace ServiceKind

/-- All kinds. -/
def all : List ServiceKind := [.pipelineRunner, .imageBaker, .cacheStore, .standard]

/-- A kind as it travels. -/
def word : ServiceKind → String
  | .pipelineRunner => "pipeline_runner"
  | .imageBaker => "image_baker"
  | .cacheStore => "cache_store"
  | .standard => "standard"

/-- A kind on the wire. -/
def codec : Codec ServiceKind := .words all word

end ServiceKind

/-- Whether logs of a service can be collected. -/
inductive LogCapability
  | collectable
  | unsupported
  deriving DecidableEq, Inhabited

namespace LogCapability

/-- Both capabilities. -/
def all : List LogCapability := [.collectable, .unsupported]

/-- A capability as it travels. -/
def word : LogCapability → String
  | .collectable => "collectable"
  | .unsupported => "unsupported"

/-- A capability on the wire. -/
def codec : Codec LogCapability := .words all word

end LogCapability

/-- One component of the fleet. -/
structure Service where
  name : ServiceName
  kind : ServiceKind := .standard
  /-- Services of higher priority come first. -/
  priority : UInt32 := 0
  /-- Whether the fleet cannot start without it, so that it is never driven by pipelines. -/
  requiredToBootstrap : Bool := false
  /-- Whether its server groups hold state, so that a rollout must not remove old ones. -/
  stateful : Bool := false
  logCapability : LogCapability := .unsupported
  deriving DecidableEq, Inhabited

namespace Service

/-- The service with a kind. -/
def withKind (s : Service) (kind : ServiceKind) : Service := { s with kind := kind }

/-- The service as one that the fleet needs to start. -/
def bootstrap (s : Service) : Service := { s with requiredToBootstrap := true }

/-- The service as one with state. -/
def withState (s : Service) : Service := { s with stateful := true }

/-- The service as one whose logs can be collected. -/
def withLogCollection (s : Service) : Service := { s with logCapability := .collectable }

/-- A service on the wire. -/
def record : Record Service where
  types := [ServiceName, ServiceKind, UInt32, Bool, Bool, LogCapability]
  fields :=
    .cons (.required "name" .text) <|
    .cons (.defaulted "kind" ServiceKind.codec .standard) <|
    .cons (.defaulted "priority" .uint32 0) <|
    .cons (.defaulted "required_to_bootstrap" .bool false) <|
    .cons (.defaulted "stateful" .bool false) <|
    .cons (.defaulted "log_capability" LogCapability.codec .unsupported) .nil
  pack := fun (name, kind, priority, requiredToBootstrap, stateful, logCapability, ()) =>
    ⟨name, kind, priority, requiredToBootstrap, stateful, logCapability⟩
  unpack s := (s.name, s.kind, s.priority, s.requiredToBootstrap, s.stateful, s.logCapability, ())

end Service

end FleetDeploy
