import FleetDeploy.Version
import FleetDeploy.Problem

/-!
# What is running

A snapshot of one service: the server groups that exist, by version, with the instances in each,
the version that is serving, and whether there is a load balancer. Snapshots are taken when a call
plans its work and are not looked at again while the work is carried out.
-/

namespace FleetDeploy

/-- The name of one instance of a server group. -/
abbrev InstanceId := String

/-- Whether a service has a load balancer. -/
structure LoadBalancer where
  present : Bool := false
  deriving DecidableEq, Inhabited

/-- A load balancer on the wire. -/
def LoadBalancer.record : Record LoadBalancer where
  types := [Bool]
  fields := .cons (.required "exists" .bool) .nil
  pack := fun (present, ()) => ⟨present⟩
  unpack l := (l.present, ())

/-- The server groups of a service at one moment. -/
structure RunningService where
  service : ServiceName
  instances : SortedMap Version (SortedSet InstanceId) := ∅
  latestEnabled : Option Version := none
  loadBalancer : LoadBalancer := {}
  deriving DecidableEq, Inhabited

namespace RunningService

/-- The snapshot of a service that has never been deployed. -/
def empty (service : ServiceName) : RunningService := { service }

/-- The snapshot with a server group of these instances, in place of any of the same version. -/
def withVersion (r : RunningService) (version : Version) (instances : List InstanceId) :
    RunningService :=
  { r with instances := r.instances.insert version (.ofList instances) }

/-- The snapshot with another version serving. -/
def withLatestEnabled (r : RunningService) (version : Version) : RunningService :=
  { r with latestEnabled := some version }

/-- The snapshot with a load balancer. -/
def withLoadBalancer (r : RunningService) : RunningService :=
  { r with loadBalancer := ⟨true⟩ }

/-- The snapshot without a version. -/
def withoutVersion (r : RunningService) (version : Version) : RunningService :=
  { r with instances := r.instances.erase version }

/-- The versions that exist, oldest first. -/
def versions (r : RunningService) : List Version := r.instances.keys

/-- How many versions exist. -/
def versionCount (r : RunningService) : Nat := r.instances.size

/-- Whether there is a load balancer. -/
def hasLoadBalancer (r : RunningService) : Bool := r.loadBalancer.present

/-- A snapshot on the wire. -/
def record : Record RunningService where
  types := [ServiceName, SortedMap Version (SortedSet InstanceId), Option Version, LoadBalancer]
  fields :=
    .cons (.required "service" .text) <|
    .cons (.defaulted "instances" (.map Version.keyCodec (.set .text)) ∅) <|
    .cons (.absentByDefault "latest_enabled_version" Version.codec) <|
    .cons (.defaulted "load_balancer" LoadBalancer.record.codec {}) .nil
  pack := fun (service, instances, latestEnabled, loadBalancer, ()) =>
    ⟨service, instances, latestEnabled, loadBalancer⟩
  unpack r := (r.service, r.instances, r.latestEnabled, r.loadBalancer, ())

end RunningService

end FleetDeploy
