import FleetDeploy.Problem

/-!
# Settings

What the operator has configured for the services at the time of a call: `ServiceSettings` for one
of them, `RuntimeSettings` for all, and `ResolvedConfiguration` with the profile files besides. The
deployer reads them and never changes them.
-/

namespace FleetDeploy

/-- What is configured for one service. -/
structure ServiceSettings where
  enabled : Bool
  /-- Whether the service may be updated by a pipeline while it runs. -/
  safeToUpdate : Bool
  artifact : Option String := none
  port : Option UInt16 := none
  address : Option String := none
  deriving DecidableEq, Inhabited

namespace ServiceSettings

/-- The settings of a service that is enabled and safe to update. -/
def on : ServiceSettings := ⟨true, true, none, none, none⟩

/-- The settings of a service that is not enabled. -/
def off : ServiceSettings := ⟨false, true, none, none, none⟩

/-- The settings of a service that must not be updated while it runs. -/
def notSafeToUpdate (s : ServiceSettings) : ServiceSettings := { s with safeToUpdate := false }

/-- The settings with an artifact to deploy. -/
def withArtifact (s : ServiceSettings) (artifact : String) : ServiceSettings :=
  { s with artifact := some artifact }

/-- The settings with a port to listen on. -/
def withPort (s : ServiceSettings) (port : UInt16) : ServiceSettings := { s with port := some port }

/-- The settings of a service on the wire. -/
def record : Record ServiceSettings where
  types := [Bool, Bool, Option String, Option UInt16, Option String]
  fields :=
    .cons (.required "enabled" .bool) <|
    .cons (.required "safe_to_update" .bool) <|
    .cons (.absentByDefault "artifact" .text) <|
    .cons (.absentByDefault "port" .uint16) <|
    .cons (.absentByDefault "address" .text) .nil
  pack := fun (enabled, safeToUpdate, artifact, port, address, ()) =>
    ⟨enabled, safeToUpdate, artifact, port, address⟩
  unpack s := (s.enabled, s.safeToUpdate, s.artifact, s.port, s.address, ())

end ServiceSettings

/-- What is configured for every service. -/
structure RuntimeSettings where
  services : SortedMap ServiceName ServiceSettings := ∅
  deriving DecidableEq, Inhabited

namespace RuntimeSettings

/-- The settings of one service. -/
def get? (s : RuntimeSettings) (name : ServiceName) : Option ServiceSettings := s.services.get? name

/-- Whether a service is configured and enabled. -/
def isEnabled (s : RuntimeSettings) (name : ServiceName) : Bool :=
  match s.get? name with
  | some settings => settings.enabled
  | none => false

/-- The settings with those of one service replaced. -/
def withService (s : RuntimeSettings) (name : ServiceName) (settings : ServiceSettings) :
    RuntimeSettings :=
  ⟨s.services.insert name settings⟩

/-- The settings of all services on the wire. -/
def record : Record RuntimeSettings where
  types := [SortedMap ServiceName ServiceSettings]
  fields := .cons (.defaulted "services" (.map .text ServiceSettings.record.codec) ∅) .nil
  pack := fun (services, ()) => ⟨services⟩
  unpack s := (s.services, ())

end RuntimeSettings

/-- A staged configuration that a server group mounts. -/
structure ConfigSource where
  id : String
  mountPath : String
  deriving DecidableEq, Inhabited

/-- A staged configuration on the wire. -/
def ConfigSource.record : Record ConfigSource where
  types := [String, String]
  fields := .cons (.required "id" .text) <| .cons (.required "mount_path" .text) .nil
  pack := fun (id, mountPath, ()) => ⟨id, mountPath⟩
  unpack s := (s.id, s.mountPath, ())

/-- The settings together with the profile files of each service. -/
structure ResolvedConfiguration where
  runtimeSettings : RuntimeSettings
  profiles : SortedMap ServiceName (SortedMap String String) := ∅
  deriving DecidableEq, Inhabited

namespace ResolvedConfiguration

/-- The settings of one service. -/
def settings? (r : ResolvedConfiguration) (name : ServiceName) : Option ServiceSettings :=
  r.runtimeSettings.get? name

/-- The profile files of one service. -/
def profiles? (r : ResolvedConfiguration) (name : ServiceName) :
    Option (SortedMap String String) :=
  r.profiles.get? name

/-- The configuration with one profile file set. -/
def withProfile (r : ResolvedConfiguration) (service : ServiceName) (file contents : String) :
    ResolvedConfiguration :=
  { r with
    profiles := r.profiles.alter service fun files => (files.getD ∅).insert file contents }

/-- A resolved configuration on the wire. -/
def record : Record ResolvedConfiguration where
  types := [RuntimeSettings, SortedMap ServiceName (SortedMap String String)]
  fields :=
    .cons (.required "runtime_settings" RuntimeSettings.record.codec) <|
    .cons (.defaulted "profiles" (.map .text (.map .text .text)) ∅) .nil
  pack := fun (runtimeSettings, profiles, ()) => ⟨runtimeSettings, profiles⟩
  unpack r := (r.runtimeSettings, r.profiles, ())

end ResolvedConfiguration

end FleetDeploy
