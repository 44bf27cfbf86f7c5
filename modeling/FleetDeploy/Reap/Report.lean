import FleetDeploy.Running

/-!
# Reports of reaping

What one pass over the versions of a service did: what it kept, what it spared because it is in use,
what it deleted, and what it could not delete and why.
-/

namespace FleetDeploy

/-- A version that could not be deleted. -/
structure ReapFailure where
  version : Version
  message : String
  deriving DecidableEq, Inhabited

/-- A failed deletion on the wire. -/
def ReapFailure.record : Record ReapFailure where
  types := [Version, String]
  fields := .cons (.required "version" Version.codec) <| .cons (.required "message" .text) .nil
  pack := fun (version, message, ()) => ⟨version, message⟩
  unpack f := (f.version, f.message, ())

/-- What one pass over the versions of a service did. -/
structure ReapReport where
  service : ServiceName
  kept : List Version := []
  inUse : List Version := []
  deleted : List Version := []
  failed : List ReapFailure := []
  deriving DecidableEq, Inhabited

/-- A report of reaping on the wire. -/
def ReapReport.record : Record ReapReport where
  types := [ServiceName, List Version, List Version, List Version, List ReapFailure]
  fields :=
    .cons (.required "service" .text) <|
    .cons (.required "kept" (.list Version.codec)) <|
    .cons (.required "in_use" (.list Version.codec)) <|
    .cons (.required "deleted" (.list Version.codec)) <|
    .cons (.required "failed" (.list ReapFailure.record.codec)) .nil
  pack := fun (service, kept, inUse, deleted, failed, ()) =>
    ⟨service, kept, inUse, deleted, failed⟩
  unpack r := (r.service, r.kept, r.inUse, r.deleted, r.failed, ())

end FleetDeploy
