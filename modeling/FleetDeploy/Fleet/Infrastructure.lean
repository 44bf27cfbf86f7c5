import FleetDeploy.Program

/-!
# Infrastructure in memory

The server groups of a fleet as a finite map, with a record of every call and with faults that can
be arranged beforehand: an inspection, a provisioning or a deletion that fails, a provisioning that
crashes. A provisioning makes one server group with one instance and has it serve; a deletion takes
one away and looks at nothing else. A service whose versions have reached the last number there is
cannot be provisioned any more, and an attempt crashes.
-/

namespace FleetDeploy

/-- The server groups of a fleet, the calls made on them, and the faults arranged. -/
structure Infrastructure where
  running : SortedMap ServiceName RunningService := ∅
  inspected : List ServiceName := []
  ensured : List (ServiceName × Bool) := []
  deleted : List (ServiceName × Version) := []
  inspectionFailures : SortedMap ServiceName Problem := ∅
  ensureFailures : SortedMap ServiceName Problem := ∅
  deleteFailures : List ((ServiceName × Version) × Problem) := []
  crashing : List ServiceName := []
  deriving Inhabited

namespace Infrastructure

/-! ### Arranging -/

/-- The infrastructure with the server groups of one service set. -/
def setRunning (i : Infrastructure) (details : RunningService) : Infrastructure :=
  { i with running := i.running.insert details.service details }

/-- The infrastructure with inspections of a service failing. -/
def failInspection (i : Infrastructure) (service : ServiceName) (p : Problem) : Infrastructure :=
  { i with inspectionFailures := i.inspectionFailures.insert service p }

/-- The infrastructure with provisionings of a service failing. -/
def failEnsure (i : Infrastructure) (service : ServiceName) (p : Problem) : Infrastructure :=
  { i with ensureFailures := i.ensureFailures.insert service p }

/-- The infrastructure with deletions of one version of a service failing. -/
def failDelete (i : Infrastructure) (service : ServiceName) (version : Version) (p : Problem) :
    Infrastructure :=
  { i with deleteFailures := ((service, version), p) :: i.deleteFailures }

/-- The infrastructure with provisionings of a service crashing. -/
def crashEnsure (i : Infrastructure) (service : ServiceName) : Infrastructure :=
  { i with crashing := service :: i.crashing }

/-! ### Looking -/

/-- The server groups of a service, if it has ever been deployed. -/
def running? (i : Infrastructure) (service : ServiceName) : Option RunningService :=
  i.running.get? service

/-- The server groups of a service, none if it has never been deployed. -/
def details (i : Infrastructure) (service : ServiceName) : RunningService :=
  (i.running? service).getD (.empty service)

/-- How many calls were made that change something, or would have. -/
def mutationCount (i : Infrastructure) : Nat := i.ensured.length + i.deleted.length

/-! ### Calls -/

/-- Takes a snapshot of a service. -/
def inspect (i : Infrastructure) (service : ServiceName) :
    Except DeployError RunningService × Infrastructure :=
  let answer := match i.inspectionFailures.get? service with
    | some p => .error (.problem p)
    | none => .ok (i.details service)
  (answer, { i with inspected := i.inspected ++ [service] })

/-- The name of the one instance of a new server group. -/
def instanceName (service : ServiceName) (version : Version) : InstanceId :=
  service ++ "-v" ++ Text.natText version.toNat

/-- The version that a provisioning makes: the one after the newest, or the first. -/
def nextVersion? (details : RunningService) : Option Version :=
  match details.versions.getLast? with
  | some newest => newest.next?
  | none => some 1

/-- The server groups of a service after a new one has been made. -/
def provisioned (details : RunningService) (service : ServiceName) (version : Version) :
    RunningService :=
  (details.withVersion version [instanceName service version]).withLatestEnabled version

/-- What becomes of a provisioning. -/
inductive Provisioning
  | crashed (text : String)
  | failed (problem : Problem)
  | made (details : RunningService)

/-- What becomes of provisioning a service. -/
def provision (i : Infrastructure) (service : ServiceName) : Provisioning :=
  if i.crashing.contains service then
    .crashed ("provisioner crashed while deploying " ++ service)
  else match i.ensureFailures.get? service with
    | some p => .failed p
    | none =>
      let details := i.details service
      match nextVersion? details with
      | some version => .made (provisioned details service version)
      | none => .crashed "attempt to add with overflow"

/-- Brings up a server group of a service, or fails with a problem, or crashes with a text. -/
def ensureRunning (i : Infrastructure) (service : ServiceName) (safeToUpdate : Bool) :
    Except String (Except DeployError Unit) × Infrastructure :=
  let noted := { i with ensured := i.ensured ++ [(service, safeToUpdate)] }
  match i.provision service with
  | .crashed text => (.error text, noted)
  | .failed p => (.ok (.error (.problem p)), noted)
  | .made details => (.ok (.ok ()), { noted with running := i.running.insert service details })

/-- The problem arranged for deleting a version of a service. -/
def deleteFailure? (i : Infrastructure) (service : ServiceName) (version : Version) :
    Option Problem :=
  (i.deleteFailures.find? fun f => f.1 = (service, version)).map (·.2)

/-- The infrastructure without a version of a service. -/
def withoutVersion (i : Infrastructure) (service : ServiceName) (version : Version) :
    Infrastructure :=
  match i.running? service with
  | some details => { i with running := i.running.insert service (details.withoutVersion version) }
  | none => i

/-- Removes a server group of a service. -/
def deleteVersion (i : Infrastructure) (service : ServiceName) (version : Version) :
    Except DeployError Unit × Infrastructure :=
  let noted := { i with deleted := i.deleted ++ [(service, version)] }
  match i.deleteFailure? service version with
  | some p => (.error (.problem p), noted)
  | none => (.ok (), noted.withoutVersion service version)

end Infrastructure

end FleetDeploy
