import FleetDeploy.Execution
import FleetDeploy.Problem

/-!
# Errors

Why a call of the deployer, or of one of its collaborators, fails. An error has a grade and a text
of its own; when it is what became of one unit of a batch, it is turned into a problem of that
unit's service (`DeployError.toProblem`). The grade survives the passage, and a problem that names a
service already keeps it.
-/

namespace FleetDeploy

/-- Why a call fails. -/
inductive DeployError
  /-- A collaborator reports a problem. -/
  | problem (problem : Problem)
  /-- A service is not in the state that the call needs. -/
  | precondition (service : ServiceName) (reason : String)
  /-- The problems of a batch lie above the threshold. -/
  | aggregate (threshold : Severity) (problems : ProblemSet)
  /-- The catalog has no service of that name. -/
  | unknownService (service : ServiceName)
  /-- Nothing is configured for a service. -/
  | missingSettings (service : ServiceName)
  /-- An execution ended without success. -/
  | executionFailed (reference : ExecutionRef) (status : ExecutionStatus)
  /-- An execution did not end in time. -/
  | timeout (operation : String)
  /-- The task of a service crashed. -/
  | taskPanicked (service : ServiceName) (message : String)
  /-- A collaborator cannot do what it is asked. -/
  | collaborator (message : String)
  /-- The configuration cannot be read. -/
  | configuration (message : String)
  /-- The configuration, or the deployer put together from it, is not usable. -/
  | invalidConfiguration (message : String)
  /-- Something that should not happen. -/
  | internal (message : String)
  deriving DecidableEq, Inhabited

namespace DeployError

/-- The text of an error. -/
def message : DeployError → String
  | .problem p => p.display
  | .precondition service reason => "Precondition failed for " ++ service ++ ": " ++ reason
  | .aggregate threshold problems =>
    Text.natText problems.size ++ " problem(s) exceeded " ++ threshold.display ++ ": " ++
      problems.display
  | .unknownService service => "Unknown service: " ++ service
  | .missingSettings service => "No runtime settings for service " ++ service
  | .executionFailed reference status =>
    "Execution " ++ reference ++ " finished with status " ++ status.display
  | .timeout operation => "Timeout waiting for " ++ operation
  | .taskPanicked service message => "Task for " ++ service ++ " panicked: " ++ message
  | .collaborator message => "Collaborator error: " ++ message
  | .configuration message => "Configuration error: " ++ message
  | .invalidConfiguration message => "Invalid configuration: " ++ message
  | .internal message => "Internal error: " ++ message

/-- The grade of an error: that of the problem or problems it carries, otherwise `fatal`. -/
def severity : DeployError → Severity
  | .problem p => p.severity
  | .aggregate _ problems => problems.maxSeverity
  | _ => .fatal

/-- The error as a problem of `service`, unless it is a problem of some service already. -/
def toProblem (e : DeployError) (service : ServiceName) : Problem :=
  match e with
  | .problem p => if p.service.isSome then p else p.forService service
  | e => ⟨e.severity, e.message, some service, none⟩

end DeployError

end FleetDeploy
