import FleetDeploy.Wire.Variant

/-!
# Executions

What is submitted to the pipeline engine becomes an execution, named by a reference, with a status
that changes until it is terminal. The engine also tells which bakes it knows of and how many
executions are active on the instances of a service.
-/

namespace FleetDeploy

/-- The engine's name of an execution. -/
abbrev ExecutionRef := String

/-- The two things an engine executes. -/
inductive ExecutionKind
  | task
  | pipeline
  deriving DecidableEq, Inhabited

namespace ExecutionKind

/-- Both kinds. -/
def all : List ExecutionKind := [.task, .pipeline]

/-- A kind as it travels. -/
def word : ExecutionKind → String
  | .task => "task"
  | .pipeline => "pipeline"

/-- A kind on the wire. -/
def codec : Codec ExecutionKind := .words all word

end ExecutionKind

/-- Where an execution stands. -/
inductive ExecutionStatus
  | notStarted
  | running
  | paused
  | succeeded
  | failed
  | canceled
  | terminal
  deriving DecidableEq, Inhabited

namespace ExecutionStatus

/-- All statuses. -/
def all : List ExecutionStatus :=
  [.notStarted, .running, .paused, .succeeded, .failed, .canceled, .terminal]

/-- A status as it travels. -/
def word : ExecutionStatus → String
  | .notStarted => "NOT_STARTED"
  | .running => "RUNNING"
  | .paused => "PAUSED"
  | .succeeded => "SUCCEEDED"
  | .failed => "FAILED"
  | .canceled => "CANCELED"
  | .terminal => "TERMINAL"

/-- A status as people read it. -/
def display : ExecutionStatus → String
  | .notStarted => "NotStarted"
  | .running => "Running"
  | .paused => "Paused"
  | .succeeded => "Succeeded"
  | .failed => "Failed"
  | .canceled => "Canceled"
  | .terminal => "Terminal"

/-- Whether the status will not change any more. -/
def isTerminal : ExecutionStatus → Bool
  | .succeeded | .failed | .canceled | .terminal => true
  | .notStarted | .running | .paused => false

/-- Whether the execution did what it was to do. -/
def isSuccess : ExecutionStatus → Bool
  | .succeeded => true
  | _ => false

/-- A status on the wire. -/
def codec : Codec ExecutionStatus := .words all word

end ExecutionStatus

/-- Where the baking of an image stands. -/
inductive BakeStatus
  | running
  | completed
  | canceled
  deriving DecidableEq, Inhabited

namespace BakeStatus

/-- All statuses. -/
def all : List BakeStatus := [.running, .completed, .canceled]

/-- A status as it travels. -/
def word : BakeStatus → String
  | .running => "RUNNING"
  | .completed => "COMPLETED"
  | .canceled => "CANCELED"

/-- A status on the wire. -/
def codec : Codec BakeStatus := .words all word

end BakeStatus

/-- The engine's answer to a submission. -/
structure Submission where
  reference : ExecutionRef
  deriving DecidableEq, Inhabited

/-- A submission on the wire. -/
def Submission.record : Record Submission where
  types := [ExecutionRef]
  fields := .cons (.required "ref" .text) .nil
  pack := fun (reference, ()) => ⟨reference⟩
  unpack s := (s.reference, ())

/-- How many executions are active on an instance. -/
structure ActiveExecutions where
  count : UInt32
  deriving DecidableEq, Inhabited

/-- A number of active executions on the wire. -/
def ActiveExecutions.record : Record ActiveExecutions where
  types := [UInt32]
  fields := .cons (.required "count" .uint32) .nil
  pack := fun (count, ()) => ⟨count⟩
  unpack a := (a.count, ())

end FleetDeploy
