import FleetDeploy.Program

/-!
# A pipeline engine in memory

The engine keeps what is submitted and numbers what it accepts; tasks and pipelines share one
sequence. An execution goes through the statuses of a script, one for each query, and stays at the
last of them; an execution without a script has succeeded by the first query. Faults are arranged by
service: submissions that are rejected, and executions that end in a given status.
-/

namespace FleetDeploy

/-- What an engine was given, where its executions stand, and the faults arranged. The sequence and
the numbers of queries are natural numbers, where an engine at work has 64 bits for each of them.
They start at zero and a call raises one of them by one at most, so that it would take `2 ^ 64`
calls for the difference to be seen, more than any process lives to make. -/
structure Engine where
  /-- The number of the next submission that is accepted. -/
  sequence : Nat := 0
  tasks : List TaskDefinition := []
  pipelines : List PipelineDefinition := []
  scripts : SortedMap ExecutionRef (List ExecutionStatus) := ∅
  queries : SortedMap ExecutionRef Nat := ∅
  executionFailures : SortedMap ServiceName ExecutionStatus := ∅
  rejections : SortedMap ServiceName Problem := ∅
  bakes : SortedMap String BakeStatus := ∅
  active : SortedMap String ActiveExecutions := ∅
  /-- Whether the tables of what is in use cannot be had. -/
  usageUnavailable : Bool := false
  deriving Inhabited

namespace Engine

/-! ### Arranging -/

/-- The engine with a script for an execution, in place of any it has. -/
def script (e : Engine) (reference : ExecutionRef) (statuses : List ExecutionStatus) : Engine :=
  { e with scripts := e.scripts.insert reference statuses }

/-- The engine with executions for a service ending in a status. -/
def failExecutions (e : Engine) (service : ServiceName) (status : ExecutionStatus) : Engine :=
  { e with executionFailures := e.executionFailures.insert service status }

/-- The engine with submissions for a service rejected. -/
def rejectSubmissions (e : Engine) (service : ServiceName) (p : Problem) : Engine :=
  { e with rejections := e.rejections.insert service p }

/-- The engine with a bake in a status. -/
def setBake (e : Engine) (key : String) (status : BakeStatus) : Engine :=
  { e with bakes := e.bakes.insert key status }

/-- The engine with a number of active executions. -/
def setActive (e : Engine) (key : String) (count : UInt32) : Engine :=
  { e with active := e.active.insert key ⟨count⟩ }

/-- The engine with the tables of what is in use out of reach. -/
def failUsage (e : Engine) : Engine := { e with usageUnavailable := true }

/-! ### Submissions -/

/-- The name of an execution. -/
def referenceOf (kind : ExecutionKind) (sequence : Nat) : ExecutionRef :=
  "/" ++ kind.word ++ "s/" ++ Text.natText sequence

/-- The problem with which a submission for a service is rejected. -/
def rejection? (e : Engine) (service : Option ServiceName) : Option Problem :=
  service.bind fun s => e.rejections.get? s

/-- The script that an accepted submission for a service gets. -/
def scriptFor? (e : Engine) (service : Option ServiceName) : Option (List ExecutionStatus) :=
  (service.bind fun s => e.executionFailures.get? s).map fun status => [.running, status]

/-- Accepts or rejects a submission for a service. -/
def submit (e : Engine) (kind : ExecutionKind) (service : Option ServiceName) :
    Except DeployError Submission × Engine :=
  match e.rejection? service with
  | some p => (.error (.problem p), e)
  | none =>
    let reference := referenceOf kind e.sequence
    let accepted := { e with sequence := e.sequence + 1 }
    (.ok ⟨reference⟩, match e.scriptFor? service with
      | some statuses => accepted.script reference statuses
      | none => accepted)

/-- Takes a task. -/
def submitTask (e : Engine) (task : TaskDefinition) : Except DeployError Submission × Engine :=
  { e with tasks := e.tasks ++ [task] }.submit .task task.service?

/-- Takes a pipeline. -/
def orchestrate (e : Engine) (pipeline : PipelineDefinition) :
    Except DeployError Submission × Engine :=
  { e with pipelines := e.pipelines ++ [pipeline] }.submit .pipeline pipeline.service?

/-! ### Queries -/

/-- How often an execution has been asked for. -/
def queryCount (e : Engine) (reference : ExecutionRef) : Nat := e.queries.getD reference 0

/-- The status that a script shows next. -/
def shown : List ExecutionStatus → ExecutionStatus
  | [] => .succeeded
  | status :: _ => status

/-- What is left of a script after it has been looked at. -/
def advanced : List ExecutionStatus → List ExecutionStatus
  | _ :: next :: rest => next :: rest
  | statuses => statuses

/-- Tells where an execution stands. -/
def executionStatus (e : Engine) (reference : ExecutionRef) : ExecutionStatus × Engine :=
  let counted := { e with queries := e.queries.insert reference (e.queryCount reference + 1) }
  match e.scripts.get? reference with
  | some statuses => (shown statuses, counted.script reference (advanced statuses))
  | none => (.succeeded, counted)

/-- The bakes that the engine knows of. -/
def bakeStatuses (e : Engine) : Except DeployError (List (String × BakeStatus)) :=
  if e.usageUnavailable then .error (.collaborator "bake status unavailable")
  else .ok e.bakes.entries

/-- How many executions are active. -/
def activeExecutions (e : Engine) : Except DeployError (List (String × ActiveExecutions)) :=
  if e.usageUnavailable then .error (.collaborator "execution counts unavailable")
  else .ok e.active.entries

end Engine

end FleetDeploy
