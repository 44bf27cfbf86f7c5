import FleetDeploy.Error
import FleetDeploy.Event
import FleetDeploy.Outcome
import FleetDeploy.Pipeline

/-!
# Programs over the collaborators

The deployer does nothing to the fleet itself: it inspects, stages, provisions, submits and deletes
through collaborators, tells observers what it does, and waits. What it decides to do, and in which
order, is what there is to prove about it, so its operations are written as data: a `Program` is a
tree whose nodes are calls of a collaborator, each with a branch for every answer.

* `Call` and `Call.Result` – what can be asked of a collaborator and what it gives back;
* `Program` – a computation that makes calls, emits events and sleeps; it always ends;
* `Procedure` – a program that may fail with a `DeployError`;
* `Handler` – how collaborators answer, from a state that they share;
* `Program.run` – a program carried out against a handler, with a journal of every step.

A collaborator may also crash, which ends the program that called it on the spot.
-/

namespace FleetDeploy

/-! ### Calls -/

/-- What can be asked of a collaborator. -/
inductive Call
  /-- What is running of a service. -/
  | inspect (service : Service) (settings : RuntimeSettings)
  /-- Stages the configuration files of a service. -/
  | stage (service : Service) (resolved : ResolvedConfiguration)
  /-- Brings up a server group of a service. -/
  | ensureRunning (service : Service) (resolved : ResolvedConfiguration)
      (configs : List ConfigSource) (safeToUpdate : Bool)
  /-- Removes a server group of a service. -/
  | deleteVersion (service : Service) (settings : ServiceSettings) (version : Version)
  /-- Hands a task to the pipeline engine. -/
  | submitTask (task : TaskDefinition)
  /-- Hands a pipeline to the pipeline engine. -/
  | orchestrate (pipeline : PipelineDefinition)
  /-- Where an execution stands. -/
  | executionStatus (kind : ExecutionKind) (reference : ExecutionRef)
  /-- All bakes that the engine knows of, by composite identifier. -/
  | bakeStatuses
  /-- How many executions are active, by composite identifier. -/
  | activeExecutions
  /-- Collects the logs of a service. -/
  | collectLogs (service : Service) (settings : RuntimeSettings)
  /-- The command that connects to a service. -/
  | connectCommand (service : Service) (settings : RuntimeSettings)
  /-- Removes the keys of a service's cache that match a pattern. -/
  | flushKeySpace (service : Service) (settings : RuntimeSettings) (pattern : String)

/-- What a call gives back if it succeeds. The engine's tables come in no particular order. -/
@[reducible] def Call.Result : Call → Type
  | .inspect .. => RunningService
  | .stage .. => List ConfigSource
  | .ensureRunning .. => Unit
  | .deleteVersion .. => Unit
  | .submitTask _ => Submission
  | .orchestrate _ => Submission
  | .executionStatus .. => ExecutionStatus
  | .bakeStatuses => List (String × BakeStatus)
  | .activeExecutions => List (String × ActiveExecutions)
  | .collectLogs .. => Unit
  | .connectCommand .. => String
  | .flushKeySpace .. => Nat

/-- What comes of a call: an answer, or a crash of the collaborator. -/
inductive Reply (c : Call)
  | answered (answer : Except DeployError c.Result)
  | crashed (payload : Option String)

/-! ### Programs -/

/-- A computation over the collaborators. -/
inductive Program (α : Type)
  | done (result : α)
  | call (c : Call) (next : Except DeployError c.Result → Program α)
  | emit (event : DeployEvent) (next : Program α)
  | sleep (milliseconds : Nat) (next : Program α)

namespace Program

variable {α β : Type}

/-- The program `p` with its result handed on to `f`. -/
def bind (p : Program α) (f : α → Program β) : Program β :=
  match p with
  | .done a => f a
  | .call c next => .call c fun answer => (next answer).bind f
  | .emit event next => .emit event (next.bind f)
  | .sleep ms next => .sleep ms (next.bind f)

instance : Monad Program where
  pure := .done
  bind := bind

theorem bind_done (p : Program α) : p.bind .done = p := by
  induction p with
  | done a => rfl
  | call c next ih => exact congrArg (Program.call c) (funext ih)
  | emit event next ih => exact congrArg (Program.emit event) ih
  | sleep ms next ih => exact congrArg (Program.sleep ms) ih

theorem bind_assoc {γ : Type} (p : Program α) (f : α → Program β) (g : β → Program γ) :
    (p.bind f).bind g = p.bind fun a => (f a).bind g := by
  induction p with
  | done a => rfl
  | call c next ih => exact congrArg (Program.call c) (funext ih)
  | emit event next ih => exact congrArg (Program.emit event) ih
  | sleep ms next ih => exact congrArg (Program.sleep ms) ih

instance : LawfulMonad Program :=
  LawfulMonad.mk' Program (fun p => bind_done p) (fun _ _ => rfl)
    (fun p f g => bind_assoc p f g)

end Program

/-- A program that may fail with an error. -/
abbrev Procedure (α : Type) := ExceptT DeployError Program α

namespace Procedure

/-- Asks a collaborator. -/
def ask (c : Call) : Procedure c.Result := ExceptT.mk (.call c .done)

/-- Tells observers. -/
def emit (event : DeployEvent) : Procedure Unit := ExceptT.mk (.emit event (.done (.ok ())))

/-- Tells observers in words. -/
def say (text : String) : Procedure Unit := emit (.message text)

/-- Waits. -/
def pause (milliseconds : Nat) : Procedure Unit :=
  ExceptT.mk (.sleep milliseconds (.done (.ok ())))

/-- What has been decided already. -/
def ofExcept {α : Type} (r : Except DeployError α) : Procedure α := ExceptT.mk (.done r)

/-- A procedure with its failure as a result. -/
def outcome {α : Type} (p : Procedure α) : Procedure (Except DeployError α) :=
  ExceptT.mk (p.run.bind fun r => .done (.ok r))

end Procedure

/-! ### Carrying a program out -/

/-- How collaborators answer a call, from a state that they share. -/
abbrev Handler (σ : Type) := (c : Call) → σ → Reply c × σ

/-- One step that a program took. -/
inductive Step
  | called (c : Call) (reply : Reply c)
  | emitted (event : DeployEvent)
  | slept (milliseconds : Nat)

/-- The state of the collaborators with a journal of the steps so far, the latest first. -/
structure World (σ : Type) where
  state : σ
  journal : List Step := []

namespace World

variable {σ : Type}

/-- The world after one more step. -/
def record (w : World σ) (step : Step) : World σ := { w with journal := step :: w.journal }

/-- The steps so far, in their order. -/
def trace (w : World σ) : List Step := w.journal.reverse

end World

namespace Step

/-- The event that a step told observers. -/
def event? : Step → Option DeployEvent
  | .emitted event => some event
  | _ => none

/-- The time that a step took. -/
def duration : Step → Nat
  | .slept ms => ms
  | _ => 0

end Step

/-- The events among some steps. -/
def eventsOf (steps : List Step) : List DeployEvent := steps.filterMap (·.event?)

/-- The time that some steps took. -/
def durationOf (steps : List Step) : Nat := steps.foldl (fun t s => t + s.duration) 0

namespace Program

variable {σ α : Type}

/-- How far a program has come: it has ended, or this is what is left of it. -/
inductive Progress (α : Type)
  | ended (ending : Ending α)
  | going (rest : Program α)

/-- One step of a program. -/
def step (h : Handler σ) (p : Program α) (w : World σ) : Progress α × World σ :=
  match p with
  | .done a => (.ended (.finished a), w)
  | .call c next =>
    match h c w.state with
    | (.answered answer, state) =>
      (.going (next answer), { state, journal := .called c (.answered answer) :: w.journal })
    | (.crashed payload, state) =>
      (.ended (.crashed payload), { state, journal := .called c (.crashed payload) :: w.journal })
  | .emit event next => (.going next, w.record (.emitted event))
  | .sleep ms next => (.going next, w.record (.slept ms))

/-- A program carried out to its end. -/
def run (h : Handler σ) (p : Program α) (w : World σ) : Ending α × World σ :=
  match p with
  | .done a => (.finished a, w)
  | .call c next =>
    match h c w.state with
    | (.answered answer, state) =>
      (next answer).run h { state, journal := .called c (.answered answer) :: w.journal }
    | (.crashed payload, state) =>
      (.crashed payload, { state, journal := .called c (.crashed payload) :: w.journal })
  | .emit event next => next.run h (w.record (.emitted event))
  | .sleep ms next => next.run h (w.record (.slept ms))

end Program

end FleetDeploy
