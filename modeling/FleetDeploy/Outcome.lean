import FleetDeploy.Clock
import FleetDeploy.Error

/-!
# Outcomes of a batch

The work of a call is a batch of units, one for each dispatched service. A unit ends in one of four
ways: it succeeds, it fails with an error, it crashes, or it is lost and never reports. Units report
in any order; `BatchOutcome.collect` puts their reports back into the order of the batch, so that
there is one outcome for each unit, and only then is the batch judged against a threshold
(`BatchOutcome.raiseIfExceeds`).
-/

namespace FleetDeploy

/-! ### One unit -/

/-- How a computation ends that does not get lost. A crash may carry a text. -/
inductive Ending (α : Type)
  | finished (result : α)
  | crashed (payload : Option String)
  deriving DecidableEq

/-- How a unit of work ends that does not get lost. -/
abbrev UnitEnding := Ending (Except DeployError Unit)

/-- What became of one unit: nothing amiss, or a problem. -/
structure UnitOutcome where
  service : ServiceName
  problem : Option Problem
  deriving DecidableEq, Inhabited

namespace UnitOutcome

/-- The text of a crash. -/
def crashText (payload : Option String) : String := payload.getD "unknown panic"

/-- The problem of a unit for `service` that ended in some way. -/
def problemOf (service : ServiceName) : UnitEnding → Option Problem
  | .finished (.ok ()) => none
  | .finished (.error e) => some (e.toProblem service)
  | .crashed payload =>
    some ((DeployError.taskPanicked service (crashText payload)).toProblem service)

/-- The problem of a unit for `service` that never reported. -/
def lostProblem (service : ServiceName) : Problem :=
  (Problem.fatal "task was cancelled before completing").forService service

/-- The outcome of a unit from its report, if there was one. -/
def ofReport (service : ServiceName) (report : Option UnitEnding) : UnitOutcome :=
  ⟨service, match report with
    | some ending => problemOf service ending
    | none => some (lostProblem service)⟩

/-- The grade of an outcome. -/
def severity (o : UnitOutcome) : Severity :=
  match o.problem with
  | some p => p.severity
  | none => .none

/-- Whether nothing was amiss. -/
def isSuccess (o : UnitOutcome) : Bool := o.problem.isNone

/-- An outcome on the wire. -/
def record : Record UnitOutcome where
  types := [ServiceName, Option Problem]
  fields :=
    .cons (.required "service" .text) <| .cons (.optional "problem" Problem.record.codec) .nil
  pack := fun (service, problem, ()) => ⟨service, problem⟩
  unpack o := (o.service, o.problem, ())

end UnitOutcome

/-! ### The batch -/

/-- What became of all units of a batch, and the problems among it. -/
structure BatchOutcome where
  outcomes : List UnitOutcome
  problems : ProblemSet
  deriving DecidableEq, Inhabited

namespace BatchOutcome

/-- The outcomes of a batch with the problems they hold. -/
def ofOutcomes (outcomes : List UnitOutcome) : BatchOutcome :=
  ⟨outcomes, ⟨outcomes.filterMap (·.problem)⟩⟩

/-- The reports of a batch of `size` units in the order of the batch, from reports in the order in
which they arrived, each with the place of its unit. -/
def slots (size : Nat) (arrivals : List (Nat × UnitEnding)) : List (Option UnitEnding) :=
  arrivals.foldl (fun slots a => slots.set a.1 (some a.2)) (List.replicate size none)

/-- The outcome of a batch from the reports that arrived. -/
def collect (services : List ServiceName) (arrivals : List (Nat × UnitEnding)) : BatchOutcome :=
  ofOutcomes (services.zipWith UnitOutcome.ofReport (slots services.length arrivals))

/-- The grade of a batch: the worst among its problems. -/
def severity (b : BatchOutcome) : Severity := b.problems.maxSeverity

/-- The outcomes with a problem. -/
def failed (b : BatchOutcome) : List UnitOutcome := b.outcomes.filter fun o => !o.isSuccess

/-- How many outcomes are without a problem. -/
def succeededCount (b : BatchOutcome) : Nat := b.outcomes.countP (·.isSuccess)

/-- The outcome, or an error with its problems where their grade lies above the threshold. -/
def raiseIfExceeds (b : BatchOutcome) (threshold : Severity) : Except DeployError BatchOutcome :=
  if b.problems.exceeds threshold then .error (.aggregate threshold b.problems) else .ok b

/-- A batch outcome on the wire. -/
def record : Record BatchOutcome where
  types := [List UnitOutcome, ProblemSet]
  fields :=
    .cons (.required "outcomes" (.list UnitOutcome.record.codec)) <|
    .cons (.required "problems" ProblemSet.record.codec) .nil
  pack := fun (outcomes, problems, ()) => ⟨outcomes, problems⟩
  unpack b := (b.outcomes, b.problems, ())

end BatchOutcome

/-! ### Timed units -/

/-- A unit that reports after a delay in milliseconds, or never. -/
structure TimedUnit where
  service : ServiceName
  delay : Nat
  /-- How the unit ends, unless it is lost. -/
  ending : Option UnitEnding

namespace TimedUnit

/-- When a unit reports, in milliseconds after its start. -/
def time (u : TimedUnit) : Nat := Clock.sleepTime u.delay

/-- The reports of units that start together, as they arrive: by time, and at one time in the order
of the batch. Each comes with its time and the place of its unit. -/
def arrivals (units : List TimedUnit) : List (Nat × Nat × UnitEnding) :=
  (units.zipIdx.filterMap fun (u, i) => u.ending.map fun e => (u.time, i, e)).mergeSort
    fun a b => decide (a.1 ≤ b.1)

/-- The outcome of a batch of timed units. -/
def outcome (units : List TimedUnit) : BatchOutcome :=
  .collect (units.map (·.service)) ((arrivals units).map (·.2))

end TimedUnit

end FleetDeploy
