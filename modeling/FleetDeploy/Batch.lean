import FleetDeploy.Plan.Basic
import FleetDeploy.Program

/-!
# Batches

A call that changes the fleet has three parts. It *prepares*: everything is decided, and there is a
plan or an error. It *carries out* the plan: each dispatched service is a unit of its own, all are
begun and all are waited for, whatever becomes of the others. And it *concludes*: only when every
unit has ended are the outcomes looked at.

`BatchOperation` keeps the three parts apart, so that the units can be carried out in any
interleaving. `BatchOperation.run` carries them out one after the other; it is one of the schedules,
and the one that the journal of a single world is easiest to read from.
-/

namespace FleetDeploy

/-- One unit of a batch. -/
structure WorkUnit where
  service : ServiceName
  body : Procedure Unit

/-- A call that prepares a plan, carries out its units and concludes from their outcomes. -/
structure BatchOperation (ρ : Type) where
  prepare : Procedure Plan
  body : WorkItem → Procedure Unit
  conclude : Plan → BatchOutcome → Procedure ρ

namespace BatchOperation

variable {σ ρ : Type}

/-- The units of a plan. -/
def units (op : BatchOperation ρ) (plan : Plan) : List WorkUnit :=
  plan.workItems.map fun item => ⟨item.service.name, op.body item⟩

end BatchOperation

namespace Batch

variable {σ : Type}

/-- The units carried out one after the other, with how each of them ended. -/
def runInOrder (h : Handler σ) : List WorkUnit → World σ → List UnitEnding × World σ
  | [], w => ([], w)
  | u :: rest, w =>
    let (ending, w) := u.body.run.run h w
    let (endings, w) := runInOrder h rest w
    (ending :: endings, w)

/-- The endings as reports that arrive in the order of the batch. -/
def inOrder (endings : List UnitEnding) : List (Nat × UnitEnding) :=
  endings.zipIdx.map fun (e, i) => (i, e)

/-- The outcome of units carried out one after the other. -/
def outcome (h : Handler σ) (units : List WorkUnit) (w : World σ) : BatchOutcome × World σ :=
  let (endings, w) := runInOrder h units w
  (.collect (units.map (·.service)) (inOrder endings), w)

end Batch

namespace BatchOperation

variable {σ ρ : Type}

/-- The operation carried out, its units one after the other. -/
def run (h : Handler σ) (op : BatchOperation ρ) (w : World σ) :
    Ending (Except DeployError ρ) × World σ :=
  match op.prepare.run.run h w with
  | (.crashed payload, w) => (.crashed payload, w)
  | (.finished (.error e), w) => (.finished (.error e), w)
  | (.finished (.ok plan), w) =>
    let (outcome, w) := Batch.outcome h (op.units plan) w
    (op.conclude plan outcome).run.run h w

end BatchOperation

end FleetDeploy
