import FleetDeploy.Outcome
import FleetDeploy.Plan.Basic
import FleetDeploy.Reap.Report

/-!
# Reports

What a call that succeeds gives back: the plan it followed, what became of each unit of the batch,
and, for a deployment, what was reaped afterwards.
-/

namespace FleetDeploy

/-- What a deployment did. -/
structure DeployReport where
  plan : List PlanSummary
  outcome : BatchOutcome
  reaps : List ReapReport
  deriving DecidableEq, Inhabited

/-- A report of a deployment on the wire. -/
def DeployReport.record : Record DeployReport where
  types := [List PlanSummary, BatchOutcome, List ReapReport]
  fields :=
    .cons (.required "plan" (.list PlanSummary.record.codec)) <|
    .cons (.required "outcome" BatchOutcome.record.codec) <|
    .cons (.required "reaps" (.list ReapReport.record.codec)) .nil
  pack := fun (plan, outcome, reaps, ()) => ⟨plan, outcome, reaps⟩
  unpack r := (r.plan, r.outcome, r.reaps, ())

/-- What a rollback did. -/
structure RollbackReport where
  plan : List PlanSummary
  outcome : BatchOutcome
  deriving DecidableEq, Inhabited

/-- A report of a rollback on the wire. -/
def RollbackReport.record : Record RollbackReport where
  types := [List PlanSummary, BatchOutcome]
  fields :=
    .cons (.required "plan" (.list PlanSummary.record.codec)) <|
    .cons (.required "outcome" BatchOutcome.record.codec) .nil
  pack := fun (plan, outcome, ()) => ⟨plan, outcome⟩
  unpack r := (r.plan, r.outcome, ())

end FleetDeploy
