import FleetDeploy.Plan.Classification

/-!
# Plans

A plan has one entry for each service of a call, in the order of the call: the service is skipped,
or there is a `WorkItem` with everything that carrying out the work needs, the snapshot included.
-/

namespace FleetDeploy

/-- The work to do for one service. -/
structure WorkItem where
  service : Service
  settings : ServiceSettings
  mode : DispatchMode
  /-- What was running when the plan was made. -/
  running : RunningService
  deriving DecidableEq, Inhabited

/-- What a plan holds for one service. -/
inductive PlanEntry
  | skipped (service : ServiceName) (reason : SkipReason)
  | dispatched (item : WorkItem)
  deriving DecidableEq, Inhabited

/-- What a report tells about one entry of a plan. -/
structure PlanSummary where
  service : ServiceName
  classification : Classification
  deriving DecidableEq, Inhabited

/-- A summary on the wire. -/
def PlanSummary.record : Record PlanSummary where
  types := [ServiceName, Classification]
  fields :=
    .cons (.required "service" .text) <|
    .cons (.required "classification" Classification.codec) .nil
  pack := fun (service, classification, ()) => ⟨service, classification⟩
  unpack s := (s.service, s.classification, ())

namespace PlanEntry

/-- The service of an entry. -/
def service : PlanEntry → ServiceName
  | .skipped service _ => service
  | .dispatched item => item.service.name

/-- What a report tells about an entry. -/
def summary : PlanEntry → PlanSummary
  | .skipped service reason => ⟨service, .skip reason⟩
  | .dispatched item => ⟨item.service.name, .dispatch item.mode⟩

/-- The work of an entry that is not skipped. -/
def workItem? : PlanEntry → Option WorkItem
  | .skipped .. => none
  | .dispatched item => some item

/-- The service of a skipped entry with the reason. -/
def skip? : PlanEntry → Option (ServiceName × SkipReason)
  | .skipped service reason => some (service, reason)
  | .dispatched _ => none

end PlanEntry

/-- What a call does, service by service. -/
structure Plan where
  entries : List PlanEntry
  deriving DecidableEq, Inhabited

namespace Plan

/-- What a report tells about a plan. -/
def summary (p : Plan) : List PlanSummary := p.entries.map (·.summary)

/-- The work of a plan. -/
def workItems (p : Plan) : List WorkItem := p.entries.filterMap (·.workItem?)

/-- The skipped services of a plan with their reasons. -/
def skips (p : Plan) : List (ServiceName × SkipReason) := p.entries.filterMap (·.skip?)

/-- How many services a plan dispatches. -/
def dispatchCount (p : Plan) : Nat := p.entries.countP fun e => e.workItem?.isSome

end Plan

end FleetDeploy
