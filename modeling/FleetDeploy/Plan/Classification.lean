import FleetDeploy.Running
import FleetDeploy.Service
import FleetDeploy.Settings

/-!
# How a service is treated

Before anything is done to the fleet, each service of a call is classified: it is skipped, for a
reason, or it is dispatched in one of three modes. The decision is a function of the service, its
settings and, for a deployment, the snapshot of what is running; nothing else is looked at.

* A deployment skips what is disabled. It provisions a service directly where the fleet needs it to
  start, where it is not safe to update, or where nothing is serving yet that a staged rollout could
  replace. All other services are rolled out in stages.
* A rollback skips what is disabled, what the fleet needs to start and what is not safe to update,
  in this order of reasons.
-/

namespace FleetDeploy

/-- How the work for a service is carried out. -/
inductive DispatchMode
  /-- Provisioned directly. -/
  | manual
  /-- Deployed by a pipeline of the engine. -/
  | stagedRollout
  /-- Rolled back by a pipeline of the engine. -/
  | stagedRollback
  deriving DecidableEq, Inhabited

namespace DispatchMode

/-- All modes. -/
def all : List DispatchMode := [.manual, .stagedRollout, .stagedRollback]

/-- A mode as it travels. -/
def word : DispatchMode → String
  | .manual => "manual"
  | .stagedRollout => "staged_rollout"
  | .stagedRollback => "staged_rollback"

/-- A mode as people read it. -/
def display : DispatchMode → String
  | .manual => "manual"
  | .stagedRollout => "staged rollout"
  | .stagedRollback => "staged rollback"

/-- A mode on the wire. -/
def codec : Codec DispatchMode := .words all word

/-- A mode inside an event. -/
def codecInside : Codec DispatchMode := .wordsInside all word

end DispatchMode

/-- Why nothing is done for a service. -/
inductive SkipReason
  | disabled
  | requiredToBootstrap
  | notSafeToUpdate
  deriving DecidableEq, Inhabited

namespace SkipReason

/-- All reasons. -/
def all : List SkipReason := [.disabled, .requiredToBootstrap, .notSafeToUpdate]

/-- A reason as it travels. -/
def word : SkipReason → String
  | .disabled => "disabled"
  | .requiredToBootstrap => "required_to_bootstrap"
  | .notSafeToUpdate => "not_safe_to_update"

/-- A reason on the wire. -/
def codec : Codec SkipReason := .words all word

/-- A reason inside an event. -/
def codecInside : Codec SkipReason := .wordsInside all word

end SkipReason

/-- What a call does about a service. -/
inductive Classification
  | skip (reason : SkipReason)
  | dispatch (mode : DispatchMode)
  deriving DecidableEq, Inhabited

namespace Classification

/-- The two decisions, as they travel. -/
inductive Decision
  | skip
  | dispatch
  deriving DecidableEq

/-- A decision on the wire. -/
def Decision.codec : Codec Decision :=
  .words [.skip, .dispatch] fun
    | .skip => "skip"
    | .dispatch => "dispatch"

/-- The classification that a decision and its detail are. -/
def ofParts (decision detail : Json) : Option Classification := do
  match ← Decision.codec.decode decision with
  | .skip => return .skip (← SkipReason.codec.decode detail)
  | .dispatch => return .dispatch (← DispatchMode.codec.decode detail)

/-- A classification on the wire: the decision in one field and its detail in another, or the two as
an array. -/
def codec : Codec Classification where
  encode
    | .skip reason =>
      .object [("decision", Decision.codec.encode .skip), ("detail", SkipReason.codec.encode reason)]
    | .dispatch mode =>
      .object
        [("decision", Decision.codec.encode .dispatch), ("detail", DispatchMode.codec.encode mode)]
  decode
    | .object fields => do
      let decision ← fields.lookup "decision"
      let detail ← fields.lookup "detail"
      ofParts decision detail
    | .array [decision, detail] => ofParts decision detail
    | _ => none

end Classification

/-- What a deployment does about a service. -/
def classifyDeploy (service : Service) (settings : ServiceSettings) (running : RunningService) :
    Classification :=
  if !settings.enabled then .skip .disabled
  else if service.requiredToBootstrap || !settings.safeToUpdate then .dispatch .manual
  else match running.latestEnabled with
    | none => .dispatch .manual
    | some _ => .dispatch .stagedRollout

/-- What a rollback does about a service. -/
def classifyRollback (service : Service) (settings : ServiceSettings) : Classification :=
  if !settings.enabled then .skip .disabled
  else if service.requiredToBootstrap then .skip .requiredToBootstrap
  else if !settings.safeToUpdate then .skip .notSafeToUpdate
  else .dispatch .stagedRollback

end FleetDeploy
