import FleetDeploy.Execution
import FleetDeploy.Retention

/-!
# Tasks and pipelines

What the deployer asks of the pipeline engine: a *task* is a list of single operations, a *pipeline*
a list of stages, each with the stages it waits for. Only their shape is fixed here; which tasks and
pipelines a service gets is said in `FleetDeploy.RedBlack`.
-/

namespace FleetDeploy

/-! ### Tasks -/

/-- One operation of a task. -/
inductive TaskOperation
  /-- Creates a load balancer for a service, or brings it up to date. -/
  | upsertLoadBalancer (service : ServiceName) (loadBalancerName : String)
      (listenerPort : Option UInt16)
  deriving DecidableEq, Inhabited

namespace TaskOperation

/-- The service that an operation is for. -/
def service : TaskOperation → ServiceName
  | .upsertLoadBalancer service _ _ => service

/-- The parts of a load balancer operation. -/
def upsertLoadBalancerFields : Fields [ServiceName, String, Option UInt16] :=
  .cons (.required "service" .text) <|
  .cons (.required "loadBalancerName" .text) <|
  .cons (.optional "listenerPort" .uint16) .nil

/-- An operation on the wire. -/
def codec : Codec TaskOperation where
  encode
    | .upsertLoadBalancer service loadBalancerName listenerPort =>
      Variant.encode "upsertLoadBalancer" upsertLoadBalancerFields
        (service, loadBalancerName, listenerPort, ())
  decode j := do
    let (kind, parts) ← Variant.split j
    match kind with
    | "upsertLoadBalancer" =>
      let (service, loadBalancerName, listenerPort, ()) ← upsertLoadBalancerFields.read parts
      pure (.upsertLoadBalancer service loadBalancerName listenerPort)
    | _ => none

end TaskOperation

/-- A list of operations for the engine. -/
structure TaskDefinition where
  application : String
  description : String
  job : List TaskOperation
  deriving DecidableEq, Inhabited

namespace TaskDefinition

/-- The service that a task is for: that of its first operation. -/
def service? (t : TaskDefinition) : Option ServiceName := t.job.head?.map (·.service)

/-- A task on the wire. -/
def record : Record TaskDefinition where
  types := [String, String, List TaskOperation]
  fields :=
    .cons (.required "application" .text) <|
    .cons (.required "description" .text) <|
    .cons (.required "job" (.list TaskOperation.codec)) .nil
  pack := fun (application, description, job, ()) => ⟨application, description, job⟩
  unpack t := (t.application, t.description, t.job, ())

end TaskDefinition

/-! ### Pipelines -/

/-- Which server group of a service a stage acts on. -/
inductive ServerGroupTarget
  | current
  | previous
  deriving DecidableEq, Inhabited

namespace ServerGroupTarget

/-- Both targets. -/
def all : List ServerGroupTarget := [.current, .previous]

/-- A target as it travels. -/
def word : ServerGroupTarget → String
  | .current => "current"
  | .previous => "previous"

/-- A target on the wire. -/
def codec : Codec ServerGroupTarget := .words all word

/-- A target inside a stage. -/
def codecInside : Codec ServerGroupTarget := .wordsInside all word

end ServerGroupTarget

/-- One stage of a pipeline. -/
inductive StageDefinition
  /-- Brings up a new server group and retires old ones. -/
  | deployServerGroup (refId : String) (service : ServiceName) (artifact : Option String)
      (configs : List String) (strategy : String) (maxRemaining : Option UInt32)
      (scaleDown : Bool)
  /-- Lets a server group take traffic. -/
  | enableServerGroup (refId : String) (requisites : List String) (service : ServiceName)
      (target : ServerGroupTarget)
  /-- Takes the traffic off a server group. -/
  | disableServerGroup (refId : String) (requisites : List String) (service : ServiceName)
      (target : ServerGroupTarget)
  deriving DecidableEq, Inhabited

namespace StageDefinition

/-- The name by which other stages refer to a stage. -/
def refId : StageDefinition → String
  | .deployServerGroup refId .. => refId
  | .enableServerGroup refId .. => refId
  | .disableServerGroup refId .. => refId

/-- The stages that have to be finished before a stage starts. -/
def requisites : StageDefinition → List String
  | .deployServerGroup .. => []
  | .enableServerGroup _ requisites .. => requisites
  | .disableServerGroup _ requisites .. => requisites

/-- The service that a stage is for. -/
def service : StageDefinition → ServiceName
  | .deployServerGroup _ service .. => service
  | .enableServerGroup _ _ service _ => service
  | .disableServerGroup _ _ service _ => service

/-- The rollout parameters of a stage that deploys. -/
def rollout? : StageDefinition → Option RolloutParameters
  | .deployServerGroup _ _ _ _ _ maxRemaining scaleDown => some ⟨maxRemaining, scaleDown⟩
  | _ => none

/-- The parts of a stage that deploys. -/
def deployFields :
    Fields [String, ServiceName, Option String, List String, String, Option UInt32, Bool] :=
  .cons (.required "refId" .text) <|
  .cons (.required "service" .text) <|
  .cons (.optional "artifact" .text) <|
  .cons (.required "configs" (.list .text)) <|
  .cons (.required "strategy" .text) <|
  .cons (.optional "maxRemainingAsgs" .uint32) <|
  .cons (.required "scaleDown" .bool) .nil

/-- The parts of a stage that moves traffic. -/
def trafficFields : Fields [String, List String, ServiceName, ServerGroupTarget] :=
  .cons (.required "refId" .text) <|
  .cons (.required "requisiteStageRefIds" (.list .text)) <|
  .cons (.required "service" .text) <|
  .cons (.required "target" ServerGroupTarget.codecInside) .nil

/-- A stage on the wire. -/
def codec : Codec StageDefinition where
  encode
    | .deployServerGroup refId service artifact configs strategy maxRemaining scaleDown =>
      Variant.encode "deployServerGroup" deployFields
        (refId, service, artifact, configs, strategy, maxRemaining, scaleDown, ())
    | .enableServerGroup refId requisites service target =>
      Variant.encode "enableServerGroup" trafficFields (refId, requisites, service, target, ())
    | .disableServerGroup refId requisites service target =>
      Variant.encode "disableServerGroup" trafficFields (refId, requisites, service, target, ())
  decode j := do
    let (kind, parts) ← Variant.split j
    match kind with
    | "deployServerGroup" =>
      let (refId, service, artifact, configs, strategy, maxRemaining, scaleDown, ()) ←
        deployFields.read parts
      pure (.deployServerGroup refId service artifact configs strategy maxRemaining scaleDown)
    | "enableServerGroup" =>
      let (refId, requisites, service, target, ()) ← trafficFields.read parts
      pure (.enableServerGroup refId requisites service target)
    | "disableServerGroup" =>
      let (refId, requisites, service, target, ()) ← trafficFields.read parts
      pure (.disableServerGroup refId requisites service target)
    | _ => none

end StageDefinition

/-- A list of stages for the engine. -/
structure PipelineDefinition where
  application : String
  name : String
  stages : List StageDefinition
  /-- Whether the engine runs at most one execution of the pipeline at a time. -/
  limitConcurrent : Bool
  deriving DecidableEq, Inhabited

namespace PipelineDefinition

/-- The service that a pipeline is for: that of its first stage. -/
def service? (p : PipelineDefinition) : Option ServiceName := p.stages.head?.map (·.service)

/-- The rollout parameters of a pipeline: those of its first stage that deploys. -/
def rolloutParameters? (p : PipelineDefinition) : Option RolloutParameters :=
  p.stages.findSome? (·.rollout?)

/-- A pipeline on the wire. -/
def record : Record PipelineDefinition where
  types := [String, String, List StageDefinition, Bool]
  fields :=
    .cons (.required "application" .text) <|
    .cons (.required "name" .text) <|
    .cons (.required "stages" (.list StageDefinition.codec)) <|
    .cons (.required "limitConcurrent" .bool) .nil
  pack := fun (application, name, stages, limitConcurrent, ()) =>
    ⟨application, name, stages, limitConcurrent⟩
  unpack p := (p.application, p.name, p.stages, p.limitConcurrent, ())

end PipelineDefinition

end FleetDeploy
