import FleetDeploy.Monitor
import FleetDeploy.Plan.Basic
import FleetDeploy.RedBlack

/-!
# Carrying out one item of work

Each mode has a fixed sequence of calls, cut short by the first one that fails.

* *Manual*: stage the configuration, then have the service brought up with it.
* *Staged rollout*: where the snapshot shows no load balancer, submit the task that makes one and
  wait for it; then stage, submit the deploy pipeline and wait for it.
* *Staged rollback*: submit the rollback pipeline and wait for it.

The snapshot is the one that the plan was made with. A load balancer that has come into being since
is upserted once more, which does no harm.
-/

namespace FleetDeploy

/-- What carrying out work depends on besides the work itself. -/
structure DispatchConfig where
  retention : RetentionPolicy := {}
  monitor : MonitorConfig := {}

namespace WorkItem

/-- Provisions the service directly. -/
def manual (item : WorkItem) (resolved : ResolvedConfiguration) : Procedure Unit := do
  Procedure.say ("Manually deploying " ++ item.service.name)
  let configs ← Procedure.ask (.stage item.service resolved)
  Procedure.ask (.ensureRunning item.service resolved configs item.settings.safeToUpdate)

/-- Makes sure of the service's load balancer. -/
def upsertLoadBalancer (config : DispatchConfig) (item : WorkItem) : Procedure Unit := do
  Procedure.say ("Upserting " ++ item.service.name ++ " load balancer")
  let submission ← Procedure.ask
    (.submitTask (RedBlack.upsertLoadBalancer item.service item.settings))
  Monitor.await config.monitor .task submission.reference

/-- Deploys the service by a pipeline. -/
def stagedRollout (config : DispatchConfig) (item : WorkItem) (resolved : ResolvedConfiguration) :
    Procedure Unit := do
  if !item.running.hasLoadBalancer then item.upsertLoadBalancer config
  Procedure.say ("Deploying " ++ item.service.name ++ " via red/black")
  let configs ← Procedure.ask (.stage item.service resolved)
  let submission ← Procedure.ask
    (.orchestrate (RedBlack.deployPipeline item.service item.settings configs config.retention))
  Monitor.await config.monitor .pipeline submission.reference

/-- Rolls the service back by a pipeline. -/
def stagedRollback (config : DispatchConfig) (item : WorkItem) : Procedure Unit := do
  Procedure.say ("Rolling back " ++ item.service.name ++ " via red/black")
  let submission ← Procedure.ask (.orchestrate (RedBlack.rollbackPipeline item.service))
  Monitor.await config.monitor .pipeline submission.reference

/-- Carries out an item of work, in its mode. -/
def dispatch (config : DispatchConfig) (resolved : ResolvedConfiguration) (item : WorkItem) :
    Procedure Unit := do
  Procedure.emit (.serviceDispatched item.service.name item.mode)
  match item.mode with
  | .manual => item.manual resolved
  | .stagedRollout => item.stagedRollout config resolved
  | .stagedRollback => item.stagedRollback config

end WorkItem

end FleetDeploy
