import FleetDeploy.Batch
import FleetDeploy.Catalog
import FleetDeploy.Dispatch
import FleetDeploy.Plan.Planning
import FleetDeploy.Reap.Pass
import FleetDeploy.RemoteAction
import FleetDeploy.Report

/-!
# The deployer

The operations offered to an operator, over a catalog and a configuration.

* `Deployer.deploy` – brings services up to date, then reaps what has become old;
* `Deployer.rollback` – puts services back to their previous server group;
* `Deployer.collectLogs` – collects logs, service by service, up to the first failure;
* `Deployer.flushCaches` – removes keys from the infrastructure's cache;
* `Deployer.connectCommand` – a script that opens connections to services.

The first two are batches: their plan is complete before any unit of work begins, and all units have
ended before the batch is judged. A deployer is made by `Deployer.build`, which refuses a
configuration that is not valid and a collaborator that is missing.
-/

namespace FleetDeploy

/-! ### Making a deployer -/

/-- The collaborators that a deployer needs. -/
inductive Collaborator
  | inspector
  | provisioner
  | configStager
  | pipelineEngine
  | logCollector
  | connectionScripter
  | cacheFlusher
  deriving DecidableEq

namespace Collaborator

/-- All collaborators, in the order in which they are asked for. -/
def all : List Collaborator :=
  [.inspector, .provisioner, .configStager, .pipelineEngine, .logCollector, .connectionScripter,
    .cacheFlusher]

/-- What a collaborator is called in an error. -/
def name : Collaborator → String
  | .inspector => "inspector"
  | .provisioner => "provisioner"
  | .configStager => "config_stager"
  | .pipelineEngine => "pipeline_engine"
  | .logCollector => "log_collector"
  | .connectionScripter => "connection_scripter"
  | .cacheFlusher => "cache_flusher"

end Collaborator

/-- A catalog and a configuration. -/
structure Deployer where
  catalog : Catalog
  config : DeployerConfig

namespace Deployer

/-- A deployer over the collaborators that are there. The configuration is looked at first, then the
first collaborator that is missing is named. -/
def build (catalog : Catalog) (config : DeployerConfig) (given : List Collaborator) :
    Except DeployError Deployer := do
  config.validate
  match Collaborator.all.find? fun c => !given.contains c with
  | some missing => throw (.invalidConfiguration (missing.name ++ " required"))
  | none => pure ⟨catalog, config⟩

/-- What carrying out work depends on. -/
def dispatchConfig (d : Deployer) : DispatchConfig := ⟨d.config.retention, d.config.monitor⟩

/-! ### Batches -/

/-- Tells observers which services are skipped, and that the work begins. -/
def announce (plan : Plan) (waiting : String) : Procedure Unit := do
  plan.skips.forM fun (service, reason) => Procedure.emit (.serviceSkipped service reason)
  Procedure.say waiting

/-- Tells observers how each unit ended, and raises an error if the batch is above the threshold. -/
def settle (d : Deployer) (outcome : BatchOutcome) : Procedure BatchOutcome := do
  outcome.outcomes.forM fun o => Procedure.emit (.serviceFinished o.service o.severity)
  Procedure.ofExcept (outcome.raiseIfExceeds d.config.failureThreshold)

/-- The services whose server groups pile up, by the part they play, with where their usage is
learned from. -/
def accumulating : List (ServiceKind × UsageSource) :=
  [(.pipelineRunner, .activeExecutions), (.imageBaker, .bakes)]

/-- Reaps the first service of a kind, if it is enabled. A pass that fails leaves no report. -/
def reapFirst (d : Deployer) (settings : RuntimeSettings) (kind : ServiceKind)
    (source : UsageSource) : Procedure (List ReapReport) :=
  match (d.catalog.byKind? kind).filter fun s => settings.isEnabled s.name with
  | none => pure []
  | some service => do
    match ← Procedure.outcome (Reap.pass d.config.retention source service settings) with
    | .ok report => pure [report]
    | .error _ => pure []

/-- Reaps the first service of each accumulating kind. -/
def reapAccumulating (d : Deployer) (settings : RuntimeSettings) :
    List (ServiceKind × UsageSource) → Procedure (List ReapReport)
  | [] => pure []
  | (kind, source) :: rest => do
    let reports ← d.reapFirst settings kind source
    let others ← reapAccumulating d settings rest
    pure (reports ++ others)

/-- Brings the requested services up to date. -/
def deploy (d : Deployer) (requested : List ServiceName) (resolved : ResolvedConfiguration) :
    BatchOperation DeployReport where
  prepare := do
    let services ← Procedure.ofExcept (d.catalog.prioritized requested)
    Procedure.emit (.stageStarted "Deploying services")
    let plan ← Plan.forDeploy services resolved.runtimeSettings
    announce plan "Waiting on deployments to complete"
    pure plan
  body item := item.dispatch d.dispatchConfig resolved
  conclude plan outcome := do
    let outcome ← d.settle outcome
    let reaps ← d.reapAccumulating resolved.runtimeSettings accumulating
    pure ⟨plan.summary, outcome, reaps⟩

/-- Puts the requested services back to their previous server groups. -/
def rollback (d : Deployer) (requested : List ServiceName) (resolved : ResolvedConfiguration) :
    BatchOperation RollbackReport where
  prepare := do
    let services ← Procedure.ofExcept (d.catalog.prioritized requested)
    Procedure.emit (.stageStarted "Checking if it is safe to roll back all services")
    let plan ← Plan.forRollback services resolved.runtimeSettings
    Procedure.emit (.stageStarted "Rolling back all updatable services")
    announce plan "Waiting on rollbacks to complete"
    pure plan
  body item := item.dispatch d.dispatchConfig resolved
  conclude plan outcome := do
    let outcome ← d.settle outcome
    pure ⟨plan.summary, outcome⟩

/-! ### Other operations -/

/-- Collects the logs of some services, or says that they have none. -/
def collectLogsOf (settings : RuntimeSettings) (services : List Service) : Procedure Unit :=
  services.forM fun service =>
    match service.logCapability with
    | .collectable => Procedure.ask (.collectLogs service settings)
    | .unsupported => Procedure.say (service.name ++ " cannot have logs collected")

/-- Collects the logs of the requested services. -/
def collectLogs (d : Deployer) (requested : List ServiceName) (settings : RuntimeSettings) :
    Procedure Unit := do
  let services ← Procedure.ofExcept (d.catalog.prioritized requested)
  collectLogsOf settings services

/-- What a failed flush is told as: a fatal problem of no service, with the cause in its text. -/
def flushFailure : DeployError → DeployError
  | .problem p => .problem (.fatal ("Failed to flush cache: " ++ p.message))
  | e => .problem (.fatal ("Failed to flush cache: " ++ e.message))

/-- Removes the configured keys from the first cache store of the catalog, and gives back how many
there were. -/
def flushCaches (d : Deployer) (settings : RuntimeSettings) : Procedure Nat := do
  let flushed ← Procedure.outcome <|
    match d.catalog.byKind? .cacheStore with
    | some service => Procedure.ask (.flushKeySpace service settings d.config.cache.keyPattern)
    | none => throw (.collaborator "no cache store service in the catalog")
  match flushed with
  | .ok count => pure count
  | .error e => throw (flushFailure e)

/-- The script of some commands, all but the last of which run in the background. -/
def scriptOf (commands : List String) : String :=
  "#!/bin/bash\n" ++ " &\n".intercalate commands

/-- The commands that connect to some services. -/
def commandsFor (settings : RuntimeSettings) : List Service → Procedure (List String)
  | [] => pure []
  | service :: rest => do
    let command ← Procedure.ask (.connectCommand service settings)
    let others ← commandsFor settings rest
    pure (command :: others)

/-- A script that opens connections to the requested services. -/
def connectCommand (d : Deployer) (requested : List ServiceName) (settings : RuntimeSettings) :
    Procedure RemoteAction := do
  let services ← Procedure.ofExcept (d.catalog.resolve requested)
  let commands ← commandsFor settings services
  pure
    { script := scriptOf commands
      scriptDescription := d.config.connect.scriptDescription
      autoRun := false }

end Deployer

end FleetDeploy
