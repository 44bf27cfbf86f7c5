import FleetDeploy.Pipeline
import FleetDeploy.Settings

/-!
# Red and black

The tasks and pipelines that a service gets. A deployment brings up a new server group beside the
ones that are there and leaves it to the engine to retire old ones, as far as the retention policy
allows. A rollback first enables the previous server group and only then disables the current one,
so that there is never no server group enabled.
-/

namespace FleetDeploy.RedBlack

/-- The name under which the deployer submits. -/
def application : String := "bosun"

/-- The task that makes sure of a load balancer for a service. -/
def upsertLoadBalancer (service : Service) (settings : ServiceSettings) : TaskDefinition where
  application := application
  description := "Upsert load balancer for " ++ service.name
  job := [.upsertLoadBalancer service.name service.name settings.port]

/-- The pipeline that deploys a service with its staged configurations. -/
def deployPipeline (service : Service) (settings : ServiceSettings) (configs : List ConfigSource)
    (retention : RetentionPolicy) : PipelineDefinition :=
  let rollout := RolloutParameters.forService service retention
  { application := application
    name := "Deploy " ++ service.name
    stages :=
      [.deployServerGroup "deploy" service.name settings.artifact (configs.map (·.id)) "redblack"
        rollout.maxRemaining rollout.scaleDown]
    limitConcurrent := true }

/-- The pipeline that rolls a service back to its previous server group. -/
def rollbackPipeline (service : Service) : PipelineDefinition where
  application := application
  name := "Rollback " ++ service.name
  stages :=
    [.enableServerGroup "enable" [] service.name .previous,
      .disableServerGroup "disable" ["enable"] service.name .current]
  limitConcurrent := true

end FleetDeploy.RedBlack
