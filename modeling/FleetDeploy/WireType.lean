import FleetDeploy.Config.Basic
import FleetDeploy.Event
import FleetDeploy.Pipeline
import FleetDeploy.RemoteAction
import FleetDeploy.Report
import FleetDeploy.Settings

/-!
# Everything that travels

All types with a form on the wire, as one type of names, so that something can be said of every one
of them at once: `RecordType` names the records, `WireType` those and the rest, and `WireType.codec`
has the form of each.
-/

namespace FleetDeploy

/-- The records that travel. -/
inductive RecordType
  | activeExecutions
  | batchOutcome
  | cacheConfig
  | configSource
  | connectConfig
  | deployReport
  | deployerConfig
  | loadBalancer
  | loggingConfig
  | monitorConfig
  | pipelineDefinition
  | planSummary
  | problem
  | problemSet
  | reapFailure
  | reapReport
  | remoteAction
  | resolvedConfiguration
  | retentionPolicy
  | rollbackReport
  | rolloutParameters
  | runningService
  | runtimeSettings
  | service
  | serviceSettings
  | submission
  | taskDefinition
  | unitOutcome
  deriving DecidableEq

namespace RecordType

/-- The records of a name. -/
def Carrier : RecordType → Type
  | .activeExecutions => ActiveExecutions
  | .batchOutcome => BatchOutcome
  | .cacheConfig => CacheConfig
  | .configSource => ConfigSource
  | .connectConfig => ConnectConfig
  | .deployReport => DeployReport
  | .deployerConfig => DeployerConfig
  | .loadBalancer => LoadBalancer
  | .loggingConfig => LoggingConfig
  | .monitorConfig => MonitorConfig
  | .pipelineDefinition => PipelineDefinition
  | .planSummary => PlanSummary
  | .problem => Problem
  | .problemSet => ProblemSet
  | .reapFailure => ReapFailure
  | .reapReport => ReapReport
  | .remoteAction => RemoteAction
  | .resolvedConfiguration => ResolvedConfiguration
  | .retentionPolicy => RetentionPolicy
  | .rollbackReport => RollbackReport
  | .rolloutParameters => RolloutParameters
  | .runningService => RunningService
  | .runtimeSettings => RuntimeSettings
  | .service => Service
  | .serviceSettings => ServiceSettings
  | .submission => Submission
  | .taskDefinition => TaskDefinition
  | .unitOutcome => UnitOutcome

/-- The fields of a record. -/
def record : (t : RecordType) → Record t.Carrier
  | .activeExecutions => ActiveExecutions.record
  | .batchOutcome => BatchOutcome.record
  | .cacheConfig => CacheConfig.record
  | .configSource => ConfigSource.record
  | .connectConfig => ConnectConfig.record
  | .deployReport => DeployReport.record
  | .deployerConfig => DeployerConfig.record
  | .loadBalancer => LoadBalancer.record
  | .loggingConfig => LoggingConfig.record
  | .monitorConfig => MonitorConfig.record
  | .pipelineDefinition => PipelineDefinition.record
  | .planSummary => PlanSummary.record
  | .problem => Problem.record
  | .problemSet => ProblemSet.record
  | .reapFailure => ReapFailure.record
  | .reapReport => ReapReport.record
  | .remoteAction => RemoteAction.record
  | .resolvedConfiguration => ResolvedConfiguration.record
  | .retentionPolicy => RetentionPolicy.record
  | .rollbackReport => RollbackReport.record
  | .rolloutParameters => RolloutParameters.record
  | .runningService => RunningService.record
  | .runtimeSettings => RuntimeSettings.record
  | .service => Service.record
  | .serviceSettings => ServiceSettings.record
  | .submission => Submission.record
  | .taskDefinition => TaskDefinition.record
  | .unitOutcome => UnitOutcome.record

end RecordType

/-- Everything that travels. -/
inductive WireType
  | record (type : RecordType)
  | bakeStatus
  | dispatchMode
  | executionKind
  | executionStatus
  | logCapability
  | serverGroupTarget
  | serviceKind
  | severity
  | skipReason
  | classification
  | deployEvent
  | stageDefinition
  | taskOperation
  | executionRef
  | instanceId
  | serviceName
  | version
  deriving DecidableEq

namespace WireType

/-- The values of a name. -/
def Carrier : WireType → Type
  | .record type => type.Carrier
  | .bakeStatus => BakeStatus
  | .dispatchMode => DispatchMode
  | .executionKind => ExecutionKind
  | .executionStatus => ExecutionStatus
  | .logCapability => LogCapability
  | .serverGroupTarget => ServerGroupTarget
  | .serviceKind => ServiceKind
  | .severity => Severity
  | .skipReason => SkipReason
  | .classification => Classification
  | .deployEvent => DeployEvent
  | .stageDefinition => StageDefinition
  | .taskOperation => TaskOperation
  | .executionRef => ExecutionRef
  | .instanceId => InstanceId
  | .serviceName => ServiceName
  | .version => Version

/-- The form on the wire. -/
def codec : (t : WireType) → Codec t.Carrier
  | .record type => type.record.codec
  | .bakeStatus => BakeStatus.codec
  | .dispatchMode => DispatchMode.codec
  | .executionKind => ExecutionKind.codec
  | .executionStatus => ExecutionStatus.codec
  | .logCapability => LogCapability.codec
  | .serverGroupTarget => ServerGroupTarget.codec
  | .serviceKind => ServiceKind.codec
  | .severity => Severity.codec
  | .skipReason => SkipReason.codec
  | .classification => Classification.codec
  | .deployEvent => DeployEvent.codec
  | .stageDefinition => StageDefinition.codec
  | .taskOperation => TaskOperation.codec
  | .executionRef => .text
  | .instanceId => .text
  | .serviceName => .text
  | .version => Version.codec

/-- A value read and written again, which leaves what the type does not know behind. -/
def normalize? (t : WireType) (j : Json) : Option Json :=
  (t.codec.decode j).map t.codec.encode

end WireType

end FleetDeploy
