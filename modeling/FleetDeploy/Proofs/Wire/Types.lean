import FleetDeploy.Proofs.Wire.RoundTrip
import FleetDeploy.WireType

/-!
# Everything that travels comes back

Every type with a form on the wire reads back what it writes. What there is to be checked of a type
is little: that its words differ, that its fields have different names, that the word of a variant
leads to the fields of that variant. The rest is in `FleetDeploy.Proofs.Wire.RoundTrip`, and is the
same for all of them.

* `FleetDeploy.DeployEvent.roundTrips`, `FleetDeploy.StageDefinition.roundTrips` and their
  companions – the variants;
* `FleetDeploy.RecordType.faithful` – the records;
* `FleetDeploy.WireType.round_trips` – everything that travels is read back, and reading and writing
  again what has been read and written makes no difference.
-/

namespace FleetDeploy

open Codec

/-! ### Enumerations -/

@[simp] theorem BakeStatus.faithful : BakeStatus.codec.Faithful :=
  faithful_words (by rintro ⟨⟩ <;> decide) (by decide)

@[simp] theorem DispatchMode.faithful : DispatchMode.codec.Faithful :=
  faithful_words (by rintro ⟨⟩ <;> decide) (by decide)

@[simp] theorem DispatchMode.faithful_inside : DispatchMode.codecInside.Faithful :=
  faithful_wordsInside (by rintro ⟨⟩ <;> decide) (by decide)

@[simp] theorem ExecutionKind.faithful : ExecutionKind.codec.Faithful :=
  faithful_words (by rintro ⟨⟩ <;> decide) (by decide)

@[simp] theorem ExecutionStatus.faithful : ExecutionStatus.codec.Faithful :=
  faithful_words (by rintro ⟨⟩ <;> decide) (by decide)

@[simp] theorem LogCapability.faithful : LogCapability.codec.Faithful :=
  faithful_words (by rintro ⟨⟩ <;> decide) (by decide)

@[simp] theorem ServerGroupTarget.faithful : ServerGroupTarget.codec.Faithful :=
  faithful_words (by rintro ⟨⟩ <;> decide) (by decide)

@[simp] theorem ServerGroupTarget.faithful_inside : ServerGroupTarget.codecInside.Faithful :=
  faithful_wordsInside (by rintro ⟨⟩ <;> decide) (by decide)

@[simp] theorem ServiceKind.faithful : ServiceKind.codec.Faithful :=
  faithful_words (by rintro ⟨⟩ <;> decide) (by decide)

@[simp] theorem Severity.faithful : Severity.codec.Faithful :=
  faithful_words (by rintro ⟨⟩ <;> decide) (by decide)

@[simp] theorem SkipReason.faithful : SkipReason.codec.Faithful :=
  faithful_words (by rintro ⟨⟩ <;> decide) (by decide)

@[simp] theorem SkipReason.faithful_inside : SkipReason.codecInside.Faithful :=
  faithful_wordsInside (by rintro ⟨⟩ <;> decide) (by decide)

/-- A grade inside an event. -/
@[simp] theorem Severity.faithful_inside : (wordsInside Severity.all Severity.word).Faithful :=
  faithful_wordsInside (by rintro ⟨⟩ <;> decide) (by decide)

@[simp] theorem Version.faithful : Version.codec.Faithful := faithful_uint32

@[simp] theorem Version.keys_roundTrip : Version.keyCodec.RoundTrips := KeyCodec.uint32_roundTrips

/-! ### Variants -/

/-- The decision is read first, and tells which words the detail may be. -/
@[simp] theorem Classification.roundTrips : Classification.codec.RoundTrips
  | .skip reason => by cases reason <;> rfl
  | .dispatch mode => by cases mode <;> rfl

@[simp] theorem DeployEvent.roundTrips : DeployEvent.codec.RoundTrips
  | .stageStarted _ =>
    Variant.decode_encode stageFields rfl (fun _ => rfl) (fun _ => rfl) rfl (by decide)
      (by simp [stageFields])
  | .message _ =>
    Variant.decode_encode messageFields rfl (fun _ => rfl) (fun _ => rfl) rfl (by decide)
      (by simp [messageFields])
  | .serviceSkipped _ _ =>
    Variant.decode_encode skippedFields rfl (fun _ => rfl) (fun _ => rfl) rfl (by decide)
      (by simp [skippedFields])
  | .serviceDispatched _ _ =>
    Variant.decode_encode dispatchedFields rfl (fun _ => rfl) (fun _ => rfl) rfl (by decide)
      (by simp [dispatchedFields])
  | .serviceFinished _ _ =>
    Variant.decode_encode finishedFields rfl (fun _ => rfl) (fun _ => rfl) rfl (by decide)
      (by simp [finishedFields])
  | .versionReaped _ _ =>
    Variant.decode_encode reapedFields rfl (fun _ => rfl) (fun _ => rfl) rfl (by decide)
      (by simp [reapedFields])

@[simp] theorem StageDefinition.roundTrips : StageDefinition.codec.RoundTrips
  | .deployServerGroup .. =>
    Variant.decode_encode deployFields rfl (fun _ => rfl) (fun _ => rfl) rfl (by decide)
      (by simp [deployFields])
  | .enableServerGroup .. =>
    Variant.decode_encode trafficFields rfl (fun _ => rfl) (fun _ => rfl) rfl (by decide)
      (by simp [trafficFields])
  | .disableServerGroup .. =>
    Variant.decode_encode trafficFields rfl (fun _ => rfl) (fun _ => rfl) rfl (by decide)
      (by simp [trafficFields])

@[simp] theorem TaskOperation.roundTrips : TaskOperation.codec.RoundTrips
  | .upsertLoadBalancer .. =>
    Variant.decode_encode upsertLoadBalancerFields rfl (fun _ => rfl) (fun _ => rfl) rfl (by decide)
      (by simp [upsertLoadBalancerFields])

/-! ### Records -/

@[simp] theorem Service.faithful : Service.record.codec.Faithful :=
  Record.faithful (by decide) (by simp [Service.record])

@[simp] theorem ServiceSettings.faithful : ServiceSettings.record.codec.Faithful :=
  Record.faithful (by decide) (by simp [ServiceSettings.record])

@[simp] theorem RuntimeSettings.faithful : RuntimeSettings.record.codec.Faithful :=
  Record.faithful (by decide) (by simp [RuntimeSettings.record])

@[simp] theorem ConfigSource.faithful : ConfigSource.record.codec.Faithful :=
  Record.faithful (by decide) (by simp [ConfigSource.record])

@[simp] theorem ResolvedConfiguration.faithful : ResolvedConfiguration.record.codec.Faithful :=
  Record.faithful (by decide) (by simp [ResolvedConfiguration.record])

@[simp] theorem LoadBalancer.faithful : LoadBalancer.record.codec.Faithful :=
  Record.faithful (by decide) (by simp [LoadBalancer.record])

@[simp] theorem RunningService.faithful : RunningService.record.codec.Faithful :=
  Record.faithful (by decide) (by simp [RunningService.record])

@[simp] theorem RetentionPolicy.faithful : RetentionPolicy.record.codec.Faithful :=
  Record.faithful (by decide) (by simp [RetentionPolicy.record])

@[simp] theorem RolloutParameters.faithful : RolloutParameters.record.codec.Faithful :=
  Record.faithful (by decide) (by simp [RolloutParameters.record])

@[simp] theorem RemoteAction.faithful : RemoteAction.record.codec.Faithful :=
  Record.faithful (by decide) (by simp [RemoteAction.record])

@[simp] theorem TaskDefinition.faithful : TaskDefinition.record.codec.Faithful :=
  Record.faithful (by decide) (by simp [TaskDefinition.record])

@[simp] theorem PipelineDefinition.faithful : PipelineDefinition.record.codec.Faithful :=
  Record.faithful (by decide) (by simp [PipelineDefinition.record])

@[simp] theorem Submission.faithful : Submission.record.codec.Faithful :=
  Record.faithful (by decide) (by simp [Submission.record])

@[simp] theorem ActiveExecutions.faithful : ActiveExecutions.record.codec.Faithful :=
  Record.faithful (by decide) (by simp [ActiveExecutions.record])

@[simp] theorem Problem.faithful : Problem.record.codec.Faithful :=
  Record.faithful (by decide) (by simp [Problem.record])

@[simp] theorem ProblemSet.faithful : ProblemSet.record.codec.Faithful :=
  Record.faithful (by decide) (by simp [ProblemSet.record])

@[simp] theorem UnitOutcome.faithful : UnitOutcome.record.codec.Faithful :=
  Record.faithful (by decide) (by simp [UnitOutcome.record])

@[simp] theorem BatchOutcome.faithful : BatchOutcome.record.codec.Faithful :=
  Record.faithful (by decide) (by simp [BatchOutcome.record])

@[simp] theorem PlanSummary.faithful : PlanSummary.record.codec.Faithful :=
  Record.faithful (by decide) (by simp [PlanSummary.record])

@[simp] theorem ReapFailure.faithful : ReapFailure.record.codec.Faithful :=
  Record.faithful (by decide) (by simp [ReapFailure.record])

@[simp] theorem ReapReport.faithful : ReapReport.record.codec.Faithful :=
  Record.faithful (by decide) (by simp [ReapReport.record])

@[simp] theorem DeployReport.faithful : DeployReport.record.codec.Faithful :=
  Record.faithful (by decide) (by simp [DeployReport.record])

@[simp] theorem RollbackReport.faithful : RollbackReport.record.codec.Faithful :=
  Record.faithful (by decide) (by simp [RollbackReport.record])

@[simp] theorem MonitorConfig.faithful : MonitorConfig.record.codec.Faithful :=
  Record.faithful (by decide) (by simp [MonitorConfig.record])

@[simp] theorem CacheConfig.faithful : CacheConfig.record.codec.Faithful :=
  Record.faithful (by decide) (by simp [CacheConfig.record])

@[simp] theorem ConnectConfig.faithful : ConnectConfig.record.codec.Faithful :=
  Record.faithful (by decide) (by simp [ConnectConfig.record])

@[simp] theorem LoggingConfig.faithful : LoggingConfig.record.codec.Faithful :=
  Record.faithful (by decide) (by simp [LoggingConfig.record])

@[simp] theorem DeployerConfig.faithful : DeployerConfig.record.codec.Faithful :=
  Record.faithful (by decide) (by simp [DeployerConfig.record])

/-- **Every record is read back.** -/
theorem RecordType.faithful : (t : RecordType) → t.record.codec.Faithful
  | .activeExecutions => ActiveExecutions.faithful
  | .batchOutcome => BatchOutcome.faithful
  | .cacheConfig => CacheConfig.faithful
  | .configSource => ConfigSource.faithful
  | .connectConfig => ConnectConfig.faithful
  | .deployReport => DeployReport.faithful
  | .deployerConfig => DeployerConfig.faithful
  | .loadBalancer => LoadBalancer.faithful
  | .loggingConfig => LoggingConfig.faithful
  | .monitorConfig => MonitorConfig.faithful
  | .pipelineDefinition => PipelineDefinition.faithful
  | .planSummary => PlanSummary.faithful
  | .problem => Problem.faithful
  | .problemSet => ProblemSet.faithful
  | .reapFailure => ReapFailure.faithful
  | .reapReport => ReapReport.faithful
  | .remoteAction => RemoteAction.faithful
  | .resolvedConfiguration => ResolvedConfiguration.faithful
  | .retentionPolicy => RetentionPolicy.faithful
  | .rollbackReport => RollbackReport.faithful
  | .rolloutParameters => RolloutParameters.faithful
  | .runningService => RunningService.faithful
  | .runtimeSettings => RuntimeSettings.faithful
  | .service => Service.faithful
  | .serviceSettings => ServiceSettings.faithful
  | .submission => Submission.faithful
  | .taskDefinition => TaskDefinition.faithful
  | .unitOutcome => UnitOutcome.faithful

/-! ### Everything -/

/-- What comes back makes no difference when it is sent again. -/
theorem WireType.normalize?_normalize? {t : WireType} (roundTrips : t.codec.RoundTrips) (j : Json) :
    (t.normalize? j).bind t.normalize? = t.normalize? j := by
  rw [normalize?]
  rcases t.codec.decode j with _ | x
  · rfl
  · rw [Option.map_some, Option.bind_some, normalize?, roundTrips x, Option.map_some]

/-- **Everything that travels comes back**: whatever the type, what has been written is read back as
it was; and of everything that can be read at all, what is written then is read and written the same
again. -/
theorem WireType.round_trips (t : WireType) :
    t.codec.RoundTrips ∧ ∀ j, (t.normalize? j).bind t.normalize? = t.normalize? j := by
  have roundTrips : t.codec.RoundTrips := by
    cases t with
    | record type => exact type.faithful.roundTrips
    | bakeStatus => exact BakeStatus.faithful.roundTrips
    | dispatchMode => exact DispatchMode.faithful.roundTrips
    | executionKind => exact ExecutionKind.faithful.roundTrips
    | executionStatus => exact ExecutionStatus.faithful.roundTrips
    | logCapability => exact LogCapability.faithful.roundTrips
    | serverGroupTarget => exact ServerGroupTarget.faithful.roundTrips
    | serviceKind => exact ServiceKind.faithful.roundTrips
    | severity => exact Severity.faithful.roundTrips
    | skipReason => exact SkipReason.faithful.roundTrips
    | classification => exact Classification.roundTrips
    | deployEvent => exact DeployEvent.roundTrips
    | stageDefinition => exact StageDefinition.roundTrips
    | taskOperation => exact TaskOperation.roundTrips
    | executionRef | instanceId | serviceName => exact text_roundTrips
    | version => exact Version.faithful.roundTrips
  exact ⟨roundTrips, normalize?_normalize? roundTrips⟩

end FleetDeploy
