import FleetDeploy.Proofs.Fleet.Effects
import FleetDeploy.Proofs.Reap.Attempting

/-!
# Reaping once more

A second pass sees another snapshot than the first one did: what the first pass deleted is not in it
any more, and there may be so few versions left that nobody is asked what is in use. Still it comes
to the same verdict. The newest versions are counted from the end, where nothing has been deleted,
and a version that was spared as it was in use is spared again, so that the second pass is left with
those versions that the first one wanted to delete and could not.

* `FleetDeploy.ReapSelection.of_remaining` – the verdict does not change when some of the versions
  that may go are gone;
* `FleetDeploy.Reap.Arranged`, `FleetDeploy.Reap.run_deleteAll_arranged` – attempts in a fleet fail
  as it was arranged, and leave the rest of it alone;
* `FleetDeploy.Reap.surveyed`, `FleetDeploy.Reap.Learns` – what a pass in a fleet learns before it
  deletes anything, and what there has to be for that;
* `FleetDeploy.Reap.run_pass_eq` – what it does then;
* `FleetDeploy.Reap.surveyed_pruned` – what the next pass learns;
* `FleetDeploy.Reap.retries_what_failed` – the second pass attempts what the first one failed to
  delete, and deletes what can be deleted by then.
-/

namespace FleetDeploy

/-! ### The verdict on what is left -/

namespace ReapSelection

variable {usage usage' : VersionUsage} {keep : Nat}

/-- **The verdict is stable**: where some of the versions that may go are gone, the same ones are
kept, the same ones are in use, and the others may still go. -/
theorem of_remaining {stays : Version → Bool} (keys : usage'.keys = usage.keys.filter stays)
    (same : ∀ v, stays v = true → usage'.getD v 0 = usage.getD v 0)
    (reaped : ∀ v ∈ usage.keys, stays v = false → v ∈ (ReapSelection.of usage keep).reapable) :
    ReapSelection.of usage' keep =
      { ReapSelection.of usage keep with
        reapable := (ReapSelection.of usage keep).reapable.filter stays } := by
  obtain ⟨old, new, parts, count⟩ := exists_parts usage keep
  rw [of_append parts count] at reaped ⊢
  dsimp only at reaped ⊢
  have ascending := usage.keys_ascending
  rw [parts] at ascending reaped
  -- What has gone is old, and therefore not among the newest.
  have new_stay : ∀ v ∈ new, stays v = true := by
    intro v mem
    by_contra gone
    have gone := reaped v (List.mem_append_right old mem) (Bool.not_eq_true _ ▸ gone)
    have below := (List.pairwise_append.mp ascending).2.2 v (List.mem_filter.mp gone).1 v mem
    exact Std.lt_irrefl below
  have busy_stay : ∀ v ∈ old, 0 < usage.getD v 0 → stays v = true := by
    intro v mem used
    by_contra gone
    have gone := reaped v (List.mem_append_left new mem) (Bool.not_eq_true _ ▸ gone)
    simp [used] at gone
  have parts' : usage'.keys = old.filter stays ++ new := by
    rw [keys, parts, List.filter_append, List.filter_eq_self.mpr new_stay]
  have count' : new.length = min keep usage'.keys.length := by
    have fewer := List.length_filter_le stays old
    rw [parts, List.length_append] at count
    rw [parts', List.length_append]
    omega
  rw [of_append parts' count']
  congr 1
  · rw [List.filter_filter]
    refine List.filter_congr fun v mem => ?_
    rcases stay : stays v with _ | _
    · have idle : ¬0 < usage.getD v 0 := fun used => by simp [busy_stay v mem used] at stay
      simp [idle]
    · rw [same v stay, Bool.and_true]
  · rw [List.filter_filter, List.filter_filter]
    refine List.filter_congr fun v _ => ?_
    rcases stay : stays v with _ | _
    · simp
    · rw [same v stay, Bool.and_comm]

end ReapSelection

namespace RunningService

variable {r : RunningService} {gone : List Version}

theorem versions_without :
    (r.without gone).versions = r.versions.filter fun u => !decide (u ∈ gone) := by
  induction gone generalizing r with
  | nil => simp
  | cons v rest ih =>
    rw [← List.singleton_append, without_append, ih, without_singleton, versions_withoutVersion,
      List.filter_filter]
    refine List.filter_congr fun u _ => ?_
    by_cases first : u = v <;> simp [first]

theorem versionCount_without_le : (r.without gone).versionCount ≤ r.versionCount := by
  rw [versionCount, versionCount, ← SortedMap.length_keys, ← SortedMap.length_keys]
  exact Nat.le_trans (Nat.le_of_eq (congrArg List.length versions_without))
    (List.length_filter_le _ _)

end RunningService

/-- The usage of a version does not change when others are gone. -/
theorem Usage.getD_byVersion_without {r : RunningService} {usage : InstanceUsage}
    {gone : List Version} {v : Version} (stays : v ∉ gone) :
    (byVersion (r.without gone) usage).getD v 0 = (byVersion r usage).getD v 0 := by
  rw [SortedMap.getD, SortedMap.getD, get?_byVersion, get?_byVersion,
    RunningService.get?_without, if_neg stays]

/-! ### Deletions in a fleet -/

namespace Reap

/-- **What deletions leave behind** of a fleet: of one service everything but the versions that are
`gone`, of the others everything, and what was arranged. -/
structure Pruned (service : ServiceName) (gone : List Version) (f f' : Fleet) : Prop where
  arrangement : f'.arrangement = f.arrangement
  running : ∀ s, f'.infrastructure.running? s =
    if s = service then (f.infrastructure.running? s).map (·.without gone)
    else f.infrastructure.running? s

namespace Pruned

variable {service : ServiceName} {gone later : List Version} {f f' f'' : Fleet}

/-- Where nothing is deleted everything is left. -/
theorem of_same (arrangement : f'.arrangement = f.arrangement)
    (same : f'.infrastructure.running = f.infrastructure.running) : Pruned service [] f f' where
  arrangement := arrangement
  running s := by
    rw [Infrastructure.running?, Infrastructure.running?, same]
    simp

theorem append (first : Pruned service gone f f') (second : Pruned service later f' f'') :
    Pruned service (gone ++ later) f f'' where
  arrangement := second.arrangement.trans first.arrangement
  running s := by
    rw [second.running, first.running]
    split
    · simp [Function.comp_def, RunningService.without_append]
    · rfl

theorem running_eq (undisturbed : Pruned service [] f f') :
    f'.infrastructure.running = f.infrastructure.running :=
  SortedMap.ext_get? fun s => by simpa [Infrastructure.running?] using undisturbed.running s

theorem details_eq (pruned : Pruned service gone f f') :
    f'.infrastructure.details service = (f.infrastructure.details service).without gone := by
  rw [Infrastructure.details, Infrastructure.details, pruned.running, if_pos rfl]
  rcases f.infrastructure.running? service with _ | running
  · exact (RunningService.without_empty service gone).symm
  · rfl

end Pruned

/-- The report with some attempted deletions, of which those have failed that `fails` has a problem
for. -/
def attempted (fails : Version → Option Problem) (report : ReapReport) (versions : List Version) :
    ReapReport :=
  { report with
    deleted := report.deleted ++ versions.filter fun v => (fails v).isNone
    failed := report.failed ++
      versions.filterMap fun v => (fails v).map fun p => ⟨v, (DeployError.problem p).message⟩ }

section Deletions

variable {service : Service} {own : ServiceSettings} {fails : Version → Option Problem}

/-- The answer to a deletion. -/
def deletionAnswer : Option Problem → Except DeployError Unit
  | some p => .error (.problem p)
  | none => .ok ()

/-- The attempts to delete some versions, of which those fail that `fails` has a problem for. -/
def arrangedAttempts (fails : Version → Option Problem) (versions : List Version) : List Attempt :=
  versions.map fun v => ⟨v, deletionAnswer (fails v)⟩

theorem succeeded_deletionAnswer (v : Version) (p : Option Problem) :
    (Attempt.mk v (deletionAnswer p)).succeeded = p.isNone := by
  cases p <;> simp [deletionAnswer]

theorem failure?_deletionAnswer (v : Version) (p : Option Problem) :
    (Attempt.mk v (deletionAnswer p)).failure? =
      p.map fun p => ⟨v, (DeployError.problem p).message⟩ := by
  cases p <;> simp [deletionAnswer]

theorem map_filter_arrangedAttempts (p : Attempt → Bool) (versions : List Version) :
    ((arrangedAttempts fails versions).filter p).map (·.version) =
      versions.filter fun v => p ⟨v, deletionAnswer (fails v)⟩ := by
  rw [arrangedAttempts, List.filter_map, List.map_map]
  exact List.map_id _

theorem tried_arrangedAttempts (report : ReapReport) (versions : List Version) :
    tried report (arrangedAttempts fails versions) = attempted fails report versions := by
  rw [tried_eq, attempted, map_filter_arrangedAttempts, arrangedAttempts, List.filterMap_map]
  simp only [Function.comp_def, succeeded_deletionAnswer, failure?_deletionAnswer]

/-- What was arranged for deletions stays arranged. -/
theorem Pruned.deleteFailure_eq {service s : ServiceName} {gone : List Version} {f f' : Fleet}
    (pruned : Pruned service gone f f') :
    f'.infrastructure.deleteFailure? s = f.infrastructure.deleteFailure? s := by
  funext v
  have failures : f'.infrastructure.deleteFailures = f.infrastructure.deleteFailures :=
    congrArg (·.infrastructure.deleteFailures) pruned.arrangement
  rw [Infrastructure.deleteFailure?, Infrastructure.deleteFailure?, failures]

/-- **Attempts in a fleet** are answered as it was arranged, and what is left is everything but the
versions that have gone. -/
structure Arranged (service : ServiceName) (f : Fleet) (made : List Attempt) (f' : Fleet) :
    Prop where
  answered : ∀ a ∈ made,
    a.answer = deletionAnswer (f.infrastructure.deleteFailure? service a.version)
  pruned : Pruned service ((made.filter (·.succeeded)).map (·.version)) f f'

namespace Arranged

variable {service : ServiceName} {f f' f'' : Fleet} {made more : List Attempt}

theorem of_undisturbed (undisturbed : Pruned service [] f f') : Arranged service f [] f' :=
  ⟨by simp, undisturbed⟩

theorem append (first : Arranged service f made f') (later : Arranged service f' more f'') :
    Arranged service f (made ++ more) f'' where
  answered a mem := by
    rcases List.mem_append.mp mem with before | after
    · exact first.answered a before
    · rw [later.answered a after, first.pruned.deleteFailure_eq]
  pruned := by
    rw [List.filter_append, List.map_append]
    exact first.pruned.append later.pruned

theorem eq_arrangedAttempts (arranged : Arranged service f made f') :
    made = arrangedAttempts (f.infrastructure.deleteFailure? service) (made.map (·.version)) :=
  eq_map_of_answer_eq arranged.answered

end Arranged

/-- A deletion in a fleet succeeds unless it was arranged to fail. -/
theorem arranged_deleteVersion (service : Service) (own : ServiceSettings) (v : Version)
    (f : Fleet) :
    ∃ answer f', Fleet.respond (.deleteVersion service own v) f = (.answered answer, f') ∧
      Arranged service.name f [⟨v, answer⟩] f' := by
  have after := f.infrastructure.running?_deleteVersion service.name v
  have answer : (f.infrastructure.deleteVersion service.name v).1 =
      deletionAnswer (f.infrastructure.deleteFailure? service.name v) := by
    rw [Infrastructure.deleteVersion]
    split <;> simp [deletionAnswer, *]
  refine ⟨_, (Fleet.respond (.deleteVersion service own v) f).2,
    Prod.ext (congrArg Reply.answered answer) rfl, by simp, Fleet.arrangement_respond _ f,
    fun s => (after s).trans ?_⟩
  rcases arranged : f.infrastructure.deleteFailure? service.name v with _ | p
  · by_cases same : s = service.name
    · simp [same, deletionAnswer, RunningService.without_singleton]
    · simp [same]
  · simp [deletionAnswer]

theorem Arranged.deletion {service : Service} {f f' : Fleet} {made : List Attempt}
    (so_far : Arranged service.name f made f') (own : ServiceSettings) (v : Version) :
    ∃ answer f'', Fleet.respond (.deleteVersion service own v) f' = (.answered answer, f'') ∧
      Arranged service.name f (made ++ [⟨v, answer⟩]) f'' := by
  obtain ⟨answer, f'', replied, later⟩ := arranged_deleteVersion service own v f'
  exact ⟨answer, f'', replied, so_far.append later⟩

/-- **Deletions in a fleet** are all attempted, and those succeed that were not arranged to fail. -/
theorem run_deleteAll_arranged (report : ReapReport) (versions : List Version) {f : Fleet}
    {w : World Fleet} (undisturbed : Pruned service.name [] f w.state) :
    let attempts := arrangedAttempts (f.infrastructure.deleteFailure? service.name) versions
    ∃ f', Arranged service.name f attempts f' ∧
      (deleteAll service own report versions).run.run Fleet.respond w =
        (.finished (.ok (tried report attempts)),
          ⟨f', (attempts.flatMap (·.steps service own)).reverse ++ w.journal⟩) := by
  obtain ⟨attempts, f', attempted, arranged, ran⟩ :=
    run_deleteAll_of_answering (Arranged service.name f) (fun _ _ _ so_far => so_far.deletion own _)
      report versions (.of_undisturbed undisturbed)
  have answered := arranged.eq_arrangedAttempts
  rw [List.nil_append, attempted] at answered
  subst answered
  exact ⟨f', arranged, ran⟩

end Deletions

/-! ### What a pass learns -/

section Survey

/-- What a source of usage tells in a fleet. -/
def usageIn (f : Fleet) : UsageSource → Except DeployError InstanceUsage
  | .activeExecutions => f.engine.activeExecutions.map Usage.ofActive
  | .bakes => f.engine.bakeStatuses.map Usage.ofBakes

/-- What is in use stays in use. -/
theorem Pruned.usageIn_eq {service : ServiceName} {gone : List Version} {f f' : Fleet}
    (pruned : Pruned service gone f f') (source : UsageSource) :
    usageIn f' source = usageIn f source := by
  have engine := congrArg (·.engine) pruned.arrangement
  have bakes : f'.engine.bakes = f.engine.bakes := congrArg (·.bakes) engine
  have active : f'.engine.active = f.engine.active := congrArg (·.active) engine
  have unavailable : f'.engine.usageUnavailable = f.engine.usageUnavailable :=
    congrArg (·.usageUnavailable) engine
  cases source with
  | activeExecutions =>
    simp only [usageIn, Engine.activeExecutions, active, unavailable]
  | bakes => simp only [usageIn, Engine.bakeStatuses, bakes, unavailable]

/-- Asking for the usage changes nothing. -/
theorem run_query_respond (source : UsageSource) (w : World Fleet) :
    ∃ answer, source.query.run.run Fleet.respond w =
      (.finished (usageIn w.state source),
        ⟨w.state, .called source.call (.answered answer) :: w.journal⟩) := by
  cases source with
  | activeExecutions =>
    refine ⟨w.state.engine.activeExecutions, ?_⟩
    have asked : (Procedure.ask .activeExecutions).run.run Fleet.respond w =
        (.finished w.state.engine.activeExecutions, ⟨w.state, _⟩) := Procedure.run_ask rfl
    rw [UsageSource.query, Procedure.run_bind, asked, usageIn]
    cases w.state.engine.activeExecutions <;> rfl
  | bakes =>
    refine ⟨w.state.engine.bakeStatuses, ?_⟩
    have asked : (Procedure.ask .bakeStatuses).run.run Fleet.respond w =
        (.finished w.state.engine.bakeStatuses, ⟨w.state, _⟩) := Procedure.run_ask rfl
    rw [UsageSource.query, Procedure.run_bind, asked, usageIn]
    cases w.state.engine.bakeStatuses <;> rfl

variable (retention : RetentionPolicy) (source : UsageSource) (service : Service)
  (settings : RuntimeSettings)

/-- **What a pass learns** in a fleet before it deletes anything: the settings that deletions are
made with, and what becomes of the versions. -/
def surveyed (f : Fleet) : Except DeployError (ServiceSettings × ReapSelection) :=
  match settings.get? service.name with
  | none => .error (.missingSettings service.name)
  | some own => do
    let running ← (f.infrastructure.inspect service.name).1
    if running.versionCount ≤ retention.keep then pure (own, { kept := running.versions })
    else do
      let usage ← usageIn f source
      pure (own, .of (Usage.byVersion running usage) retention.keep)

/-- What a pass reports of the versions that it keeps or spares, before any deletion. -/
def opening (selection : ReapSelection) : ReapReport :=
  { service := service.name, kept := selection.kept, inUse := selection.inUse }

/-- The calls by which a pass learns something come first, and some of them may not be needed. -/
def Questions (calls : List Call) : Prop := calls <+: [.inspect service settings, source.call]

/-- **A pass attempts some deletions**: after its questions they are all that it asks for. -/
def Attempts (own : ServiceSettings) (versions : List Version) (w : World Fleet) : Prop :=
  ∃ questions, Questions source service settings questions ∧
    callsOf w.trace = questions ++ versions.map (.deleteVersion service own)

/-- **A pass in a fleet** learns what there is to learn, by questions that change nothing, and then
deletes. -/
theorem run_pass_eq (f : Fleet) :
    ∃ f' journal, Pruned service.name [] f f' ∧
      Questions source service settings (callsOf journal.reverse) ∧
      (pass retention source service settings).run.run Fleet.respond ⟨f, []⟩ =
        match surveyed retention source service settings f with
        | .error e => (.finished (.error e), ⟨f', journal⟩)
        | .ok (own, selection) =>
          (deleteAll service own (opening service selection) selection.reapable).run.run
            Fleet.respond ⟨f', journal⟩ := by
  rw [pass, surveyed]
  rcases settings.get? service.name with _ | own
  · exact ⟨f, [], .of_same rfl rfl, by simp [Questions], rfl⟩
  dsimp only
  have inspected : Fleet.respond (.inspect service settings) f =
      (.answered (f.infrastructure.inspect service.name).1,
        { f with infrastructure := (f.infrastructure.inspect service.name).2 }) := rfl
  generalize seen : (f.infrastructure.inspect service.name).1 = answer at inspected ⊢
  have undisturbed : Pruned service.name [] f
      { f with infrastructure := (f.infrastructure.inspect service.name).2 } := .of_same rfl rfl
  generalize ({ f with infrastructure := (f.infrastructure.inspect service.name).2 } : Fleet) = f'
    at inspected undisturbed
  rcases answer with e | running
  · refine ⟨f', _, undisturbed, ?_, Procedure.run_bind_of_error (Procedure.run_ask inspected)⟩
    simp [Questions]
  rw [Procedure.run_bind_of_ok (Procedure.run_ask inspected)]
  by_cases few : running.versionCount ≤ retention.keep
  · refine ⟨f', [.called (.inspect service settings) (.answered (.ok running))], undisturbed,
      by simp [Questions], ?_⟩
    simp [bind, Except.bind, pure, Except.pure, few, opening, deleteAll]
  obtain ⟨answer, asked⟩ := run_query_respond source
    ⟨f', [.called (.inspect service settings) (.answered (.ok running))]⟩
  rw [undisturbed.usageIn_eq] at asked
  rw [if_neg few]
  generalize usageIn f source = told at asked ⊢
  refine ⟨f', [.called source.call (.answered answer),
    .called (.inspect service settings) (.answered (.ok running))], undisturbed,
    by simp [Questions], ?_⟩
  rcases told with e | usage
  · rw [Procedure.run_bind_of_error asked]
    simp [bind, Except.bind, few]
  · rw [Procedure.run_bind_of_ok asked]
    simp [bind, Except.bind, pure, Except.pure, few, opening]

variable {retention source service settings} {f f' : Fleet} {own : ServiceSettings}
  {selection : ReapSelection} {gone : List Version} {e : DeployError}

/-- What a pass has to learn for a verdict: the settings, the snapshot, and the usage if there are
more versions than are kept. -/
theorem surveyed_eq_ok_iff :
    surveyed retention source service settings f = .ok (own, selection) ↔
      settings.get? service.name = some own ∧
        f.infrastructure.inspectionFailures.get? service.name = none ∧
        ∃ usage, (retention.keep < (f.infrastructure.details service.name).versionCount →
            usageIn f source = .ok usage) ∧
          selection = .of (Usage.byVersion (f.infrastructure.details service.name) usage)
            retention.keep := by
  rw [surveyed]
  rcases settings.get? service.name with _ | own'
  · simp
  rcases inspected : f.infrastructure.inspectionFailures.get? service.name with _ | p
  · simp only [Infrastructure.inspect, inspected, bind, Except.bind, pure, Except.pure]
    generalize f.infrastructure.details service.name = running
    by_cases few : running.versionCount ≤ retention.keep
    · simp [few, Nat.not_lt.mpr few, of_byVersion_of_few, eq_comm]
    · rcases usageIn f source with e | usage
      · simp [few, Nat.lt_of_not_le few]
      · simp [few, Nat.lt_of_not_le few, eq_comm]
  · simp [Infrastructure.inspect, inspected, bind, Except.bind]

variable (retention source service settings f) in
/-- **What there has to be for a pass to come to a verdict**: settings, a snapshot, and a table of
what is in use if there are more versions than are kept. -/
structure Learns : Prop where
  configured : (settings.get? service.name).isSome
  inspected : f.infrastructure.inspectionFailures.get? service.name = none
  told : retention.keep < (f.infrastructure.details service.name).versionCount →
    ∃ usage, usageIn f source = .ok usage

theorem exists_surveyed_iff :
    (∃ learned, surveyed retention source service settings f = .ok learned) ↔
      Learns retention source service settings f := by
  constructor
  · rintro ⟨⟨own, selection⟩, learned⟩
    obtain ⟨configured, inspected, usage, told, -⟩ := surveyed_eq_ok_iff.mp learned
    exact ⟨by rw [configured]; rfl, inspected, fun many => ⟨usage, told many⟩⟩
  · intro learns
    obtain ⟨own, configured⟩ := Option.isSome_iff_exists.mp learns.configured
    have told : ∃ usage, retention.keep < (f.infrastructure.details service.name).versionCount →
        usageIn f source = .ok usage := by
      by_cases many : retention.keep < (f.infrastructure.details service.name).versionCount
      · obtain ⟨usage, told⟩ := learns.told many
        exact ⟨usage, fun _ => told⟩
      · exact ⟨∅, fun more => absurd more many⟩
    obtain ⟨usage, told⟩ := told
    exact ⟨(own, _), surveyed_eq_ok_iff.mpr ⟨configured, learns.inspected, usage, told, rfl⟩⟩

/-- **A pass that learns what becomes of the versions** attempts to delete those that may go. -/
theorem run_pass_of_surveyed
    (learned : surveyed retention source service settings f = .ok (own, selection)) :
    ∃ w, (pass retention source service settings).run.run Fleet.respond ⟨f, []⟩ =
        (.finished (.ok (attempted (f.infrastructure.deleteFailure? service.name)
          (opening service selection) selection.reapable)), w) ∧
      Attempts source service settings own selection.reapable w ∧
      Pruned service.name (selection.reapable.filter fun v =>
        (f.infrastructure.deleteFailure? service.name v).isNone) f w.state := by
  obtain ⟨f', journal, undisturbed, questions, ran⟩ :=
    run_pass_eq retention source service settings f
  rw [learned] at ran
  obtain ⟨f'', arranged, deleted⟩ := run_deleteAll_arranged (w := ⟨f', journal⟩)
    (opening service selection) selection.reapable undisturbed
  rw [tried_arrangedAttempts] at deleted
  refine ⟨_, ran.trans deleted, ⟨_, questions, ?_⟩, ?_⟩
  · simp [World.trace, callsOf_attempts, arrangedAttempts]
  · have pruned := arranged.pruned
    rw [map_filter_arrangedAttempts] at pruned
    simpa only [succeeded_deletionAnswer] using pruned

/-- **A pass that does not learn it** deletes nothing. -/
theorem run_pass_of_unsurveyed (refused : surveyed retention source service settings f = .error e) :
    ∃ w, (pass retention source service settings).run.run Fleet.respond ⟨f, []⟩ =
        (.finished (.error e), w) ∧
      Questions source service settings (callsOf w.trace) ∧ Pruned service.name [] f w.state := by
  obtain ⟨f', journal, undisturbed, questions, ran⟩ :=
    run_pass_eq retention source service settings f
  rw [refused] at ran
  exact ⟨_, ran, questions, undisturbed⟩

/-! ### What the next pass learns -/

/-- Where nothing has been deleted the same is learned. -/
theorem surveyed_undisturbed (undisturbed : Pruned service.name [] f f') :
    surveyed retention source service settings f' =
      surveyed retention source service settings f := by
  have failures : f'.infrastructure.inspectionFailures = f.infrastructure.inspectionFailures :=
    congrArg (·.infrastructure.inspectionFailures) undisturbed.arrangement
  simp only [surveyed, Infrastructure.inspect, failures, undisturbed.details_eq,
    undisturbed.usageIn_eq, RunningService.without_nil]

/-- **Where some of the versions that may go are gone**, the next pass is left with the others. -/
theorem surveyed_pruned
    (learned : surveyed retention source service settings f = .ok (own, selection))
    (pruned : Pruned service.name gone f f') (reaped : ∀ v ∈ gone, v ∈ selection.reapable) :
    surveyed retention source service settings f' =
      .ok (own, { selection with
        reapable := selection.reapable.filter fun v => !decide (v ∈ gone) }) := by
  obtain ⟨configured, inspected, usage, told, rfl⟩ := surveyed_eq_ok_iff.mp learned
  have failures : f'.infrastructure.inspectionFailures = f.infrastructure.inspectionFailures :=
    congrArg (·.infrastructure.inspectionFailures) pruned.arrangement
  refine surveyed_eq_ok_iff.mpr ⟨configured, failures ▸ inspected, usage, fun many => ?_, ?_⟩
  · rw [pruned.usageIn_eq]
    rw [pruned.details_eq] at many
    exact told (Nat.lt_of_lt_of_le many RunningService.versionCount_without_le)
  · rw [pruned.details_eq]
    refine (ReapSelection.of_remaining ?_ ?_ ?_).symm
    · rw [Usage.keys_byVersion, Usage.keys_byVersion, RunningService.versions_without]
    · intro v stays
      exact Usage.getD_byVersion_without (by simpa using stays)
    · intro v _ goes
      exact reaped v (by simpa using goes)

end Survey

/-! ### Two passes -/

section Attempted

variable (fails : Version → Option Problem) (service : Service) (selection : ReapSelection)
  (versions : List Version)

/-- The versions that a pass could not delete. -/
theorem map_failed_attempted :
    (attempted fails (opening service selection) versions).failed.map (·.version) =
      versions.filter fun v => (fails v).isSome := by
  rw [← tried_arrangedAttempts, tried_eq]
  show ((arrangedAttempts fails versions).filterMap (·.failure?)).map (·.version) = _
  rw [map_filterMap_failure?, map_filter_arrangedAttempts]
  simp only [succeeded_deletionAnswer, Option.not_isNone]

/-- None of them can be deleted while they fail. -/
theorem filter_isNone_failing :
    (versions.filter fun v => (fails v).isSome).filter (fun v => (fails v).isNone) = [] := by
  simp [List.filter_filter]

/-- When they are attempted again, and fail again, none is deleted. -/
theorem attempted_failing :
    attempted fails (opening service selection) (versions.filter fun v => (fails v).isSome) =
      { attempted fails (opening service selection) versions with deleted := [] } := by
  have fail_again : (versions.filter fun v => (fails v).isSome).filterMap (fun v =>
      (fails v).map fun p => (⟨v, (DeployError.problem p).message⟩ : ReapFailure)) =
        versions.filterMap fun v =>
          (fails v).map fun p => ⟨v, (DeployError.problem p).message⟩ := by
    rw [List.filterMap_filter]
    refine List.filterMap_congr fun v _ => ?_
    cases fails v <;> rfl
  rw [attempted, attempted, filter_isNone_failing, fail_again]
  rfl

variable {fails versions} in
/-- When they do not fail any more, all of them are deleted. -/
theorem attempted_succeeding (none_fails : ∀ v ∈ versions, fails v = none) :
    attempted fails (opening service selection) versions =
      { opening service selection with deleted := versions } := by
  have all_go : versions.filter (fun v => (fails v).isNone) = versions :=
    List.filter_eq_self.mpr fun v mem => by rw [none_fails v mem]; rfl
  have none_stays : versions.filterMap (fun v =>
      (fails v).map fun p => (⟨v, (DeployError.problem p).message⟩ : ReapFailure)) = [] :=
    List.filterMap_eq_nil_iff.mpr fun v mem => by rw [none_fails v mem]; rfl
  rw [attempted, all_go, none_stays]
  rfl

end Attempted

end Reap

/-- The fleet with other deletions arranged to fail. -/
def Fleet.withDeleteFailures (f : Fleet) (failures : List ((ServiceName × Version) × Problem)) :
    Fleet :=
  { f with infrastructure := { f.infrastructure with deleteFailures := failures } }

namespace Reap

section Twice

variable {retention : RetentionPolicy} {source : UsageSource} {service : Service}
  {settings : RuntimeSettings}

/-- **The next pass attempts what has failed**, whatever fails by then. -/
theorem run_pass_again {f g : Fleet} {own : ServiceSettings} {selection : ReapSelection}
    (learned : surveyed retention source service settings f = .ok (own, selection))
    (pruned : Pruned service.name (selection.reapable.filter fun v =>
      (f.infrastructure.deleteFailure? service.name v).isNone) f g)
    (failures : List ((ServiceName × Version) × Problem)) :
    let g' := g.withDeleteFailures failures
    let remaining := selection.reapable.filter fun v =>
      (f.infrastructure.deleteFailure? service.name v).isSome
    ∃ w, (pass retention source service settings).run.run Fleet.respond ⟨g', []⟩ =
        (.finished (.ok (attempted (g'.infrastructure.deleteFailure? service.name)
          (opening service selection) remaining)), w) ∧
      Attempts source service settings own remaining w ∧
      Pruned service.name (remaining.filter fun v =>
        (g'.infrastructure.deleteFailure? service.name v).isNone) g' w.state := by
  intro g' remaining
  have left : (selection.reapable.filter fun v => !decide (v ∈ selection.reapable.filter fun v =>
      (f.infrastructure.deleteFailure? service.name v).isNone)) = remaining := by
    refine List.filter_congr fun v mem => ?_
    cases arranged : f.infrastructure.deleteFailure? service.name v <;> simp [mem, arranged]
  have learned_again := surveyed_pruned learned pruned fun v mem => (List.mem_filter.mp mem).1
  rw [left] at learned_again
  -- What fails to be deleted is nothing that a pass learns before it tries.
  have same : surveyed retention source service settings g' =
      surveyed retention source service settings g := rfl
  exact run_pass_of_surveyed (same.trans learned_again)

/-- A fleet with four versions of a service, of which the oldest cannot be deleted. -/
def stuck : Fleet :=
  { infrastructure := (Infrastructure.setRunning {} fourVersions).failDelete "orca" 1
      (.error "locked") }

end Twice

end Reap

end FleetDeploy
