import FleetDeploy.Proofs.Reap.Again

/-!
# Deletions that fail

A deletion that fails is noted, and that is all that comes of it. Whichever of the deletions of a
pass fail, each version that may go is attempted once and in its turn, the pass succeeds, and its
report tells which of them have gone and which have not. What is kept and what is in use was settled
before the first attempt. Observers hear of every attempt, and of the versions that have gone.

How the deletions are answered is left to the collaborators, who may make it depend on whatever was
asked before. In a fleet in memory it is arranged which of them fail, and what is left running is
told by the report.

* `FleetDeploy.Reap.questionSteps`, `FleetDeploy.Reap.selection` – what a pass asks, and what it
  selects by the answers;
* `FleetDeploy.Reap.Isolates` – what a pass makes of a selection, failure by failure;
* `FleetDeploy.Reap.isolates_failures` – every pass that learns what it has to does that.
-/

namespace FleetDeploy.Reap

/-! ### A pass whose deletions are answered -/

/-- The steps by which a pass learns what becomes of the versions. -/
def questionSteps (retention : RetentionPolicy) (source : UsageSource) (service : Service)
    (settings : RuntimeSettings) (running : RunningService) (table : source.call.Result) :
    List Step :=
  .called (.inspect service settings) (.answered (.ok running)) ::
    if retention.keep < running.versionCount then
      [.called source.call (.answered (.ok table))]
    else []

/-- What a pass selects. -/
def selection (retention : RetentionPolicy) (source : UsageSource) (running : RunningService)
    (table : source.call.Result) : ReapSelection :=
  .of (Usage.byVersion running (source.usage table)) retention.keep

/-- Questions are not announced. -/
theorem eventsOf_questionSteps (retention : RetentionPolicy) (source : UsageSource)
    (service : Service) (settings : RuntimeSettings) (running : RunningService)
    (table : source.call.Result) :
    eventsOf (questionSteps retention source service settings running table) = [] := by
  rw [questionSteps]
  split <;> rfl

section Pass

variable {σ : Type} {h : Handler σ} {retention : RetentionPolicy} {source : UsageSource}
  {service : Service} {settings : RuntimeSettings} {own : ServiceSettings}
  {running : RunningService} {table : source.call.Result} {s₀ s₁ s₂ : σ}

/-- **A pass whose deletions are answered** asks its questions, and then every version that may go
has its turn. What one attempt preserves holds in the end, if it holds after the questions. -/
theorem run_pass_of_answering (Holds : List Attempt → σ → Prop)
    (configured : settings.get? service.name = some own)
    (inspected : h (.inspect service settings) s₀ = (.answered (.ok running), s₁))
    (told : retention.keep < running.versionCount →
      h source.call s₁ = (.answered (.ok table), s₂))
    (answering : ∀ v made s, Holds made s →
      ∃ answer s', h (.deleteVersion service own v) s = (.answered answer, s') ∧
        Holds (made ++ [⟨v, answer⟩]) s')
    (unasked : Holds [] s₁) (asked : Holds [] s₂) :
    ∃ attempts w,
      attempts.map (·.version) = (selection retention source running table).reapable ∧
      Holds attempts w.state ∧
      (pass retention source service settings).run.run h ⟨s₀, []⟩ =
        (.finished (.ok (tried (opening service (selection retention source running table))
          attempts)), w) ∧
      w.trace = questionSteps retention source service settings running table ++
        attempts.flatMap (·.steps service own) := by
  rw [run_pass configured inspected told]
  by_cases few : running.versionCount ≤ retention.keep
  · have all_kept : selection retention source running table = { kept := running.versions } :=
      of_byVersion_of_few few (source.usage table)
    refine ⟨[], _, by rw [all_kept]; rfl, unasked, by rw [if_pos few, all_kept]; rfl, ?_⟩
    rw [questionSteps, if_neg (Nat.not_lt.mpr few)]
    rfl
  · have start : Holds [] (World.state ⟨s₂, [.called source.call (.answered (.ok table)),
        .called (.inspect service settings) (.answered (.ok running))]⟩) := asked
    obtain ⟨attempts, s, versions, holds, ran⟩ := run_deleteAll_of_answering Holds answering
      (opening service (selection retention source running table))
      (selection retention source running table).reapable start
    rw [List.nil_append] at holds
    refine ⟨attempts, _, versions, holds, by rw [if_neg few]; exact ran, ?_⟩
    rw [questionSteps, if_pos (Nat.lt_of_not_le few)]
    simp [World.trace]

end Pass

/-! ### Isolation -/

section Isolation

variable (service : Service) (own : ServiceSettings) (questions : List Step)
  (selected : ReapSelection) (attempts : List Attempt) (report : ReapReport) (trace : List Step)

/-- **Failures are isolated**: after its questions a pass attempts the versions that may go, each
once and the oldest first, and does nothing else. The report lists those that have gone and those
that have not, with the reason, each of them in the same order and together all of them. What it
lists as kept and as in use is what was selected, and no attempt has a part in it. -/
structure Isolates : Prop where
  attempted : attempts.map (·.version) = selected.reapable
  trace_eq : trace = questions ++ attempts.flatMap (·.steps service own)
  calls : callsOf trace = callsOf questions ++ selected.reapable.map (.deleteVersion service own)
  events : eventsOf trace = attempts.flatMap (·.events service)
  service_eq : report.service = service.name
  kept : report.kept = selected.kept
  inUse : report.inUse = selected.inUse
  deleted : report.deleted = (attempts.filter (·.succeeded)).map (·.version)
  failed : report.failed = attempts.filterMap (·.failure?)
  failed_versions : report.failed.map (·.version) =
    (attempts.filter fun a => !a.succeeded).map (·.version)
  whole : (report.deleted ++ report.failed.map (·.version)).Perm selected.reapable
  reapable_ascending : selected.reapable.Pairwise (· < ·)
  deleted_ascending : report.deleted.Pairwise (· < ·)
  failed_ascending : (report.failed.map (·.version)).Pairwise (· < ·)

variable {service own questions selected attempts trace}

/-- Attempts in the order of their versions, noted one after the other, isolate failures. -/
theorem isolates_tried (attempted : attempts.map (·.version) = selected.reapable)
    (ascending : selected.reapable.Pairwise (· < ·))
    (trace_eq : trace = questions ++ attempts.flatMap (·.steps service own))
    (unannounced : eventsOf questions = []) :
    Isolates service own questions selected attempts (tried (opening service selected) attempts)
      trace := by
  have deleted : (tried (opening service selected) attempts).deleted =
      (attempts.filter (·.succeeded)).map (·.version) := by
    rw [tried_eq]
    exact List.nil_append _
  have failed : (tried (opening service selected) attempts).failed =
      attempts.filterMap (·.failure?) := by
    rw [tried_eq]
    exact List.nil_append _
  have failed_versions : (tried (opening service selected) attempts).failed.map (·.version) =
      (attempts.filter fun a => !a.succeeded).map (·.version) := by
    rw [failed, map_filterMap_failure?]
  have part_ascending : ∀ p : Attempt → Bool,
      ((attempts.filter p).map (·.version)).Pairwise (· < ·) := fun p =>
    (attempted ▸ ascending).sublist (List.filter_sublist.map _)
  exact {
    attempted
    trace_eq
    calls := by rw [trace_eq, callsOf_append, callsOf_attempts, attempted]
    events := by rw [trace_eq, eventsOf_append, unannounced, eventsOf_attempts, List.nil_append]
    service_eq := by rw [tried_eq]; rfl
    kept := by rw [tried_eq]; rfl
    inUse := by rw [tried_eq]; rfl
    deleted
    failed
    failed_versions
    whole := by
      rw [deleted, failed_versions, ← List.map_append, ← attempted]
      exact (List.filter_append_perm _ attempts).map _
    reapable_ascending := ascending
    deleted_ascending := deleted ▸ part_ascending _
    failed_ascending := failed_versions ▸ part_ascending _ }

/-- An attempt was answered as the collaborators do, in some state of theirs. -/
def Attempt.AnsweredBy {σ : Type} (h : Handler σ) (service : Service) (own : ServiceSettings)
    (a : Attempt) : Prop :=
  ∃ s, (h (.deleteVersion service own a.version) s).1 = .answered a.answer

theorem exists_answeredBy {σ : Type} {h : Handler σ} {v : Version} {made : List Attempt} {s : σ}
    (answers : ∃ answer, (h (.deleteVersion service own v) s).1 = .answered answer)
    (so_far : ∀ a ∈ made, a.AnsweredBy h service own) :
    ∃ answer s', h (.deleteVersion service own v) s = (.answered answer, s') ∧
      ∀ a ∈ made ++ [⟨v, answer⟩], a.AnsweredBy h service own := by
  obtain ⟨answer, replied⟩ := answers
  have answered : (Attempt.mk v answer).AnsweredBy h service own := ⟨s, replied⟩
  refine ⟨answer, _, Prod.ext replied rfl, fun a mem => ?_⟩
  rcases List.mem_append.mp mem with before | now
  · exact so_far a before
  · rwa [List.mem_singleton.mp now]

/-- The usage is told as it was before an inspection. -/
theorem respond_call_of_inspected (source : UsageSource) (settings : RuntimeSettings)
    (fleet : Fleet) :
    Fleet.respond source.call (Fleet.respond (.inspect service settings) fleet).2 =
      ((Fleet.respond source.call fleet).1,
        (Fleet.respond (.inspect service settings) fleet).2) := by
  cases source <;> rfl

/-- **Deletions that fail are isolated.** Let a pass learn what it has to: the settings, the
snapshot, and the usage if there are more versions than are kept. However the deletions are answered
then, the pass succeeds, and after its questions it makes one attempt for each version that may go,
whatever came of those before (`Isolates`). In a fleet in memory those attempts fail that were
arranged to fail; of the service there is left what was there without the versions that are reported
as deleted, and of the other services everything. -/
theorem isolates_failures (retention : RetentionPolicy) (source : UsageSource) (service : Service)
    (settings : RuntimeSettings) (own : ServiceSettings)
    (configured : settings.get? service.name = some own) (running : RunningService)
    (table : source.call.Result) :
    (∀ {σ : Type} (h : Handler σ) (s₀ s₁ s₂ : σ),
      h (.inspect service settings) s₀ = (.answered (.ok running), s₁) →
      (retention.keep < running.versionCount →
        h source.call s₁ = (.answered (.ok table), s₂)) →
      (∀ v s, ∃ answer, (h (.deleteVersion service own v) s).1 = .answered answer) →
      ∃ report w attempts,
        (pass retention source service settings).run.run h ⟨s₀, []⟩ =
          (.finished (.ok report), w) ∧
        (∀ a ∈ attempts, a.AnsweredBy h service own) ∧
        Isolates service own (questionSteps retention source service settings running table)
          (selection retention source running table) attempts report w.trace) ∧
    ∀ fleet : Fleet,
      (fleet.infrastructure.inspect service.name).1 = .ok running →
      (retention.keep < running.versionCount →
        (Fleet.respond source.call fleet).1 = .answered (.ok table)) →
      ∃ report w,
        (pass retention source service settings).run.run Fleet.respond ⟨fleet, []⟩ =
          (.finished (.ok report), w) ∧
        Isolates service own (questionSteps retention source service settings running table)
          (selection retention source running table)
          (arrangedAttempts (fleet.infrastructure.deleteFailure? service.name)
            (selection retention source running table).reapable)
          report w.trace ∧
        ∀ s, w.state.infrastructure.running? s =
          if s = service.name then (fleet.infrastructure.running? s).map (·.without report.deleted)
          else fleet.infrastructure.running? s := by
  have ascending : (selection retention source running table).reapable.Pairwise (· < ·) :=
    ReapSelection.reapable_ascending
  have unannounced := eventsOf_questionSteps retention source service settings running table
  refine ⟨fun h s₀ s₁ s₂ inspected told answering => ?_, fun fleet inspected told => ?_⟩
  · -- All that is remembered of the attempts is that they were answered so.
    obtain ⟨attempts, w, versions, answered, ran, trace⟩ := run_pass_of_answering
      (fun made _ => ∀ a ∈ made, a.AnsweredBy h service own) configured inspected told
      (fun v _ s so_far => exists_answeredBy (answering v s) so_far) (by simp) (by simp)
    exact ⟨_, w, attempts, ran, answered, isolates_tried versions ascending trace unannounced⟩
  · have replied : Fleet.respond (.inspect service settings) fleet =
        (.answered (.ok running), (Fleet.respond (.inspect service settings) fleet).2) :=
      Prod.ext (congrArg Reply.answered inspected) rfl
    have told_then : retention.keep < running.versionCount →
        Fleet.respond source.call (Fleet.respond (.inspect service settings) fleet).2 =
          (.answered (.ok table), (Fleet.respond (.inspect service settings) fleet).2) :=
      fun many => by rw [respond_call_of_inspected, told many]
    have undisturbed : Arranged service.name fleet []
        (Fleet.respond (.inspect service settings) fleet).2 :=
      .of_undisturbed (.of_same rfl rfl)
    obtain ⟨attempts, w, versions, arranged, ran, trace⟩ := run_pass_of_answering
      (Arranged service.name fleet) configured replied told_then
      (fun _ _ _ so_far => so_far.deletion own _) undisturbed undisturbed
    have answered := arranged.eq_arrangedAttempts
    rw [versions] at answered
    have isolated := isolates_tried versions ascending trace unannounced
    refine ⟨_, w, ran, answered ▸ isolated, fun s => ?_⟩
    rw [arranged.pruned.running, isolated.deleted]

end Isolation

/-- Collaborators that know of the four versions and fail every other deletion, whichever it is of;
their state tells whether the next one fails. -/
def faltering : Handler Bool
  | .inspect .., fails => (.answered (.ok fourVersions), fails)
  | .bakeStatuses, fails => (.answered (.ok []), fails)
  | .deleteVersion .., fails =>
    (.answered (if fails then .error (.problem (.error "busy")) else .ok ()), !fails)
  | _, fails => (.crashed none, fails)

/-- Three of the four versions may go, and the deletion in the middle succeeds between two that
fail. Where two may go and the first of them is stuck, the second one goes. -/
theorem isolates_failures_stuck :
    (∃ (w : World Bool) (attempts : List Attempt),
      (pass ⟨1⟩ .bakes { name := "orca" } (RuntimeSettings.withService {} "orca" .on)).run.run
        faltering ⟨true, []⟩ =
          (.finished (.ok
            ⟨"orca", [4], [], [2], [⟨1, "[ERROR] busy"⟩, ⟨3, "[ERROR] busy"⟩]⟩), w) ∧
      attempts.map (·.version) = [1, 2, 3] ∧
      eventsOf w.trace = attempts.flatMap (·.events { name := "orca" })) ∧
    ∃ w,
      (pass ⟨2⟩ .bakes { name := "orca" } (RuntimeSettings.withService {} "orca" .on)).run.run
        Fleet.respond ⟨stuck, []⟩ =
          (.finished (.ok ⟨"orca", [3, 4], [], [2], [⟨1, "[ERROR] locked"⟩]⟩), w) ∧
      eventsOf w.trace = [.message "Reaping old orca server group sequence 1",
        .message "Reaping old orca server group sequence 2", .versionReaped "orca" 2] ∧
      w.state.infrastructure.running? "orca" = some (fourVersions.without [2]) := by
  constructor
  · obtain ⟨isolates, -⟩ := isolates_failures ⟨1⟩ .bakes { name := "orca" }
      (RuntimeSettings.withService {} "orca" .on) .on rfl fourVersions []
    obtain ⟨report, w, attempts, ran, -, isolated⟩ :=
      isolates faltering true true true rfl (fun _ => rfl) fun _ s => by cases s <;> exact ⟨_, rfl⟩
    have reported : report =
        ⟨"orca", [4], [], [2], [⟨1, "[ERROR] busy"⟩, ⟨3, "[ERROR] busy"⟩]⟩ := by
      exact (Except.ok.inj (Ending.finished.inj (congrArg (·.1) ran))).symm
    exact ⟨w, attempts, reported ▸ ran, isolated.attempted, isolated.events⟩
  · obtain ⟨-, isolates⟩ := isolates_failures ⟨2⟩ .bakes { name := "orca" }
      (RuntimeSettings.withService {} "orca" .on) .on rfl fourVersions []
    obtain ⟨report, w, ran, isolated, left⟩ := isolates stuck rfl fun _ => rfl
    have reported : report = ⟨"orca", [3, 4], [], [2], [⟨1, "[ERROR] locked"⟩]⟩ := by
      exact (Except.ok.inj (Ending.finished.inj (congrArg (·.1) ran))).symm
    subst reported
    exact ⟨w, ran, isolated.events, left "orca"⟩

end FleetDeploy.Reap
