import FleetDeploy.Proofs.Reap.Conduct
import FleetDeploy.Proofs.Reap.Deletions

/-!
# What a pass makes of the version that serves

The snapshot that a pass takes says which version is serving, and the pass does not look there: it
goes by how many versions are newer and by what runs on the instances. So the version that serves is
treated as any other one. It is safe while it is among the newest, and it is safe while something
runs on it; an older one that is idle is deleted, and afterwards the service has a serving version
that does not exist.

* `FleetDeploy.Reap.Treats` – what a pass does, told by its own steps;
* `FleetDeploy.Reap.Course`, `FleetDeploy.Reap.course_of_pass` – the steps of a pass, from which the
  rest is read off;
* `FleetDeploy.Reap.treats_of_pass` – every pass that is not broken off does that;
* `FleetDeploy.Reap.TreatsServing`, `FleetDeploy.Reap.Treats.serving` – what this means for the
  version that serves.
-/

namespace FleetDeploy.Reap

/-- Among some steps an inspection shows `running`. -/
def Shows (service : Service) (settings : RuntimeSettings) (steps : List Step)
    (running : RunningService) : Prop :=
  .called (.inspect service settings) (.answered (.ok running)) ∈ steps

/-- Among some steps the engine tells what is in use. -/
def Tells (source : UsageSource) (steps : List Step) (table : source.call.Result) : Prop :=
  .called source.call (.answered (.ok table)) ∈ steps

/-- Among some steps a version is handed to the provisioner to be deleted. -/
def Deletes (service : Service) (steps : List Step) (version : Version) : Prop :=
  ∃ own, .deleteVersion service own version ∈ callsOf steps

/-- **What a pass does** in some steps. It inspects its service, asks what is in use where more versions
are there than are kept, and deletes versions of its own service alone, having taken a snapshot; and
these are the doomed ones of the snapshot, provided that the engine tells what is in use. -/
structure Treats (keep : Nat) (source : UsageSource) (service : Service)
    (settings : RuntimeSettings) (steps : List Step) : Prop where
  inspects : (settings.get? service.name).isSome → .inspect service settings ∈ callsOf steps
  asks : ∀ {running}, Shows service settings steps running → keep < running.versionCount →
    source.call ∈ callsOf steps
  own : ∀ {s own version}, .deleteVersion s own version ∈ callsOf steps →
    s = service ∧ ∃ running, Shows service settings steps running
  deletes_iff : ∀ {running}, Shows service settings steps running → ∀ version,
    Deletes service steps version ↔
      ∃ table, Tells source steps table ∧ Doomed keep running (source.Live table) version

/-! ### The course of a pass -/

/-- **The courses that a pass may take** if it is not broken off. -/
inductive Course (keep : Nat) (source : UsageSource) (service : Service)
    (settings : RuntimeSettings) : List Step → Prop
  /-- There are no settings, and the service is not even inspected. -/
  | unset (absent : settings.get? service.name = none) : Course keep source service settings []
  /-- The inspection fails. -/
  | unseen (e : DeployError) :
      Course keep source service settings
        [.called (.inspect service settings) (.answered (.error e))]
  /-- There are no more versions than are kept. -/
  | few {running} (few : running.versionCount ≤ keep) :
      Course keep source service settings
        [.called (.inspect service settings) (.answered (.ok running))]
  /-- The engine does not tell what is in use. -/
  | untold (running : RunningService) (e : DeployError) :
      Course keep source service settings
        [.called source.call (.answered (.error e)),
          .called (.inspect service settings) (.answered (.ok running))]
  /-- After a snapshot and a table come the deletions of the doomed versions. -/
  | reaped {running table deletions} (own : ServiceSettings)
      (calls : ∀ c, c ∈ callsOf deletions ↔ ∃ version,
        Doomed keep running (source.Live table) version ∧ c = .deleteVersion service own version) :
      Course keep source service settings (deletions ++
        [.called source.call (.answered (.ok table)),
          .called (.inspect service settings) (.answered (.ok running))])

section Pass

variable {keep : Nat} {source : UsageSource} {service : Service} {settings : RuntimeSettings}

variable {σ : Type} {h : Handler σ} {retention : RetentionPolicy} {s s₁ s₂ : σ} {w : World σ}
  {own : ServiceSettings} {running : RunningService} {table : source.call.Result}
  {r : Except DeployError ReapReport}

/-- Where there is a snapshot and a table, the doomed versions are deleted. -/
theorem course_of_told (configured : settings.get? service.name = some own)
    (inspected : h (.inspect service settings) s = (.answered (.ok running), s₁))
    (told : h source.call s₁ = (.answered (.ok table), s₂))
    (many : ¬running.versionCount ≤ retention.keep)
    (ran : (pass retention source service settings).run.run h ⟨s, []⟩ = (.finished r, w)) :
    Course retention.keep source service settings w.journal := by
  rw [run_pass configured inspected fun _ => told, if_neg many] at ran
  obtain ⟨deletions, journal, -⟩ := (deleteAll_asksOnly _ _ _ _).run ran
  rw [journal]
  refine .reaped own fun c => ?_
  obtain ⟨attempted, -, calls, ⟨-, rfl⟩ | ⟨payload, v, crash, -⟩⟩ := calls_deleteAll ran
  · -- The journal has the deletions latest first, which makes no difference to membership.
    have made : callsOf deletions.reverse =
        (ReapSelection.of (Usage.byVersion running (source.usage table))
          retention.keep).reapable.map (.deleteVersion service own) := by
      simpa [World.trace, journal] using calls
    rw [callsOf, ← List.mem_reverse, ← List.filterMap_reverse, ← callsOf, made, List.mem_map]
    simp only [mem_reapable_iff_doomed, eq_comm]
  · cases crash

/-- **The course of a pass**, read off its text: it goes on from one question to the next only where
it has been answered. -/
theorem course_of_pass
    (ran : (pass retention source service settings).run.run h ⟨s, []⟩ = (.finished r, w)) :
    Course retention.keep source service settings w.journal := by
  have whole := ran
  rw [pass] at ran
  split at ran
  · next absent =>
    obtain ⟨-, rfl⟩ := Prod.mk.inj ran
    exact .unset absent
  next own configured =>
  rcases inspected : h (.inspect service settings) s with ⟨(e | running) | payload, s₁⟩
  · rw [Procedure.run_bind_of_error (Procedure.run_ask inspected)] at ran
    obtain ⟨-, rfl⟩ := Prod.mk.inj ran
    exact .unseen e
  · rw [Procedure.run_bind_of_ok (Procedure.run_ask inspected)] at ran
    split at ran
    · next few =>
      obtain ⟨-, rfl⟩ := Prod.mk.inj ran
      exact .few few
    · next many =>
      rw [source.query_eq] at ran
      rcases told : h source.call s₁ with ⟨(e | table) | payload, s₂⟩
      · rw [Procedure.run_bind_of_error
          (Procedure.run_bind_of_error (Procedure.run_ask told))] at ran
        obtain ⟨-, rfl⟩ := Prod.mk.inj ran
        exact .untold running e
      · exact course_of_told configured inspected told many whole
      · rw [Procedure.run_bind_of_crashed
          (Procedure.run_bind_of_crashed (Procedure.run_ask_of_crashed told))] at ran
        cases ran
  · rw [Procedure.run_bind_of_crashed (Procedure.run_ask_of_crashed inspected)] at ran
    cases ran

/-- What a pass does that deletes the doomed versions of `running`. -/
theorem treats_of_deletions {deletions : List Step}
    (calls : ∀ c, c ∈ callsOf deletions ↔ ∃ version,
      Doomed keep running (source.Live table) version ∧ c = .deleteVersion service own version) :
    Treats keep source service settings
      (deletions ++ [.called source.call (.answered (.ok table)),
        .called (.inspect service settings) (.answered (.ok running))]) := by
  have deleted {c : Call} {reply : Reply c} (mem : .called c reply ∈ deletions) :
      ∃ version, c = .deleteVersion service own version := by
    obtain ⟨version, -, deletion⟩ := (calls c).mp (List.mem_filterMap.mpr ⟨_, mem, rfl⟩)
    exact ⟨version, deletion⟩
  -- So there is one snapshot, one table, and no deletion but these.
  have snapshot {running' : RunningService} :
      Shows service settings (deletions ++ [.called source.call (.answered (.ok table)),
        .called (.inspect service settings) (.answered (.ok running))]) running' ↔
          running' = running := by
    have earlier : .called (.inspect service settings) (.answered (.ok running')) ∉ deletions := by
      intro mem
      obtain ⟨version, other⟩ := deleted mem
      cases other
    cases source <;> simp [Shows, UsageSource.call, earlier]
  have told {table' : source.call.Result} :
      Tells source (deletions ++ [.called source.call (.answered (.ok table)),
        .called (.inspect service settings) (.answered (.ok running))]) table' ↔
          table' = table := by
    have earlier : .called source.call (.answered (.ok table')) ∉ deletions := by
      intro mem
      obtain ⟨version, other⟩ := deleted mem
      cases source <;> cases other
    have inspection : source.call ≠ .inspect service settings := by
      cases source <;> simp [UsageSource.call]
    rw [Tells, List.mem_append, or_iff_right earlier]
    simp [inspection]
  have made {s : Service} {own' : ServiceSettings} {version : Version} :
      .deleteVersion s own' version ∈ callsOf (deletions ++
        [.called source.call (.answered (.ok table)),
          .called (.inspect service settings) (.answered (.ok running))]) ↔
        Doomed keep running (source.Live table) version ∧ s = service ∧ own' = own := by
    have others : source.call ≠ .deleteVersion s own' version := by
      cases source <;> simp [UsageSource.call]
    simp [calls, others.symm]
  exact
    { inspects := fun _ => by simp
      asks := fun _ _ => by simp
      own := fun deletion => ⟨(made.mp deletion).2.1, running, snapshot.mpr rfl⟩
      deletes_iff := by
        intro running' shown version
        obtain rfl := snapshot.mp shown
        simp only [Deletes, made, told]
        simp }

theorem not_tells_inspection (reply : Reply (.inspect service settings))
    (table : source.call.Result) :
    ¬Tells source [.called (.inspect service settings) reply] table := by
  cases source <;> simp [Tells, UsageSource.call]

/-- Where the engine does not tell what is in use, nothing is deleted. -/
theorem deletes_iff_of_untold {steps : List Step} (untold : ∀ table, ¬Tells source steps table)
    (kept : ∀ s own version, .deleteVersion s own version ∉ callsOf steps) (version : Version) :
    Deletes service steps version ↔
      ∃ table, Tells source steps table ∧ Doomed keep running (source.Live table) version := by
  refine iff_of_false ?_ ?_
  · rintro ⟨own, made⟩
    exact kept service own version made
  · rintro ⟨table, told, -⟩
    exact untold table told

theorem treats_of_course {steps : List Step} (course : Course keep source service settings steps) :
    Treats keep source service settings steps := by
  cases course with
  | unset absent =>
    exact
      { inspects := by simp [absent]
        asks := by simp [Shows]
        own := by simp
        deletes_iff := fun _ => deletes_iff_of_untold (by simp [Tells]) (by simp) }
  | unseen e =>
    exact
      { inspects := by simp
        asks := by simp [Shows]
        own := by simp
        deletes_iff := fun _ => deletes_iff_of_untold (not_tells_inspection _) (by simp) }
  | few few =>
    exact
      { inspects := by simp
        asks := fun shown many => by
          simp only [Shows, List.mem_singleton] at shown
          cases shown
          omega
        own := by simp
        deletes_iff := fun _ => deletes_iff_of_untold (not_tells_inspection _) (by simp) }
  | untold running e =>
    exact
      { inspects := by simp
        asks := by simp
        own := by cases source <;> simp [UsageSource.call]
        deletes_iff := fun _ => deletes_iff_of_untold
          (fun table => by cases source <;> simp [Tells, UsageSource.call])
          (by cases source <;> simp [UsageSource.call]) }
  | reaped own calls => exact treats_of_deletions calls

/-- **What a pass does** unless it is broken off, whatever was done before. -/
theorem treats_of_pass {w₀ : World σ}
    (ran : (pass retention source service settings).run.run h w₀ = (.finished r, w)) :
    ∃ steps, w.journal = steps ++ w₀.journal ∧
      Treats retention.keep source service settings steps := by
  have own := Program.run_eq_append (h := h) (pass retention source service settings).run w₀.state
    w₀.journal
  obtain ⟨finished, rfl⟩ := Prod.mk.inj (own.symm.trans ran)
  exact ⟨_, rfl, treats_of_course (course_of_pass (Prod.ext finished rfl))⟩

end Pass

/-! ### The version that serves -/

namespace Treats

variable {keep : Nat} {source : UsageSource} {service : Service} {settings : RuntimeSettings}
  {steps : List Step} {running : RunningService} {version : Version}

/-- A version of the snapshot is deleted if it is old and idle. -/
theorem deletes_iff_of_mem (treats : Treats keep source service settings steps)
    (shown : Shows service settings steps running) (there : version ∈ running.versions) :
    Deletes service steps version ↔
      (keep ≤ running.versions.countP fun u => decide (version < u)) ∧
        ∃ table, Tells source steps table ∧
          ∀ inst, running.HasInstance version inst → ¬source.Live table inst := by
  rw [treats.deletes_iff shown]
  constructor
  · rintro ⟨table, told, doomed⟩
    exact ⟨doomed.old, table, told, doomed.idle⟩
  · rintro ⟨old, table, told, idle⟩
    exact ⟨table, told, there, old, idle⟩

/-- A pass that keeps at least one version spares the newest. -/
theorem spares_newest (treats : Treats keep source service settings steps) (some_kept : 0 < keep)
    (shown : Shows service settings steps running)
    (newest : ∀ u ∈ running.versions, u ≤ version) : ¬Deletes service steps version := by
  rw [treats.deletes_iff shown]
  rintro ⟨table, -, doomed⟩
  have none_newer : (running.versions.countP fun u => decide (version < u)) = 0 := by
    rw [List.countP_eq_zero]
    intro u mem
    simpa using newest u mem
  have := doomed.old
  omega

end Treats

/-- **What a pass does with the version that serves**, in some steps: it is deleted if and only if
at least `keep` versions are newer and the engine tells that nothing runs on it. In particular it
stays if it is the newest. -/
structure TreatsServing (keep : Nat) (source : UsageSource) (service : Service)
    (settings : RuntimeSettings) (steps : List Step) : Prop
    extends Treats keep source service settings steps where
  serving_iff : ∀ {running version}, Shows service settings steps running →
    running.latestEnabled = some version → version ∈ running.versions →
      (Deletes service steps version ↔
        (keep ≤ running.versions.countP fun u => decide (version < u)) ∧
          ∃ table, Tells source steps table ∧
            ∀ inst, running.HasInstance version inst → ¬source.Live table inst)
  newest : ∀ {running version}, Shows service settings steps running →
    running.latestEnabled = some version → (∀ u ∈ running.versions, u ≤ version) →
      ¬Deletes service steps version

/-- A pass that keeps at least one version treats the one that serves so. -/
theorem Treats.serving {keep : Nat} {source : UsageSource} {service : Service}
    {settings : RuntimeSettings} {steps : List Step}
    (treats : Treats keep source service settings steps) (some_kept : 0 < keep) :
    TreatsServing keep source service settings steps where
  toTreats := treats
  serving_iff shown _ there := treats.deletes_iff_of_mem shown there
  newest shown _ newest := treats.spares_newest some_kept shown newest

end FleetDeploy.Reap
