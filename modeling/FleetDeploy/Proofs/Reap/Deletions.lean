import FleetDeploy.Proofs.Reap.Selection
import FleetDeploy.Proofs.Reap.Usage
import FleetDeploy.Reap.Pass

/-!
# What a pass deletes

A pass over the versions of a service goes through four stages: identifiers are read, usage is added
up by instance and then by version, and the versions are sorted by age and usage. Each stage has its
law (`FleetDeploy.Proofs.Reap.Usage`, `FleetDeploy.Proofs.Reap.Selection`); here they meet in what
the pass hands to the provisioner.

* `FleetDeploy.Reap.Doomed` – the versions that may go, said without any of the four stages;
* `FleetDeploy.Reap.run_pass` – a pass is its inspection, its query and its deletions, and where few
  versions are there it is the inspection alone;
* `FleetDeploy.Reap.deletions_of_pass` – it is the doomed versions that are deleted, each once and
  the oldest first, whatever comes of each deletion. Only a crash of the provisioner ends the pass
  before all of them have had their turn.
-/

namespace FleetDeploy.Reap

variable {σ : Type} {h : Handler σ}

/-- **The versions that may go**: at least `keep` versions are newer, and none of the version's
instances is live. -/
structure Doomed (keep : Nat) (running : RunningService) (live : InstanceId → Prop) (v : Version) :
    Prop where
  exists_already : v ∈ running.versions
  old : keep ≤ running.versions.countP fun u => decide (v < u)
  idle : ∀ inst, running.HasInstance v inst → ¬live inst

/-- The versions that a pass selects are the doomed ones. -/
theorem mem_reapable_iff_doomed (keep : Nat) (running : RunningService) (source : UsageSource)
    (table : source.call.Result) (v : Version) :
    v ∈ (ReapSelection.of (Usage.byVersion running (source.usage table)) keep).reapable ↔
      Doomed keep running (source.Live table) v := by
  rw [ReapSelection.mem_reapable_iff, Usage.keys_byVersion, Usage.byVersion_pos_iff]
  constructor
  · rintro ⟨there, old, unused⟩
    refine ⟨there, old, fun inst has live => unused ⟨inst, has, ?_⟩⟩
    exact (source.usage_pos_iff table inst).mpr live
  · rintro ⟨there, old, idle⟩
    refine ⟨there, old, ?_⟩
    rintro ⟨inst, has, used⟩
    exact idle inst has ((source.usage_pos_iff table inst).mp used)

/-- Where there are no more versions than are kept, all of them are kept, whatever is in use. -/
theorem of_byVersion_of_few {running : RunningService} {keep : Nat}
    (few : running.versionCount ≤ keep) (usage : InstanceUsage) :
    ReapSelection.of (Usage.byVersion running usage) keep = { kept := running.versions } := by
  have count : (Usage.byVersion running usage).keys.length ≤ keep := by
    rw [Usage.keys_byVersion]
    exact running.instances.length_keys ▸ few
  rw [ReapSelection.of, if_pos count, Usage.keys_byVersion]

/-! ### One deletion after the other -/

section Deletions

variable (service : Service) (own : ServiceSettings)

/-- The steps of a deletion that is answered. -/
def deletionSteps (v : Version) (answer : Except DeployError Unit) : List Step :=
  .emitted (.message (announcement service v)) ::
    .called (.deleteVersion service own v) (.answered answer) ::
    if answer.isOk then [.emitted (.versionReaped service.name v)] else []

@[simp] theorem callsOf_deletionSteps (v : Version) (answer : Except DeployError Unit) :
    callsOf (deletionSteps service own v answer) = [.deleteVersion service own v] := by
  rw [deletionSteps]
  split <;> rfl

variable {service own} {report : ReapReport} {v : Version} {rest : List Version} {w : World σ}
  {s : σ}

/-- A deletion that is answered is noted, and the pass goes on. -/
theorem run_deleteAll_of_answered {answer : Except DeployError Unit}
    (replied : h (.deleteVersion service own v) w.state = (.answered answer, s)) :
    (deleteAll service own report (v :: rest)).run.run h w =
      (deleteAll service own (note report v answer) rest).run.run h
        ⟨s, (deletionSteps service own v answer).reverse ++ w.journal⟩ := by
  have attempt : (Procedure.outcome (.ask (.deleteVersion service own v))).run.run h
      (w.record (.emitted (.message (announcement service v)))) =
        (.finished (.ok answer), ⟨s, .called (.deleteVersion service own v) (.answered answer) ::
          .emitted (.message (announcement service v)) :: w.journal⟩) := by
    rw [Procedure.run_outcome, Procedure.run_ask (by exact replied)]
    rfl
  rw [deleteAll, Procedure.run_bind_of_ok (Procedure.run_say _ w),
    Procedure.run_bind_of_ok attempt]
  cases answer with
  | ok _ => rfl
  | error e => rfl

/-- A provisioner that crashes ends the pass. -/
theorem run_deleteAll_of_crashed {payload : Option String}
    (replied : h (.deleteVersion service own v) w.state = (.crashed payload, s)) :
    (deleteAll service own report (v :: rest)).run.run h w =
      (.crashed payload, ⟨s, .called (.deleteVersion service own v) (.crashed payload) ::
        .emitted (.message (announcement service v)) :: w.journal⟩) := by
  rw [deleteAll, Procedure.run_bind_of_ok (Procedure.run_say _ w)]
  refine Procedure.run_bind_of_crashed ?_
  rw [Procedure.run_outcome, Procedure.run_ask_of_crashed (by exact replied)]
  rfl

/-- Every version has its turn, in the given order, unless the provisioner crashes. -/
theorem calls_deleteAll {report : ReapReport} {versions : List Version} {w w' : World σ}
    {ending : Ending (Except DeployError ReapReport)}
    (ran : (deleteAll service own report versions).run.run h w = (ending, w')) :
    ∃ attempted, attempted <+: versions ∧
      callsOf w'.trace = callsOf w.trace ++ attempted.map (.deleteVersion service own) ∧
      ((∃ report', ending = .finished (.ok report')) ∧ attempted = versions ∨
        ∃ payload v, ending = .crashed payload ∧
          .called (.deleteVersion service own v) (.crashed payload) ∈ w'.journal) := by
  induction versions generalizing report w with
  | nil =>
    obtain ⟨rfl, rfl⟩ := Prod.mk.inj ran
    exact ⟨[], List.prefix_rfl, by simp, Or.inl ⟨⟨report, rfl⟩, rfl⟩⟩
  | cons v rest ih =>
    rcases replied : h (.deleteVersion service own v) w.state with ⟨answer | payload, s⟩
    · rw [run_deleteAll_of_answered replied] at ran
      obtain ⟨attempted, first, calls, ended⟩ := ih ran
      refine ⟨v :: attempted, List.cons_prefix_cons.mpr ⟨rfl, first⟩, ?_, ?_⟩
      · rw [calls]
        simp [World.trace]
      · exact ended.imp_left fun ⟨finished, all⟩ => ⟨finished, by rw [all]⟩
    · rw [run_deleteAll_of_crashed replied] at ran
      obtain ⟨rfl, rfl⟩ := Prod.mk.inj ran
      exact ⟨[v], by simp, by simp [World.trace], Or.inr ⟨payload, v, rfl, by simp⟩⟩

end Deletions

/-! ### A whole pass -/

section Pass

variable {retention : RetentionPolicy} {source : UsageSource} {service : Service}
  {settings : RuntimeSettings} {own : ServiceSettings} {running : RunningService} {s₀ s₁ s₂ : σ}
  {table : source.call.Result}

/-- What a pass does when it has seen what is running. -/
def sweep (retention : RetentionPolicy) (source : UsageSource) (service : Service)
    (own : ServiceSettings) (running : RunningService) : Procedure ReapReport :=
  if running.versionCount ≤ retention.keep then
    pure { service := service.name, kept := running.versions }
  else do
    let usage ← source.query
    let selection := ReapSelection.of (Usage.byVersion running usage) retention.keep
    deleteAll service own
      { service := service.name, kept := selection.kept, inUse := selection.inUse }
      selection.reapable

/-- A pass over a service that is configured looks at it and then sweeps. -/
theorem pass_of_configured (configured : settings.get? service.name = some own) :
    pass retention source service settings = (do
      let running ← Procedure.ask (.inspect service settings)
      sweep retention source service own running) := by
  rw [pass, configured]
  rfl

/-- **A pass is its inspection, its query and its deletions.** Where there are no more versions than
are kept it ends with the inspection. -/
theorem run_pass (configured : settings.get? service.name = some own)
    (inspected : h (.inspect service settings) s₀ = (.answered (.ok running), s₁))
    (told : retention.keep < running.versionCount →
      h source.call s₁ = (.answered (.ok table), s₂)) :
    (pass retention source service settings).run.run h ⟨s₀, []⟩ =
      if running.versionCount ≤ retention.keep then
        (.finished (.ok { service := service.name, kept := running.versions }),
          ⟨s₁, [.called (.inspect service settings) (.answered (.ok running))]⟩)
      else
        let selection := ReapSelection.of (Usage.byVersion running (source.usage table))
          retention.keep
        (deleteAll service own
          { service := service.name, kept := selection.kept, inUse := selection.inUse }
          selection.reapable).run.run h
            ⟨s₂, [.called source.call (.answered (.ok table)),
              .called (.inspect service settings) (.answered (.ok running))]⟩ := by
  rw [pass_of_configured configured,
    Procedure.run_bind_of_ok (Procedure.run_ask (by exact inspected)), sweep]
  by_cases few : running.versionCount ≤ retention.keep
  · simp only [few, if_true, ExceptT.run_pure, Program.run_pure]
  · simp only [few, if_false]
    exact Procedure.run_bind_of_ok (UsageSource.run_query (told (by omega)))

/-- **It is the doomed versions that are deleted.** The calls of a pass are its inspection, its
query where one is needed, and then one deletion for each doomed version, the oldest first. A
deletion that fails does not keep the others from being attempted; only one that crashes does. -/
theorem deletions_of_pass {ending : Ending (Except DeployError ReapReport)} {w : World σ}
    (configured : settings.get? service.name = some own)
    (inspected : h (.inspect service settings) s₀ = (.answered (.ok running), s₁))
    (told : retention.keep < running.versionCount →
      h source.call s₁ = (.answered (.ok table), s₂))
    (ran : (pass retention source service settings).run.run h ⟨s₀, []⟩ = (ending, w)) :
    ∃ doomed attempted : List Version,
      doomed.Pairwise (· < ·) ∧
      (∀ v, v ∈ doomed ↔ Doomed retention.keep running (source.Live table) v) ∧
      attempted <+: doomed ∧
      callsOf w.trace =
        .inspect service settings ::
          ((if retention.keep < running.versionCount then [source.call] else []) ++
            attempted.map (.deleteVersion service own)) ∧
      ((∃ report, ending = .finished (.ok report)) ∧ attempted = doomed ∨
        ∃ payload v, ending = .crashed payload ∧
          .called (.deleteVersion service own v) (.crashed payload) ∈ w.journal) := by
  rw [run_pass configured inspected told] at ran
  have selected := mem_reapable_iff_doomed retention.keep running source table
  by_cases few : running.versionCount ≤ retention.keep
  · -- So few versions are there that none of them is old.
    have none_doomed : ∀ v, ¬Doomed retention.keep running (source.Live table) v := by
      intro v doomed
      rw [← selected, ReapSelection.reapable_eq, Usage.keys_byVersion] at doomed
      have cut : running.versions.length - retention.keep = 0 :=
        Nat.sub_eq_zero_of_le (running.instances.length_keys ▸ few)
      simp [cut] at doomed
    rw [if_pos few] at ran
    obtain ⟨rfl, rfl⟩ := Prod.mk.inj ran
    exact ⟨[], [], List.Pairwise.nil, by simpa using none_doomed, List.prefix_rfl,
      by simp [few, World.trace], Or.inl ⟨⟨_, rfl⟩, rfl⟩⟩
  · rw [if_neg few] at ran
    obtain ⟨attempted, first, calls, ended⟩ := calls_deleteAll ran
    refine ⟨_, attempted, ReapSelection.reapable_ascending, selected, first, ?_, ended⟩
    rw [calls]
    simp [World.trace, Nat.lt_of_not_le few]

end Pass

/-! ### Four versions, the second of them in use -/

/-- A service with four versions of one instance each. -/
def fourVersions : RunningService :=
  ((((RunningService.empty "orca").withVersion 1 ["a"]).withVersion 2 ["b"]).withVersion 3
    ["c"]).withVersion 4 ["d"]

/-- What runs: two executions on the second version, none on the first, and one on an identifier
that is not well formed. -/
def someExecutions : List (String × ActiveExecutions) :=
  [("run@b", ⟨2⟩), ("run@a", ⟨0⟩), ("run@@a", ⟨7⟩)]

/-- Collaborators that know of the four versions and delete whatever they are asked to. -/
def obliging : Handler Unit
  | .inspect .., _ => (.answered (.ok fourVersions), ())
  | .activeExecutions, _ => (.answered (.ok someExecutions), ())
  | .deleteVersion .., _ => (.answered (.ok ()), ())
  | _, _ => (.crashed none, ())

/-- Of the four versions two are kept, one is in use, and the other one goes. -/
theorem deletions_of_pass_fourVersions :
    (RuntimeSettings.withService {} "orca" .on).get? "orca" = some .on ∧
    ∃ w, (pass ⟨2⟩ .activeExecutions { name := "orca" }
        (RuntimeSettings.withService {} "orca" .on)).run.run obliging ⟨(), []⟩ =
          (.finished (.ok ⟨"orca", [3, 4], [2], [1], []⟩), w) ∧
      ∃ doomed : List Version,
        doomed.Pairwise (· < ·) ∧
        (∀ v, v ∈ doomed ↔ Doomed 2 fourVersions (Usage.Executes someExecutions) v) ∧
        callsOf w.trace =
          .inspect { name := "orca" } (RuntimeSettings.withService {} "orca" .on) ::
            .activeExecutions :: doomed.map (.deleteVersion { name := "orca" } .on) := by
  obtain ⟨doomed, attempted, ascending, member, -, calls, ended⟩ :=
    @deletions_of_pass Unit obliging ⟨2⟩ .activeExecutions { name := "orca" }
      (RuntimeSettings.withService {} "orca" .on) .on fourVersions () () () someExecutions
      (.finished (.ok ⟨"orca", [3, 4], [2], [1], []⟩)) _ rfl rfl (fun _ => rfl) rfl
  refine ⟨rfl, _, rfl, doomed, ascending, member, ?_⟩
  rcases ended with ⟨-, rfl⟩ | ⟨payload, v, crash, -⟩
  · exact calls
  · cases crash

end FleetDeploy.Reap
