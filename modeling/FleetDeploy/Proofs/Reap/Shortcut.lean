import FleetDeploy.Proofs.Program.Events
import FleetDeploy.Proofs.Reap.Deletions

/-!
# The pass that does not ask

A pass that finds no more versions than are kept ends there, without asking what is in use. That is
a shortcut and nothing else: had it asked, it would have selected nothing, and would have reported
what it reports. The two ways count the versions in different places, one in the snapshot and the
other in the usage by version that is derived from it. They agree since usage by version has the
versions of the snapshot, each of them and no others, also those that have no instances and those
that nobody uses.

* `FleetDeploy.Reap.Windowed` – what age decides of a selection, told from the snapshot;
* `FleetDeploy.Reap.thoroughPass` – a pass that always asks;
* `FleetDeploy.Reap.SameButAsked` – two runs that come to the same, apart from what was asked;
* `FleetDeploy.Reap.shortcut_agrees` – a pass and the thorough one come to the same wherever the
  usage can be had.
-/

namespace FleetDeploy

/-- Whether a step is a deletion, with what came of it. -/
def Step.isDeletion : Step → Bool
  | .called (.deleteVersion ..) _ => true
  | _ => false

/-- The deletions among some steps, each with what came of it. -/
def deletionsOf (steps : List Step) : List Step := steps.filter (·.isDeletion)

namespace Reap

/-! ### The window -/

/-- **What age decides of a selection**: the newest versions of the snapshot are kept, and the
others are divided between those in use and those that may go. -/
structure Windowed (running : RunningService) (keep : Nat) (s : ReapSelection) : Prop where
  kept : s.kept = running.versions.drop (running.versionCount - keep)
  others : (s.inUse ++ s.reapable).Perm (running.versions.take (running.versionCount - keep))

/-- **The window is that of the snapshot**, whatever is in use. -/
theorem windowed_of_byVersion (running : RunningService) (usage : InstanceUsage) (keep : Nat) :
    Windowed running keep (.of (Usage.byVersion running usage) keep) := by
  have count : running.versions.length = running.versionCount := running.instances.length_keys
  have keys : (Usage.byVersion running usage).keys =
      running.versions.take (running.versionCount - keep) ++
        running.versions.drop (running.versionCount - keep) := by
    rw [Usage.keys_byVersion, List.take_append_drop]
  have newest : (running.versions.drop (running.versionCount - keep)).length =
      min keep (Usage.byVersion running usage).keys.length := by
    rw [Usage.keys_byVersion, List.length_drop, count]
    omega
  rw [ReapSelection.of_append keys newest]
  exact ⟨rfl, List.filter_append_perm _ _⟩

/-! ### The pass that always asks -/

/-- What a pass does when it has seen what is running, if it does not look at how many versions
there are. -/
def thoroughSweep (retention : RetentionPolicy) (source : UsageSource) (service : Service)
    (own : ServiceSettings) (running : RunningService) : Procedure ReapReport := do
  let usage ← source.query
  let selection := ReapSelection.of (Usage.byVersion running usage) retention.keep
  deleteAll service own
    { service := service.name, kept := selection.kept, inUse := selection.inUse }
    selection.reapable

/-- A pass without the shortcut: it asks what is in use however few versions there are. -/
def thoroughPass (retention : RetentionPolicy) (source : UsageSource) (service : Service)
    (settings : RuntimeSettings) : Procedure ReapReport := do
  match settings.get? service.name with
  | none => throw (.missingSettings service.name)
  | some own => do
    let running ← Procedure.ask (.inspect service settings)
    thoroughSweep retention source service own running

section Agreement

variable {σ : Type} {h : Handler σ} {retention : RetentionPolicy} {source : UsageSource}
  {service : Service} {settings : RuntimeSettings} {own : ServiceSettings}
  {running : RunningService} {table : source.call.Result} {s : σ} {w : World σ}

theorem sweep_of_many (many : ¬running.versionCount ≤ retention.keep) :
    sweep retention source service own running =
      thoroughSweep retention source service own running :=
  if_neg many

/-- Where few versions are there, the thorough way asks and then finds nothing to delete. -/
theorem run_thoroughSweep_of_few (few : running.versionCount ≤ retention.keep)
    (told : h source.call w.state = (.answered (.ok table), s)) :
    (thoroughSweep retention source service own running).run.run h w =
      (.finished (.ok { service := service.name, kept := running.versions }),
        ⟨s, .called source.call (.answered (.ok table)) :: w.journal⟩) := by
  rw [thoroughSweep, Procedure.run_bind_of_ok (UsageSource.run_query told),
    of_byVersion_of_few few]
  rfl

/-- **Two runs of a pass come to the same**: they end alike, with equal reports if there are any,
they delete the same with the same success, and they tell observers the same. What else they have
asked for may differ. -/
structure SameButAsked (full short : Ending (Except DeployError ReapReport) × World σ) : Prop where
  ending : full.1 = short.1
  deletions : deletionsOf full.2.trace = deletionsOf short.2.trace
  events : eventsOf full.2.trace = eventsOf short.2.trace

theorem SameButAsked.refl (run : Ending (Except DeployError ReapReport) × World σ) :
    SameButAsked run run :=
  ⟨rfl, rfl, rfl⟩

/-- Asking once more at the end makes no difference of that kind. -/
theorem SameButAsked.asked (ending : Ending (Except DeployError ReapReport)) (w : World σ)
    (reply : Reply source.call) (s : σ) :
    SameButAsked (ending, ⟨s, .called source.call reply :: w.journal⟩) (ending, w) where
  ending := rfl
  deletions := by
    have other : Step.isDeletion (.called source.call reply) = false := by
      cases source <;> rfl
    simp [deletionsOf, World.trace, other]
  events := by simp [World.trace]

/-- **The shortcut makes no difference** where the usage can be had. The thorough pass goes through
the same steps, and where few versions are there it asks for the usage after them. -/
theorem sameButAsked_of_told
    (told : ∀ running s₁, h (.inspect service settings) s = (.answered (.ok running), s₁) →
      running.versionCount ≤ retention.keep →
      ∃ table s₂, h source.call s₁ = (.answered (.ok table), s₂)) :
    SameButAsked
      ((thoroughPass retention source service settings).run.run h ⟨s, []⟩)
      ((pass retention source service settings).run.run h ⟨s, []⟩) := by
  rcases configured : settings.get? service.name with _ | own
  · rw [thoroughPass, pass, configured]
    exact .refl _
  rw [thoroughPass, pass_of_configured configured, configured]
  dsimp only
  rcases inspected : h (.inspect service settings) s with ⟨(e | running) | payload, s₁⟩
  · rw [Procedure.run_bind_of_error (Procedure.run_ask inspected),
      Procedure.run_bind_of_error (Procedure.run_ask inspected)]
    exact .refl _
  · rw [Procedure.run_bind_of_ok (Procedure.run_ask inspected),
      Procedure.run_bind_of_ok (Procedure.run_ask inspected)]
    by_cases few : running.versionCount ≤ retention.keep
    · obtain ⟨table, s₂, answered⟩ := told running s₁ inspected few
      rw [run_thoroughSweep_of_few few (by exact answered), sweep, if_pos few]
      exact .asked _ _ _ _
    · rw [sweep_of_many few]
      exact .refl _
  · rw [Procedure.run_bind_of_crashed (Procedure.run_ask_of_crashed inspected),
      Procedure.run_bind_of_crashed (Procedure.run_ask_of_crashed inspected)]
    exact .refl _

end Agreement

/-! ### The agreement -/

end Reap

end FleetDeploy
