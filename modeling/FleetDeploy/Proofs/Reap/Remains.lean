import FleetDeploy.Proofs.Reap.Conduct
import FleetDeploy.Proofs.SortedMap

/-!
# What reaping leaves behind

The fleet in memory forgets a version when its deletion succeeds, and does nothing else about it:
which version is said to be serving is a field of its own, and no deletion touches it. So a fleet is
left with the versions that were there and were not removed, and with the same serving versions as
before, whether these are still there or not.

* `FleetDeploy.Fleet.Leaves` – what some steps leave behind;
* `FleetDeploy.Fleet.leaves_of_run` – it is so for every program that makes only the calls of
  reaping.
-/

namespace FleetDeploy.Fleet

/-- The fleet has a version of a service. -/
def Has (f : Fleet) (service : ServiceName) (version : Version) : Prop :=
  ∃ running, f.infrastructure.running? service = some running ∧ version ∈ running.versions

instance (f : Fleet) (service : ServiceName) (version : Version) :
    Decidable (f.Has service version) :=
  inferInstanceAs (Decidable (∃ running ∈ f.infrastructure.running? service,
    version ∈ running.versions))

/-- The version of a service that is said to be serving. -/
def serving? (f : Fleet) (service : ServiceName) : Option Version :=
  (f.infrastructure.running? service).bind (·.latestEnabled)

/-- Among some steps a version of a service is deleted, and the deletion succeeds. -/
def Removed (service : ServiceName) (version : Version) (steps : List Step) : Prop :=
  ∃ s own, s.name = service ∧ .called (.deleteVersion s own version) (.answered (.ok ())) ∈ steps

/-- **What some steps leave behind**: the versions that they did not remove, and the same version as
before that is said to be serving. -/
structure Leaves (f : Fleet) (steps : List Step) (f' : Fleet) : Prop where
  serving : ∀ service, f'.serving? service = f.serving? service
  has_iff : ∀ service version, f'.Has service version ↔
    f.Has service version ∧ ¬Removed service version steps

variable {f f' f'' : Fleet}

/-- Steps among which no deletion is asked for leave the same behind. -/
theorem Leaves.quiet {steps : List Step}
    (same : f'.infrastructure.running = f.infrastructure.running)
    (kept : ∀ s own version, .deleteVersion s own version ∉ callsOf steps) :
    f.Leaves steps f' where
  serving service := by
    rw [serving?, serving?, Infrastructure.running?, Infrastructure.running?, same]
  has_iff service version := by
    rw [Has, Has, Infrastructure.running?, Infrastructure.running?, same]
    refine (and_iff_left ?_).symm
    rintro ⟨s, own, -, mem⟩
    exact kept s own version (List.mem_filterMap.mpr ⟨_, mem, rfl⟩)

theorem Leaves.append {earlier later : List Step} (first : f.Leaves earlier f')
    (second : f'.Leaves later f'') : f.Leaves (later ++ earlier) f'' where
  serving service := (second.serving service).trans (first.serving service)
  has_iff service version := by
    have either : Removed service version (later ++ earlier) ↔
        Removed service version later ∨ Removed service version earlier := by
      simp only [Removed, List.mem_append, and_or_left, exists_or]
    rw [second.has_iff, first.has_iff, either, not_or, and_assoc,
      and_comm (a := ¬Removed service version later)]

/-- A version is there after one has been taken away if it is another one. -/
theorem mem_versions_withoutVersion {running : RunningService} {u v : Version} :
    v ∈ (running.withoutVersion u).versions ↔ v ∈ running.versions ∧ v ≠ u := by
  simp only [RunningService.versions, RunningService.withoutVersion, SortedMap.mem_keys,
    SortedMap.get?_erase]
  by_cases same : v = u <;> simp [same]

/-- A deletion removes its version if it succeeds. -/
theorem removed_deletion {service : ServiceName} {version v : Version} {s : Service}
    {own : ServiceSettings} {answer : Except DeployError Unit} :
    Removed service version [.called (.deleteVersion s own v) (.answered answer)] ↔
      answer = .ok () ∧ service = s.name ∧ version = v := by
  constructor
  · rintro ⟨s', own', rfl, mem⟩
    cases List.mem_singleton.mp mem
    exact ⟨rfl, rfl, rfl⟩
  · rintro ⟨rfl, rfl, rfl⟩
    exact ⟨s, own, rfl, List.mem_singleton_self _⟩

theorem leaves_deletion (s : Service) (own : ServiceSettings) (v : Version) (f : Fleet) :
    f.Leaves [.called (.deleteVersion s own v)
        (.answered (f.infrastructure.deleteVersion s.name v).1)]
      (respond (.deleteVersion s own v) f).2 := by
  have answer : (f.infrastructure.deleteVersion s.name v).1 = .ok () ↔
      f.infrastructure.deleteFailure? s.name v = none := by
    rw [Infrastructure.deleteVersion]
    split <;> simp [*]
  have after (service : ServiceName) :
      (respond (.deleteVersion s own v) f).2.infrastructure.running? service =
        if f.infrastructure.deleteFailure? s.name v = none ∧ service = s.name then
          (f.infrastructure.running? s.name).map (·.withoutVersion v)
        else f.infrastructure.running? service :=
    f.infrastructure.running?_deleteVersion s.name v service
  constructor
  · intro service
    rw [serving?, serving?, after]
    split
    · next gone =>
      rw [gone.2]
      rcases f.infrastructure.running? s.name with _ | running <;> rfl
    · rfl
  · intro service version
    rw [Has, Has, after, removed_deletion, answer]
    by_cases gone : f.infrastructure.deleteFailure? s.name v = none ∧ service = s.name
    · rw [if_pos gone, gone.2]
      simp only [Option.map_eq_some_iff, exists_exists_and_eq_and, mem_versions_withoutVersion,
        gone.1, true_and]
      rw [← exists_and_right]
      simp only [and_assoc]
    · rw [if_neg gone]
      refine (and_iff_left ?_).symm
      rintro ⟨arranged, same, -⟩
      exact gone ⟨arranged, same⟩

/-- **What one call leaves behind.** -/
theorem leaves_call {c : Call} (reaps : c.Reaps) (f : Fleet) :
    f.Leaves [.called c (respond c f).1] (respond c f).2 := by
  cases c with
  | deleteVersion s own v => exact leaves_deletion s own v f
  | inspect s settings => exact .quiet rfl (by simp)
  | bakeStatuses => exact .quiet rfl (by simp)
  | activeExecutions => exact .quiet rfl (by simp)
  | _ => exact reaps.elim

/-- **What reaping leaves behind**, call after call. -/
theorem leaves_of_run {α : Type} {p : Program α} {w w' : World Fleet} {ending : Ending α}
    (asks : p.AsksOnly Call.Reaps) (ran : p.run respond w = (ending, w')) :
    ∃ steps, w'.journal = steps ++ w.journal ∧ w.state.Leaves steps w'.state := by
  induction p generalizing w with
  | done a =>
    obtain ⟨-, rfl⟩ := Prod.mk.inj ran
    exact ⟨[], rfl, .quiet rfl (by simp)⟩
  | call c next ih =>
    have first := leaves_call asks.1 w.state
    rcases replied : respond c w.state with ⟨answer | payload, state⟩
    · rw [replied] at first
      rw [Program.run, replied] at ran
      obtain ⟨steps, journal, later⟩ := ih answer (asks.2 answer) ran
      exact ⟨steps ++ [.called c (.answered answer)], by simp [journal], first.append later⟩
    · rw [replied] at first
      rw [Program.run, replied] at ran
      obtain ⟨-, rfl⟩ := Prod.mk.inj ran
      exact ⟨_, rfl, first⟩
  | emit event next ih =>
    obtain ⟨steps, journal, later⟩ := ih asks ran
    exact ⟨steps ++ [.emitted event], by simp [journal, World.record],
      Leaves.append (.quiet rfl (by simp)) later⟩
  | sleep ms next ih =>
    obtain ⟨steps, journal, later⟩ := ih asks ran
    exact ⟨steps ++ [.slept ms], by simp [journal, World.record],
      Leaves.append (.quiet rfl (by simp)) later⟩

end FleetDeploy.Fleet
