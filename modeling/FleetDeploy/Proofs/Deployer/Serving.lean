import FleetDeploy.Proofs.Deployer.Reaping
import FleetDeploy.Proofs.Reap.Remains
import FleetDeploy.Proofs.Reap.Serving

/-!
# The version that serves after a deployment

A deployment ends with a pass over the first service of each accumulating kind, whether or not that
service was asked for. A valid configuration keeps at least one version, so that the newest is safe;
but it need not be the newest that serves. Where a service has been rolled back far enough and
nothing runs on the version that serves, the next deployment deletes it, and the service is left
saying that a version serves which does not exist
(`FleetDeploy.Deployer.serving_deleted_rolledBack`).

* `FleetDeploy.Deployer.PassOver` – the pass of a deployment over the services of one kind;
* `FleetDeploy.Deployer.serving_of_deploy` – what becomes of the version that serves, in every
  deployment that succeeds.
-/

namespace FleetDeploy.Deployer

/-- The service that is reaped for a kind: the first one of the kind, if it is enabled. -/
def reaped? (d : Deployer) (settings : RuntimeSettings) (kind : ServiceKind) : Option Service :=
  (d.catalog.byKind? kind).filter fun s => settings.isEnabled s.name

/-- **The pass over the services of one kind**, by its steps. -/
inductive PassOver (d : Deployer) (settings : RuntimeSettings) :
    ServiceKind × UsageSource → List Step → Prop
  | idle {kind source} (none_enabled : d.reaped? settings kind = none) :
      PassOver d settings (kind, source) []
  | pass {kind source service steps} (first : d.reaped? settings kind = some service)
      (treats : Reap.TreatsServing d.config.retention.keep source service settings steps) :
      PassOver d settings (kind, source) steps

section Passes

variable {σ : Type} {h : Handler σ} {d : Deployer} {settings : RuntimeSettings} {w w' : World σ}
  {reports : List ReapReport}

/-- Reaping the services of one kind is one pass over the first of them. -/
theorem passOver_of_reapFirst (some_kept : 0 < d.config.retention.keep) {kind : ServiceKind}
    {source : UsageSource}
    (ran : (d.reapFirst settings kind source).run.run h w = (.finished (.ok reports), w')) :
    ∃ steps, w'.journal = steps ++ w.journal ∧ d.PassOver settings (kind, source) steps := by
  rw [reapFirst] at ran
  split at ran
  · next none_enabled =>
    obtain ⟨-, rfl⟩ := Prod.mk.inj ran
    exact ⟨[], rfl, .idle none_enabled⟩
  · next service first =>
    obtain ⟨r, w₁, passed, reported⟩ := Procedure.run_bind_eq_ok ran
    rw [Procedure.run_outcome] at passed
    rcases ended : (Reap.pass d.config.retention source service settings).run.run h w with
      ⟨r' | payload, w₂⟩
    · rw [ended] at passed
      obtain ⟨⟨⟩, rfl⟩ := Prod.mk.inj passed
      obtain ⟨steps, journal, treats⟩ := Reap.treats_of_pass ended
      have same : w' = w₂ := by
        cases r <;> exact (Prod.mk.inj reported).2.symm
      exact ⟨steps, by rw [same, journal], .pass first (treats.serving some_kept)⟩
    · rw [ended] at passed
      cases passed

/-- **Reaping is one pass for each kind**, one after the other. -/
theorem passes_of_reapAccumulating (some_kept : 0 < d.config.retention.keep)
    {kinds : List (ServiceKind × UsageSource)}
    (ran : (d.reapAccumulating settings kinds).run.run h w = (.finished (.ok reports), w')) :
    ∃ passes : List (List Step), List.Forall₂ (d.PassOver settings) kinds passes ∧
      w'.journal = passes.reverse.flatten ++ w.journal := by
  induction kinds generalizing w reports with
  | nil =>
    obtain ⟨-, rfl⟩ := Prod.mk.inj ran
    exact ⟨[], .nil, rfl⟩
  | cons entry rest ih =>
    obtain ⟨first, w₁, passed, others⟩ := Procedure.run_bind_eq_ok ran
    obtain ⟨later, w₂, reaped, done⟩ := Procedure.run_bind_eq_ok others
    obtain ⟨-, rfl⟩ := Prod.mk.inj done
    obtain ⟨steps, journal, pass⟩ := passOver_of_reapFirst some_kept passed
    obtain ⟨passes, each, journal'⟩ := ih reaped
    exact ⟨steps :: passes, .cons pass each, by simp [journal', journal]⟩

end Passes

/-! ### Deployments that succeed -/

section Deployments

variable {d : Deployer} {requested : List ServiceName} {resolved : ResolvedConfiguration}

/-- A deployer that could be made keeps at least one version. -/
theorem keep_pos_of_build {catalog : Catalog} {config : DeployerConfig} {given : List Collaborator}
    (built : build catalog config given = .ok d) : 0 < d.config.retention.keep := by
  rw [build] at built
  rcases checked : config.validate with e | _
  · rw [checked] at built
    cases built
  have valid : config.retention.isValid = true := by
    rw [DeployerConfig.validate] at checked
    by_contra invalid
    rw [if_pos (by simpa using invalid)] at checked
    cases checked
  have same : d.config = config := by
    rw [checked] at built
    rcases missing : Collaborator.all.find? (fun c => !given.contains c) with _ | c
    · rw [missing] at built
      cases built
      rfl
    · rw [missing] at built
      cases built
  rw [same, RetentionPolicy.keep]
  simpa [RetentionPolicy.isValid, UInt32.lt_iff_toNat_lt] using valid

/-- Judging a batch asks for nothing. -/
theorem settle_asksOnly {outcome : BatchOutcome} : (d.settle outcome).AsksOnly fun _ => False :=
  .bind (.forM fun _ _ => .emit _) fun _ => .ofExcept _

/-- **A deployment that succeeds** has carried its units out, without deleting anything, and then it
has reaped. -/
theorem reaped_of_deploy {σ : Type} {h : Handler σ} {s : σ} {w : World σ} {report : DeployReport}
    (ran : (d.deploy requested resolved).Runs h ⟨s, []⟩ (.finished (.ok report)) w) :
    ∃ plan strands arrivals v,
      (d.deploy requested resolved).Reaches h ⟨s, []⟩ (.carryingOut plan strands arrivals) v ∧
      (∀ strand ∈ strands, strand.HasEnded) ∧
      ∃ before reports, (∀ c ∈ callsOf before, ¬c.IsDeletion) ∧
        (d.reapAccumulating resolved.runtimeSettings accumulating).run.run h ⟨v.state, before⟩ =
          (.finished (.ok reports), w) := by
  cases ran with
  | @carriedOut plan w₁ arrivals strands v _ _ prepared interleaved concluded =>
    have carried := BatchOperation.Reaches.carried prepared interleaved
    refine ⟨plan, strands, arrivals, v, carried, interleaved.all_ended, ?_⟩
    obtain ⟨outcome, v₁, settled, reaped⟩ := Procedure.run_bind_eq_ok concluded
    obtain ⟨reports, v₂, passes, reported⟩ := Procedure.run_bind_eq_ok reaped
    obtain ⟨-, rfl⟩ := Prod.mk.inj reported
    -- Judging the batch asks for nothing and leaves the collaborators alone.
    obtain ⟨steps, judged⟩ := run_settle (d := d) (h := h) _ v
    obtain ⟨-, rfl⟩ := Prod.mk.inj (judged.symm.trans settled)
    obtain ⟨told, journal, asked⟩ := settle_asksOnly.run settled
    refine ⟨_, reports, fun c mem => ?_, passes⟩
    rw [show steps ++ v.journal = told ++ v.journal from journal, callsOf_append,
      List.mem_append] at mem
    rcases mem with mem | mem
    · exact (asked c mem).elim
    · exact calls_of_carried carried c mem

/-- **What becomes of the version that serves.** A deployment that succeeds deletes nothing before
its units have ended. Then it makes one pass for each accumulating kind, and a pass deletes the
version that serves in its snapshot if and only if enough others are newer and nothing runs on it; a
deployer that could be made never deletes it when it is the newest. A fleet in memory says
afterwards that the same version serves, and has it if it had it when the units had ended and none
of the passes removed it. What runs on a version is a sum, and is taken not to overflow (see
`FleetDeploy.Usage.byVersion`). -/
theorem serving_of_deploy {catalog : Catalog} {config : DeployerConfig} {given : List Collaborator}
    (built : build catalog config given = .ok d) :
    (∀ {σ : Type} {h : Handler σ} {s : σ} {w : World σ} {report : DeployReport},
      (d.deploy requested resolved).Runs h ⟨s, []⟩ (.finished (.ok report)) w →
        ∃ before passes, w.journal = passes.reverse.flatten ++ before ∧
          (∀ c ∈ callsOf before, ¬c.IsDeletion) ∧
          List.Forall₂ (d.PassOver resolved.runtimeSettings) accumulating passes) ∧
    ∀ {f : Fleet} {w : World Fleet} {report : DeployReport},
      (d.deploy requested resolved).Runs Fleet.respond ⟨f, []⟩ (.finished (.ok report)) w →
        ∃ plan strands arrivals v,
          (d.deploy requested resolved).Reaches Fleet.respond ⟨f, []⟩
            (.carryingOut plan strands arrivals) v ∧
          (∀ strand ∈ strands, strand.HasEnded) ∧ v.state.Leaves w.journal w.state := by
  have some_kept := keep_pos_of_build built
  constructor
  · intro σ h s w report ran
    obtain ⟨-, -, -, v, -, -, before, reports, kept, reaped⟩ := reaped_of_deploy ran
    obtain ⟨passes, each, journal⟩ := passes_of_reapAccumulating some_kept reaped
    exact ⟨before, passes, journal, kept, each⟩
  · intro f w report ran
    obtain ⟨plan, strands, arrivals, v, carried, ended, before, reports, kept, reaped⟩ :=
      reaped_of_deploy ran
    obtain ⟨steps, journal, left⟩ :=
      Fleet.leaves_of_run (reapAccumulating_keepsTo _ _).asksOnly reaped
    refine ⟨plan, strands, arrivals, v, carried, ended, ?_⟩
    rw [journal]
    have untouched : v.state.Leaves before v.state :=
      .quiet rfl fun _ _ _ mem => kept _ mem rfl
    exact untouched.append left

end Deployments

/-! ### A service that was rolled back -/

/-- A deployer of a service that runs pipelines and of another one. -/
def ofRunnerAndGate : Deployer :=
  ⟨⟨[{ name := "orca", kind := .pipelineRunner }, { name := "gate" }]⟩, {}⟩

/-- Both services are enabled. -/
def runnerAndGateOn : ResolvedConfiguration :=
  ⟨(RuntimeSettings.withService {} "orca" .on).withService "gate" .on, ∅⟩

/-- The other service is deployed while the first of the three versions of the runner is serving. -/
def gateDeployed : Ending (Except DeployError DeployReport) × World Fleet :=
  (ofRunnerAndGate.deploy ["gate"] runnerAndGateOn).run Fleet.respond ⟨threeVersions 1, []⟩

theorem build_runnerAndGate :
    build ofRunnerAndGate.catalog {} Collaborator.all = .ok ofRunnerAndGate := rfl

theorem runs_gateDeployed :
    (ofRunnerAndGate.deploy ["gate"] runnerAndGateOn).Runs Fleet.respond ⟨threeVersions 1, []⟩
      (.finished (.ok ⟨[⟨"gate", .dispatch .manual⟩], .ofOutcomes [⟨"gate", none⟩],
        [⟨"orca", [2, 3], [], [1], []⟩]⟩)) gateDeployed.2 := by
  have ran := (ofRunnerAndGate.deploy ["gate"] runnerAndGateOn).runs_run Fleet.respond
    ⟨threeVersions 1, []⟩
  have succeeded : gateDeployed.1 = .finished (.ok ⟨[⟨"gate", .dispatch .manual⟩],
      .ofOutcomes [⟨"gate", none⟩], [⟨"orca", [2, 3], [], [1], []⟩]⟩) := by decide +kernel
  rw [← succeeded]
  exact ran

/-- The deployment of the other service carries its one unit out, and then there are two passes. -/
theorem serving_of_deploy_gateDeployed :
    build ofRunnerAndGate.catalog {} Collaborator.all = .ok ofRunnerAndGate ∧
    (∃ before passes, gateDeployed.2.journal = passes.reverse.flatten ++ before ∧
      (∀ c ∈ callsOf before, ¬c.IsDeletion) ∧
      List.Forall₂ (ofRunnerAndGate.PassOver runnerAndGateOn.runtimeSettings) accumulating passes) ∧
    ∃ plan strands arrivals v,
      (ofRunnerAndGate.deploy ["gate"] runnerAndGateOn).Reaches Fleet.respond ⟨threeVersions 1, []⟩
        (.carryingOut plan strands arrivals) v ∧
      (∀ strand ∈ strands, strand.HasEnded) ∧
      v.state.Leaves gateDeployed.2.journal gateDeployed.2.state :=
  have fate := serving_of_deploy build_runnerAndGate
  ⟨build_runnerAndGate, fate.1 runs_gateDeployed, fate.2 runs_gateDeployed⟩

/-- **The version that serves is deleted.** The configuration is valid, the version that serves is
there, the deployment succeeds, and its pass is shown that the first version serves and deletes it.
So afterwards a version is said to be serving that is not there. -/
theorem serving_deleted_rolledBack :
    build ofRunnerAndGate.catalog {} Collaborator.all = .ok ofRunnerAndGate ∧
    (∀ service version, (threeVersions 1).serving? service = some version →
      (threeVersions 1).Has service version) ∧
    ∃ report w running,
      (ofRunnerAndGate.deploy ["gate"] runnerAndGateOn).Runs Fleet.respond ⟨threeVersions 1, []⟩
        (.finished (.ok report)) w ∧
      snapshotsOf "orca" w.journal = [running] ∧ running.latestEnabled = some 1 ∧
      Reap.Deletes { name := "orca", kind := .pipelineRunner } w.journal 1 ∧
      w.state.serving? "orca" = some 1 ∧ ¬w.state.Has "orca" 1 := by
  refine ⟨build_runnerAndGate, fun service version serving => ?_, _, _, _, runs_gateDeployed,
    (by decide +kernel : snapshotsOf "orca" gateDeployed.2.journal =
      [(threeVersions 1).infrastructure.details "orca"]), by decide +kernel, ?_, by decide +kernel,
    by decide +kernel⟩
  · by_cases runner : service = "orca"
    · subst runner
      have first : some 1 = some version := serving
      cases first
      decide +kernel
    · have unknown : (threeVersions 1).infrastructure.running? service = none :=
        (SortedMap.get?_insert _ _ _ _).trans (if_neg runner)
      rw [Fleet.serving?, unknown] at serving
      cases serving
  · obtain ⟨c, made, deletion⟩ : ∃ c ∈ callsOf gateDeployed.2.journal,
        c.deleted? = some ({ name := "orca", kind := .pipelineRunner }, 1) := by decide +kernel
    cases c with
    | deleteVersion service own version =>
      cases deletion
      exact ⟨own, made⟩
    | _ => cases deletion

end FleetDeploy.Deployer
