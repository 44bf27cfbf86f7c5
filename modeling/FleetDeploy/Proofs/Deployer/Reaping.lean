import FleetDeploy.Proofs.Deployer.Conduct
import FleetDeploy.Proofs.Deployer.Verdict

/-!
# When versions are deleted

Deleting is the one thing that a call does which cannot be undone, and it is done last. By the time
that a deployment asks for a deletion all of its units have ended, and none of them has ended so
badly that the deployment fails; so a deployment that fails has deleted nothing, and a rollback
never deletes. This holds at every moment of a call, however its units are interleaved and whatever
the collaborators answer, and so it holds as well of a call that is broken off.

* `FleetDeploy.Deployer.Cleared` – what lies behind a deletion;
* `FleetDeploy.Deployer.deletions_after_batch` – no deletion is asked for before that.
-/

namespace FleetDeploy

/-- The server group that a call removes. -/
def Call.deleted? : Call → Option (Service × Version)
  | .deleteVersion service _ version => some (service, version)
  | _ => none

/-- Whether a call removes a server group. -/
def Call.IsDeletion (c : Call) : Prop := c.deleted?.isSome

instance : DecidablePred Call.IsDeletion := fun c => inferInstanceAs (Decidable (c.deleted?.isSome))

theorem Plan.Inspects.not_isDeletion {services : List Service} {settings : RuntimeSettings}
    {c : Call} (inspects : Inspects services settings c) : ¬c.IsDeletion := by
  obtain ⟨service, -, -, rfl⟩ := inspects
  exact Bool.false_ne_true

theorem WorkItem.Asks.not_isDeletion {config : DispatchConfig} {item : WorkItem} {c : Call}
    (asks : item.Asks config c) : ¬c.IsDeletion := by
  cases c with
  | deleteVersion => exact asks.elim
  | _ => exact Bool.false_ne_true

namespace BatchOperation

variable {σ ρ : Type} {h : Handler σ} {op : BatchOperation ρ} {w v : World σ} {plan : Plan}
  {strands : List Strand} {arrivals : List (Nat × UnitEnding)}

/-- The units that have been joined are those of the plan. -/
theorem Reaches.length_strands (reached : op.Reaches h w (.carryingOut plan strands arrivals) v)
    (all : ∀ s ∈ strands, s.HasEnded) : strands.length = plan.workItems.length := by
  obtain ⟨w₁, -, goes_on⟩ := reached.stands
  rw [(goes_on (.settled all)).length_eq, units, List.length_map, List.length_map]

/-- The outcome of units that have been joined is told by their endings. -/
theorem Reaches.joined_eq (reached : op.Reaches h w (.carryingOut plan strands arrivals) v)
    (all : ∀ s ∈ strands, s.HasEnded) :
    op.joined plan arrivals = .ofOutcomes
      (plan.workItems.zipWith (fun item s => .ofReport item.service.name s.ending?) strands) := by
  obtain ⟨w₁, -, goes_on⟩ := reached.stands
  have interleaved := goes_on (.settled all)
  rw [List.append_nil] at interleaved
  rw [BatchOperation.joined,
    BatchOutcome.collect_of_delivers interleaved.length_fates.symm interleaved.delivers]
  simp [units, Strand.fates, List.zipWith_map]

end BatchOperation

namespace Deployer

variable {σ : Type} {h : Handler σ} {d : Deployer} {requested : List ServiceName}
  {resolved : ResolvedConfiguration} {s : σ} {e : DeployError}

/-! ### Deployments that delete -/

/-- **What lies behind a deletion**: a moment at which every unit of the plan had ended, and no
outcome among theirs is worse than the threshold. -/
structure Cleared {ρ : Type} (h : Handler σ) (op : BatchOperation ρ) (threshold : Severity) (s : σ)
    (earlier : List Step) (plan : Plan) (strands : List Strand) (v : World σ) : Prop where
  reached : ∃ arrivals, op.Reaches h ⟨s, []⟩ (.carryingOut plan strands arrivals) v
  units : strands.length = plan.workItems.length
  ended : ∀ s ∈ strands, s.HasEnded
  before : ∃ between, earlier = between ++ v.journal
  tolerated : ∀ o ∈ plan.workItems.zipWith
    (fun item s => UnitOutcome.ofReport item.service.name s.ending?) strands, o.severity ≤ threshold

/-- A deployment that is about to delete has been cleared. -/
theorem cleared_of_asks {m : Moment DeployReport} {v : World σ} {c : Call}
    (reached : (d.deploy requested resolved).Reaches h ⟨s, []⟩ m v) (asks : m.Asks c)
    (deletion : c.IsDeletion) :
    ∃ plan strands v₁,
      Cleared h (d.deploy requested resolved) d.config.failureThreshold s v.journal plan strands
        v₁ := by
  have allowed := reached.allows deploy_conduct asks
  cases m with
  | preparing rest => exact absurd deletion (Plan.Inspects.not_isDeletion allowed)
  | carryingOut plan strands arrivals =>
    obtain ⟨item, -, works⟩ := allowed
    exact absurd deletion works.not_isDeletion
  | concluding plan outcome rest =>
    obtain ⟨within, -⟩ := allowed
    obtain ⟨strands, arrivals, v₁, between, carried, all, rfl, journal⟩ := reached.joined
    rw [carried.joined_eq all, BatchOutcome.severity_le_iff] at within
    exact ⟨plan, strands, v₁,
      { reached := ⟨arrivals, carried⟩
        units := carried.length_strands all
        ended := all
        before := ⟨between, journal⟩
        tolerated := within }⟩
  | closed ending => exact allowed.elim

/-! ### Deployments that fail -/

/-- A deployment fails when it concludes only if its batch is too bad. -/
theorem lt_severity_of_failed {plan : Plan} {outcome : BatchOutcome} {w w' : World σ}
    (failed : ((d.deploy requested resolved).conclude plan outcome).run.run h w =
      (.finished (.error e), w')) : d.config.failureThreshold < outcome.severity := by
  rcases Procedure.run_bind_eq_error failed with failed | ⟨outcome', w₁, -, failed⟩
  · obtain ⟨steps, settled⟩ := run_settle (d := d) (h := h) outcome w
    have raised := Ending.finished.inj (Prod.mk.inj (settled.symm.trans failed)).1
    exact (BatchOutcome.raiseIfExceeds_eq_error.mp raised).1
  · rcases Procedure.run_bind_eq_error failed with failed | ⟨reaps, w₂, -, failed⟩
    · exact absurd failed reapAccumulating_ne_error
    · cases failed

/-- A deployment that fails when it concludes asks for nothing any more. -/
theorem asks_nothing_of_failed {plan : Plan} {outcome : BatchOutcome} {w w' : World σ}
    (failed : ((d.deploy requested resolved).conclude plan outcome).run.run h w =
      (.finished (.error e), w')) :
    ((d.deploy requested resolved).conclude plan outcome).AsksOnly fun _ => False :=
  settle_bind_asksOnly fun within => absurd (lt_severity_of_failed failed) (not_lt.mpr within)

/-- What a deployment has asked for by the time that it concludes. -/
theorem calls_of_carried {plan : Plan} {strands : List Strand} {arrivals : List (Nat × UnitEnding)}
    {v : World σ}
    (reached : (d.deploy requested resolved).Reaches h ⟨s, []⟩
      (.carryingOut plan strands arrivals) v) :
    ∀ c ∈ callsOf v.journal, ¬c.IsDeletion := by
  obtain ⟨w₁, since, prepared, journal, asked⟩ := reached.since_plan deploy_conduct
  obtain ⟨steps, from_nothing, made⟩ := deploy_conduct.prepare.run prepared
  intro c mem
  rw [journal, from_nothing, callsOf_append, callsOf_append, List.mem_append,
    List.mem_append] at mem
  rcases mem with mem | mem | mem
  · obtain ⟨item, -, works⟩ := asked c mem
    exact works.not_isDeletion
  · exact (made c mem).not_isDeletion
  · cases mem

/-- **A deployment that fails has deleted nothing**, whether it was refused or its batch is too
bad. -/
theorem no_deletion_of_failed {w : World σ}
    (failed : (d.deploy requested resolved).Runs h ⟨s, []⟩ (.finished (.error e)) w) :
    ∀ c ∈ callsOf w.journal, ¬c.IsDeletion := by
  cases failed with
  | refused prepared =>
    obtain ⟨steps, journal, made⟩ := deploy_conduct.prepare.run prepared
    intro c mem
    rw [journal, callsOf_append, List.mem_append] at mem
    rcases mem with mem | mem
    · exact (made c mem).not_isDeletion
    · cases mem
  | carriedOut prepared interleaved concluded =>
    have carried := BatchOperation.Reaches.carried prepared interleaved
    obtain ⟨steps, journal, made⟩ := (asks_nothing_of_failed concluded).run concluded
    intro c mem
    rw [journal, callsOf_append, List.mem_append] at mem
    rcases mem with mem | mem
    · exact (made c mem).elim
    · exact calls_of_carried carried c mem

/-! ### Rollbacks -/

/-- **A rollback deletes nothing**, at any moment. -/
theorem no_deletion_of_rollback {m : Moment RollbackReport} {v : World σ}
    (reached : (d.rollback requested resolved).Reaches h ⟨s, []⟩ m v) :
    ∀ c ∈ callsOf v.journal, ¬c.IsDeletion := by
  intro c mem
  obtain ⟨later, reply, earlier, made⟩ := exists_of_mem_callsOf mem
  obtain ⟨m', v', reached', asks, -⟩ := reached.asked made
  have allowed := reached'.allows rollback_conduct asks
  cases m' with
  | preparing rest => exact Plan.Inspects.not_isDeletion allowed
  | carryingOut plan strands arrivals =>
    obtain ⟨item, -, works⟩ := allowed
    exact works.not_isDeletion
  | concluding plan outcome rest => exact allowed.elim
  | closed ending => exact allowed.elim

/-! ### Both -/

/-- **Deletions come after the batch, and only if it is not too bad.** Whatever a deployment has
come to, each of its deletions was asked for when all of its units had ended and none of their
outcomes was worse than the threshold. So a deployment that fails has deleted nothing, and a
rollback never does. -/
theorem deletions_after_batch :
    (∀ {m : Moment DeployReport} {v : World σ} {later earlier : List Step} {c : Call}
        {reply : Reply c},
      (d.deploy requested resolved).Reaches h ⟨s, []⟩ m v →
        v.journal = later ++ .called c reply :: earlier → c.IsDeletion →
          ∃ plan strands v₁, Cleared h (d.deploy requested resolved) d.config.failureThreshold s
            earlier plan strands v₁) ∧
    (∀ {e : DeployError} {w : World σ},
      (d.deploy requested resolved).Runs h ⟨s, []⟩ (.finished (.error e)) w →
        ∀ c ∈ callsOf w.journal, ¬c.IsDeletion) ∧
    ∀ {m : Moment RollbackReport} {v : World σ},
      (d.rollback requested resolved).Reaches h ⟨s, []⟩ m v →
        ∀ c ∈ callsOf v.journal, ¬c.IsDeletion := by
  refine ⟨fun {m v later earlier c reply} reached made deletion => ?_, no_deletion_of_failed,
    no_deletion_of_rollback⟩
  obtain ⟨m', v', reached', asks, rfl, -⟩ := reached.asked made
  exact cleared_of_asks reached' asks deletion

/-! ### Three versions of one service -/

/-- A deployer of one service that runs pipelines. -/
def ofRunner : Deployer := ⟨⟨[{ name := "orca", kind := .pipelineRunner }]⟩, {}⟩

/-- The service is enabled. -/
def runnerOn : ResolvedConfiguration := ⟨RuntimeSettings.withService {} "orca" .on, ∅⟩

/-- A fleet with three versions of the service, one of which is serving. -/
def threeVersions (serving : Version) : Fleet where
  infrastructure := Infrastructure.setRunning {}
    (((((RunningService.empty "orca").withVersion 1 ["a"]).withVersion 2 ["b"]).withVersion 3
      ["c"]).withLatestEnabled serving)

/-- The fleet with executions of the service failing. -/
def threeFailing : Fleet :=
  { threeVersions 3 with engine := Engine.failExecutions {} "orca" .terminal }

/-- The problem of the service when its execution fails. -/
def runnerFailed : ProblemSet :=
  ⟨[(DeployError.executionFailed (Engine.referenceOf .task 0) .terminal).toProblem "orca"]⟩

/-- When its executions succeed the oldest version is deleted, after the one unit has ended well.
When they fail nothing is. -/
theorem deletions_after_batch_threeVersions :
    (∃ ending w later c reply earlier,
      (ofRunner.deploy [] runnerOn).Reaches Fleet.respond ⟨threeVersions 3, []⟩ (.closed ending) w ∧
      w.journal = later ++ .called c reply :: earlier ∧ c.IsDeletion ∧
      ∃ plan strands v₁, Cleared Fleet.respond (ofRunner.deploy [] runnerOn) .warning
        (threeVersions 3) earlier plan strands v₁) ∧
    ∃ w, (ofRunner.deploy [] runnerOn).Runs Fleet.respond ⟨threeFailing, []⟩
        (.finished (.error (.aggregate .warning runnerFailed))) w ∧
      ∀ c ∈ callsOf w.journal, ¬c.IsDeletion := by
  constructor
  · have reached :=
      ((ofRunner.deploy [] runnerOn).runs_run Fleet.respond ⟨threeVersions 3, []⟩).reaches
    obtain ⟨c, mem, deletion⟩ : ∃ c ∈ callsOf ((ofRunner.deploy [] runnerOn).run Fleet.respond
        ⟨threeVersions 3, []⟩).2.journal, c.IsDeletion := by decide +kernel
    obtain ⟨later, reply, earlier, made⟩ := exists_of_mem_callsOf mem
    exact ⟨_, _, later, c, reply, earlier, reached, made, deletion,
      deletions_after_batch.1 reached made deletion⟩
  · have ran := (ofRunner.deploy [] runnerOn).runs_run Fleet.respond ⟨threeFailing, []⟩
    have failed : ((ofRunner.deploy [] runnerOn).run Fleet.respond ⟨threeFailing, []⟩).1 =
      .finished (.error (.aggregate .warning runnerFailed)) := by decide +kernel
    rw [failed] at ran
    exact ⟨_, ran, deletions_after_batch.2.1 ran⟩

end Deployer

end FleetDeploy
