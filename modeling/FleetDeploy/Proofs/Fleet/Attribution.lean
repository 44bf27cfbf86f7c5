import FleetDeploy.Fleet.Faults
import FleetDeploy.Proofs.Fleet.Collaborators

/-!
# Whose faults apply

The engine in memory takes a submission to be for the service that its first operation or stage
names, and the faults that were arranged for that service apply to it: the submission is rejected,
or its execution is laid out to fail. What is said of the engine here does not depend on the other
collaborators, which may be any, nor on faults that are put in the way of its status queries; it is
enough that submissions go to the engine and that no call arranges anything.

* `FleetDeploy.Call.attributed?` – the service that a submission is taken to be for;
* `FleetDeploy.Engine.Decides` – what becomes of a submission by the faults of one service;
* `FleetDeploy.Handler.HasEngine` – collaborators of which the engine is the one in memory
  (`FleetDeploy.Fleet.hasEngine`, `FleetDeploy.Handler.HasEngine.failingStatus`);
* `FleetDeploy.Handler.HasEngine.decides` – a submission is decided by the faults of the service
  that it is attributed to.
-/

namespace FleetDeploy

/-! ### Submissions -/

namespace Call

/-- The service that the engine takes a submission to be for. -/
def attributed? : Call → Option ServiceName
  | .submitTask task => task.service?
  | .orchestrate pipeline => pipeline.service?
  | _ => none

/-- What the engine answers to a submission. -/
def submission? : (c : Call) → Reply c → Option (Except DeployError Submission)
  | .submitTask _, .answered answer => some answer
  | .orchestrate _, .answered answer => some answer
  | _, _ => none

end Call

namespace Engine

/-- Whether two engines have the same faults arranged for services. -/
structure SameFaults (e e' : Engine) : Prop where
  rejections : e.rejections = e'.rejections
  executionFailures : e.executionFailures = e'.executionFailures

theorem SameFaults.trans {e e' e'' : Engine} (first : e.SameFaults e')
    (second : e'.SameFaults e'') : e.SameFaults e'' :=
  ⟨first.rejections.trans second.rejections, first.executionFailures.trans second.executionFailures⟩

/-- **What becomes of a submission by the faults of a service**: it is rejected with the problem
that was arranged, and accepted if there is none; and if it is accepted its execution runs and then
ends in the status that was arranged, while no script is laid out for it if there is none. -/
structure Decides (faults : Engine) (service : ServiceName) (before after : Engine)
    (answer : Except DeployError Submission) : Prop where
  rejected : ∀ p, faults.rejections.get? service = some p →
    answer = .error (.problem p) ∧ after.scripts = before.scripts
  accepted : faults.rejections.get? service = none → ∃ reference, answer = .ok ⟨reference⟩
  failing : ∀ status reference, faults.executionFailures.get? service = some status →
    answer = .ok ⟨reference⟩ → after.scripts.get? reference = some [.running, status]
  spared : faults.executionFailures.get? service = none → after.scripts = before.scripts

variable {e before faults : Engine}

/-- **A submission for a service is decided by the faults of that service.** It may have been taken
down before it is decided on, which lays out no script. -/
theorem decides_submit (same : e.SameFaults faults) (taken_down : e.scripts = before.scripts)
    (kind : ExecutionKind) (service : ServiceName) :
    faults.Decides service before (e.submit kind (some service)).2
      (e.submit kind (some service)).1 := by
  have rejection : e.rejection? (some service) = faults.rejections.get? service := by
    rw [← same.rejections]
    rfl
  have script : e.scriptFor? (some service) =
      (faults.executionFailures.get? service).map fun status => [.running, status] := by
    rw [← same.executionFailures]
    rfl
  refine ⟨fun p rejects => ?_, fun none => ?_, fun status reference fails ok => ?_, fun none => ?_⟩
  · rw [submit_of_rejected (rejection.trans rejects)]
    exact ⟨rfl, taken_down⟩
  · exact ⟨_, answer_of_accepted (rejection.trans none)⟩
  · rcases decided : e.rejection? (some service) with _ | p
    · rw [answer_of_accepted decided] at ok
      obtain rfl := Submission.mk.inj (Except.ok.inj ok)
      rw [fails] at script
      rw [submit, decided, script]
      exact (SortedMap.get?_insert _ _ _ _).trans (if_pos rfl)
    · rw [submit_of_rejected decided] at ok
      cases ok
  · rw [none] at script
    rw [submit, script]
    cases e.rejection? (some service) <;> exact taken_down

end Engine

/-! ### Collaborators with the engine in memory -/

/-- **Collaborators of which the engine is the one in memory**: what is submitted goes to it, and no
call changes the faults that are arranged in it. -/
structure Handler.HasEngine {σ : Type} (h : Handler σ) (engine : σ → Engine) : Prop where
  submitTask : ∀ task s, (h (.submitTask task) s).1 = .answered ((engine s).submitTask task).1 ∧
    engine (h (.submitTask task) s).2 = ((engine s).submitTask task).2
  orchestrate : ∀ pipeline s,
    (h (.orchestrate pipeline) s).1 = .answered ((engine s).orchestrate pipeline).1 ∧
      engine (h (.orchestrate pipeline) s).2 = ((engine s).orchestrate pipeline).2
  kept : ∀ c s, (engine (h c s).2).SameFaults (engine s)

/-- The fleet in memory has it. -/
theorem Fleet.hasEngine : Handler.HasEngine respond (·.engine) where
  submitTask _ _ := ⟨rfl, rfl⟩
  orchestrate _ _ := ⟨rfl, rfl⟩
  kept c f :=
    { rejections := congrArg (·.engine.rejections) (arrangement_respond c f)
      executionFailures := congrArg (·.engine.executionFailures) (arrangement_respond c f) }

namespace Handler.HasEngine

variable {σ : Type} {h : Handler σ} {engine : σ → Engine}

/-- It is still there behind status queries that fail. -/
theorem failingStatus (has : h.HasEngine engine) (e : DeployError) :
    (h.failingStatus e).HasEngine fun s => engine s.1 where
  submitTask task s := has.submitTask task s.1
  orchestrate pipeline s := has.orchestrate pipeline s.1
  kept c s := by
    obtain ⟨s, left⟩ := s
    cases c with
    | executionStatus kind reference =>
      cases left with
      | zero => exact ⟨rfl, rfl⟩
      | succ left => exact has.kept (.executionStatus kind reference) s
    | _ => exact has.kept _ s

/-- **A submission is decided by the faults of the service that it is attributed to.** -/
theorem decides (has : h.HasEngine engine) {s : σ} {faults : Engine}
    (same : (engine s).SameFaults faults) {c : Call} {service : ServiceName}
    (attributed : c.attributed? = some service) :
    ∃ answer, c.submission? (h c s).1 = some answer ∧
      faults.Decides service (engine s) (engine (h c s).2) answer := by
  cases c with
  | submitTask task =>
    obtain ⟨replied, after⟩ := has.submitTask task s
    rw [replied, after, Engine.submitTask, show task.service? = some service from attributed]
    refine ⟨_, rfl, Engine.decides_submit ?_ ?_ _ service⟩
    · exact ⟨same.rejections, same.executionFailures⟩
    · rfl
  | orchestrate pipeline =>
    obtain ⟨replied, after⟩ := has.orchestrate pipeline s
    rw [replied, after, Engine.orchestrate, show pipeline.service? = some service from attributed]
    refine ⟨_, rfl, Engine.decides_submit ?_ ?_ _ service⟩
    · exact ⟨same.rejections, same.executionFailures⟩
    · rfl
  | _ => cases attributed

end Handler.HasEngine

end FleetDeploy
