import FleetDeploy.Fleet.Basic
import FleetDeploy.Proofs.Fleet.References
import Mathlib.Logic.Function.Iterate

/-!
# What the collaborators in memory do

One law for each call that matters to a batch: what the call answers, and what it leaves behind. The
answers depend on what was arranged beforehand, on the service that is asked about, and on the one
execution that is asked about, and on nothing else of the fleet; the rest of the development rests
on these laws and does not look at the collaborators again.

* `FleetDeploy.Infrastructure.running?_ensureRunning`,
  `FleetDeploy.Infrastructure.running?_deleteVersion` – what runs after a call;
* `FleetDeploy.Engine.Unscripted` – executions that are still to come have no script yet;
* `FleetDeploy.Engine.submit_of_accepted`, `FleetDeploy.Engine.executionStatus_eq` – the engine
  after a call (`FleetDeploy.Engine.get?_scripts_of_accepted`,
  `FleetDeploy.Engine.get?_scripts_executionStatus`);
* `FleetDeploy.Fleet.arrangement` – what was arranged, which no call changes
  (`FleetDeploy.Fleet.arrangement_respond`).
-/

namespace FleetDeploy

/-! ### Infrastructure -/

namespace Infrastructure

variable {i j : Infrastructure} {service : ServiceName}

/-- What becomes of a provisioning depends on the service alone, apart from what was arranged. -/
theorem provision_congr (crashing : i.crashing = j.crashing)
    (failures : i.ensureFailures = j.ensureFailures)
    (running : i.running? service = j.running? service) :
    i.provision service = j.provision service := by
  rw [provision, provision, crashing, failures, details, details, running]

/-- A provisioning makes a server group of its own service, or none. -/
theorem running?_ensureRunning (i : Infrastructure) (service : ServiceName) (safe : Bool)
    (s : ServiceName) :
    (i.ensureRunning service safe).2.running? s =
      match i.provision service with
      | .made details => if s = service then some details else i.running? s
      | _ => i.running? s := by
  rw [ensureRunning]
  rcases i.provision service with text | p | details
  · rfl
  · rfl
  · exact SortedMap.get?_insert _ _ _ _

theorem running?_withoutVersion (i : Infrastructure) (service : ServiceName) (version : Version)
    (s : ServiceName) :
    (i.withoutVersion service version).running? s =
      if s = service then (i.running? service).map (·.withoutVersion version)
      else i.running? s := by
  rw [withoutVersion]
  rcases there : i.running? service with _ | details
  · by_cases same : s = service
    · rw [if_pos same, same]
      exact there
    · rw [if_neg same]
  · exact SortedMap.get?_insert _ _ _ _

/-- A deletion takes a version of its own service away, or none. -/
theorem running?_deleteVersion (i : Infrastructure) (service : ServiceName) (version : Version)
    (s : ServiceName) :
    (i.deleteVersion service version).2.running? s =
      if i.deleteFailure? service version = none ∧ s = service then
        (i.running? service).map (·.withoutVersion version)
      else i.running? s := by
  rw [deleteVersion]
  rcases i.deleteFailure? service version with _ | p
  · refine (running?_withoutVersion _ _ _ _).trans ?_
    simp only [true_and]
    rfl
  · rfl

end Infrastructure

/-! ### The engine -/

namespace Engine

variable {e e' : Engine} {kind : ExecutionKind} {service : Option ServiceName}

/-- **No script is laid out in advance**: the executions that are still to come have none. -/
def Unscripted (e : Engine) : Prop :=
  ∀ kind n, e.sequence ≤ n → e.scripts.get? (referenceOf kind n) = none

theorem submit_of_rejected {p : Problem} (rejected : e.rejection? service = some p) :
    e.submit kind service = (.error (.problem p), e) := by
  rw [submit, rejected]

/-- An execution that is accepted gets the next number, and the script that was arranged for its
service. -/
theorem submit_of_accepted (accepted : e.rejection? service = none) :
    e.submit kind service =
      (.ok ⟨referenceOf kind e.sequence⟩,
        { e with
          sequence := e.sequence + 1
          scripts := ((e.scriptFor? service).map
            (e.scripts.insert (referenceOf kind e.sequence))).getD e.scripts }) := by
  rw [submit, accepted]
  cases e.scriptFor? service <;> rfl

theorem answer_of_accepted (accepted : e.rejection? service = none) :
    (e.submit kind service).1 = .ok ⟨referenceOf kind e.sequence⟩ := by
  rw [submit_of_accepted accepted]

theorem sequence_of_accepted (accepted : e.rejection? service = none) :
    (e.submit kind service).2.sequence = e.sequence + 1 := by
  rw [submit_of_accepted accepted]

/-- An execution that is accepted goes by the script that was arranged for its service. -/
theorem get?_scripts_of_accepted (unscripted : e.Unscripted)
    (accepted : e.rejection? service = none) :
    (e.submit kind service).2.scripts.get? (referenceOf kind e.sequence) =
      e.scriptFor? service := by
  rw [submit_of_accepted accepted]
  rcases e.scriptFor? service with _ | statuses
  · exact unscripted kind e.sequence (Nat.le_refl _)
  · exact (SortedMap.get?_insert _ _ _ _).trans (if_pos rfl)

/-- A submission lays out no script but that of its own execution. -/
theorem get?_scripts_submit_of_ne {r : ExecutionRef} (other : r ≠ referenceOf kind e.sequence) :
    (e.submit kind service).2.scripts.get? r = e.scripts.get? r := by
  rw [submit]
  split
  · rfl
  · rcases e.scriptFor? service with _ | statuses
    · rfl
    · exact (SortedMap.get?_insert _ _ _ _).trans (if_neg other)

theorem sequence_le_submit (e : Engine) (kind : ExecutionKind) (service : Option ServiceName) :
    e.sequence ≤ (e.submit kind service).2.sequence := by
  rcases rejected : e.rejection? service with _ | p
  · rw [sequence_of_accepted rejected]
    omega
  · exact Nat.le_of_eq (congrArg (·.2.sequence) (submit_of_rejected rejected).symm)

/-- What is accepted is not an execution that is still to come. -/
theorem Unscripted.submit (unscripted : e.Unscripted) (kind : ExecutionKind)
    (service : Option ServiceName) : (e.submit kind service).2.Unscripted := by
  rcases rejected : e.rejection? service with _ | p
  · intro kind' n later
    rw [sequence_of_accepted rejected] at later
    rw [get?_scripts_submit_of_ne]
    · exact unscripted kind' n (by omega)
    · intro same
      have := (referenceOf_inj same).2
      omega
  · rwa [submit_of_rejected rejected]

/-- A script is left at its last status. -/
theorem advanced_eq (statuses : List ExecutionStatus) :
    advanced statuses = statuses.drop (min 1 (statuses.length - 1)) := by
  rcases statuses with _ | ⟨first, _ | ⟨second, rest⟩⟩ <;> simp [advanced]

/-- A script that has been looked at so often has lost so many statuses, but never the last one. -/
theorem iterate_advanced (statuses : List ExecutionStatus) (n : Nat) :
    advanced^[n] statuses = statuses.drop (min n (statuses.length - 1)) := by
  induction n with
  | zero => simp
  | succ n ih =>
    rw [Function.iterate_succ_apply', ih, advanced_eq, List.drop_drop, List.length_drop]
    congr 1
    omega

/-- A query is answered by the script of its own execution, which is moved on. An execution without
a script is as good as one whose script is empty. -/
theorem executionStatus_eq (e : Engine) (r : ExecutionRef) :
    e.executionStatus r =
      (shown (e.scripts.getD r []),
        { e with
          queries := e.queries.insert r (e.queryCount r + 1)
          scripts := ((e.scripts.get? r).map fun statuses =>
            e.scripts.insert r (advanced statuses)).getD e.scripts }) := by
  rw [executionStatus, SortedMap.getD]
  cases e.scripts.get? r <;> rfl

/-- The status that is told is the one that the script shows. -/
theorem status_eq (e : Engine) (r : ExecutionRef) :
    (e.executionStatus r).1 = ((e.scripts.get? r).map shown).getD .succeeded := by
  rw [executionStatus_eq, SortedMap.getD]
  cases e.scripts.get? r <;> rfl

theorem sequence_executionStatus (e : Engine) (r : ExecutionRef) :
    (e.executionStatus r).2.sequence = e.sequence := by
  rw [executionStatus_eq]

/-- A query takes one step in the script of its own execution. -/
theorem get?_scripts_executionStatus (e : Engine) (r r' : ExecutionRef) :
    (e.executionStatus r).2.scripts.get? r' =
      if r' = r then (e.scripts.get? r).map advanced else e.scripts.get? r' := by
  rw [executionStatus]
  rcases scripted : e.scripts.get? r with _ | statuses
  · by_cases same : r' = r
    · rw [if_pos same, same]
      exact scripted
    · rw [if_neg same]
  · exact SortedMap.get?_insert _ _ _ _

theorem Unscripted.executionStatus (unscripted : e.Unscripted) (r : ExecutionRef) :
    (e.executionStatus r).2.Unscripted := by
  intro kind n later
  rw [sequence_executionStatus] at later
  have none_yet := unscripted kind n later
  rw [get?_scripts_executionStatus]
  split
  · next same => rw [← same, none_yet]; rfl
  · exact none_yet

end Engine

/-! ### What was arranged -/

namespace Fleet

/-- **What was arranged beforehand**: the faults of every collaborator that a batch calls, and what
the engine tells of executions that are not the deployer's own. -/
def arrangement (f : Fleet) : Fleet where
  infrastructure :=
    { inspectionFailures := f.infrastructure.inspectionFailures
      ensureFailures := f.infrastructure.ensureFailures
      deleteFailures := f.infrastructure.deleteFailures
      crashing := f.infrastructure.crashing }
  engine :=
    { executionFailures := f.engine.executionFailures
      rejections := f.engine.rejections
      bakes := f.engine.bakes
      active := f.engine.active
      usageUnavailable := f.engine.usageUnavailable }
  stager := { failures := f.stager.failures }

/-- No call changes what was arranged. -/
theorem arrangement_respond (c : Call) (f : Fleet) :
    (respond c f).2.arrangement = f.arrangement := by
  cases c with
  | ensureRunning service _ _ safe =>
    simp only [respond, arrangement, Infrastructure.ensureRunning]
    cases f.infrastructure.provision service.name <;> rfl
  | deleteVersion service _ version =>
    simp only [respond, arrangement, Infrastructure.deleteVersion, Infrastructure.withoutVersion]
    rcases f.infrastructure.deleteFailure? service.name version with _ | p
    · cases Infrastructure.running? _ service.name <;> rfl
    · rfl
  | submitTask task =>
    simp only [respond, arrangement, Engine.submitTask, Engine.submit]
    cases Engine.rejection? _ task.service? with
    | none => cases Engine.scriptFor? _ task.service? <;> rfl
    | some p => rfl
  | orchestrate pipeline =>
    simp only [respond, arrangement, Engine.orchestrate, Engine.submit]
    cases Engine.rejection? _ pipeline.service? with
    | none => cases Engine.scriptFor? _ pipeline.service? <;> rfl
    | some p => rfl
  | executionStatus _ reference =>
    simp only [respond, arrangement, Engine.executionStatus]
    cases f.engine.scripts.get? reference <;> rfl
  | _ => rfl

end Fleet

end FleetDeploy
