import FleetDeploy.Proofs.Fleet.Collaborators

/-!
# What one unit can see of a fleet

A unit of a batch looks at its own service and at the execution it waits for. Two fleets that agree
on these two, and on what was arranged, cannot be told apart by the unit: they answer it alike, and
agree again afterwards. What the unit leaves behind in turn is not seen by the unit of another
service, so that the units of a batch do not get into each other's way.

* `FleetDeploy.Fleet.Agree` – two fleets that agree as far as one unit can see;
* `FleetDeploy.Fleet.Spares` – what a step of one unit leaves as it is;
* `FleetDeploy.Fleet.Agree.provisions`, `FleetDeploy.Fleet.Agree.accepted`,
  `FleetDeploy.Fleet.Agree.rejected`, `FleetDeploy.Fleet.Agree.queried` – two fleets that agree do so
  again after a call of the unit;
* `FleetDeploy.Fleet.Agree.of_spares` – a step of another unit is not noticed.
-/

namespace FleetDeploy

/-- **An execution that a unit waits for**, in two fleets that are compared: its kind and its number
in each of them. -/
structure Waiting where
  kind : ExecutionKind
  here : Nat
  there : Nat

/-- Whether a call is about one service and concerns no execution. -/
def Call.Provisions (service : ServiceName) : Call → Prop
  | .stage s _ => s.name = service
  | .ensureRunning s _ _ _ => s.name = service
  | _ => False

namespace Fleet

/-- **Agreement as far as one unit can see**: what was arranged, the server groups of its service,
and the script of the execution it waits for. -/
structure Agree (service : ServiceName) (waiting : Option Waiting) (F G : Fleet) : Prop where
  arrangement : F.arrangement = G.arrangement
  running : F.infrastructure.running? service = G.infrastructure.running? service
  unscripted : F.engine.Unscripted
  unscripted_there : G.engine.Unscripted
  script : ∀ x, waiting = some x →
    F.engine.scripts.get? (Engine.referenceOf x.kind x.here) =
      G.engine.scripts.get? (Engine.referenceOf x.kind x.there)
  known : ∀ x, waiting = some x → x.here < F.engine.sequence ∧ x.there < G.engine.sequence

/-- **What a step of a unit leaves as it is**: what was arranged, all other services, and all
executions but the one with the number `mine`. -/
structure Spares (service : ServiceName) (mine : Option Nat) (F F' : Fleet) : Prop where
  arrangement : F'.arrangement = F.arrangement
  running : ∀ s, s ≠ service → F'.infrastructure.running? s = F.infrastructure.running? s
  sequence : F.engine.sequence ≤ F'.engine.sequence
  unscripted : F.engine.Unscripted → F'.engine.Unscripted
  scripts : ∀ kind n, n < F.engine.sequence → mine ≠ some n →
    F'.engine.scripts.get? (Engine.referenceOf kind n) =
      F.engine.scripts.get? (Engine.referenceOf kind n)

theorem Spares.refl (service : ServiceName) (mine : Option Nat) (F : Fleet) :
    F.Spares service mine F :=
  ⟨rfl, fun _ _ => rfl, Nat.le_refl _, id, fun _ _ _ _ => rfl⟩

variable {service s : ServiceName} {waiting : Option Waiting} {mine : Option Nat}
  {F F' F'' G : Fleet}

theorem Spares.trans (first : F.Spares service mine F') (second : F'.Spares service mine F'') :
    F.Spares service mine F'' where
  arrangement := second.arrangement.trans first.arrangement
  running s other := (second.running s other).trans (first.running s other)
  sequence := Nat.le_trans first.sequence second.sequence
  unscripted unscripted := second.unscripted (first.unscripted unscripted)
  scripts kind n old other :=
    (second.scripts kind n (Nat.lt_of_lt_of_le old first.sequence) other).trans
      (first.scripts kind n old other)

/-- **The unit of another service notices nothing.** -/
theorem Agree.of_spares (agree : F.Agree service waiting G) (spares : F.Spares s mine F')
    (other : service ≠ s) (apart : ∀ x, waiting = some x → mine ≠ some x.here) :
    F'.Agree service waiting G where
  arrangement := spares.arrangement.trans agree.arrangement
  running := (spares.running service other).trans agree.running
  unscripted := spares.unscripted agree.unscripted
  unscripted_there := agree.unscripted_there
  script x waits :=
    (spares.scripts x.kind x.here (agree.known x waits).1 (apart x waits)).trans
      (agree.script x waits)
  known x waits :=
    ⟨Nat.lt_of_lt_of_le (agree.known x waits).1 spares.sequence, (agree.known x waits).2⟩

/-! ### Staging and provisioning -/

/-- What a provisioning answers is decided by what becomes of it. -/
theorem fst_respond_ensureRunning (f : Fleet) (which : Service) (resolved : ResolvedConfiguration)
    (configs : List ConfigSource) (safe : Bool) :
    (respond (.ensureRunning which resolved configs safe) f).1 =
      match f.infrastructure.provision which.name with
      | .crashed text => .crashed (some text)
      | .failed p => .answered (.error (.problem p))
      | .made _ => .answered (.ok ()) := by
  simp only [respond, Infrastructure.ensureRunning]
  cases f.infrastructure.provision which.name <;> rfl

theorem Agree.provision_eq (agree : F.Agree service waiting G) :
    F.infrastructure.provision service = G.infrastructure.provision service :=
  Infrastructure.provision_congr (congrArg (·.infrastructure.crashing) agree.arrangement)
    (congrArg (·.infrastructure.ensureFailures) agree.arrangement) agree.running

/-- A unit that stages or provisions is answered alike. -/
theorem Agree.reply_eq {c : Call} (own : c.Provisions service) (agree : F.Agree service waiting G) :
    (respond c F).1 = (respond c G).1 := by
  cases c with
  | stage which resolved =>
    have failures : F.stager.failures = G.stager.failures :=
      congrArg (·.stager.failures) agree.arrangement
    simp only [respond, Recorder.note, failures]
  | ensureRunning which resolved configs safe =>
    obtain rfl : which.name = service := own
    rw [fst_respond_ensureRunning, fst_respond_ensureRunning, agree.provision_eq]
  | _ => exact own.elim

theorem engine_of_provisions {c : Call} (own : c.Provisions service) (f : Fleet) :
    (respond c f).2.engine = f.engine := by
  cases c with
  | stage which resolved => rfl
  | ensureRunning which resolved configs safe => rfl
  | _ => exact own.elim

/-- What runs of a service after a unit has staged or provisioned. -/
theorem running?_of_provisions {c : Call} (own : c.Provisions service)
    (agree : F.Agree service waiting G) :
    (respond c F).2.infrastructure.running? service =
      (respond c G).2.infrastructure.running? service := by
  cases c with
  | stage which resolved => exact agree.running
  | ensureRunning which resolved configs safe =>
    obtain rfl : which.name = service := own
    refine (Infrastructure.running?_ensureRunning _ _ _ _).trans ?_
    refine Eq.trans ?_ (Infrastructure.running?_ensureRunning _ _ _ _).symm
    rw [agree.provision_eq, agree.running]
  | _ => exact own.elim

/-- A unit that stages or provisions cannot tell the fleets apart afterwards. -/
theorem Agree.provisions {c : Call} (own : c.Provisions service)
    (agree : F.Agree service waiting G) :
    (respond c F).2.Agree service waiting (respond c G).2 where
  arrangement := by rw [arrangement_respond, arrangement_respond, agree.arrangement]
  running := running?_of_provisions own agree
  unscripted := by rw [engine_of_provisions own]; exact agree.unscripted
  unscripted_there := by rw [engine_of_provisions own]; exact agree.unscripted_there
  script := by
    rw [engine_of_provisions own, engine_of_provisions own]
    exact agree.script
  known := by
    rw [engine_of_provisions own, engine_of_provisions own]
    exact agree.known

/-- Staging and provisioning spare all other services and all executions. -/
theorem Spares.provisions {c : Call} (own : c.Provisions service) (f : Fleet) :
    f.Spares service mine (respond c f).2 := by
  have engine := engine_of_provisions own f
  refine ⟨arrangement_respond c f, ?_, Nat.le_of_eq (by rw [engine]), by rw [engine]; exact id,
    fun _ _ _ _ => by rw [engine]⟩
  intro s other
  cases c with
  | stage which resolved => rfl
  | ensureRunning which resolved configs safe =>
    obtain rfl : which.name = service := own
    refine (Infrastructure.running?_ensureRunning _ _ _ _).trans ?_
    split
    · exact if_neg other
    · rfl
  | _ => exact own.elim

/-! ### Submissions -/

section Submissions

variable (kind : ExecutionKind)

/-- The fleet after a submission for a service. -/
def submitted (service : ServiceName) (f : Fleet) : Fleet :=
  { f with engine := (f.engine.submit kind (some service)).2 }

theorem arrangement_submitted (service : ServiceName) (f : Fleet) :
    (f.submitted kind service).arrangement = f.arrangement := by
  simp only [submitted, arrangement, Engine.submit]
  cases f.engine.rejection? (some service) with
  | none => cases f.engine.scriptFor? (some service) <;> rfl
  | some p => rfl

/-- A submission spares all services, and all executions that are there already. -/
theorem Spares.submitted (f : Fleet) : f.Spares service mine (f.submitted kind service) where
  arrangement := arrangement_submitted kind service f
  running _ _ := rfl
  sequence := f.engine.sequence_le_submit kind (some service)
  unscripted unscripted := unscripted.submit kind (some service)
  scripts kind' n old _ := by
    refine Engine.get?_scripts_submit_of_ne fun same => ?_
    have new := (Engine.referenceOf_inj same).2
    omega

theorem Agree.rejection_eq (agree : F.Agree service waiting G) :
    F.engine.rejection? (some service) = G.engine.rejection? (some service) := by
  have rejections : F.engine.rejections = G.engine.rejections :=
    congrArg (·.engine.rejections) agree.arrangement
  rw [Engine.rejection?, Engine.rejection?, rejections]

theorem Agree.scriptFor_eq (agree : F.Agree service waiting G) :
    F.engine.scriptFor? (some service) = G.engine.scriptFor? (some service) := by
  have failures : F.engine.executionFailures = G.engine.executionFailures :=
    congrArg (·.engine.executionFailures) agree.arrangement
  rw [Engine.scriptFor?, Engine.scriptFor?, failures]

/-- A submission that is rejected leaves the fleets in agreement. -/
theorem Agree.rejected {p : Problem} (agree : F.Agree service waiting G)
    (rejected : F.engine.rejection? (some service) = some p) :
    (F.submitted kind service).Agree service waiting (G.submitted kind service) := by
  have rejected_there := agree.rejection_eq ▸ rejected
  rw [Fleet.submitted, Fleet.submitted, Engine.submit_of_rejected rejected,
    Engine.submit_of_rejected rejected_there]
  exact agree

/-- After a submission that is accepted the fleets agree on the new execution. -/
theorem Agree.accepted (agree : F.Agree service waiting G)
    (accepted : F.engine.rejection? (some service) = none) :
    (F.submitted kind service).Agree service
      (some ⟨kind, F.engine.sequence, G.engine.sequence⟩) (G.submitted kind service) := by
  have accepted_there := agree.rejection_eq ▸ accepted
  refine ⟨?_, agree.running, agree.unscripted.submit kind (some service),
    agree.unscripted_there.submit kind (some service), ?_, ?_⟩
  · rw [arrangement_submitted, arrangement_submitted, agree.arrangement]
  · intro x waits
    obtain rfl := Option.some.inj waits
    refine (Engine.get?_scripts_of_accepted agree.unscripted accepted).trans ?_
    refine agree.scriptFor_eq.trans ?_
    exact (Engine.get?_scripts_of_accepted agree.unscripted_there accepted_there).symm
  · intro x waits
    obtain rfl := Option.some.inj waits
    constructor
    · exact Nat.lt_of_lt_of_eq (Nat.lt_succ_self _) (Engine.sequence_of_accepted accepted).symm
    · exact Nat.lt_of_lt_of_eq (Nat.lt_succ_self _)
        (Engine.sequence_of_accepted accepted_there).symm

/-- The engine keeps the tasks and pipelines that it is given, and nobody looks at them. -/
def keeping (tasks : List TaskDefinition) (pipelines : List PipelineDefinition) (f : Fleet) :
    Fleet :=
  { f with engine := { f.engine with
      tasks := f.engine.tasks ++ tasks, pipelines := f.engine.pipelines ++ pipelines } }

theorem respond_submitTask {task : TaskDefinition} (own : task.service? = some service)
    (f : Fleet) :
    respond (.submitTask task) f =
      (.answered ((f.keeping [task] []).engine.submit .task (some service)).1,
        (f.keeping [task] []).submitted .task service) := by
  simp only [respond, Engine.submitTask, own, keeping, List.append_nil]
  rfl

theorem respond_orchestrate {pipeline : PipelineDefinition}
    (own : pipeline.service? = some service) (f : Fleet) :
    respond (.orchestrate pipeline) f =
      (.answered ((f.keeping [] [pipeline]).engine.submit .pipeline (some service)).1,
        (f.keeping [] [pipeline]).submitted .pipeline service) := by
  simp only [respond, Engine.orchestrate, own, keeping, List.append_nil]
  rfl

variable (tasks : List TaskDefinition) (pipelines : List PipelineDefinition)

theorem Agree.keeping (agree : F.Agree service waiting G) :
    (F.keeping tasks pipelines).Agree service waiting (G.keeping tasks pipelines) :=
  ⟨agree.arrangement, agree.running, agree.unscripted, agree.unscripted_there, agree.script,
    agree.known⟩

theorem Spares.keeping (f : Fleet) : f.Spares service mine (f.keeping tasks pipelines) :=
  ⟨rfl, fun _ _ => rfl, Nat.le_refl _, id, fun _ _ _ _ => rfl⟩

/-- **A submission is rejected by both fleets or accepted by both.** -/
theorem Agree.submitting (agree : F.Agree service waiting G) :
    (∃ p, (F.engine.submit kind (some service)).1 = .error (.problem p) ∧
      (G.engine.submit kind (some service)).1 = .error (.problem p) ∧
      (F.submitted kind service).Agree service waiting (G.submitted kind service)) ∨
    ((F.engine.submit kind (some service)).1 =
        .ok ⟨Engine.referenceOf kind F.engine.sequence⟩ ∧
      (G.engine.submit kind (some service)).1 =
        .ok ⟨Engine.referenceOf kind G.engine.sequence⟩ ∧
      (F.submitted kind service).Agree service
        (some ⟨kind, F.engine.sequence, G.engine.sequence⟩) (G.submitted kind service)) := by
  have same := agree.rejection_eq
  rcases decided : F.engine.rejection? (some service) with _ | p
  · refine Or.inr ⟨Engine.answer_of_accepted decided, ?_, agree.accepted kind decided⟩
    exact Engine.answer_of_accepted (same ▸ decided)
  · refine Or.inl ⟨p, ?_, ?_, agree.rejected kind decided⟩
    · rw [Engine.submit_of_rejected decided]
    · rw [Engine.submit_of_rejected (same ▸ decided)]

end Submissions

/-! ### Queries -/

section Queries

variable (kind : ExecutionKind) {m n : Nat}

/-- The two executions that are waited for stand at the same status. -/
theorem Agree.status_eq (agree : F.Agree service (some ⟨kind, m, n⟩) G) :
    (F.engine.executionStatus (Engine.referenceOf kind m)).1 =
      (G.engine.executionStatus (Engine.referenceOf kind n)).1 := by
  have script := agree.script _ rfl
  rw [Engine.status_eq, Engine.status_eq, script]

/-- The fleet after a query. -/
def queried (r : ExecutionRef) (f : Fleet) : Fleet :=
  { f with engine := (f.engine.executionStatus r).2 }

theorem respond_executionStatus (r : ExecutionRef) (f : Fleet) :
    respond (.executionStatus kind r) f =
      (.answered (.ok (f.engine.executionStatus r).1), f.queried r) :=
  rfl

/-- After a query for the two executions the fleets agree again. -/
theorem Agree.queried (agree : F.Agree service (some ⟨kind, m, n⟩) G) :
    (F.queried (Engine.referenceOf kind m)).Agree service (some ⟨kind, m, n⟩)
      (G.queried (Engine.referenceOf kind n)) := by
  have arranged (r : ExecutionRef) (f : Fleet) : (f.queried r).arrangement = f.arrangement :=
    arrangement_respond (.executionStatus kind r) f
  refine ⟨?_, agree.running, agree.unscripted.executionStatus _,
    agree.unscripted_there.executionStatus _, ?_, ?_⟩
  · rw [arranged, arranged, agree.arrangement]
  · intro x waits
    obtain rfl := Option.some.inj waits
    have script := agree.script _ rfl
    simp only [Fleet.queried, Engine.get?_scripts_executionStatus, if_true]
    rw [script]
  · intro x waits
    obtain rfl := Option.some.inj waits
    simp only [Fleet.queried, Engine.sequence_executionStatus]
    exact agree.known _ rfl

/-- A query spares all services, and all other executions. -/
theorem Spares.queried (f : Fleet) :
    f.Spares service (some m) (f.queried (Engine.referenceOf kind m)) where
  arrangement := arrangement_respond (.executionStatus kind _) f
  running _ _ := rfl
  sequence := Nat.le_of_eq (Engine.sequence_executionStatus _ _).symm
  unscripted unscripted := unscripted.executionStatus _
  scripts kind' n _ other := by
    refine (Engine.get?_scripts_executionStatus _ _ _).trans (if_neg fun same => ?_)
    exact other (congrArg some (Engine.referenceOf_inj same).2.symm)

end Queries

end Fleet

end FleetDeploy
