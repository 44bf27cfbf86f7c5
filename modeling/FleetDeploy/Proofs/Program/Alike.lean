import FleetDeploy.Dispatch
import FleetDeploy.Proofs.Fleet.Agreement

/-!
# Programs that are alike

A unit that waits for an execution has the name of the execution in its text, so that one unit
becomes different programs according to the number that its execution got. `FleetDeploy.Program.Alike`
relates such programs: they make the same calls about the same service, except that they ask for the
execution that is theirs, and they come to results that correspond.

* `FleetDeploy.Program.Alike.bind`, `FleetDeploy.Procedure.Alike.bind` – programs that are put
  together from parts that are alike;
* `FleetDeploy.Monitor.await_alike` – waiting for two executions of one kind;
* `FleetDeploy.WorkItem.dispatch_alike` – the work of an item keeps to the service of the item, and
  does not otherwise depend on how its executions are numbered.
-/

namespace FleetDeploy

variable {α β : Type} {service : ServiceName}

/-! ### Programs -/

/-- **Programs of one unit that differ in the executions they wait for.** The index is the execution
that either of them waits for at present, and `R` relates the results. -/
inductive Program.Alike (service : ServiceName) (R : Option Waiting → α → α → Prop) :
    Option Waiting → Program α → Program α → Prop
  /-- Both have ended. -/
  | done {waiting a b} (results : R waiting a b) : Alike service R waiting (.done a) (.done b)
  /-- Both tell observers the same. -/
  | emit {waiting event p q} (rest : Alike service R waiting p q) :
      Alike service R waiting (.emit event p) (.emit event q)
  /-- Both wait for the same time. -/
  | sleep {waiting ms p q} (rest : Alike service R waiting p q) :
      Alike service R waiting (.sleep ms p) (.sleep ms q)
  /-- Both stage or provision. -/
  | provision {waiting c p q} (own : c.Provisions service)
      (rest : ∀ answer, Alike service R waiting (p answer) (q answer)) :
      Alike service R waiting (.call c p) (.call c q)
  /-- Both submit a task, and wait for it from then on. -/
  | submitTask {waiting task p q} (own : task.service? = some service)
      (rejected : ∀ e, Alike service R waiting (p (.error e)) (q (.error e)))
      (accepted : ∀ m n, Alike service R (some ⟨.task, m, n⟩)
        (p (.ok ⟨Engine.referenceOf .task m⟩)) (q (.ok ⟨Engine.referenceOf .task n⟩))) :
      Alike service R waiting (.call (.submitTask task) p) (.call (.submitTask task) q)
  /-- Both submit a pipeline, and wait for it from then on. -/
  | orchestrate {waiting pipeline p q} (own : pipeline.service? = some service)
      (rejected : ∀ e, Alike service R waiting (p (.error e)) (q (.error e)))
      (accepted : ∀ m n, Alike service R (some ⟨.pipeline, m, n⟩)
        (p (.ok ⟨Engine.referenceOf .pipeline m⟩)) (q (.ok ⟨Engine.referenceOf .pipeline n⟩))) :
      Alike service R waiting (.call (.orchestrate pipeline) p) (.call (.orchestrate pipeline) q)
  /-- Each of them asks for its own execution. -/
  | query {kind m n p q}
      (rest : ∀ status, Alike service R (some ⟨kind, m, n⟩) (p (.ok status)) (q (.ok status))) :
      Alike service R (some ⟨kind, m, n⟩)
        (.call (.executionStatus kind (Engine.referenceOf kind m)) p)
        (.call (.executionStatus kind (Engine.referenceOf kind n)) q)

theorem Program.Alike.bind {R : Option Waiting → α → α → Prop} {S : Option Waiting → β → β → Prop}
    {waiting : Option Waiting} {p q : Program α} {f g : α → Program β}
    (first : Alike service R waiting p q)
    (second : ∀ waiting a b, R waiting a b → Alike service S waiting (f a) (g b)) :
    Alike service S waiting (p.bind f) (q.bind g) := by
  induction first with
  | done results => exact second _ _ _ results
  | emit _ ih => exact .emit ih
  | sleep _ ih => exact .sleep ih
  | provision own _ ih => exact .provision own ih
  | submitTask own _ _ rejected accepted => exact .submitTask own rejected accepted
  | orchestrate own _ _ rejected accepted => exact .orchestrate own rejected accepted
  | query _ ih => exact .query ih

theorem Program.Alike.mono {R S : Option Waiting → α → α → Prop} {waiting : Option Waiting}
    {p q : Program α} (alike : Alike service R waiting p q)
    (weaker : ∀ waiting a b, R waiting a b → S waiting a b) : Alike service S waiting p q := by
  induction alike with
  | done results => exact .done (weaker _ _ _ results)
  | emit _ ih => exact .emit ih
  | sleep _ ih => exact .sleep ih
  | provision own _ ih => exact .provision own ih
  | submitTask own _ _ rejected accepted => exact .submitTask own rejected accepted
  | orchestrate own _ _ rejected accepted => exact .orchestrate own rejected accepted
  | query _ ih => exact .query ih

/-! ### Procedures -/

/-- Results of procedures that are alike: both are values that correspond, or both are errors that
differ in a number at most. -/
inductive Procedure.Results (R : Option Waiting → α → α → Prop) (waiting : Option Waiting) :
    Except DeployError α → Except DeployError α → Prop
  | ok {a b} (values : R waiting a b) : Results R waiting (.ok a) (.ok b)
  | error {m n e e'} (errors : DeployError.SameBut m n e e') : Results R waiting (.error e) (.error e')

/-- Procedures of one unit that differ in the executions they wait for. -/
def Procedure.Alike (service : ServiceName) (R : Option Waiting → α → α → Prop)
    (waiting : Option Waiting) (x y : Procedure α) : Prop :=
  Program.Alike service (Results R) waiting x.run y.run

/-- The same value on both sides, and no other execution to wait for than `waiting`. -/
def Procedure.Same (waiting : Option Waiting) : Option Waiting → α → α → Prop :=
  fun waiting' a b => waiting' = waiting ∧ a = b

/-- The same value on both sides, whatever is waited for. -/
def Procedure.Equal : Option Waiting → α → α → Prop := fun _ a b => a = b

namespace Procedure.Alike

variable {R : Option Waiting → α → α → Prop} {S : Option Waiting → β → β → Prop}
  {waiting : Option Waiting}

theorem bind {x y : Procedure α} {f g : α → Procedure β} (first : Alike service R waiting x y)
    (second : ∀ waiting a b, R waiting a b → Alike service S waiting (f a) (g b)) :
    Alike service S waiting (x >>= f) (y >>= g) := by
  rw [Alike, ExceptT.run_bind, ExceptT.run_bind]
  refine Program.Alike.bind first fun waiting r r' results => ?_
  cases results with
  | ok values => exact second waiting _ _ values
  | error errors => exact .done (.error errors)

/-- The first of two procedures is the same one on both sides, and so is what it comes to. -/
theorem andThen {x y : Procedure α} {f g : α → Procedure β}
    (first : Alike service (Same waiting) waiting x y)
    (second : ∀ a, Alike service S waiting (f a) (g a)) :
    Alike service S waiting (x >>= f) (y >>= g) := by
  refine bind first fun waiting' a b same => ?_
  obtain ⟨rfl, rfl⟩ := same
  exact second a

/-- What is waited for in the end does not matter any more. -/
theorem equal {still : Option Waiting} {x y : Procedure α}
    (alike : Alike service (Same still) waiting x y) : Alike service Equal waiting x y := by
  refine Program.Alike.mono alike fun waiting r r' results => ?_
  cases results with
  | ok same => exact .ok same.2
  | error errors => exact .error errors

theorem pure {a b : α} (values : R waiting a b) :
    Alike service R waiting (pure a) (pure b) :=
  .done (.ok values)

theorem throw {m n : Nat} {e e' : DeployError} (errors : DeployError.SameBut m n e e') :
    Alike service R waiting (throw e) (throw e') :=
  .done (.error errors)

theorem emit (event : DeployEvent) :
    Alike service (Same waiting) waiting (emit event) (emit event) :=
  Program.Alike.emit (.done (.ok ⟨rfl, rfl⟩))

theorem say (text : String) : Alike service (Same waiting) waiting (say text) (say text) :=
  emit _

theorem pause (ms : Nat) : Alike service (Same waiting) waiting (pause ms) (pause ms) :=
  Program.Alike.sleep (.done (.ok ⟨rfl, rfl⟩))

/-- An answer is handed on as it is. -/
theorem done_answer (answer : Except DeployError α) :
    Program.Alike service (Results (Same waiting)) waiting (.done answer) (.done answer) := by
  cases answer with
  | ok a => exact .done (.ok ⟨rfl, rfl⟩)
  | error e => exact .done (.error (.same e (m := 0) (n := 0)))

theorem provision {c : Call} (own : c.Provisions service) :
    Alike service (Same waiting) waiting (ask c) (ask c) :=
  Program.Alike.provision own done_answer

/-- Both have submitted, and wait for what they submitted. -/
def Submitted (kind : ExecutionKind) (waiting : Option Waiting) (a b : Submission) : Prop :=
  ∃ m n, waiting = some ⟨kind, m, n⟩ ∧ a = ⟨Engine.referenceOf kind m⟩ ∧
    b = ⟨Engine.referenceOf kind n⟩

theorem submitTask {task : TaskDefinition} (own : task.service? = some service) :
    Alike service (Submitted .task) waiting (ask (.submitTask task)) (ask (.submitTask task)) :=
  Program.Alike.submitTask own (fun e => .done (.error (.same e (m := 0) (n := 0))))
    fun m n => .done (.ok ⟨m, n, rfl, rfl, rfl⟩)

theorem orchestrate {pipeline : PipelineDefinition} (own : pipeline.service? = some service) :
    Alike service (Submitted .pipeline) waiting (ask (.orchestrate pipeline))
      (ask (.orchestrate pipeline)) :=
  Program.Alike.orchestrate own (fun e => .done (.error (.same e (m := 0) (n := 0))))
    fun m n => .done (.ok ⟨m, n, rfl, rfl, rfl⟩)

theorem query (kind : ExecutionKind) (m n : Nat) :
    Alike service (Same (some ⟨kind, m, n⟩)) (some ⟨kind, m, n⟩)
      (ask (.executionStatus kind (Engine.referenceOf kind m)))
      (ask (.executionStatus kind (Engine.referenceOf kind n))) :=
  Program.Alike.query fun _ => .done (.ok ⟨rfl, rfl⟩)

end Procedure.Alike

/-! ### Waiting -/

namespace Monitor

open Procedure (Alike Same)

variable {kind : ExecutionKind} {m n : Nat}

theorem conclude_alike (status : ExecutionStatus) :
    Alike service (Same (some ⟨kind, m, n⟩)) (some ⟨kind, m, n⟩)
      (conclude (Engine.referenceOf kind m) status) (conclude (Engine.referenceOf kind n) status) := by
  rw [conclude, conclude]
  split
  · exact .pure ⟨rfl, rfl⟩
  · exact .throw (.executionFailed kind status)

/-- Asking again and again for two executions of one kind. -/
theorem poll_alike (interval rest remaining : Nat) :
    Alike service (Same (some ⟨kind, m, n⟩)) (some ⟨kind, m, n⟩)
      (poll interval rest kind (Engine.referenceOf kind m) remaining)
      (poll interval rest kind (Engine.referenceOf kind n) remaining) := by
  induction remaining with
  | zero =>
    rw [poll, poll]
    refine .andThen (.query kind m n) fun status => ?_
    split
    · exact conclude_alike status
    · exact .andThen (.pause rest) fun _ => .throw (.timeout kind)
  | succ remaining ih =>
    rw [poll, poll]
    refine .andThen (.query kind m n) fun status => ?_
    split
    · exact conclude_alike status
    · exact .andThen (.pause interval) fun _ => ih

/-- **Waiting for two executions of one kind** as configured. -/
theorem await_alike (config : MonitorConfig) :
    Alike service (Same (some ⟨kind, m, n⟩)) (some ⟨kind, m, n⟩)
      (await config kind (Engine.referenceOf kind m))
      (await config kind (Engine.referenceOf kind n)) :=
  poll_alike _ _ _

/-- Waiting for what has just been submitted, whatever was waited for before. -/
theorem submitted_alike {x y : Procedure Submission} {before : Option Waiting}
    (submit : Alike service (Procedure.Alike.Submitted kind) before x y) (config : MonitorConfig) :
    Alike service Procedure.Equal before
      (x >>= fun submission => await config kind submission.reference)
      (y >>= fun submission => await config kind submission.reference) := by
  refine .bind submit fun waiting a b submitted => ?_
  obtain ⟨m, n, rfl, rfl, rfl⟩ := submitted
  exact .equal (await_alike config)

end Monitor

/-! ### The work of an item -/

namespace WorkItem

open Procedure (Alike Equal)

variable (config : DispatchConfig) (resolved : ResolvedConfiguration) (item : WorkItem)
  {waiting : Option Waiting}

theorem manual_alike :
    Alike item.service.name Equal waiting (item.manual resolved) (item.manual resolved) := by
  refine .andThen (.say _) fun _ => .andThen (.provision rfl) fun configs => ?_
  let call := Call.ensureRunning item.service resolved configs item.settings.safeToUpdate
  exact .equal (Alike.provision (c := call) rfl)

theorem upsertLoadBalancer_alike :
    Alike item.service.name Equal waiting (item.upsertLoadBalancer config)
      (item.upsertLoadBalancer config) :=
  .andThen (.say _) fun _ => Monitor.submitted_alike (.submitTask rfl) config.monitor

theorem stagedRollback_alike :
    Alike item.service.name Equal waiting (item.stagedRollback config)
      (item.stagedRollback config) :=
  .andThen (.say _) fun _ => Monitor.submitted_alike (.orchestrate rfl) config.monitor

theorem stagedRollout_alike :
    Alike item.service.name Equal waiting (item.stagedRollout config resolved)
      (item.stagedRollout config resolved) := by
  rw [stagedRollout]
  split
  -- Where there is a load balancer to be made, it may be waited for when the rest begins.
  on_goal 1 => refine .bind (upsertLoadBalancer_alike config item) fun waiting _ _ _ => ?_
  all_goals
    refine .andThen (.say _) fun _ => .andThen (.provision rfl) fun configs => ?_
    exact Monitor.submitted_alike (.orchestrate rfl) config.monitor

/-- **The work of an item** keeps to the service of the item, however its executions are numbered. -/
theorem dispatch_alike :
    Alike item.service.name Equal waiting (item.dispatch config resolved)
      (item.dispatch config resolved) := by
  rw [dispatch]
  refine .andThen (.emit _) fun _ => ?_
  split
  · exact manual_alike resolved item
  · exact stagedRollout_alike config resolved item
  · exact stagedRollback_alike config item

end WorkItem

end FleetDeploy
