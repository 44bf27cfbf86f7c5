import FleetDeploy.Dispatch
import FleetDeploy.Proofs.Program.Exchanges

/-!
# The phases of an item of work

Carrying out an item of work is a sequence of phases that its mode fixes beforehand. A phase is one
call, or the questions about one execution; what it asks for is made of what the item holds and of
what earlier phases were answered. The work ends with the first phase that does not succeed, and
with what that phase ended with.

* `FleetDeploy.WorkItem.phases` – the phases of each mode;
* `FleetDeploy.Polls` – the questions about an execution, up to the one that decides;
* `FleetDeploy.WorkItem.Goes` – what a phase exchanges and how it ends;
* `FleetDeploy.WorkItem.Performs` – a sequence of phases, all of which succeed or the last of which
  does not;
* `FleetDeploy.Tells` – exchanges of which none but the last fails;
* `FleetDeploy.WorkItem.performs_of_dispatch` – every run of an item performs its phases.
-/

namespace FleetDeploy

/-! ### Exchanges that fail -/

/-- What a reply that is not good enough makes of the work: an error and a crash are handed on, and
an execution that has ended without success is an error. -/
def Reply.failure? : {c : Call} → Reply c → Option Stop
  | _, .crashed payload => some (.crash payload)
  | _, .answered (.error e) => some (.error e)
  | .executionStatus _ reference, .answered (.ok status) =>
    if status.isTerminal && !status.isSuccess then some (.error (.executionFailed reference status))
    else none
  | _, .answered (.ok _) => none

@[simp] theorem Reply.failure?_error {c : Call} (e : DeployError) :
    Reply.failure? (c := c) (.answered (.error e)) = some (.error e) := by
  cases c <;> rfl

@[simp] theorem Reply.failure?_crashed {c : Call} (payload : Option String) :
    Reply.failure? (c := c) (.crashed payload) = some (.crash payload) := by
  cases c <;> rfl

/-- A reply that ends a procedure is not good enough. -/
theorem Reply.failure?_of_ending {c : Call} {reply : Reply c} {stop : Stop}
    (ended : reply.ending = stop.ending) : reply.failure? = some stop := by
  rcases reply with (e | a) | payload <;> rcases stop with e' | payload' <;> cases ended
  · exact failure?_error e
  · exact failure?_crashed payload

/-- What an exchange that fails makes of the work. -/
def Step.failure? : Step → Option Stop
  | .called _ reply => reply.failure?
  | _ => none

/-- What the last of the questions about an execution makes of the work if it shows the execution
unfinished. -/
def Step.timeout? : Step → Option Stop
  | .called (.executionStatus kind reference) (.answered (.ok status)) =>
    if status.isTerminal then none else some (.error (.timeout (Monitor.operation kind reference)))
  | _ => none

/-- A call that is no question about an execution leaves no time to run out. -/
theorem timeout?_of_ne {c : Call} {reply : Reply c}
    (other : ∀ kind r, c ≠ .executionStatus kind r) :
    (Step.called c reply).timeout? = none := by
  cases c with
  | executionStatus kind r => exact absurd rfl (other kind r)
  | _ => rfl

/-- **Exchanges that tell how the work ended**: it has succeeded, and none of them fails; or it has
been stopped by the last of them, and none of the others fails. -/
inductive Tells : List Step → Ending (Except DeployError Unit) → Prop
  | success {exchanges : List Step} (succeed : ∀ x ∈ exchanges, x.failure? = none) :
      Tells exchanges (.finished (.ok ()))
  | stopped {exchanges : List Step} {last : Step} {stop : Stop}
      (succeed : ∀ x ∈ exchanges, x.failure? = none)
      (stops : last.failure? = some stop ∨ last.timeout? = some stop) :
      Tells (exchanges ++ [last]) stop.ending

theorem Tells.append {exchanges more : List Step} {ending : Ending (Except DeployError Unit)}
    (succeed : ∀ x ∈ exchanges, x.failure? = none) (later : Tells more ending) :
    Tells (exchanges ++ more) ending := by
  cases later with
  | success succeed' => exact .success (List.forall_mem_append.mpr ⟨succeed, succeed'⟩)
  | stopped succeed' stops =>
    rw [← List.append_assoc]
    exact .stopped (List.forall_mem_append.mpr ⟨succeed, succeed'⟩) stops

theorem Tells.of_last {last : Step} {stop : Stop}
    (stops : last.failure? = some stop ∨ last.timeout? = some stop) :
    Tells [last] stop.ending := by
  have tells : Tells ([] ++ [last]) stop.ending := .stopped (by simp) stops
  exact tells

/-- Where the work has succeeded no exchange has failed. -/
theorem Tells.succeed {exchanges : List Step} (tells : Tells exchanges (.finished (.ok ()))) :
    ∀ x ∈ exchanges, x.failure? = none := by
  generalize ended : Ending.finished (Except.ok ()) = ending at tells
  cases tells with
  | success succeed => exact succeed
  | @stopped _ _ stop _ _ => cases stop <;> cases ended

/-! ### Questions about an execution -/

/-- **The questions about an execution**, at most `remaining` of them after the first: they go on
while the execution is unfinished, and end with the answer that decides or when the time is over. -/
inductive Polls (kind : ExecutionKind) (reference : ExecutionRef) :
    Nat → List Step → Ending (Except DeployError Unit) → Prop
  | succeeded {remaining : Nat} {status : ExecutionStatus} (success : status.isSuccess) :
      Polls kind reference remaining
        [.called (.executionStatus kind reference) (.answered (.ok status))] (.finished (.ok ()))
  | stopped {remaining : Nat} {reply : Reply (.executionStatus kind reference)} {stop : Stop}
      (fails : reply.failure? = some stop) :
      Polls kind reference remaining [.called (.executionStatus kind reference) reply] stop.ending
  | timedOut {status : ExecutionStatus} (unfinished : ¬status.isTerminal) :
      Polls kind reference 0
        [.called (.executionStatus kind reference) (.answered (.ok status))]
        (Stop.error (.timeout (Monitor.operation kind reference))).ending
  | again {remaining : Nat} {status : ExecutionStatus} {steps : List Step}
      {ending : Ending (Except DeployError Unit)} (unfinished : ¬status.isTerminal)
      (later : Polls kind reference remaining steps ending) :
      Polls kind reference (remaining + 1)
        (.called (.executionStatus kind reference) (.answered (.ok status)) :: steps) ending

section Polling

variable {kind : ExecutionKind} {reference : ExecutionRef} {remaining : Nat}

/-- A success is a status that will not change any more. -/
theorem ExecutionStatus.isTerminal_of_isSuccess {status : ExecutionStatus}
    (success : status.isSuccess) : status.isTerminal := by
  cases status <;> simp_all [isSuccess, isTerminal]

theorem failure?_of_unfinished {status : ExecutionStatus} (unfinished : ¬status.isTerminal) :
    (Step.called (.executionStatus kind reference) (.answered (.ok status))).failure? = none := by
  simp [Step.failure?, Reply.failure?, unfinished]

theorem Polls.tells_ending {steps : List Step} {ending : Ending (Except DeployError Unit)}
    (polls : Polls kind reference remaining steps ending) : Tells steps ending := by
  induction polls with
  | succeeded success =>
    refine .success (List.forall_mem_singleton.mpr ?_)
    simp [Step.failure?, Reply.failure?, success]
  | stopped fails => exact .of_last (Or.inl fails)
  | timedOut unfinished => exact .of_last (Or.inr (by simp [Step.timeout?, unfinished]))
  | again unfinished _ ih =>
    exact Tells.append (List.forall_mem_singleton.mpr (failure?_of_unfinished unfinished)) ih

/-- An execution that has succeeded is not given up. -/
theorem Polls.last_of_success {steps : List Step}
    (polls : Polls kind reference remaining steps (.finished (.ok ()))) :
    ∃ x, steps.getLast? = some x ∧ x.timeout? = none := by
  generalize ended : Ending.finished (Except.ok ()) = ending at polls
  induction polls with
  | succeeded success =>
    exact ⟨_, rfl, by simp [Step.timeout?, ExecutionStatus.isTerminal_of_isSuccess success]⟩
  | @stopped _ _ stop _ => cases stop <;> cases ended
  | timedOut _ => cases ended
  | again _ _ ih =>
    obtain ⟨x, last, decided⟩ := ih ended
    exact ⟨x, by rw [List.getLast?_cons, last]; rfl, decided⟩

/-- An execution that has ended decides. -/
theorem Monitor.conclude_yields {status : ExecutionStatus} (terminal : status.isTerminal) :
    (Monitor.conclude reference status).Yields fun more => Polls kind reference remaining
      (.called (.executionStatus kind reference) (.answered (.ok status)) :: more) := by
  rw [Monitor.conclude]
  split
  · next success => exact .succeeded success
  · next failed =>
    refine .throw (Polls.stopped ?_)
    simp [Reply.failure?, terminal, failed]

/-- **Polling** asks these questions. -/
theorem Monitor.poll_yields (interval rest : Nat) (kind : ExecutionKind) (reference : ExecutionRef)
    (remaining : Nat) :
    (Monitor.poll interval rest kind reference remaining).Yields
      (Polls kind reference remaining) := by
  induction remaining with
  | zero =>
    rw [Monitor.poll]
    refine .ask_bind (fun status => ?_) fun _ _ ended => .stopped (Reply.failure?_of_ending ended)
    split
    · next terminal => exact conclude_yields terminal
    · next unfinished => exact .pause_bind (.throw (.timedOut unfinished))
  | succ remaining ih =>
    rw [Monitor.poll]
    refine .ask_bind (fun status => ?_) fun _ _ ended => .stopped (Reply.failure?_of_ending ended)
    split
    · next terminal => exact conclude_yields terminal
    · next unfinished => exact .pause_bind (ih.mono fun _ _ => .again unfinished)

end Polling

/-! ### Phases -/

/-- The phases that the work on a service may have. -/
inductive WorkItem.Phase
  /-- Submits the task that makes sure of a load balancer. -/
  | submitTask
  /-- Waits for that task. -/
  | awaitTask
  /-- Stages the configuration. -/
  | stage
  /-- Has the service brought up directly. -/
  | provision
  /-- Submits the pipeline that deploys the service. -/
  | deploy
  /-- Submits the pipeline that rolls the service back. -/
  | rollBack
  /-- Waits for that pipeline, whichever it is. -/
  | awaitPipeline
  deriving DecidableEq

/-- The configurations that the server groups of a pipeline are deployed with. -/
def PipelineDefinition.configs (pipeline : PipelineDefinition) : List String :=
  pipeline.stages.flatMap fun
    | .deployServerGroup _ _ _ configs _ _ _ => configs
    | _ => []

/-- How a phase of one call ends. -/
def Reply.done {c : Call} : Reply c → Ending (Except DeployError Unit)
  | .answered (.ok _) => .finished (.ok ())
  | .answered (.error e) => .finished (.error e)
  | .crashed payload => .crashed payload

namespace WorkItem

/-- **The phases of an item of work**, in their order. A load balancer is made sure of only where
the snapshot of the plan shows none. -/
def phases (item : WorkItem) : List Phase :=
  match item.mode with
  | .manual => [.stage, .provision]
  | .stagedRollout =>
    (if item.running.hasLoadBalancer then [] else [.submitTask, .awaitTask]) ++
      [.stage, .deploy, .awaitPipeline]
  | .stagedRollback => [.rollBack, .awaitPipeline]

variable (config : DispatchConfig) (resolved : ResolvedConfiguration) (item : WorkItem)

/-- The questions about an execution that the configuration leaves time for. -/
abbrev PollsFor (kind : ExecutionKind) (reference : ExecutionRef) :
    List Step → Ending (Except DeployError Unit) → Prop :=
  Polls kind reference (Monitor.intervals (Monitor.gap config.monitor)
    (Monitor.patience config.monitor))

/-- **What a phase exchanges**, after some earlier exchanges, and how it ends. The server group is
brought up with precisely the configurations that were staged, and by a pipeline with precisely
their names; and it is what has been submitted that is waited for. -/
inductive Goes (earlier : List Step) : Phase → List Step → Ending (Except DeployError Unit) → Prop
  | submitTask (reply : Reply (.submitTask (RedBlack.upsertLoadBalancer item.service
      item.settings))) :
      Goes earlier .submitTask [.called _ reply] reply.done
  | awaitTask {task : TaskDefinition} {submission : Submission} {steps : List Step}
      {ending : Ending (Except DeployError Unit)}
      (accepted : .called (.submitTask task) (.answered (.ok submission)) ∈ earlier)
      (polls : PollsFor config .task submission.reference steps ending) :
      Goes earlier .awaitTask steps ending
  | stage (reply : Reply (.stage item.service resolved)) :
      Goes earlier .stage [.called _ reply] reply.done
  | provision {configs : List ConfigSource}
      (staged : .called (.stage item.service resolved) (.answered (.ok configs)) ∈ earlier)
      (reply : Reply (.ensureRunning item.service resolved configs item.settings.safeToUpdate)) :
      Goes earlier .provision [.called _ reply] reply.done
  | deploy {configs : List ConfigSource} {pipeline : PipelineDefinition}
      (staged : .called (.stage item.service resolved) (.answered (.ok configs)) ∈ earlier)
      (names : pipeline.configs = configs.map (·.id))
      (deploys : pipeline =
        RedBlack.deployPipeline item.service item.settings configs config.retention)
      (reply : Reply (.orchestrate pipeline)) :
      Goes earlier .deploy [.called _ reply] reply.done
  | rollBack (reply : Reply (.orchestrate (RedBlack.rollbackPipeline item.service))) :
      Goes earlier .rollBack [.called _ reply] reply.done
  | awaitPipeline {pipeline : PipelineDefinition} {submission : Submission} {steps : List Step}
      {ending : Ending (Except DeployError Unit)}
      (accepted : .called (.orchestrate pipeline) (.answered (.ok submission)) ∈ earlier)
      (polls : PollsFor config .pipeline submission.reference steps ending) :
      Goes earlier .awaitPipeline steps ending

/-- Phases that succeed one after the other, each after the exchanges of those before it. -/
inductive Completes : List Step → List Phase → List Step → Prop
  | nil {earlier : List Step} : Completes earlier [] []
  | cons {earlier steps more : List Step} {phase : Phase} {rest : List Phase}
      (goes : item.Goes config resolved earlier phase steps (.finished (.ok ())))
      (later : Completes (earlier ++ steps) rest more) :
      Completes earlier (phase :: rest) (steps ++ more)

/-- **Phases are performed** one after the other up to the first that does not succeed. If all of
them succeed so does the work, and otherwise it ends as that one does. -/
inductive Performs (earlier : List Step) :
    List Phase → List Step → Ending (Except DeployError Unit) → Prop
  | whole {phases : List Phase} {steps : List Step}
      (completes : item.Completes config resolved earlier phases steps) :
      Performs earlier phases steps (.finished (.ok ()))
  | cut {done rest : List Phase} {phase : Phase} {steps last : List Step} {stop : Stop}
      (completes : item.Completes config resolved earlier done steps)
      (goes : item.Goes config resolved (earlier ++ steps) phase last stop.ending) :
      Performs earlier (done ++ phase :: rest) (steps ++ last) stop.ending

variable {config resolved item} {earlier steps more : List Step} {phase : Phase}
  {phases rest : List Phase} {ending : Ending (Except DeployError Unit)}

/-- A phase that succeeds comes before what is performed after it. -/
theorem Performs.cons (goes : item.Goes config resolved earlier phase steps (.finished (.ok ())))
    (later : item.Performs config resolved (earlier ++ steps) rest more ending) :
    item.Performs config resolved earlier (phase :: rest) (steps ++ more) ending := by
  cases later with
  | whole completes => exact .whole (.cons goes completes)
  | @cut done _ _ _ _ _ completes goes' =>
    rw [← List.append_assoc, ← List.cons_append]
    exact .cut (.cons goes completes) (List.append_assoc _ _ _ ▸ goes')

/-- A phase that does not succeed is the last one. -/
theorem Performs.stopped {stop : Stop}
    (goes : item.Goes config resolved earlier phase steps stop.ending) :
    item.Performs config resolved earlier (phase :: rest) steps stop.ending := by
  rw [← List.append_nil earlier] at goes
  exact .cut .nil goes

/-! ### Every run performs its phases -/

section Yields

/-- A phase of one call, and what follows. -/
theorem ask_yields {c : Call} {f : c.Result → Procedure Unit}
    (goes : ∀ reply : Reply c, item.Goes config resolved earlier phase [.called c reply] reply.done)
    (later : ∀ a, (f a).Yields
      (item.Performs config resolved (earlier ++ [.called c (.answered (.ok a))]) rest)) :
    (Procedure.ask c >>= f).Yields (item.Performs config resolved earlier (phase :: rest)) := by
  refine .ask_bind (fun a => (later a).mono fun more ending => ?_) fun reply stop ended => ?_
  · exact Performs.cons (goes (.answered (.ok a)))
  · have stopped : reply.done = stop.ending := by
      rcases reply with (e | a) | payload <;> rcases stop with e' | payload' <;> cases ended <;> rfl
    exact .stopped (stopped ▸ goes reply)

/-- A phase that waits for an execution, and what follows. -/
theorem await_yields {kind : ExecutionKind} {reference : ExecutionRef} {f : Unit → Procedure Unit}
    (goes : ∀ steps ending, PollsFor config kind reference steps ending →
      item.Goes config resolved earlier phase steps ending)
    (later : ∀ steps, (f ()).Yields (item.Performs config resolved (earlier ++ steps) rest)) :
    (Monitor.await config.monitor kind reference >>= f).Yields
      (item.Performs config resolved earlier (phase :: rest)) := by
  refine .bind (Monitor.poll_yields _ _ kind reference _) ?_ ?_
  · exact fun _ steps polls => (later steps).mono fun more ending => .cons (goes _ _ polls)
  · exact fun stop steps polls => .stopped (goes _ _ polls)

theorem nothing_yields :
    (pure () : Procedure Unit).Yields (item.Performs config resolved earlier []) :=
  .pure (.whole .nil)

variable (config resolved item)

theorem manual_yields :
    (item.manual resolved).Yields (item.Performs config resolved [] [.stage, .provision]) := by
  refine .emit_bind (ask_yields .stage fun configs => .of_bind_pure (ask_yields ?_ ?_))
  · exact .provision List.mem_concat_self
  · exact fun _ => nothing_yields

theorem upsertLoadBalancer_yields {f : Unit → Procedure Unit}
    (later : ∀ steps, (f ()).Yields (item.Performs config resolved steps rest)) :
    (item.upsertLoadBalancer config >>= f).Yields
      (item.Performs config resolved [] (.submitTask :: .awaitTask :: rest)) := by
  rw [upsertLoadBalancer, bind_assoc]
  refine .emit_bind ?_
  rw [bind_assoc]
  refine ask_yields .submitTask fun submission => await_yields ?_ fun steps => later _
  exact fun _ _ => .awaitTask List.mem_concat_self

theorem stagedRollout_yields :
    (item.stagedRollout config resolved).Yields (item.Performs config resolved []
      ((if item.running.hasLoadBalancer then [] else [.submitTask, .awaitTask]) ++
        [.stage, .deploy, .awaitPipeline])) := by
  have deploys (earlier : List Step) :
      Procedure.Yields (item.Performs config resolved earlier [.stage, .deploy, .awaitPipeline])
        (do
          Procedure.say ("Deploying " ++ item.service.name ++ " via red/black")
          let configs ← Procedure.ask (.stage item.service resolved)
          let submission ← Procedure.ask (.orchestrate
            (RedBlack.deployPipeline item.service item.settings configs config.retention))
          Monitor.await config.monitor .pipeline submission.reference) := by
    refine .emit_bind (ask_yields .stage fun configs => ask_yields ?_ fun submission =>
      .of_bind_pure (await_yields ?_ fun _ => nothing_yields))
    · exact .deploy List.mem_concat_self (List.append_nil _) rfl
    · exact fun _ _ => .awaitPipeline List.mem_concat_self
  rw [stagedRollout]
  cases item.running.hasLoadBalancer with
  | true => exact deploys []
  | false => exact upsertLoadBalancer_yields config resolved item deploys

theorem stagedRollback_yields :
    (item.stagedRollback config).Yields
      (item.Performs config resolved [] [.rollBack, .awaitPipeline]) := by
  refine .emit_bind (ask_yields .rollBack fun submission =>
    .of_bind_pure (await_yields ?_ fun _ => nothing_yields))
  exact fun _ _ => .awaitPipeline List.mem_concat_self

/-- **Carrying out an item performs its phases.** -/
theorem dispatch_yields :
    (item.dispatch config resolved).Yields (item.Performs config resolved [] item.phases) := by
  rw [dispatch, phases]
  refine .emit_bind ?_
  cases item.mode with
  | manual => exact manual_yields config resolved item
  | stagedRollout => exact stagedRollout_yields config resolved item
  | stagedRollback => exact stagedRollback_yields config resolved item

end Yields

/-! ### What the exchanges tell -/

section Tells

/-- What a phase of one call ends with is told by the reply. -/
theorem tells_of_reply {c : Call} {reply : Reply c}
    (other : ∀ kind r, c ≠ .executionStatus kind r) :
    Tells [.called c reply] reply.done := by
  rcases reply with (e | a) | payload
  · have stops : (Step.called c (.answered (.error e))).failure? = some (.error e) :=
      Reply.failure?_error (c := c) e
    exact Tells.of_last (Or.inl stops)
  · refine .success (List.forall_mem_singleton.mpr ?_)
    cases c with
    | executionStatus kind r => exact absurd rfl (other kind r)
    | _ => rfl
  · have stops : (Step.called c (.crashed payload)).failure? = some (.crash payload) :=
      Reply.failure?_crashed (c := c) payload
    exact Tells.of_last (Or.inl stops)

/-- **A phase is cut** right after the first exchange that fails. -/
theorem Goes.tells_ending (goes : item.Goes config resolved earlier phase steps ending) :
    Tells steps ending := by
  cases goes with
  | awaitTask _ polls => exact polls.tells_ending
  | awaitPipeline _ polls => exact polls.tells_ending
  | _ => exact tells_of_reply (by simp)

theorem Completes.succeed (completes : item.Completes config resolved earlier phases steps) :
    ∀ x ∈ steps, x.failure? = none := by
  induction completes with
  | nil => exact fun _ mem => nomatch mem
  | cons goes _ ih => exact List.forall_mem_append.mpr ⟨goes.tells_ending.succeed, ih⟩

theorem Performs.tells_ending
    (performs : item.Performs config resolved earlier phases steps ending) :
    Tells steps ending := by
  cases performs with
  | whole completes => exact .success completes.succeed
  | cut completes goes => exact .append completes.succeed goes.tells_ending

/-! ### Whether all phases have succeeded -/

/-- A phase that succeeds ends with an exchange that decides. -/
theorem Goes.last_of_success
    (goes : item.Goes config resolved earlier phase steps (.finished (.ok ()))) :
    ∃ x, steps.getLast? = some x ∧ x.timeout? = none := by
  generalize ended : Ending.finished (Except.ok ()) = ending at goes
  cases goes with
  | awaitTask _ polls => exact (ended ▸ polls).last_of_success
  | awaitPipeline _ polls => exact (ended ▸ polls).last_of_success
  | _ => exact ⟨_, rfl, timeout?_of_ne (by simp)⟩

theorem Completes.last_of_success (some_phase : phases ≠ [])
    (completes : item.Completes config resolved earlier phases steps) :
    ∃ x, steps.getLast? = some x ∧ x.timeout? = none := by
  induction completes with
  | nil => exact absurd rfl some_phase
  | @cons earlier steps more phase rest goes later ih =>
    rcases rest with _ | ⟨next, rest⟩
    · cases later
      rw [List.append_nil]
      exact goes.last_of_success
    · obtain ⟨x, last, decided⟩ := ih (List.cons_ne_nil _ _)
      exact ⟨x, by rw [List.getLast?_append, last]; rfl, decided⟩

theorem phases_ne_nil : item.phases ≠ [] := by
  rw [phases]
  cases item.mode <;> simp

end Tells

/-- **The work has succeeded exactly if all of its phases have**, which the exchanges tell. -/
theorem Performs.success_iff
    (performs : item.Performs config resolved [] item.phases steps ending) :
    ending = .finished (.ok ()) ↔ item.Completes config resolved [] item.phases steps := by
  constructor
  · rintro rfl
    generalize ended : Ending.finished (Except.ok ()) = ending at performs
    generalize item.phases = phases at performs ⊢
    cases performs with
    | whole completes => exact completes
    | @cut _ _ _ _ _ stop _ _ => cases stop <;> cases ended
  · intro completes
    obtain ⟨x, last, decided⟩ := completes.last_of_success phases_ne_nil
    have succeed := completes.succeed
    -- The last exchange has decided, and it does not fail, so that it has not stopped the work.
    rcases performs.tells_ending with _ | ⟨_, fails | undecided⟩
    · rfl
    · have succeeds := succeed _ (List.mem_append_right _ (List.mem_singleton_self _))
      rw [succeeds] at fails
      cases fails
    · rw [List.getLast?_concat, Option.some.injEq] at last
      rw [last, decided] at undecided
      cases undecided

/-- **Every run of an item performs its phases**, whatever the collaborators reply: they come in
their order up to the first that does not succeed, with which the work ends. The work succeeds if
and only if all of its phases do; otherwise the last exchange is the first that fails, or that shows
an execution unfinished when its time is over, and the work ends with precisely that error. -/
theorem performs_of_dispatch {σ : Type} {h : Handler σ} {w w' : World σ}
    (ran : (item.dispatch config resolved).run.run h w = (ending, w')) :
    ∃ steps, w'.journal = steps ++ w.journal ∧
      item.Performs config resolved [] item.phases (exchangesOf steps.reverse) ending ∧
      (ending = .finished (.ok ()) ↔
        item.Completes config resolved [] item.phases (exchangesOf steps.reverse)) ∧
      Tells (exchangesOf steps.reverse) ending := by
  obtain ⟨steps, journal, performs⟩ := Program.Yields.run (dispatch_yields config resolved item) ran
  exact ⟨steps, journal, performs, performs.success_iff, performs.tells_ending⟩

/-! ### A load balancer that cannot be made -/

/-- A service that is to be rolled out, and has no load balancer. -/
def unbalanced : WorkItem where
  service := { name := "gate" }
  settings := .on
  mode := .stagedRollout
  running := (RunningService.empty "gate").withVersion 1 ["gate-v001"]

/-- An engine that accepts a task, and cancels it after it has run for a while. -/
def canceling : Handler Nat
  | .submitTask _, queries => (.answered (.ok ⟨"task-1"⟩), queries)
  | .executionStatus .., 0 => (.answered (.ok .running), 1)
  | .executionStatus .., queries => (.answered (.ok .canceled), queries)
  | _, queries => (.crashed none, queries)

/-- A task that is canceled ends the work before anything is staged. -/
theorem performs_of_dispatch_unbalanced :
    ∃ w, (unbalanced.dispatch {} ⟨{}, ∅⟩).run.run canceling ⟨0, []⟩ =
        (.finished (.error (.executionFailed "task-1" .canceled)), w) ∧
      callsOf w.trace =
        [.submitTask (RedBlack.upsertLoadBalancer { name := "gate" } .on),
          .executionStatus .task "task-1", .executionStatus .task "task-1"] ∧
      ∃ steps, w.journal = steps ++ [] ∧
        unbalanced.Performs {} ⟨{}, ∅⟩ []
          [.submitTask, .awaitTask, .stage, .deploy, .awaitPipeline] (exchangesOf steps.reverse)
          (.finished (.error (.executionFailed "task-1" .canceled))) ∧
        Tells (exchangesOf steps.reverse)
          (.finished (.error (.executionFailed "task-1" .canceled))) := by
  obtain ⟨steps, journal, performs, -, tells⟩ := @performs_of_dispatch {} ⟨{}, ∅⟩ unbalanced
    (.finished (.error (.executionFailed "task-1" .canceled))) Nat canceling ⟨0, []⟩ _ rfl
  exact ⟨_, rfl, rfl, steps, journal, performs, tells⟩

end WorkItem

end FleetDeploy
