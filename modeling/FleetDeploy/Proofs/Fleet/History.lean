import FleetDeploy.Proofs.Fleet.Taking
import Mathlib.Data.List.Infix

/-!
# What the engine in memory makes of its history

Everything that is said of a dispatch, or of waiting for an execution, rests on two promises of the
engine: that no two executions go by the same name, and that an execution goes through the statuses
of its script one by one and stays at the last. Both are kept by one counter and one table, which
submissions of two kinds and questions about many executions share. Whatever the calls were, and in
whatever order they came, an answer depends only on what it should depend on: a number on how many
submissions were accepted before, and a status on the script of the execution and on how often this
execution was asked for since the script was laid out.

Histories are lists of calls, the latest first. Faults are arranged beforehand, and so may scripts
be, also for executions that are still to come; in the course of a history it is only the engine
that lays out a script. Calls on the other collaborators may come in between.

* `FleetDeploy.Fleet.after`, `FleetDeploy.Fleet.reply`, `FleetDeploy.Fleet.accepted` – histories,
  and what was accepted in their course;
* `FleetDeploy.Fleet.accepted_eq`, `FleetDeploy.Fleet.nodup_accepted` – numbers;
* `FleetDeploy.Fleet.getD_scripts_after`, `FleetDeploy.Fleet.getD_scripts_after_of_laidOut` – where
  a script stands;
* `FleetDeploy.Fleet.after_filter_concerns` – what makes no difference to an execution;
* `FleetDeploy.Fleet.AnswersByHistory`, `FleetDeploy.Fleet.answers_by_history` – the account of any
  history.
-/

namespace FleetDeploy.Fleet

variable {f : Fleet} {c : Call} {r : ExecutionRef} {past later earlier : List Call}

/-! ### Histories -/

/-- The fleet after some calls, the latest first. -/
def after (f : Fleet) : List Call → Fleet
  | [] => f
  | c :: past => (respond c (f.after past)).2

/-- What is replied to a call that comes after some others. -/
def reply (f : Fleet) (past : List Call) (c : Call) : Reply c := (respond c (f.after past)).1

/-- The executions that were accepted in the course of some calls, in the order in which they were,
each with the name that it was given. -/
def accepted (f : Fleet) : List Call → List (ExecutionKind × ExecutionRef)
  | [] => []
  | c :: past => f.accepted past ++ (c.accepted? (f.reply past c)).toList

theorem after_append (f : Fleet) (later earlier : List Call) :
    f.after (later ++ earlier) = (f.after earlier).after later := by
  induction later with
  | nil => rfl
  | cons c later ih => rw [List.cons_append, after, ih, after]

/-- The faults are those that were arranged beforehand. -/
theorem sameFaults_after (f : Fleet) (past : List Call) :
    (f.after past).engine.SameFaults f.engine := by
  induction past with
  | nil => exact ⟨rfl, rfl⟩
  | cons c past ih => exact (takes (f.after past) c).faults.trans ih

theorem rejection?_after (f : Fleet) (past : List Call) :
    (f.after past).engine.rejection? = f.engine.rejection? := by
  funext service
  rw [Engine.rejection?, Engine.rejection?, (sameFaults_after f past).rejections]

theorem scriptFor?_after (f : Fleet) (past : List Call) :
    (f.after past).engine.scriptFor? = f.engine.scriptFor? := by
  funext service
  rw [Engine.scriptFor?, Engine.scriptFor?, (sameFaults_after f past).executionFailures]

/-- What is accepted does not depend on what came before. -/
theorem admitted?_after (f : Fleet) (past : List Call) :
    (f.after past).engine.admitted? = f.engine.admitted? := by
  funext c
  rw [Engine.admitted?, Engine.admitted?, rejection?_after]

/-- In the order of the calls the latest comes last. -/
theorem filterMap_reverse_cons {α : Type} (entered : Call → Option α) (c : Call)
    (past : List Call) : (c :: past).reverse.filterMap entered =
      past.reverse.filterMap entered ++ (entered c).toList := by
  rw [List.reverse_cons, List.filterMap_append]
  cases entry : entered c <;> simp [entry]

/-- A list to which every call adds something, or nothing, has all of it in the end, in the order of
the calls. -/
theorem entries_after {α : Type} {entries : Engine → List α} {entered : Call → Option α}
    (adds : ∀ g c, entries (respond c g).2.engine = entries g.engine ++ (entered c).toList)
    (f : Fleet) (past : List Call) :
    entries (f.after past).engine = entries f.engine ++ past.reverse.filterMap entered := by
  induction past with
  | nil => exact (List.append_nil _).symm
  | cons c past ih => rw [after, adds, ih, List.append_assoc, filterMap_reverse_cons]

/-- What is told of an execution is what its script shows. -/
theorem reply_executionStatus (f : Fleet) (past : List Call) (kind : ExecutionKind)
    (r : ExecutionRef) :
    f.reply past (.executionStatus kind r) =
      .answered (.ok (Engine.shown ((f.after past).engine.scripts.getD r []))) := by
  have told := congrArg (·.1) (Engine.executionStatus_eq (f.after past).engine r)
  exact congrArg (fun status => Reply.answered (.ok status)) told

/-! ### Numbers -/

/-- What is submitted in the course of some calls and not rejected, in the order of the calls. -/
def admitted (f : Fleet) (past : List Call) : List ExecutionKind :=
  past.reverse.filterMap f.engine.admitted?

theorem admitted_cons (f : Fleet) (c : Call) (past : List Call) :
    f.admitted (c :: past) = f.admitted past ++ (f.engine.admitted? c).toList :=
  filterMap_reverse_cons _ c past

/-- **Whatever is not rejected takes one number.** -/
theorem sequence_after (f : Fleet) (past : List Call) :
    (f.after past).engine.sequence = f.engine.sequence + (f.admitted past).length := by
  induction past with
  | nil => rfl
  | cons c past ih =>
    rw [after, (takes _ c).sequence, ih, admitted?_after, admitted_cons, List.length_append,
      Nat.add_assoc]

/-- **The numbers are consecutive**, for tasks and pipelines together. -/
theorem accepted_eq (f : Fleet) (past : List Call) :
    f.accepted past = (f.admitted past).mapIdx fun n kind =>
      (kind, Engine.referenceOf kind (f.engine.sequence + n)) := by
  induction past with
  | nil => rfl
  | cons c past ih =>
    rw [accepted, ih, admitted_cons, List.mapIdx_append, reply, (takes _ c).accepted,
      admitted?_after, sequence_after]
    cases f.engine.admitted? c <;> simp

theorem length_accepted (f : Fleet) (past : List Call) :
    (f.accepted past).length = (f.admitted past).length := by
  rw [accepted_eq, List.length_mapIdx]

/-- **No name is given twice.** -/
theorem nodup_accepted (f : Fleet) (past : List Call) : ((f.accepted past).map (·.2)).Nodup := by
  rw [List.Nodup, List.pairwise_iff_getElem]
  intro i j _ _ before same
  simp only [accepted_eq, List.getElem_map, List.getElem_mapIdx] at same
  have number := (Engine.referenceOf_inj same).2
  omega

theorem accepted?_reply (f : Fleet) (past : List Call) (c : Call) :
    c.accepted? (f.reply past c) = (f.engine.admitted? c).map fun kind =>
      (kind, Engine.referenceOf kind (f.after past).engine.sequence) := by
  rw [reply, (takes _ c).accepted, admitted?_after]

/-! ### Scripts -/

/-- **A script is laid out with the name** that is given to an execution, and only then. -/
theorem laidOut?_after (f : Fleet) (past : List Call) (c : Call) (r : ExecutionRef)
    (statuses : List ExecutionStatus) :
    (f.after past).engine.laidOut? c r = some statuses ↔
      (∃ kind, c.accepted? (f.reply past c) = some (kind, r)) ∧
        f.engine.scriptFor? c.attributed? = some statuses := by
  rw [Engine.laidOut?_eq_some_iff, accepted?_reply, admitted?_after, scriptFor?_after]
  cases f.engine.admitted? c <;> simp [eq_comm]

/-- **A script is followed** as long as no other one is laid out: it has been moved on by the
questions about its execution, and by nothing else. -/
theorem getD_scripts_after
    (undisturbed : ∀ c earlier, c :: earlier <:+ past →
      (f.after earlier).engine.laidOut? c r = none) :
    (f.after past).engine.scripts.getD r [] =
      Engine.advanced^[past.countP (·.asksFor r)] (f.engine.scripts.getD r []) := by
  induction past with
  | nil => rfl
  | cons c past ih =>
    have so_far := ih fun d earlier before =>
      undisturbed d earlier (before.trans (List.suffix_cons c past))
    have now := undisturbed c past List.suffix_rfl
    rw [after, (takes _ c).scripts, now, Option.getD_none, so_far, List.countP_cons]
    by_cases asks : c.asksFor r
    · rw [if_pos asks, if_pos asks, Function.iterate_succ_apply']
    · rw [if_neg asks, if_neg asks, Nat.add_zero]

/-- **A script that was laid out is followed from then on**, since its execution has a number that
is not given again. -/
theorem getD_scripts_after_of_laidOut {statuses : List ExecutionStatus}
    (laid : (f.after earlier).engine.laidOut? c r = some statuses) :
    (f.after (later ++ c :: earlier)).engine.scripts.getD r [] =
      Engine.advanced^[later.countP (·.asksFor r)] statuses := by
  obtain ⟨kind, admits, rfl, -⟩ := Engine.laidOut?_eq_some_iff.mp laid
  have begun : (f.after (c :: earlier)).engine.scripts.getD
      (Engine.referenceOf kind (f.after earlier).engine.sequence) [] = statuses := by
    rw [after, (takes _ c).scripts, laid, Option.getD_some]
  have number : (f.after (c :: earlier)).engine.sequence =
      (f.after earlier).engine.sequence + 1 := by
    rw [after, (takes _ c).sequence, admits]
    rfl
  rw [after_append, getD_scripts_after, begun]
  -- A script that is laid out in between belongs to a later number, and so to another execution.
  intro d between _
  by_contra disturbed
  obtain ⟨statuses', laid'⟩ := Option.ne_none_iff_exists'.mp disturbed
  obtain ⟨kind', -, same, -⟩ := Engine.laidOut?_eq_some_iff.mp laid'
  have same_number := (Engine.referenceOf_inj same).2
  have later_number := sequence_after (f.after (c :: earlier)) between
  omega

/-! ### Other executions -/

/-- **Nothing but submissions and its own questions** makes a difference to an execution.
Submissions do, even those of others, since they take numbers. -/
theorem after_filter_concerns (f : Fleet) (r : ExecutionRef) (past : List Call) :
    let fewer := past.filter (·.concerns r)
    (f.after fewer).engine.sequence = (f.after past).engine.sequence ∧
      (f.after fewer).engine.scripts.getD r [] = (f.after past).engine.scripts.getD r [] := by
  intro fewer
  -- The counter is part of the induction because the name under which a script is laid out is made
  -- from it.
  induction past with
  | nil => exact ⟨rfl, rfl⟩
  | cons c past ih =>
    obtain ⟨sequence, script⟩ := ih
    by_cases concerns : c.concerns r
    · have kept : fewer = c :: past.filter (·.concerns r) := List.filter_cons_of_pos concerns
      have laid : (f.after (past.filter (·.concerns r))).engine.laidOut? c r =
          (f.after past).engine.laidOut? c r := by
        rw [Engine.laidOut?, Engine.laidOut?, admitted?_after, admitted?_after, scriptFor?_after,
          scriptFor?_after, sequence]
      rw [kept, after, after, (takes _ c).sequence, (takes _ c).sequence, (takes _ c).scripts,
        (takes _ c).scripts, laid, script, sequence, admitted?_after, admitted?_after]
      exact ⟨rfl, rfl⟩
    · have dropped : fewer = past.filter (·.concerns r) := List.filter_cons_of_neg concerns
      obtain ⟨submits_none, asks_none⟩ : c.kind? = none ∧ c.asksFor r = false := by
        simpa [Call.concerns] using concerns
      have refused : (f.after past).engine.admitted? c = none := by
        rw [Engine.admitted?, submits_none, ite_self]
      rw [dropped, after, (takes _ c).sequence, (takes _ c).scripts, refused,
        Engine.laidOut?_of_refused refused, asks_none]
      exact ⟨sequence, script⟩

/-! ### What is taken down, and what is counted -/

theorem tasks_after (f : Fleet) (past : List Call) :
    (f.after past).engine.tasks = f.engine.tasks ++ past.reverse.filterMap (·.task?) := by
  refine entries_after (fun g c => ?_) f past
  rw [(takes g c).tasks, Engine.tasks_recording]

theorem pipelines_after (f : Fleet) (past : List Call) :
    (f.after past).engine.pipelines =
      f.engine.pipelines ++ past.reverse.filterMap (·.pipeline?) := by
  refine entries_after (fun g c => ?_) f past
  rw [(takes g c).pipelines, Engine.pipelines_recording]

theorem queryCount_after (f : Fleet) (past : List Call) (r : ExecutionRef) :
    (f.after past).engine.queryCount r =
      f.engine.queryCount r + past.countP (·.asksFor r) := by
  induction past with
  | nil => rfl
  | cons c past ih =>
    rw [after, (takes _ c).questions, ih, List.countP_cons, Nat.add_assoc]

/-! ### The account of a history -/

/-- **What an engine makes of its history**, which are the calls on its fleet, the latest first. -/
structure AnswersByHistory (f : Fleet) (past : List Call) : Prop where
  /-- Every submission is taken down, whether it is accepted or not. -/
  tasks : (f.after past).engine.tasks = f.engine.tasks ++ past.reverse.filterMap (·.task?)
  pipelines : (f.after past).engine.pipelines =
    f.engine.pipelines ++ past.reverse.filterMap (·.pipeline?)
  /-- What is not rejected is accepted, and it is numbered in the order of its acceptance, with no
  number left out. -/
  numbered : f.accepted past = (f.admitted past).mapIdx fun n kind =>
    (kind, Engine.referenceOf kind (f.engine.sequence + n))
  distinct : ((f.accepted past).map (·.2)).Nodup
  sequence : (f.after past).engine.sequence = f.engine.sequence + (f.accepted past).length
  /-- A submission that is not rejected gets the number after those that were given so far. -/
  accepted : ∀ {c : Call} {kind}, c.kind? = some kind → f.engine.rejection? c.attributed? = none →
    c.submission? (f.reply past c) = some (.ok ⟨Engine.referenceOf kind
      (f.engine.sequence + (f.accepted past).length)⟩)
  /-- A submission that is rejected is taken down, and nothing else changes. -/
  rejected : ∀ {c : Call} {kind p}, c.kind? = some kind →
    f.engine.rejection? c.attributed? = some p →
      c.submission? (f.reply past c) = some (.error (.problem p)) ∧
        (f.after (c :: past)).engine = (f.after past).engine.recording c
  /-- An execution for which no script was laid out goes by the one that was there beforehand, if
  there was any. -/
  beforehand : ∀ {kind r}, (∀ c earlier kind', c :: earlier <:+ past →
      c.accepted? (f.reply earlier c) = some (kind', r) →
        f.engine.scriptFor? c.attributed? = none) →
    f.reply past (.executionStatus kind r) = .answered (.ok (Engine.entry
      (f.engine.scripts.getD r []) (past.countP (·.asksFor r) + 1)))
  /-- An execution for which one was laid out goes by that one from then on. -/
  laidOut : ∀ {kind r later c earlier kind' statuses}, past = later ++ c :: earlier →
    c.accepted? (f.reply earlier c) = some (kind', r) →
    f.engine.scriptFor? c.attributed? = some statuses →
    f.reply past (.executionStatus kind r) = .answered (.ok (Engine.entry statuses
      (later.countP (·.asksFor r) + 1)))
  /-- What is told of an execution depends on submissions and on the questions about it, and on
  nothing else. -/
  apart : ∀ {kind r past'}, past'.filter (·.concerns r) = past.filter (·.concerns r) →
    f.reply past' (.executionStatus kind r) = f.reply past (.executionStatus kind r)
  questions : ∀ r, (f.after past).engine.queryCount r =
    f.engine.queryCount r + past.countP (·.asksFor r)

/-- **An engine answers by its history**, whatever was arranged beforehand and whatever the calls
were: submissions get consecutive numbers as far as they are accepted, a question is answered by the
script of its own execution, and a submission that is rejected leaves no trace but a note of it. -/
theorem answers_by_history (f : Fleet) (past : List Call) : f.AnswersByHistory past where
  tasks := tasks_after f past
  pipelines := pipelines_after f past
  numbered := accepted_eq f past
  distinct := nodup_accepted f past
  sequence := by rw [sequence_after, length_accepted]
  accepted := by
    intro c kind submits accepts
    rw [length_accepted, ← sequence_after]
    exact respond_of_accepted _ submits (by rwa [rejection?_after])
  rejected := by
    intro c kind p submits rejects
    exact respond_of_rejected _ submits (by rwa [rejection?_after])
  beforehand := by
    intro kind r unlaid
    rw [reply_executionStatus, getD_scripts_after, Engine.shown_iterate_advanced]
    intro c earlier before
    by_contra laid
    obtain ⟨statuses, laid⟩ := Option.ne_none_iff_exists'.mp laid
    obtain ⟨⟨kind', named⟩, arranged⟩ := (laidOut?_after f earlier c r statuses).mp laid
    rw [unlaid c earlier kind' before named] at arranged
    cases arranged
  laidOut := by
    intro kind r later c earlier kind' statuses split named arranged
    have laid : (f.after earlier).engine.laidOut? c r = some statuses :=
      (laidOut?_after f earlier c r statuses).mpr ⟨⟨kind', named⟩, arranged⟩
    rw [split, reply_executionStatus, getD_scripts_after_of_laidOut laid,
      Engine.shown_iterate_advanced]
  apart := by
    intro kind r past' same
    have of_past := (after_filter_concerns f r past).2
    have of_past' := (after_filter_concerns f r past').2
    rw [reply_executionStatus, reply_executionStatus, ← of_past, ← of_past', same]
  questions := queryCount_after f past

/-- A fleet whose engine rejects what is submitted for one service and cancels what is submitted for
another, and which has a script for its second execution already. -/
def eventful : Fleet where
  engine := ((Engine.rejectSubmissions {} "deck" (.fatal "quota exceeded")).failExecutions "gate"
    .canceled).script "/tasks/1" [.paused, .running, .succeeded]

/-- Three submissions, of which the second is rejected, and questions in between. -/
def crossing : List Call :=
  [.executionStatus .task "/tasks/1",
    .submitTask ⟨"app", "attach orca", [.upsertLoadBalancer "orca" "lb" none]⟩,
    .executionStatus .pipeline "/pipelines/0", .executionStatus .pipeline "/pipelines/0",
    .submitTask ⟨"app", "attach deck", [.upsertLoadBalancer "deck" "lb" none]⟩,
    .orchestrate ⟨"app", "disable gate", [.disableServerGroup "1" [] "gate" .current], true⟩,
    .executionStatus .pipeline "/pipelines/0"]

theorem answers_by_history_crossing :
    eventful.accepted crossing = [(.pipeline, "/pipelines/0"), (.task, "/tasks/1")] ∧
      (eventful.after crossing).engine.queryCount "/pipelines/0" = 3 ∧
      eventful.reply crossing (.executionStatus .pipeline "/pipelines/0") =
        .answered (.ok .canceled) ∧
      eventful.reply crossing (.executionStatus .task "/tasks/1") = .answered (.ok .running) := by
  have account := answers_by_history eventful crossing
  refine ⟨?_, ?_, ?_, ?_⟩
  · rw [account.numbered]
    decide +kernel
  · rw [account.questions]
    decide +kernel
  · have submitted : crossing = crossing.take 5 ++ .orchestrate ⟨"app", "disable gate",
        [.disableServerGroup "1" [] "gate" .current], true⟩ :: crossing.drop 6 := rfl
    exact account.laidOut submitted rfl rfl
  · have unlaid : ∀ calls ∈ crossing.tails, ∀ c ∈ calls.head?,
        (c.accepted? (eventful.reply calls.tail c)).map (·.2) = some "/tasks/1" →
          eventful.engine.scriptFor? c.attributed? = none := by
      decide +kernel
    refine account.beforehand fun c earlier kind before named => ?_
    refine unlaid (c :: earlier) ((List.mem_tails _ _).mpr before) c rfl ?_
    rw [List.tail_cons, named, Option.map_some]

end FleetDeploy.Fleet
