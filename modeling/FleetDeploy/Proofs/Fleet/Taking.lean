import FleetDeploy.Proofs.Fleet.Attribution
import FleetDeploy.Proofs.SortedMap

/-!
# What a call does to the engine in memory

The engine keeps several accounts at once: what was submitted, the number that comes next, a script
for each execution, and how often each execution was asked for. A call makes an entry in some of
them and leaves the rest as they are. What it does to all of them is said here in one place, for any
call, so that histories need not look at the engine again.

A submission is taken down before it is decided on. If it is rejected that is all; if it is accepted
it takes a number, and it may come with a script, which replaces any that its execution already has.
A question takes one step in the script of its own execution and is counted. Calls on the other
collaborators are nothing to the engine.

* `FleetDeploy.Call.kind?`, `FleetDeploy.Call.accepted?`, `FleetDeploy.Call.asksFor` – what a call
  is to the engine;
* `FleetDeploy.Engine.entry` – the status that a script has for its `n`-th question
  (`FleetDeploy.Engine.shown_iterate_advanced`);
* `FleetDeploy.Engine.admitted?`, `FleetDeploy.Engine.laidOut?` – what a call submits that will be
  accepted, and the script that comes with it;
* `FleetDeploy.Engine.Takes` – what a call does to an engine;
* `FleetDeploy.Fleet.takes` – every call on a fleet does that.
-/

namespace FleetDeploy

/-! ### Calls -/

namespace Call

/-- The kind of execution that a call submits. -/
def kind? : Call → Option ExecutionKind
  | .submitTask _ => some .task
  | .orchestrate _ => some .pipeline
  | _ => none

/-- The task that a call submits. -/
def task? : Call → Option TaskDefinition
  | .submitTask task => some task
  | _ => none

/-- The pipeline that a call submits. -/
def pipeline? : Call → Option PipelineDefinition
  | .orchestrate pipeline => some pipeline
  | _ => none

/-- Whether a call asks where this execution stands. -/
def asksFor (r : ExecutionRef) : Call → Bool
  | .executionStatus _ reference => reference = r
  | _ => false

/-- Whether a call may make a difference to an execution: it submits something, or it asks for this
one. -/
def concerns (r : ExecutionRef) (c : Call) : Bool := c.kind?.isSome || c.asksFor r

/-- The execution that a call has submitted, if it was accepted, with the name that it was given. -/
def accepted? (c : Call) (reply : Reply c) : Option (ExecutionKind × ExecutionRef) :=
  match c.kind?, c.submission? reply with
  | some kind, some (.ok submission) => some (kind, submission.reference)
  | _, _ => none

theorem asksFor_of_submits {c : Call} {kind : ExecutionKind} (submits : c.kind? = some kind)
    (r : ExecutionRef) : c.asksFor r = false := by
  cases c with
  | executionStatus => cases submits
  | _ => rfl

end Call

namespace Engine

variable {e : Engine} {c : Call} {kind : ExecutionKind} {r : ExecutionRef}

/-! ### Scripts -/

/-- **The status that a script has for a question**, the first question being number one. Each gets
the status in its place, up to the last status, which all further questions get as well. Where there
is no status at all the execution has succeeded. -/
def entry (statuses : List ExecutionStatus) (question : Nat) : ExecutionStatus :=
  statuses[min question statuses.length - 1]?.getD .succeeded

/-- **What is shown next** is the entry for the next question. -/
theorem shown_iterate_advanced (statuses : List ExecutionStatus) (n : Nat) :
    shown (advanced^[n] statuses) = entry statuses (n + 1) := by
  have first (l : List ExecutionStatus) : shown l = l.head?.getD .succeeded := by
    cases l <;> rfl
  have place : min n (statuses.length - 1) = min (n + 1) statuses.length - 1 := by omega
  rw [first, iterate_advanced, List.head?_drop, entry, place]

example : [1, 2, 3].map (entry [.running, .failed]) = [.running, .failed, .failed] ∧
    entry [] 3 = .succeeded := by decide

/-! ### Submissions -/

/-- The engine with a submission taken down. -/
def recording (e : Engine) : Call → Engine
  | .submitTask task => { e with tasks := e.tasks ++ [task] }
  | .orchestrate pipeline => { e with pipelines := e.pipelines ++ [pipeline] }
  | _ => e

section Recording

variable (e : Engine) (c : Call)

theorem rejection?_recording : (e.recording c).rejection? = e.rejection? := by cases c <;> rfl

theorem scriptFor?_recording : (e.recording c).scriptFor? = e.scriptFor? := by cases c <;> rfl

theorem sequence_recording : (e.recording c).sequence = e.sequence := by cases c <;> rfl

theorem scripts_recording : (e.recording c).scripts = e.scripts := by cases c <;> rfl

theorem queryCount_recording : (e.recording c).queryCount = e.queryCount := by cases c <;> rfl

theorem sameFaults_recording : (e.recording c).SameFaults e := by cases c <;> exact ⟨rfl, rfl⟩

theorem tasks_recording : (e.recording c).tasks = e.tasks ++ c.task?.toList := by
  cases c <;> simp [recording, Call.task?]

theorem pipelines_recording : (e.recording c).pipelines = e.pipelines ++ c.pipeline?.toList := by
  cases c <;> simp [recording, Call.pipeline?]

end Recording

theorem recording_of_other (submits_none : c.kind? = none) : e.recording c = e := by
  cases c with
  | submitTask => cases submits_none
  | orchestrate => cases submits_none
  | _ => rfl

/-! ### What a call does -/

/-- What a call submits that the engine will accept. -/
def admitted? (e : Engine) (c : Call) : Option ExecutionKind :=
  if e.rejection? c.attributed? = none then c.kind? else none

/-- **The script that a call lays out** for an execution: the one that was arranged for the service,
if the call will be accepted and the execution then goes by this name. -/
def laidOut? (e : Engine) (c : Call) (r : ExecutionRef) : Option (List ExecutionStatus) :=
  if (e.admitted? c).map (referenceOf · e.sequence) = some r then e.scriptFor? c.attributed?
  else none

theorem laidOut?_of_refused (refused : e.admitted? c = none) (r : ExecutionRef) :
    e.laidOut? c r = none := by
  rw [laidOut?, refused]
  rfl

theorem laidOut?_eq_some_iff {statuses : List ExecutionStatus} :
    e.laidOut? c r = some statuses ↔
      ∃ kind, e.admitted? c = some kind ∧ r = referenceOf kind e.sequence ∧
        e.scriptFor? c.attributed? = some statuses := by
  rw [laidOut?]
  rcases e.admitted? c with _ | kind
  · simp
  · simp [eq_comm]

/-- **What a call does to an engine**, whatever the call. -/
structure Takes (e : Engine) (c : Call) (reply : Reply c) (e' : Engine) : Prop where
  faults : e'.SameFaults e
  tasks : e'.tasks = (e.recording c).tasks
  pipelines : e'.pipelines = (e.recording c).pipelines
  /-- Whatever is not rejected goes by the next number. -/
  accepted : c.accepted? reply =
    (e.admitted? c).map fun kind => (kind, referenceOf kind e.sequence)
  sequence : e'.sequence = e.sequence + (e.admitted? c).toList.length
  /-- A script is one that was laid out just now, or it has been moved on by a question, or it is as
  it was. -/
  scripts : ∀ r, e'.scripts.getD r [] = (e.laidOut? c r).getD
    (if c.asksFor r then advanced (e.scripts.getD r []) else e.scripts.getD r [])
  questions : ∀ r, e'.queryCount r = e.queryCount r + if c.asksFor r then 1 else 0

section Takes

variable {reply : Reply c}

/-- A submission that is rejected is taken down, and that is all. -/
theorem takes_of_rejected {p : Problem} (submits : c.kind? = some kind)
    (rejected : e.rejection? c.attributed? = some p)
    (answered : c.submission? reply = some (.error (.problem p))) :
    e.Takes c reply (e.recording c) := by
  have refused : e.admitted? c = none := by simp [admitted?, rejected]
  have asks_none := Call.asksFor_of_submits submits
  constructor
  case faults => exact sameFaults_recording e c
  case tasks => rfl
  case pipelines => rfl
  case accepted => simp [Call.accepted?, submits, answered, refused]
  case sequence => simp [sequence_recording, refused]
  case scripts => simp [scripts_recording, laidOut?_of_refused refused, asks_none]
  case questions => simp [queryCount_recording, asks_none]

/-- A submission that is accepted is given the next number, and perhaps a script. -/
theorem takes_of_accepted (submits : c.kind? = some kind)
    (accepted : e.rejection? c.attributed? = none)
    (answered : c.submission? reply = some (.ok ⟨referenceOf kind e.sequence⟩)) :
    e.Takes c reply ((e.recording c).submit kind c.attributed?).2 := by
  have admitted : e.admitted? c = some kind := by rw [admitted?, if_pos accepted, submits]
  have asks_none := Call.asksFor_of_submits submits
  have still : (e.recording c).rejection? c.attributed? = none := by rwa [rejection?_recording]
  rw [submit_of_accepted still]
  constructor
  case faults =>
    have faults := sameFaults_recording e c
    exact ⟨faults.rejections, faults.executionFailures⟩
  case tasks => rfl
  case pipelines => rfl
  case accepted => simp [Call.accepted?, submits, answered, admitted]
  case sequence => simp [sequence_recording, admitted]
  case scripts =>
    intro r
    simp only [scriptFor?_recording, sequence_recording, scripts_recording, laidOut?, admitted,
      Option.map_some, Option.some.injEq, asks_none]
    rcases e.scriptFor? c.attributed? with _ | statuses
    · simp
    · simp only [Option.map_some, Option.getD_some, SortedMap.getD_insert]
      by_cases named : referenceOf kind e.sequence = r
      · simp [named]
      · simp [named, Ne.symm named]
  case questions =>
    intro r
    rw [asks_none]
    exact congrFun (queryCount_recording e c) r

/-- A question moves its own script on, and is counted. -/
theorem takes_executionStatus (e : Engine) (kind : ExecutionKind) (r : ExecutionRef)
    (reply : Reply (.executionStatus kind r)) :
    e.Takes (.executionStatus kind r) reply (e.executionStatus r).2 := by
  have refused : e.admitted? (.executionStatus kind r) = none := ite_self none
  have asks (r' : ExecutionRef) : (Call.executionStatus kind r).asksFor r' = decide (r' = r) := by
    simp [Call.asksFor, eq_comm]
  have script (r' : ExecutionRef) : (e.executionStatus r).2.scripts.getD r' [] =
      if r' = r then advanced (e.scripts.getD r' []) else e.scripts.getD r' [] := by
    rw [SortedMap.getD, get?_scripts_executionStatus, SortedMap.getD]
    by_cases own : r' = r
    · subst own
      -- Without a script the execution has an empty one, and so it does afterwards.
      rw [if_pos rfl, if_pos rfl]
      cases e.scripts.get? r' <;> rfl
    · rw [if_neg own, if_neg own]
  constructor
  case faults =>
    rw [executionStatus_eq]
    exact ⟨rfl, rfl⟩
  case tasks =>
    rw [executionStatus_eq]
    rfl
  case pipelines =>
    rw [executionStatus_eq]
    rfl
  case accepted =>
    rw [refused]
    rfl
  case sequence =>
    rw [sequence_executionStatus, refused]
    rfl
  case scripts =>
    intro r'
    rw [laidOut?_of_refused refused, asks, script]
    simp
  case questions =>
    intro r'
    rw [executionStatus_eq, queryCount, SortedMap.getD_insert, asks]
    by_cases own : r' = r
    · simp [own]
    · simp [own, queryCount]

/-- Any other call is nothing to the engine. -/
theorem takes_of_other (submits_none : c.kind? = none) (asks_none : ∀ r, c.asksFor r = false) :
    e.Takes c reply e := by
  have refused : e.admitted? c = none := by rw [admitted?, submits_none, ite_self]
  constructor
  case faults => exact ⟨rfl, rfl⟩
  case tasks => rw [recording_of_other submits_none]
  case pipelines => rw [recording_of_other submits_none]
  case accepted => simp [Call.accepted?, submits_none, refused]
  case sequence => simp [refused]
  case scripts => simp [laidOut?_of_refused refused, asks_none]
  case questions => simp [asks_none]

end Takes

end Engine

/-! ### Calls on a fleet -/

namespace Fleet

variable {c : Call} {kind : ExecutionKind}

/-- A submission is taken down, and then it is decided on. -/
theorem respond_of_submits (f : Fleet) (submits : c.kind? = some kind) :
    c.submission? (respond c f).1 = some ((f.engine.recording c).submit kind c.attributed?).1 ∧
      (respond c f).2.engine = ((f.engine.recording c).submit kind c.attributed?).2 := by
  cases c with
  | submitTask => cases submits; exact ⟨rfl, rfl⟩
  | orchestrate => cases submits; exact ⟨rfl, rfl⟩
  | _ => cases submits

/-- A submission that is rejected gets the problem that was arranged. -/
theorem respond_of_rejected (f : Fleet) {p : Problem} (submits : c.kind? = some kind)
    (rejected : f.engine.rejection? c.attributed? = some p) :
    c.submission? (respond c f).1 = some (.error (.problem p)) ∧
      (respond c f).2.engine = f.engine.recording c := by
  obtain ⟨answered, after⟩ := respond_of_submits f submits
  have still : (f.engine.recording c).rejection? c.attributed? = some p := by
    rwa [Engine.rejection?_recording]
  rw [answered, after, Engine.submit_of_rejected still]
  exact ⟨rfl, rfl⟩

/-- A submission that is accepted gets the next number. -/
theorem respond_of_accepted (f : Fleet) (submits : c.kind? = some kind)
    (accepted : f.engine.rejection? c.attributed? = none) :
    c.submission? (respond c f).1 =
      some (.ok ⟨Engine.referenceOf kind f.engine.sequence⟩) := by
  obtain ⟨answered, -⟩ := respond_of_submits f submits
  have still : (f.engine.recording c).rejection? c.attributed? = none := by
    rwa [Engine.rejection?_recording]
  rw [answered, Engine.answer_of_accepted still, Engine.sequence_recording]

/-- **What a call does to the engine of a fleet.** -/
theorem takes (f : Fleet) (c : Call) :
    f.engine.Takes c (respond c f).1 (respond c f).2.engine := by
  have of_submits {kind : ExecutionKind} (submits : c.kind? = some kind) :
      f.engine.Takes c (respond c f).1 (respond c f).2.engine := by
    rcases decided : f.engine.rejection? c.attributed? with _ | p
    · rw [(respond_of_submits f submits).2]
      exact Engine.takes_of_accepted submits decided (respond_of_accepted f submits decided)
    · obtain ⟨answered, after⟩ := respond_of_rejected f submits decided
      rw [after]
      exact Engine.takes_of_rejected submits decided answered
  cases c with
  | submitTask task => exact of_submits rfl
  | orchestrate pipeline => exact of_submits rfl
  | executionStatus kind r => exact Engine.takes_executionStatus _ _ _ _
  | _ => exact Engine.takes_of_other rfl fun _ => rfl

end Fleet

end FleetDeploy
