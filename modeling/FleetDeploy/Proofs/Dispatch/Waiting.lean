import FleetDeploy.Monitor
import FleetDeploy.Proofs.Fleet.Collaborators
import FleetDeploy.Proofs.Program.Timing
import Mathlib.Tactic.IntervalCases

/-!
# How long an execution is waited for

An execution is asked for until it has ended, with a break after every question, and a deadline is
set for the whole. What is asked for again and again has no end of its own, so it is the deadline
that ends a wait for an execution that never ends. `FleetDeploy.Monitor.poll` says this in another
way: the number of questions is counted beforehand. Here it is shown to be the same, and the wait is
followed question by question.

* `FleetDeploy.Monitor.rounds` – asking again and again, up to some round, and
  `FleetDeploy.Monitor.awaitWithin_eq_orTimeout` – a wait is that asking with a deadline, and it
  does not matter what comes after the rounds for which there is time;
* `FleetDeploy.Monitor.verdict?` – what one answer makes of a wait;
* `FleetDeploy.Procedure.EndsAfter` – so many questions at regular times, and how they end;
* `FleetDeploy.Monitor.waits_of_await` – a wait ends with the first answer that decides, and if
  there is none in time then at its deadline.
-/

namespace FleetDeploy

variable {σ : Type} {h : Handler σ}

/-! ### A loop with a deadline -/

namespace Monitor

variable {interval timeout rest : Nat} {kind : ExecutionKind} {reference : ExecutionRef}

/-- The first rounds of asking for an execution until it has ended, with whatever comes after
them. -/
def rounds (interval : Nat) (kind : ExecutionKind) (reference : ExecutionRef)
    (after : Procedure Unit) : Nat → Procedure Unit
  | 0 => after
  | n + 1 => do
    let status ← Procedure.ask (.executionStatus kind reference)
    if status.isTerminal then conclude reference status
    else do
      Procedure.pause interval
      rounds interval kind reference after n

/-- What has been decided is not a matter of time. -/
theorem orTimeout_conclude (status : ExecutionStatus) (time : Nat) (e : DeployError) :
    (conclude reference status).orTimeout time e = conclude reference status := by
  rw [conclude]
  split <;> rfl

/-- One round more takes one interval more. -/
theorem time_succ (remaining interval rest : Nat) :
    (remaining + 1) * interval + rest = interval + (remaining * interval + rest) := by
  rw [Nat.succ_mul]
  omega

/-- **Counting the questions** comes to the same as setting a deadline, where a break is longer than
what is left of the time after the last question. -/
theorem poll_eq_orTimeout (short : rest < interval) (after : Procedure Unit) (remaining n : Nat)
    (enough : remaining < n) :
    poll interval rest kind reference remaining =
      (rounds interval kind reference after n).orTimeout (remaining * interval + rest)
        (.timeout (operation kind reference)) := by
  induction remaining generalizing n with
  | zero =>
    obtain ⟨n, rfl⟩ : ∃ m, n = m + 1 := ⟨n - 1, by omega⟩
    rw [poll, rounds, Procedure.orTimeout_ask_bind, Nat.zero_mul, Nat.zero_add]
    refine congrArg _ (funext fun status => ?_)
    by_cases terminal : status.isTerminal
    · rw [if_pos terminal, if_pos terminal, orTimeout_conclude]
    · rw [if_neg terminal, if_neg terminal, Procedure.orTimeout_pause_bind_of_lt _ _ short]
  | succ remaining ih =>
    obtain ⟨n, rfl⟩ : ∃ m, n = m + 1 := ⟨n - 1, by omega⟩
    have time := time_succ remaining interval rest
    rw [poll, rounds, Procedure.orTimeout_ask_bind]
    refine congrArg _ (funext fun status => ?_)
    by_cases terminal : status.isTerminal
    · rw [if_pos terminal, if_pos terminal, orTimeout_conclude]
    · have in_time : interval ≤ (remaining + 1) * interval + rest := by omega
      have left : (remaining + 1) * interval + rest - interval = remaining * interval + rest := by
        omega
      rw [if_neg terminal, if_neg terminal, Procedure.orTimeout_pause_bind _ _ in_time, left,
        ih n (by omega)]

/-- The questions are counted in whole intervals. -/
theorem awaitWithin_eq_poll (positive : 0 < interval) :
    awaitWithin interval timeout kind reference =
      poll interval (timeout % interval) kind reference (timeout / interval) := by
  have left : timeout - timeout / interval * interval = timeout % interval :=
    Nat.mod_eq_sub_div_mul.symm
  rw [awaitWithin, intervals, Nat.max_eq_left positive, left]

/-- **A wait is asking again and again, with a deadline.** The rounds for which there is time are
all that matters. -/
theorem awaitWithin_eq_orTimeout (positive : 0 < interval) (after : Procedure Unit) {n : Nat}
    (enough : timeout / interval < n) :
    awaitWithin interval timeout kind reference =
      (rounds interval kind reference after n).orTimeout timeout
        (.timeout (operation kind reference)) := by
  rw [awaitWithin_eq_poll positive,
    poll_eq_orTimeout (Nat.mod_lt timeout positive) after _ n enough, Nat.div_add_mod']

/-! ### One question -/

/-- **What an answer makes of a wait**: an error ends it as it is, an execution that has ended
decides it, and one that has not leaves it undecided. -/
def verdict? (reference : ExecutionRef) :
    Except DeployError ExecutionStatus → Option (Except DeployError Unit)
  | .error e => some (.error e)
  | .ok status =>
    if status.isTerminal then
      some (if status = .succeeded then .ok () else .error (.executionFailed reference status))
    else none

theorem verdict?_of_terminal {status : ExecutionStatus} (terminal : status.isTerminal) :
    verdict? reference (.ok status) =
      some (if status = .succeeded then .ok () else .error (.executionFailed reference status)) :=
  if_pos terminal

/-- An execution that has not ended. -/
def Unfinished (answer : Except DeployError ExecutionStatus) : Prop :=
  ∃ status, answer = .ok status ∧ ¬status.isTerminal

theorem run_conclude {status : ExecutionStatus} (w : World σ) :
    (conclude reference status).run.run h w =
      (.finished (if status = .succeeded then .ok ()
        else .error (.executionFailed reference status)), w) := by
  cases status <;> rfl

section Question

variable {remaining : Nat} {w : World σ} {s : σ} {answer : Except DeployError ExecutionStatus}
  (replied : h (.executionStatus kind reference) w.state = (.answered answer, s))

include replied

/-- An answer that decides is the last one. -/
theorem run_poll_of_decided {verdict : Except DeployError Unit}
    (decided : verdict? reference answer = some verdict) :
    (poll interval rest kind reference remaining).run.run h w =
      (.finished verdict,
        ⟨s, .called (.executionStatus kind reference) (.answered answer) :: w.journal⟩) := by
  have asked := Procedure.run_ask replied
  rw [poll.eq_def]
  rcases answer with e | status
  · obtain rfl := Option.some.inj decided
    exact Procedure.run_bind_of_error asked
  · by_cases terminal : status.isTerminal
    · rw [verdict?_of_terminal terminal] at decided
      obtain rfl := Option.some.inj decided
      rw [Procedure.run_bind_of_ok asked, if_pos terminal]
      exact run_conclude _
    · simp [verdict?, terminal] at decided

/-- After an answer that does not decide there is a break, and another question. -/
theorem run_poll_of_unfinished (unfinished : Unfinished answer) :
    (poll interval rest kind reference (remaining + 1)).run.run h w =
      (poll interval rest kind reference remaining).run.run h
        ⟨s, .slept interval ::
          .called (.executionStatus kind reference) (.answered answer) :: w.journal⟩ := by
  obtain ⟨status, rfl, going⟩ := unfinished
  rw [poll, Procedure.run_bind_of_ok (Procedure.run_ask replied), if_neg going]
  rfl

/-- After the last answer for which there was time nothing is left but the rest of the time. -/
theorem run_poll_of_over (unfinished : Unfinished answer) :
    (poll interval rest kind reference 0).run.run h w =
      (.finished (.error (.timeout (operation kind reference))),
        ⟨s, .slept rest ::
          .called (.executionStatus kind reference) (.answered answer) :: w.journal⟩) := by
  obtain ⟨status, rfl, going⟩ := unfinished
  rw [poll, Procedure.run_bind_of_ok (Procedure.run_ask replied), if_neg going]
  rfl

end Question

end Monitor

/-! ### All questions -/

/-- **A run of some questions**, which are all the same: the first is asked at once and each of the
others an interval after the one before, nobody is asked for anything else, and after `elapsed`
milliseconds the run ends with this verdict. -/
def Procedure.EndsAfter (p : Procedure Unit) (h : Handler σ) (w : World σ) (c : Call)
    (interval questions elapsed : Nat) (verdict : Except DeployError Unit) : Prop :=
  ∃ steps s, p.run.run h w = (.finished verdict, ⟨s, steps.reverse ++ w.journal⟩) ∧
    timedCalls 0 steps = (List.range questions).map (fun k => (k * interval, c)) ∧
    durationOf steps = elapsed

section Questions

variable {p q : Procedure Unit} {w : World σ} {c : Call} {interval questions elapsed : Nat}
  {verdict : Except DeployError Unit} {s : σ} {reply : Reply c}

/-- One question, and some time after it. -/
theorem Procedure.EndsAfter.once (steps : List Step) (quiet : timedCalls 0 steps = [])
    (ran : p.run.run h w =
      (.finished verdict, ⟨s, steps.reverse ++ .called c reply :: w.journal⟩)) :
    p.EndsAfter h w c interval 1 (durationOf steps) verdict := by
  refine ⟨.called c reply :: steps, s, ?_, ?_, ?_⟩
  · rw [ran, List.reverse_cons, List.append_assoc]
    rfl
  · rw [timedCalls, quiet]
    simp
  · rw [durationOf_cons]
    exact Nat.zero_add _

/-- One question more. -/
theorem Procedure.EndsAfter.again
    (goes_on : p.run.run h w =
      q.run.run h ⟨s, .slept interval :: .called c reply :: w.journal⟩)
    (later : q.EndsAfter h ⟨s, .slept interval :: .called c reply :: w.journal⟩ c interval questions
      elapsed verdict) :
    p.EndsAfter h w c interval (questions + 1) (interval + elapsed) verdict := by
  obtain ⟨steps, s', ran, times, lasted⟩ := later
  refine ⟨.called c reply :: .slept interval :: steps, s', ?_, ?_, ?_⟩
  · rw [goes_on, ran]
    simp
  · have shifted := timedCalls_add 0 interval steps
    rw [times, List.map_map] at shifted
    rw [timedCalls, timedCalls, shifted, List.range_succ_eq_map, List.map_cons, List.map_map,
      Nat.zero_mul]
    refine congrArg _ (List.map_congr_left fun k _ => ?_)
    simp [Nat.succ_mul]
  · rw [durationOf_cons, durationOf_cons, lasted]
    exact Nat.zero_add _

end Questions

namespace Monitor

variable {interval rest : Nat} {kind : ExecutionKind} {reference : ExecutionRef} {w : World σ}
  {answers : Nat → Except DeployError ExecutionStatus}

/-- **Polling ends with the first answer that decides.** -/
theorem ends_of_decided (replies : h.Replies (.executionStatus kind reference) w.state answers)
    {j remaining : Nat} (in_time : j ≤ remaining) (unfinished : ∀ i < j, Unfinished (answers i))
    {verdict : Except DeployError Unit} (decided : verdict? reference (answers j) = some verdict) :
    (poll interval rest kind reference remaining).EndsAfter h w (.executionStatus kind reference)
      interval (j + 1) (j * interval) verdict := by
  induction j generalizing remaining w answers with
  | zero =>
    rw [Nat.zero_mul]
    exact .once [] rfl (run_poll_of_decided replies.first decided)
  | succ j ih =>
    obtain ⟨remaining, rfl⟩ : ∃ m, remaining = m + 1 := ⟨remaining - 1, by omega⟩
    have in_time : j ≤ remaining := Nat.le_of_succ_le_succ in_time
    have later := ih
      (w := ⟨_, .slept interval ::
        .called (.executionStatus kind reference) (.answered (answers 0)) :: w.journal⟩)
      replies.others in_time (fun i before => unfinished (i + 1) (by omega)) decided
    rw [Nat.succ_mul, Nat.add_comm (j * interval)]
    exact .again (run_poll_of_unfinished replies.first (unfinished 0 (by omega))) later

/-- **Polling ends at its deadline** if no answer decides until then. -/
theorem ends_of_undecided (replies : h.Replies (.executionStatus kind reference) w.state answers)
    {remaining : Nat} (unfinished : ∀ i ≤ remaining, Unfinished (answers i)) :
    (poll interval rest kind reference remaining).EndsAfter h w (.executionStatus kind reference)
      interval (remaining + 1) (remaining * interval + rest)
      (.error (.timeout (operation kind reference))) := by
  induction remaining generalizing w answers with
  | zero =>
    have lasted : durationOf [.slept rest] = 0 * interval + rest := by
      rw [durationOf_cons, Nat.zero_mul, Nat.zero_add]
      rfl
    rw [← lasted]
    exact .once [.slept rest] rfl
      (run_poll_of_over replies.first (unfinished 0 (Nat.le_refl 0)))
  | succ remaining ih =>
    have later := ih
      (w := ⟨_, .slept interval ::
        .called (.executionStatus kind reference) (.answered (answers 0)) :: w.journal⟩)
      replies.others (fun i before => unfinished (i + 1) (by omega))
    rw [time_succ]
    exact .again (run_poll_of_unfinished replies.first (unfinished 0 (by omega))) later

/-- An answer decides if it does not show the execution unfinished. -/
theorem unfinished_iff {answer : Except DeployError ExecutionStatus} :
    Unfinished answer ↔ verdict? reference answer = none := by
  rcases answer with e | status
  · simp [Unfinished, verdict?]
  · by_cases terminal : status.isTerminal <;> simp [Unfinished, verdict?, terminal]

/-- Either there is a first answer that decides, or none decides until the last one. -/
theorem decided_or_undecided (reference : ExecutionRef)
    (answers : Nat → Except DeployError ExecutionStatus) (last : Nat) :
    (∃ j ≤ last, (∀ i < j, Unfinished (answers i)) ∧
        ∃ verdict, verdict? reference (answers j) = some verdict) ∨
      ∀ i ≤ last, Unfinished (answers i) := by
  induction last with
  | zero =>
    rcases decided : verdict? reference (answers 0) with _ | verdict
    · refine Or.inr fun i first => ?_
      rw [Nat.le_zero.mp first]
      exact unfinished_iff.mpr decided
    · exact Or.inl ⟨0, Nat.le_refl 0, fun i before => absurd before (Nat.not_lt_zero i), _, decided⟩
  | succ last ih =>
    rcases ih with ⟨j, in_time, first⟩ | undecided
    · exact Or.inl ⟨j, by omega, first⟩
    · rcases decided : verdict? reference (answers (last + 1)) with _ | verdict
      · refine Or.inr fun i before => ?_
        rcases Nat.le_succ_iff.mp before with before | rfl
        · exact undecided i before
        · exact unfinished_iff.mpr decided
      · exact Or.inl ⟨last + 1, Nat.le_refl _, fun i before => undecided i (by omega), _, decided⟩

/-- **How a wait goes**, if the questions are answered like this. -/
structure Waits (p : Procedure Unit) (h : Handler σ) (interval timeout : Nat)
    (kind : ExecutionKind) (reference : ExecutionRef) (w : World σ)
    (answers : Nat → Except DeployError ExecutionStatus) : Prop where
  /-- It ends, in time. -/
  ends : ∃ questions elapsed verdict, questions ≤ timeout / interval + 1 ∧ elapsed ≤ timeout ∧
    p.EndsAfter h w (.executionStatus kind reference) interval questions elapsed verdict
  /-- It ends with the first answer that shows the execution ended, if that comes in time. -/
  decided : ∀ j ≤ timeout / interval, ∀ status,
    (∀ i < j, Unfinished (answers i)) → answers j = .ok status → status.isTerminal →
      p.EndsAfter h w (.executionStatus kind reference) interval (j + 1) (j * interval)
        (if status = .succeeded then .ok () else .error (.executionFailed reference status))
  /-- It ends with the first question that fails, if none has shown the execution ended before. -/
  failed : ∀ j ≤ timeout / interval, ∀ e,
    (∀ i < j, Unfinished (answers i)) → answers j = .error e →
      p.EndsAfter h w (.executionStatus kind reference) interval (j + 1) (j * interval) (.error e)
  /-- If all answers in time show the execution unfinished, it ends at its deadline. -/
  timedOut : (∀ i ≤ timeout / interval, Unfinished (answers i)) →
    p.EndsAfter h w (.executionStatus kind reference) interval (timeout / interval + 1) timeout
      (.error (.timeout (operation kind reference)))
  /-- It is asking again and again until a deadline, whatever would come after that. -/
  raced : ∀ after n, timeout / interval < n →
    p = (rounds interval kind reference after n).orTimeout timeout
      (.timeout (operation kind reference))

section Within

variable (positive : 0 < interval)
  (replies : h.Replies (.executionStatus kind reference) w.state answers)

include positive replies

/-- A wait ends with the first answer that decides, if that comes in time. -/
theorem awaitWithin_ends_of_decided {j : Nat} (in_time : j ≤ timeout / interval)
    (unfinished : ∀ i < j, Unfinished (answers i)) {verdict : Except DeployError Unit}
    (decided : verdict? reference (answers j) = some verdict) :
    (awaitWithin interval timeout kind reference).EndsAfter h w (.executionStatus kind reference)
      interval (j + 1) (j * interval) verdict := by
  rw [awaitWithin_eq_poll positive]
  exact ends_of_decided replies in_time unfinished decided

/-- A wait ends at its deadline if no answer decides until then. -/
theorem awaitWithin_ends_of_undecided
    (unfinished : ∀ i ≤ timeout / interval, Unfinished (answers i)) :
    (awaitWithin interval timeout kind reference).EndsAfter h w (.executionStatus kind reference)
      interval (timeout / interval + 1) timeout
      (.error (.timeout (operation kind reference))) := by
  rw [awaitWithin_eq_poll positive]
  convert ends_of_undecided replies unfinished using 1
  exact (Nat.div_add_mod' timeout interval).symm

/-- **A wait by a clock that can show every time.** -/
theorem waits_of_awaitWithin : Waits (awaitWithin interval timeout kind reference) h interval
    timeout kind reference w answers := by
  constructor
  case ends =>
    rcases decided_or_undecided reference answers (timeout / interval) with
      ⟨j, in_time, unfinished, verdict, decided⟩ | unfinished
    · refine ⟨_, _, verdict, by omega, ?_,
        awaitWithin_ends_of_decided positive replies in_time unfinished decided⟩
      exact (Nat.le_div_iff_mul_le positive).mp in_time
    · exact ⟨_, _, _, Nat.le_refl _, Nat.le_refl _,
        awaitWithin_ends_of_undecided positive replies unfinished⟩
  case decided =>
    intro j in_time status unfinished answered terminal
    exact awaitWithin_ends_of_decided positive replies in_time unfinished
      (answered ▸ verdict?_of_terminal terminal)
  case failed =>
    intro j in_time e unfinished answered
    exact awaitWithin_ends_of_decided positive replies in_time unfinished (answered ▸ rfl)
  case timedOut => exact awaitWithin_ends_of_undecided positive replies
  case raced => exact fun after n enough => awaitWithin_eq_orTimeout positive after enough

end Within

/-- **The times of a wait can be had**: the timer does not cut the breaks short, as it does after
thirty years, and the deadline is a time that the clock can show. -/
structure Shown (config : MonitorConfig) : Prop where
  interval : config.interval ≤ Clock.thirtyYears
  timeout : config.timeoutSecs.toNat + 1 < Text.signedLimit

/-- Where they can be had, the configured times are the times that are waited. -/
theorem await_of_shown {config : MonitorConfig} (shown : Shown config) :
    await config kind reference = awaitWithin config.interval config.timeout kind reference := by
  have patience_eq : patience config = config.timeout := if_pos shown.timeout
  rw [await, gap_of_le shown.interval, patience_eq]

/-- **An execution is waited for until it has ended, or until the deadline**: question `k` is asked
`k` intervals after the start, and the last one is the first that is answered decisively, or the
last for which there is time. With a timer and a clock for which no time is too long this is so for
all intervals and deadlines, and with those that there are for the times that can be had. -/
theorem waits_of_await {config : MonitorConfig} (positive : 0 < config.interval)
    (replies : h.Replies (.executionStatus kind reference) w.state answers) :
    Waits (awaitWithin config.interval config.timeout kind reference) h config.interval
        config.timeout kind reference w answers ∧
      (Shown config → Waits (await config kind reference) h config.interval config.timeout kind
        reference w answers) := by
  refine ⟨waits_of_awaitWithin positive replies, fun shown => ?_⟩
  rw [await_of_shown shown]
  exact waits_of_awaitWithin positive replies

end Monitor

/-! ### An engine with a script -/

/-- **An execution with a script** goes through its statuses, one for each question, and stays at
the last of them. -/
theorem Fleet.replies_of_script {f : Fleet} {kind : ExecutionKind} {reference : ExecutionRef}
    {statuses : List ExecutionStatus}
    (scripted : f.engine.scripts.get? reference = some statuses) :
    Handler.Replies Fleet.respond (.executionStatus kind reference) f fun n =>
      .ok (Engine.shown (statuses.drop (min n (statuses.length - 1)))) := by
  have left (n : Nat) :
      ((fun f => (Fleet.respond (.executionStatus kind reference) f).2)^[n] f).engine.scripts.get?
        reference = some (Engine.advanced^[n] statuses) := by
    induction n with
    | zero => exact scripted
    | succ n ih =>
      rw [Function.iterate_succ_apply', Function.iterate_succ_apply']
      refine (Engine.get?_scripts_executionStatus _ reference reference).trans ?_
      rw [if_pos rfl, ih, Option.map_some]
  intro n
  refine congrArg (fun status => Reply.answered (.ok status)) ?_
  refine (Engine.status_eq _ reference).trans ?_
  rw [left n, Engine.iterate_advanced]
  rfl

/-- A fleet with an execution that goes through these statuses. -/
def Fleet.executing (statuses : List ExecutionStatus) : Fleet :=
  { engine := ({} : Engine).script "/pipelines/1" statuses }

/-- An execution that is seen to have succeeded at the deadline itself has succeeded in time, while
one that is still paused then is given up after just as many questions. -/
theorem Monitor.waits_of_await_untilDeadline :
    (await ⟨500, 1⟩ .pipeline "/pipelines/1").EndsAfter Fleet.respond
        ⟨.executing [.running, .paused, .succeeded], []⟩
        (.executionStatus .pipeline "/pipelines/1") 500 3 1000 (.ok ()) ∧
      (await ⟨500, 1⟩ .pipeline "/pipelines/1").EndsAfter Fleet.respond
        ⟨.executing [.running, .paused], []⟩
        (.executionStatus .pipeline "/pipelines/1") 500 3 1000
        (.error (.timeout (operation .pipeline "/pipelines/1"))) := by
  have waits (statuses : List ExecutionStatus) :
      Waits (await ⟨500, 1⟩ .pipeline "/pipelines/1") Fleet.respond 500 1000 .pipeline
        "/pipelines/1" ⟨.executing statuses, []⟩ fun n =>
          .ok (Engine.shown (statuses.drop (min n (statuses.length - 1)))) :=
    (waits_of_await (by decide) (Fleet.replies_of_script rfl)).2 ⟨by decide, by decide⟩
  constructor
  · refine (waits [.running, .paused, .succeeded]).decided 2 (by decide) .succeeded ?_ rfl rfl
    intro i before
    interval_cases i
    · exact ⟨.running, rfl, by decide⟩
    · exact ⟨.paused, rfl, by decide⟩
  · refine (waits [.running, .paused]).timedOut fun i before => ?_
    have in_time : i ≤ 2 := before
    interval_cases i
    · exact ⟨.running, rfl, by decide⟩
    · exact ⟨.paused, rfl, by decide⟩
    · exact ⟨.paused, rfl, by decide⟩

end FleetDeploy
