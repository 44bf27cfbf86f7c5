import FleetDeploy.Proofs.Program.Run
import Mathlib.Logic.Function.Iterate

/-!
# When a program does what it does

A run is not interrupted and its calls are answered at once, so that time passes in its sleeps and
nowhere else: when something was done is read off the journal. A program may be given a deadline;
it is then the same program up to the sleep that reaches beyond it.

* `FleetDeploy.timedCalls` – the calls among some steps with their times;
* `FleetDeploy.Program.within` – a program with a deadline, and `FleetDeploy.Procedure.orTimeout`, a
  procedure that fails when its time is over;
* `FleetDeploy.Handler.Replies` – how one call is answered time after time.
-/

namespace FleetDeploy

variable {σ α : Type}

/-! ### Times -/

/-- The calls among some steps, each with the time at which it is made if the steps begin at
`now`. -/
def timedCalls (now : Nat) : List Step → List (Nat × Call)
  | [] => []
  | .called c _ :: rest => (now, c) :: timedCalls now rest
  | .emitted _ :: rest => timedCalls now rest
  | .slept ms :: rest => timedCalls (now + ms) rest

/-- What begins later is all later. -/
theorem timedCalls_add (now later : Nat) (steps : List Step) :
    timedCalls (now + later) steps = (timedCalls now steps).map fun (t, c) => (t + later, c) := by
  induction steps generalizing now with
  | nil => rfl
  | cons step rest ih =>
    cases step with
    | called c reply => exact congrArg _ (ih now)
    | emitted event => exact ih now
    | slept ms =>
      have moved : now + later + ms = now + ms + later := by omega
      rw [timedCalls, timedCalls, moved]
      exact ih (now + ms)

theorem durationOf_cons (step : Step) (rest : List Step) :
    durationOf (step :: rest) = step.duration + durationOf rest := by
  have shifted (steps : List Step) (t : Nat) :
      steps.foldl (fun t s => t + s.duration) t = t + durationOf steps := by
    induction steps generalizing t with
    | nil => rfl
    | cons first others ih =>
      rw [durationOf, List.foldl_cons, List.foldl_cons, ih, ih (0 + first.duration)]
      omega
  rw [durationOf, List.foldl_cons, shifted]
  omega

/-! ### Deadlines -/

/-- **A program with a deadline**, which is so many milliseconds away. What is due by then is still
done, also what is due at the deadline itself. A sleep that reaches beyond the deadline is cut short
there, and the program has no result then. -/
def Program.within (time : Nat) : Program α → Program (Option α)
  | .done a => .done (some a)
  | .call c next => .call c fun answer => (next answer).within time
  | .emit event next => .emit event (next.within time)
  | .sleep ms next =>
    if ms ≤ time then .sleep ms (next.within (time - ms)) else .sleep time (.done none)

/-- **A procedure with a deadline**, which fails with this error when its time is over. -/
def Procedure.orTimeout (p : Procedure α) (time : Nat) (e : DeployError) : Procedure α :=
  ExceptT.mk ((p.run.within time).bind fun r => .done (r.getD (.error e)))

namespace Procedure

variable (time : Nat) (e : DeployError)

/-- What is asked for is asked for at once. -/
theorem orTimeout_ask_bind (c : Call) (f : c.Result → Procedure α) :
    (ask c >>= f).orTimeout time e = ask c >>= fun answer => (f answer).orTimeout time e := by
  refine congrArg (Program.call c) (funext fun answer => ?_)
  cases answer <;> rfl

/-- A sleep that is over in time takes its part of the time. -/
theorem orTimeout_pause_bind {ms : Nat} (in_time : ms ≤ time) (f : Unit → Procedure α) :
    (pause ms >>= f).orTimeout time e =
      pause ms >>= fun u => (f u).orTimeout (time - ms) e := by
  have slept : (pause ms >>= f).run.within time = .sleep ms ((f ()).run.within (time - ms)) :=
    if_pos in_time
  rw [orTimeout, slept]
  rfl

/-- Nothing comes after a sleep that is not over in time. -/
theorem orTimeout_pause_bind_of_lt {ms : Nat} (late : time < ms) (f : Unit → Procedure α) :
    (pause ms >>= f).orTimeout time e = pause time >>= fun _ => throw e := by
  have slept : (pause ms >>= f).run.within time = .sleep time (.done none) :=
    if_neg (Nat.not_le.mpr late)
  rw [orTimeout, slept]
  rfl

end Procedure

/-! ### Answers over time -/

/-- **What a call is answered time after time** if nothing else is asked for: the answer to the
first call, to the second one, and so on. -/
def Handler.Replies (h : Handler σ) (c : Call) (s : σ)
    (answers : Nat → Except DeployError c.Result) : Prop :=
  ∀ n, (h c ((fun s => (h c s).2)^[n] s)).1 = .answered (answers n)

namespace Handler.Replies

variable {h : Handler σ} {c : Call} {s : σ} {answers : Nat → Except DeployError c.Result}

/-- The first call is answered first. -/
theorem first (replies : h.Replies c s answers) :
    h c s = (.answered (answers 0), (h c s).2) :=
  Prod.ext (replies 0) rfl

/-- The others are answered as if there had not been a first one. -/
theorem others (replies : h.Replies c s answers) :
    h.Replies c (h c s).2 fun n => answers (n + 1) :=
  fun n => replies (n + 1)

end Handler.Replies

end FleetDeploy
