import FleetDeploy.Proofs.Program.Run

/-!
# What a program may do

A program is a tree, and what it can do at all can be read off the tree, whatever it is answered and
wherever it stops. This file is for programs that are to do little: a program keeps to some calls
and some events if no branch of it makes another call, emits another event, or waits.

* `FleetDeploy.Program.KeepsTo` – the notion, with a rule for each way of putting programs together;
* `FleetDeploy.Program.KeepsTo.steps` – every step of a run is then one of those that are allowed;
* `FleetDeploy.Program.KeepsTo.state` – what the allowed calls preserve, a run preserves;
* `FleetDeploy.Program.KeepsTo.run_congr` – where the allowed calls cannot tell two states apart, a
  run cannot either.
-/

namespace FleetDeploy

variable {σ α β : Type} {h : Handler σ} {calls : Call → Prop} {events : DeployEvent → Prop}

/-- Whether a step is one of some calls or emits one of some events. -/
def Step.KeepsTo (calls : Call → Prop) (events : DeployEvent → Prop) : Step → Prop
  | .called c _ => calls c
  | .emitted event => events event
  | .slept _ => False

/-- **The conduct of a program**: whatever it is answered, it makes none but some calls, emits none
but some events, and does not wait. -/
def Program.KeepsTo (calls : Call → Prop) (events : DeployEvent → Prop) : Program α → Prop
  | .done _ => True
  | .call c next => calls c ∧ ∀ answer, (next answer).KeepsTo calls events
  | .emit event next => events event ∧ next.KeepsTo calls events
  | .sleep _ _ => False

namespace Program.KeepsTo

/-! ### Putting programs together -/

theorem bind {p : Program α} {f : α → Program β} (first : p.KeepsTo calls events)
    (second : ∀ a, (f a).KeepsTo calls events) : (p.bind f).KeepsTo calls events := by
  induction p with
  | done a => exact second a
  | call c next ih => exact ⟨first.1, fun answer => ih answer (first.2 answer)⟩
  | emit event next ih => exact ⟨first.1, ih first.2⟩
  | sleep ms next ih => exact first.elim

/-! ### Running them -/

/-- **The steps of a run** are steps that the program may take. -/
theorem steps {p : Program α} (keeps : p.KeepsTo calls events) {w w' : World σ} {ending : Ending α}
    (ran : p.run h w = (ending, w')) (before : ∀ step ∈ w.journal, step.KeepsTo calls events) :
    ∀ step ∈ w'.journal, step.KeepsTo calls events := by
  induction p generalizing w with
  | done a =>
    obtain ⟨-, rfl⟩ := Prod.mk.inj ran
    exact before
  | call c next ih =>
    rcases replied : h c w.state with ⟨answer | payload, state⟩
    · rw [run, replied] at ran
      exact ih answer (keeps.2 answer) ran (List.forall_mem_cons.mpr ⟨keeps.1, before⟩)
    · rw [run, replied] at ran
      obtain ⟨-, rfl⟩ := Prod.mk.inj ran
      exact List.forall_mem_cons.mpr ⟨keeps.1, before⟩
  | emit event next ih => exact ih keeps.2 ran (List.forall_mem_cons.mpr ⟨keeps.1, before⟩)
  | sleep ms next ih => exact keeps.elim

/-- **The state after a run** is one that the program may lead to. -/
theorem state {p : Program α} (keeps : p.KeepsTo calls events) {Reach : σ → Prop}
    (kept : ∀ c s, calls c → Reach s → Reach (h c s).2) {w w' : World σ} {ending : Ending α}
    (ran : p.run h w = (ending, w')) (before : Reach w.state) : Reach w'.state := by
  induction p generalizing w with
  | done a =>
    obtain ⟨-, rfl⟩ := Prod.mk.inj ran
    exact before
  | call c next ih =>
    have after : Reach (h c w.state).2 := kept c w.state keeps.1 before
    rcases replied : h c w.state with ⟨answer | payload, state⟩
    · rw [replied] at after
      rw [run, replied] at ran
      exact ih answer (keeps.2 answer) ran after
    · rw [replied] at after
      rw [run, replied] at ran
      obtain ⟨-, rfl⟩ := Prod.mk.inj ran
      exact after
  | emit event next ih => exact ih keeps.2 ran before
  | sleep ms next ih => exact keeps.elim

/-- **States that the allowed calls cannot tell apart** lead to the same ending, and to states that
they cannot tell apart. -/
theorem run_congr {p : Program α} (keeps : p.KeepsTo calls events) {Same : σ → σ → Prop}
    (alike : ∀ c s t, calls c → Same s t → (h c s).1 = (h c t).1 ∧ Same (h c s).2 (h c t).2)
    {v w : World σ} (same : Same v.state w.state) :
    (p.run h v).1 = (p.run h w).1 ∧ Same (p.run h v).2.state (p.run h w).2.state := by
  induction p generalizing v w with
  | done a => exact ⟨rfl, same⟩
  | call c next ih =>
    have replies := alike c v.state w.state keeps.1 same
    rcases one : h c v.state with ⟨reply, s⟩
    rcases other : h c w.state with ⟨reply', t⟩
    rw [one, other] at replies
    obtain ⟨rfl, after⟩ := replies
    cases reply with
    | answered answer =>
      rw [run, run, one, other]
      exact ih answer (keeps.2 answer) after
    | crashed payload =>
      rw [run, run, one, other]
      exact ⟨rfl, after⟩
  | emit event next ih => exact ih keeps.2 same
  | sleep ms next ih => exact keeps.elim

end Program.KeepsTo

/-! ### Procedures -/

/-- Whether a procedure keeps to some calls and some events. -/
def Procedure.KeepsTo (calls : Call → Prop) (events : DeployEvent → Prop) (p : Procedure α) : Prop :=
  p.run.KeepsTo calls events

namespace Procedure.KeepsTo

theorem bind {p : Procedure α} {f : α → Procedure β} (first : p.KeepsTo calls events)
    (second : ∀ a, (f a).KeepsTo calls events) : (p >>= f).KeepsTo calls events := by
  rw [KeepsTo, ExceptT.run_bind]
  refine Program.KeepsTo.bind first fun r => ?_
  cases r with
  | error e => trivial
  | ok a => exact second a

theorem pure (a : α) : (pure a : Procedure α).KeepsTo calls events := trivial

theorem throw (e : DeployError) : (throw e : Procedure α).KeepsTo calls events := trivial

theorem ofExcept (r : Except DeployError α) : (ofExcept r).KeepsTo calls events := trivial

theorem ask {c : Call} (allowed : calls c) : (ask c).KeepsTo calls events :=
  ⟨allowed, fun _ => trivial⟩

theorem emit {event : DeployEvent} (allowed : events event) : (emit event).KeepsTo calls events :=
  ⟨allowed, trivial⟩

theorem outcome {p : Procedure α} (keeps : p.KeepsTo calls events) :
    (outcome p).KeepsTo calls events :=
  Program.KeepsTo.bind keeps fun _ => trivial

theorem forM {f : α → Procedure Unit} (each : ∀ a, (f a).KeepsTo calls events) (items : List α) :
    (items.forM f).KeepsTo calls events := by
  induction items with
  | nil => exact pure ()
  | cons a rest ih => exact bind (each a) fun _ => ih

end Procedure.KeepsTo

end FleetDeploy
