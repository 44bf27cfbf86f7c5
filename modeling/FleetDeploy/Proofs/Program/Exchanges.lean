import FleetDeploy.Proofs.Program.Calls

/-!
# What a procedure exchanges with its collaborators

A journal has every step of a run. For what a procedure does to others only its exchanges matter,
the calls with what came of them; what it tells observers and how long it waits does not. So a
procedure is described by a relation between its exchanges, in their order, and its ending, which
has to hold whatever the collaborators reply.

* `FleetDeploy.exchangesOf` – the exchanges among some steps;
* `FleetDeploy.Stop` – the ways in which a procedure ends without a result;
* `FleetDeploy.Program.Yields`, `FleetDeploy.Procedure.Yields` – a relation that the exchanges of
  every run satisfy, with a rule for each way of putting procedures together;
* `FleetDeploy.Program.Yields.run`, `FleetDeploy.Program.Yields.step` – what this says of a run, and
  of what is left after a step.
-/

namespace FleetDeploy

variable {σ α β : Type}

/-! ### Exchanges -/

/-- Whether a step is a call, with what came of it. -/
def Step.isExchange : Step → Bool
  | .called .. => true
  | _ => false

/-- The exchanges among some steps. -/
def exchangesOf (steps : List Step) : List Step := steps.filter (·.isExchange)

@[simp] theorem exchangesOf_nil : exchangesOf [] = [] := rfl

@[simp] theorem exchangesOf_append (steps steps' : List Step) :
    exchangesOf (steps ++ steps') = exchangesOf steps ++ exchangesOf steps' :=
  List.filter_append ..

@[simp] theorem exchangesOf_called (c : Call) (reply : Reply c) (steps : List Step) :
    exchangesOf (.called c reply :: steps) = .called c reply :: exchangesOf steps := rfl

@[simp] theorem exchangesOf_emitted (event : DeployEvent) (steps : List Step) :
    exchangesOf (.emitted event :: steps) = exchangesOf steps := rfl

@[simp] theorem exchangesOf_slept (ms : Nat) (steps : List Step) :
    exchangesOf (.slept ms :: steps) = exchangesOf steps := rfl

/-- The calls among some steps are those of the exchanges. -/
theorem callsOf_exchangesOf (steps : List Step) : callsOf (exchangesOf steps) = callsOf steps := by
  induction steps with
  | nil => rfl
  | cons step rest ih => cases step <;> simp [ih]

/-- **How a procedure ends without a result**: with an error, or with a crash of a collaborator. -/
inductive Stop
  | error (e : DeployError)
  | crash (payload : Option String)

/-- The ending of a procedure that has stopped. -/
def Stop.ending : Stop → Ending (Except DeployError α)
  | .error e => .finished (.error e)
  | .crash payload => .crashed payload

/-- The ending of a procedure that asks, and does nothing else. -/
def Reply.ending {c : Call} : Reply c → Ending (Except DeployError c.Result)
  | .answered answer => .finished answer
  | .crashed payload => .crashed payload

/-! ### Programs -/

namespace Program

/-- **What a program yields**: its exchanges and its ending stand in this relation, whatever the
replies are. -/
def Yields (Q : List Step → Ending α → Prop) : Program α → Prop
  | .done a => Q [] (.finished a)
  | .call c next =>
    (∀ payload, Q [.called c (.crashed payload)] (.crashed payload)) ∧
      ∀ answer, (next answer).Yields fun more => Q (.called c (.answered answer) :: more)
  | .emit _ next => next.Yields Q
  | .sleep _ next => next.Yields Q

/-- What a program that has come so far yields from there. -/
def Progress.Yields (Q : List Step → Ending α → Prop) : Progress α → Prop
  | .going rest => rest.Yields Q
  | .ended ending => Q [] ending

namespace Yields

variable {h : Handler σ} {Q : List Step → Ending α → Prop}

/-- **What a run of it exchanges** stands in the relation to how it ends. -/
theorem run {p : Program α} {w w' : World σ} {ending : Ending α} (yields : p.Yields Q)
    (ran : p.run h w = (ending, w')) :
    ∃ steps, w'.journal = steps ++ w.journal ∧ Q (exchangesOf steps.reverse) ending := by
  induction p generalizing Q w with
  | done a =>
    obtain ⟨rfl, rfl⟩ := Prod.mk.inj ran
    exact ⟨[], rfl, yields⟩
  | call c next ih =>
    rcases replied : h c w.state with ⟨answer | payload, state⟩
    · rw [Program.run, replied] at ran
      obtain ⟨steps, journal, related⟩ := ih answer (yields.2 answer) ran
      exact ⟨steps ++ [.called c (.answered answer)], by simp [journal], by simpa using related⟩
    · rw [Program.run, replied] at ran
      obtain ⟨rfl, rfl⟩ := Prod.mk.inj ran
      exact ⟨[.called c (.crashed payload)], rfl, yields.1 payload⟩
  | emit event next ih =>
    obtain ⟨steps, journal, related⟩ := ih yields ran
    exact ⟨steps ++ [.emitted event], by simp [journal, World.record], by simpa using related⟩
  | sleep ms next ih =>
    obtain ⟨steps, journal, related⟩ := ih yields ran
    exact ⟨steps ++ [.slept ms], by simp [journal, World.record], by simpa using related⟩

/-- **What is left after a step** yields what is missing. -/
theorem step {p : Program α} {progress : Progress α} {w w' : World σ} (yields : p.Yields Q)
    (stepped : p.step h w = (progress, w')) :
    ∃ steps, w'.journal = steps ++ w.journal ∧
      progress.Yields fun more => Q (exchangesOf steps.reverse ++ more) := by
  cases step_cases stepped with
  | done a => exact ⟨[], rfl, yields⟩
  | @answered c next answer state replied =>
    exact ⟨[.called c (.answered answer)], rfl, yields.2 answer⟩
  | @crashed c next payload state replied =>
    exact ⟨[.called c (.crashed payload)], rfl, yields.1 payload⟩
  | emit event next => exact ⟨[.emitted event], rfl, yields⟩
  | sleep ms next => exact ⟨[.slept ms], rfl, yields⟩

theorem mono {p : Program α} {Q' : List Step → Ending α → Prop} (yields : p.Yields Q)
    (weaker : ∀ steps ending, Q steps ending → Q' steps ending) : p.Yields Q' := by
  induction p generalizing Q Q' with
  | done a => exact weaker _ _ yields
  | call c next ih =>
    exact ⟨fun payload => weaker _ _ (yields.1 payload), fun answer =>
      ih answer (yields.2 answer) fun _ _ => weaker _ _⟩
  | emit event next ih => exact ih yields weaker
  | sleep ms next ih => exact ih yields weaker

theorem bind {p : Program α} {f : α → Program β} {R : List Step → Ending β → Prop}
    (first : p.Yields Q)
    (second : ∀ a steps, Q steps (.finished a) → (f a).Yields fun more => R (steps ++ more))
    (crashed : ∀ payload steps, Q steps (.crashed payload) → R steps (.crashed payload)) :
    (p.bind f).Yields R := by
  induction p generalizing Q R with
  | done a => exact second a [] first
  | call c next ih =>
    refine ⟨fun payload => crashed payload _ (first.1 payload), fun answer => ?_⟩
    refine ih answer (first.2 answer) (fun a steps related => second a _ related) ?_
    exact fun payload steps related => crashed payload _ related
  | emit event next ih => exact ih first second crashed
  | sleep ms next ih => exact ih first second crashed

end Yields

end Program

/-! ### Procedures -/

namespace Procedure

/-- What a procedure yields. -/
def Yields (Q : List Step → Ending (Except DeployError α) → Prop) (p : Procedure α) : Prop :=
  p.run.Yields Q

namespace Yields

variable {Q : List Step → Ending (Except DeployError α) → Prop}
  {R : List Step → Ending (Except DeployError β) → Prop}

theorem mono {p : Procedure α} {Q' : List Step → Ending (Except DeployError α) → Prop}
    (yields : p.Yields Q) (weaker : ∀ steps ending, Q steps ending → Q' steps ending) :
    p.Yields Q' :=
  Program.Yields.mono yields weaker

theorem pure {a : α} (related : Q [] (.finished (.ok a))) : (pure a : Procedure α).Yields Q :=
  related

theorem throw {e : DeployError} (related : Q [] (Stop.error e).ending) :
    (throw e : Procedure α).Yields Q :=
  related

theorem ask {c : Call} {Q : List Step → Ending (Except DeployError c.Result) → Prop}
    (related : ∀ reply : Reply c, Q [.called c reply] reply.ending) :
    (Procedure.ask c).Yields Q :=
  ⟨fun payload => related (.crashed payload), fun answer => related (.answered answer)⟩

/-- Of two procedures the second one goes on where the first one has come to a result. -/
theorem bind {p : Procedure α} {f : α → Procedure β} (first : p.Yields Q)
    (second : ∀ a steps, Q steps (.finished (.ok a)) → (f a).Yields fun more => R (steps ++ more))
    (stopped : ∀ (stop : Stop) steps, Q steps stop.ending → R steps stop.ending) :
    (p >>= f).Yields R := by
  refine Program.Yields.bind first ?_ fun payload => stopped (.crash payload)
  rintro (e | a) steps related
  · have ended := stopped (.error e) steps related
    rw [← List.append_nil steps] at ended
    exact ended
  · exact second a steps related

/-- What is asked for first goes on with the answer, or stops there. -/
theorem ask_bind {c : Call} {f : c.Result → Procedure β}
    (answered : ∀ a, (f a).Yields fun more => R (.called c (.answered (.ok a)) :: more))
    (stopped : ∀ (reply : Reply c) (stop : Stop), reply.ending = stop.ending →
      R [.called c reply] stop.ending) :
    (Procedure.ask c >>= f).Yields R := by
  refine bind (Q := fun steps ending => ∃ reply : Reply c, steps = [.called c reply] ∧
    reply.ending = ending) (ask fun reply => ⟨reply, rfl, rfl⟩) ?_ ?_
  · rintro a _ ⟨answer | payload, rfl, ended⟩
    · cases ended
      exact answered a
    · cases ended
  · rintro stop _ ⟨reply, rfl, ended⟩
    exact stopped reply stop ended

theorem emit_bind {event : DeployEvent} {f : Unit → Procedure β} (later : (f ()).Yields R) :
    (Procedure.emit event >>= f).Yields R :=
  later

theorem pause_bind {ms : Nat} {f : Unit → Procedure β} (later : (f ()).Yields R) :
    (Procedure.pause ms >>= f).Yields R :=
  later

/-- A procedure may be looked at as one that is followed by nothing. -/
theorem of_bind_pure {p : Procedure α} (yields : (p >>= Pure.pure).Yields Q) : p.Yields Q := by
  rwa [bind_pure] at yields

end Yields

end Procedure

end FleetDeploy
