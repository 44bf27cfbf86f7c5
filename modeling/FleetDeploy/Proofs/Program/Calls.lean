import FleetDeploy.Proofs.Program.Conduct

/-!
# What a program asks for

A program that waits, or that tells observers whatever it likes, can still be held to the calls that
it makes. `FleetDeploy.Program.AsksOnly` is the notion, read off the tree as
`FleetDeploy.Program.KeepsTo` is. It is about steps as well as about runs: what a program asks for
next is allowed, and what is left of it after a step asks for nothing else. So it can be followed
through a run that is not yet over, and through one in which others take steps in between.

* `FleetDeploy.Program.AsksOnly`, `FleetDeploy.Procedure.AsksOnly` – the notion, with a rule for
  each way of putting programs together, and `FleetDeploy.Procedure.AsksOnly.ofExcept_bind` for what
  is asked for only where something has been decided;
* `FleetDeploy.Program.next?`, `FleetDeploy.Program.AsksOnly.next` – the call that a program is
  about to make;
* `FleetDeploy.Program.StepsTo`, `FleetDeploy.Program.step_cases` – all that a step can be;
* `FleetDeploy.Program.run_of_step`, `FleetDeploy.Program.run_of_steps`,
  `FleetDeploy.Program.journal_of_step`, `FleetDeploy.Program.state_of_step` – a run step by step;
* `FleetDeploy.Program.AsksOnly.step`, `FleetDeploy.Program.AsksOnly.run`,
  `FleetDeploy.Program.AsksOnly.state`, `FleetDeploy.Program.AsksOnly.crash` – what is left after a
  step, which calls a run makes and what they lead to, and which call it was that crashed.
-/

namespace FleetDeploy

variable {σ α β : Type} {h : Handler σ} {calls calls' : Call → Prop}

/-- A call was made if it stands somewhere among the steps. -/
theorem exists_of_mem_callsOf {steps : List Step} {c : Call} (mem : c ∈ callsOf steps) :
    ∃ later reply earlier, steps = later ++ .called c reply :: earlier := by
  obtain ⟨step, made, call⟩ := List.mem_filterMap.mp mem
  obtain ⟨later, earlier, rfl⟩ := List.append_of_mem made
  cases step with
  | called c' reply =>
    obtain rfl := Option.some.inj call
    exact ⟨later, reply, earlier, rfl⟩
  | _ => cases call

/-! ### Programs -/

namespace Program

/-- **What a program asks for**: whatever it is answered, it makes none but some calls. -/
def AsksOnly (calls : Call → Prop) : Program α → Prop
  | .done _ => True
  | .call c next => calls c ∧ ∀ answer, (next answer).AsksOnly calls
  | .emit _ next => next.AsksOnly calls
  | .sleep _ next => next.AsksOnly calls

/-- The call that a program is about to make, if its next step is a call. -/
def next? : Program α → Option Call
  | .call c _ => some c
  | _ => none

/-! ### One step -/

/-- **All that a step can be**: a program has come to its end, its call is answered or crashes, it
tells observers something, or it waits. -/
inductive StepsTo (h : Handler σ) (w : World σ) : Program α → Progress α → World σ → Prop
  | done (a : α) : StepsTo h w (.done a) (.ended (.finished a)) w
  | answered {c next answer state} (replied : h c w.state = (.answered answer, state)) :
      StepsTo h w (.call c next) (.going (next answer))
        ⟨state, .called c (.answered answer) :: w.journal⟩
  | crashed {c next payload state} (replied : h c w.state = (.crashed payload, state)) :
      StepsTo h w (.call c next) (.ended (.crashed payload))
        ⟨state, .called c (.crashed payload) :: w.journal⟩
  | emit (event : DeployEvent) (next : Program α) :
      StepsTo h w (.emit event next) (.going next) (w.record (.emitted event))
  | sleep (ms : Nat) (next : Program α) :
      StepsTo h w (.sleep ms next) (.going next) (w.record (.slept ms))

section Steps

variable {p : Program α} {w w' : World σ} {progress : Progress α}

theorem step_cases (stepped : p.step h w = (progress, w')) : StepsTo h w p progress w' := by
  cases p with
  | done a =>
    obtain ⟨rfl, rfl⟩ := Prod.mk.inj stepped
    exact .done a
  | call c next =>
    rcases replied : h c w.state with ⟨answer | payload, state⟩
    · simp only [step, replied] at stepped
      obtain ⟨rfl, rfl⟩ := Prod.mk.inj stepped
      exact .answered replied
    · simp only [step, replied] at stepped
      obtain ⟨rfl, rfl⟩ := Prod.mk.inj stepped
      exact .crashed replied
  | emit event next =>
    obtain ⟨rfl, rfl⟩ := Prod.mk.inj stepped
    exact .emit event next
  | sleep ms next =>
    obtain ⟨rfl, rfl⟩ := Prod.mk.inj stepped
    exact .sleep ms next

/-- **The first step of a run**: what the run comes to is what is left after the step comes to. -/
theorem run_of_step (stepped : p.step h w = (progress, w')) :
    p.run h w = match progress with
      | .ended ending => (ending, w')
      | .going rest => rest.run h w' := by
  cases step_cases stepped with
  | done a => rfl
  | answered replied => simp only [run, replied]
  | crashed replied => simp only [run, replied]
  | emit event next => rfl
  | sleep ms next => rfl

/-- **What one step adds to a journal**: nothing, or an entry that is no call but the one that the
program was about to make, with what the collaborators reply to it. -/
theorem journal_of_step (stepped : p.step h w = (progress, w')) :
    w'.journal = w.journal ∨ ∃ step, w'.journal = step :: w.journal ∧
      ∀ c reply, step = .called c reply → p.next? = some c ∧ reply = (h c w.state).1 := by
  cases step_cases stepped with
  | done a => exact Or.inl rfl
  | answered replied =>
    refine Or.inr ⟨_, rfl, ?_⟩
    rintro c reply ⟨⟩
    exact ⟨rfl, by rw [replied]⟩
  | crashed replied =>
    refine Or.inr ⟨_, rfl, ?_⟩
    rintro c reply ⟨⟩
    exact ⟨rfl, by rw [replied]⟩
  | emit event next => exact Or.inr ⟨_, rfl, fun c reply same => by cases same⟩
  | sleep ms next => exact Or.inr ⟨_, rfl, fun c reply same => by cases same⟩

/-- **What one step does to the state**: nothing, or what the call does that the program was about
to make. -/
theorem state_of_step (stepped : p.step h w = (progress, w')) :
    w'.state = w.state ∨ ∃ c, p.next? = some c ∧ w'.state = (h c w.state).2 := by
  cases step_cases stepped with
  | answered replied => exact Or.inr ⟨_, rfl, by rw [replied]⟩
  | crashed replied => exact Or.inr ⟨_, rfl, by rw [replied]⟩
  | _ => exact Or.inl rfl

/-- **A run is its steps**: what holds at the start, and is kept by every step, holds at the end. -/
theorem run_of_steps {Q : Progress α → World σ → Prop}
    (kept : ∀ {p w progress w'}, Q (.going p) w → p.step h w = (progress, w') → Q progress w')
    (start : Q (.going p) w) : Q (.ended (p.run h w).1) (p.run h w).2 := by
  induction p generalizing w with
  | done a => exact kept start rfl
  | call c next ih =>
    rcases replied : h c w.state with ⟨answer | payload, state⟩
    · simp only [run, replied]
      exact ih answer (kept start (by simp only [step, replied]))
    · simp only [run, replied]
      exact kept start (by simp only [step, replied])
  | emit event next ih => exact ih (kept start rfl)
  | sleep ms next ih => exact ih (kept start rfl)

end Steps

namespace AsksOnly

variable {p : Program α}

theorem mono (weaker : ∀ c, calls c → calls' c) (asks : p.AsksOnly calls) : p.AsksOnly calls' := by
  induction p with
  | done a => trivial
  | call c next ih => exact ⟨weaker c asks.1, fun answer => ih answer (asks.2 answer)⟩
  | emit event next ih => exact ih asks
  | sleep ms next ih => exact ih asks

theorem bind {f : α → Program β} (first : p.AsksOnly calls) (second : ∀ a, (f a).AsksOnly calls) :
    (p.bind f).AsksOnly calls := by
  induction p with
  | done a => exact second a
  | call c next ih => exact ⟨first.1, fun answer => ih answer (first.2 answer)⟩
  | emit event next ih => exact ih first
  | sleep ms next ih => exact ih first

/-- What a program is about to ask for is allowed. -/
theorem next {c : Call} (asks : p.AsksOnly calls) (about : p.next? = some c) : calls c := by
  cases p with
  | call c' next =>
    obtain rfl := Option.some.inj about
    exact asks.1
  | _ => cases about

/-- **What is left after a step** asks for nothing else. -/
theorem step {rest : Program α} {w w' : World σ} (asks : p.AsksOnly calls)
    (stepped : p.step h w = (.going rest, w')) : rest.AsksOnly calls := by
  cases step_cases stepped with
  | answered replied => exact asks.2 _
  | emit event next => exact asks
  | sleep ms next => exact asks

/-- **The calls of a run** are among those that the program asks for. -/
theorem run {w w' : World σ} {ending : Ending α} (asks : p.AsksOnly calls)
    (ran : p.run h w = (ending, w')) :
    ∃ steps, w'.journal = steps ++ w.journal ∧ ∀ c ∈ callsOf steps, calls c := by
  induction p generalizing w with
  | done a =>
    obtain ⟨-, rfl⟩ := Prod.mk.inj ran
    exact ⟨[], rfl, fun c mem => absurd mem List.not_mem_nil⟩
  | call c next ih =>
    rcases replied : h c w.state with ⟨answer | payload, state⟩
    · rw [Program.run, replied] at ran
      obtain ⟨steps, journal, made⟩ := ih answer (asks.2 answer) ran
      refine ⟨steps ++ [.called c (.answered answer)], by simp [journal], fun c' mem => ?_⟩
      rw [callsOf_append, List.mem_append] at mem
      rcases mem with mem | mem
      · exact made c' mem
      · rw [List.mem_singleton.mp mem]
        exact asks.1
    · rw [Program.run, replied] at ran
      obtain ⟨-, rfl⟩ := Prod.mk.inj ran
      refine ⟨[.called c (.crashed payload)], rfl, fun c' mem => ?_⟩
      rw [List.mem_singleton.mp mem]
      exact asks.1
  | emit event next ih =>
    obtain ⟨steps, journal, made⟩ := ih asks ran
    exact ⟨steps ++ [.emitted event], by simp [journal, World.record], by simpa using made⟩
  | sleep ms next ih =>
    obtain ⟨steps, journal, made⟩ := ih asks ran
    exact ⟨steps ++ [.slept ms], by simp [journal, World.record], by simpa using made⟩

/-- **The state after a run** is one that the calls may lead to. -/
theorem state {w w' : World σ} {ending : Ending α} (asks : p.AsksOnly calls) (Reach : σ → Prop)
    (kept : ∀ c s, calls c → Reach s → Reach (h c s).2) (ran : p.run h w = (ending, w'))
    (before : Reach w.state) : Reach w'.state := by
  induction p generalizing w with
  | done a =>
    obtain ⟨-, rfl⟩ := Prod.mk.inj ran
    exact before
  | call c next ih =>
    have after : Reach (h c w.state).2 := kept c w.state asks.1 before
    rcases replied : h c w.state with ⟨answer | payload, state⟩
    · rw [replied] at after
      rw [Program.run, replied] at ran
      exact ih answer (asks.2 answer) ran after
    · rw [replied] at after
      rw [Program.run, replied] at ran
      obtain ⟨-, rfl⟩ := Prod.mk.inj ran
      exact after
  | emit event next ih => exact ih asks ran before
  | sleep ms next ih => exact ih asks ran before

/-- **A run that crashes** ends with the call that crashed. -/
theorem crash {w w' : World σ} {payload : Option String} (asks : p.AsksOnly calls)
    (ran : p.run h w = (.crashed payload, w')) :
    ∃ c before, calls c ∧ w'.journal = .called c (.crashed payload) :: before := by
  induction p generalizing w with
  | done a => cases ran
  | call c next ih =>
    rcases replied : h c w.state with ⟨answer | payload', state⟩
    · rw [Program.run, replied] at ran
      exact ih answer (asks.2 answer) ran
    · rw [Program.run, replied] at ran
      obtain ⟨⟨⟩, rfl⟩ := Prod.mk.inj ran
      exact ⟨c, w.journal, asks.1, rfl⟩
  | emit event next ih => exact ih asks ran
  | sleep ms next ih => exact ih asks ran

end AsksOnly

/-- A program that keeps to some calls asks for nothing else. -/
theorem KeepsTo.asksOnly {events : DeployEvent → Prop} {p : Program α}
    (keeps : p.KeepsTo calls events) : p.AsksOnly calls := by
  induction p with
  | done a => trivial
  | call c next ih => exact ⟨keeps.1, fun answer => ih answer (keeps.2 answer)⟩
  | emit event next ih => exact ih keeps.2
  | sleep ms next ih => exact keeps.elim

end Program

/-! ### Procedures -/

namespace Procedure

/-- Whether a procedure makes none but some calls. -/
def AsksOnly (calls : Call → Prop) (p : Procedure α) : Prop := p.run.AsksOnly calls

namespace AsksOnly

theorem mono {p : Procedure α} (weaker : ∀ c, calls c → calls' c) (asks : p.AsksOnly calls) :
    p.AsksOnly calls' :=
  Program.AsksOnly.mono weaker asks

theorem bind {p : Procedure α} {f : α → Procedure β} (first : p.AsksOnly calls)
    (second : ∀ a, (f a).AsksOnly calls) : (p >>= f).AsksOnly calls := by
  rw [AsksOnly, ExceptT.run_bind]
  refine Program.AsksOnly.bind first fun r => ?_
  cases r with
  | error e => trivial
  | ok a => exact second a

/-- What follows on a decision is asked for only where it was decided so. -/
theorem ofExcept_bind {r : Except DeployError α} {f : α → Procedure β}
    (second : ∀ a, r = .ok a → (f a).AsksOnly calls) : (ofExcept r >>= f).AsksOnly calls := by
  cases r with
  | error e => trivial
  | ok a => exact second a rfl

theorem pure (a : α) : (pure a : Procedure α).AsksOnly calls := trivial

theorem throw (e : DeployError) : (throw e : Procedure α).AsksOnly calls := trivial

theorem ofExcept (r : Except DeployError α) : (ofExcept r).AsksOnly calls := trivial

theorem ask {c : Call} (allowed : calls c) : (ask c).AsksOnly calls :=
  ⟨allowed, fun _ => trivial⟩

theorem emit (event : DeployEvent) : (emit event).AsksOnly calls := trivial

theorem pause (ms : Nat) : (pause ms).AsksOnly calls := trivial

theorem outcome {p : Procedure α} (asks : p.AsksOnly calls) : (outcome p).AsksOnly calls :=
  Program.AsksOnly.bind asks fun _ => trivial

theorem forM {f : α → Procedure Unit} {items : List α} (each : ∀ a ∈ items, (f a).AsksOnly calls) :
    (items.forM f).AsksOnly calls := by
  induction items with
  | nil => exact pure ()
  | cons a rest ih =>
    obtain ⟨first, others⟩ := List.forall_mem_cons.mp each
    exact bind first fun _ => ih others

end AsksOnly

theorem KeepsTo.asksOnly {events : DeployEvent → Prop} {p : Procedure α}
    (keeps : p.KeepsTo calls events) : p.AsksOnly calls :=
  Program.KeepsTo.asksOnly keeps

end Procedure

end FleetDeploy
