import FleetDeploy.Proofs.Program.Calls

/-!
# What a program tells observers

A program that makes calls and waits as it likes can be held to the events that it emits, as
`FleetDeploy.Program.AsksOnly` holds it to its calls. The notion is read off the tree again, and it
is about steps as well as about runs.

* `FleetDeploy.eventsOf_append` and its companions – the events among some steps;
* `FleetDeploy.Program.TellsOnly`, `FleetDeploy.Procedure.TellsOnly` – the notion, with a rule for
  each way of putting programs together;
* `FleetDeploy.Program.TellsOnly.step`, `FleetDeploy.Program.TellsOnly.run` – what is told in one
  step, and in a run.
-/

namespace FleetDeploy

variable {σ α β : Type} {h : Handler σ} {events : DeployEvent → Prop}

/-! ### The events among some steps -/

@[simp] theorem eventsOf_nil : eventsOf [] = [] := rfl

@[simp] theorem eventsOf_append (steps steps' : List Step) :
    eventsOf (steps ++ steps') = eventsOf steps ++ eventsOf steps' :=
  List.filterMap_append

@[simp] theorem eventsOf_reverse (steps : List Step) :
    eventsOf steps.reverse = (eventsOf steps).reverse :=
  List.filterMap_reverse

@[simp] theorem eventsOf_called (c : Call) (reply : Reply c) (steps : List Step) :
    eventsOf (.called c reply :: steps) = eventsOf steps := rfl

@[simp] theorem eventsOf_emitted (event : DeployEvent) (steps : List Step) :
    eventsOf (.emitted event :: steps) = event :: eventsOf steps := rfl

@[simp] theorem eventsOf_slept (ms : Nat) (steps : List Step) :
    eventsOf (.slept ms :: steps) = eventsOf steps := rfl

@[simp] theorem eventsOf_map_emitted {ι : Type} (event : ι → DeployEvent) (items : List ι) :
    eventsOf (items.map fun a => Step.emitted (event a)) = items.map event := by
  rw [eventsOf, List.filterMap_map, ← List.filterMap_eq_map]
  rfl

/-! ### Programs -/

namespace Program

/-- **What a program tells**: whatever it is answered, it emits none but some events. -/
def TellsOnly (events : DeployEvent → Prop) : Program α → Prop
  | .done _ => True
  | .call _ next => ∀ answer, (next answer).TellsOnly events
  | .emit event next => events event ∧ next.TellsOnly events
  | .sleep _ next => next.TellsOnly events

namespace TellsOnly

variable {p : Program α} {w w' : World σ}

theorem bind {f : α → Program β} (first : p.TellsOnly events)
    (second : ∀ a, (f a).TellsOnly events) : (p.bind f).TellsOnly events := by
  induction p with
  | done a => exact second a
  | call c next ih => exact fun answer => ih answer (first answer)
  | emit event next ih => exact ⟨first.1, ih first.2⟩
  | sleep ms next ih => exact ih first

/-- **What is told in one step** is allowed, and so is what is told afterwards. -/
theorem step {progress : Progress α} (tells : p.TellsOnly events)
    (stepped : p.step h w = (progress, w')) :
    (∃ steps, w'.journal = steps ++ w.journal ∧ ∀ event ∈ eventsOf steps, events event) ∧
      ∀ rest, progress = .going rest → rest.TellsOnly events := by
  cases step_cases stepped with
  | done a => exact ⟨⟨[], rfl, by simp⟩, by simp⟩
  | @answered c next answer state replied =>
    refine ⟨⟨[.called c (.answered answer)], rfl, by simp⟩, ?_⟩
    rintro rest ⟨⟩
    exact tells answer
  | @crashed c next payload state replied =>
    exact ⟨⟨[.called c (.crashed payload)], rfl, by simp⟩, by simp⟩
  | emit event next =>
    refine ⟨⟨[.emitted event], rfl, by simpa using tells.1⟩, ?_⟩
    rintro rest ⟨⟩
    exact tells.2
  | sleep ms next =>
    refine ⟨⟨[.slept ms], rfl, by simp⟩, ?_⟩
    rintro rest ⟨⟩
    exact tells

/-- **What is told in a run** is allowed. -/
theorem run {ending : Ending α} (tells : p.TellsOnly events) (ran : p.run h w = (ending, w')) :
    ∃ steps, w'.journal = steps ++ w.journal ∧ ∀ event ∈ eventsOf steps, events event := by
  have told := Program.run_of_steps (h := h) (p := p) (w := w)
    (Q := fun progress v => (∃ steps, v.journal = steps ++ w.journal ∧
      ∀ event ∈ eventsOf steps, events event) ∧
      ∀ rest, progress = .going rest → rest.TellsOnly events)
    (fun {p v progress v'} before stepped => by
      obtain ⟨⟨earlier, journal, allowed⟩, goes_on⟩ := before
      obtain ⟨⟨steps, journal', allowed'⟩, rest⟩ := (goes_on p rfl).step stepped
      refine ⟨⟨steps ++ earlier, by rw [journal', journal, List.append_assoc], ?_⟩, rest⟩
      intro event mem
      rw [eventsOf_append, List.mem_append] at mem
      exact mem.elim (allowed' event) (allowed event))
    ⟨⟨[], rfl, by simp⟩, fun rest going => Progress.going.inj going ▸ tells⟩
  rw [ran] at told
  exact told.1

end TellsOnly

/-- A program that keeps to some events tells no others. -/
theorem KeepsTo.tellsOnly {calls : Call → Prop} {p : Program α} (keeps : p.KeepsTo calls events) :
    p.TellsOnly events := by
  induction p with
  | done a => trivial
  | call c next ih => exact fun answer => ih answer (keeps.2 answer)
  | emit event next ih => exact ⟨keeps.1, ih keeps.2⟩
  | sleep ms next ih => exact keeps.elim

end Program

/-! ### Procedures -/

namespace Procedure

/-- Whether a procedure tells none but some events. -/
def TellsOnly (events : DeployEvent → Prop) (p : Procedure α) : Prop := p.run.TellsOnly events

namespace TellsOnly

theorem bind {p : Procedure α} {f : α → Procedure β} (first : p.TellsOnly events)
    (second : ∀ a, (f a).TellsOnly events) : (p >>= f).TellsOnly events := by
  rw [TellsOnly, ExceptT.run_bind]
  refine Program.TellsOnly.bind first fun r => ?_
  cases r with
  | error e => trivial
  | ok a => exact second a

theorem pure (a : α) : (pure a : Procedure α).TellsOnly events := trivial

theorem throw (e : DeployError) : (throw e : Procedure α).TellsOnly events := trivial

theorem ask (c : Call) : (ask c).TellsOnly events := fun _ => trivial

theorem emit {event : DeployEvent} (allowed : events event) : (emit event).TellsOnly events :=
  ⟨allowed, trivial⟩

theorem pause (ms : Nat) : (pause ms).TellsOnly events := trivial

theorem outcome {p : Procedure α} (tells : p.TellsOnly events) : (outcome p).TellsOnly events :=
  Program.TellsOnly.bind tells fun _ => trivial

end TellsOnly

end Procedure

end FleetDeploy
