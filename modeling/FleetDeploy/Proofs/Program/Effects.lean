import FleetDeploy.Proofs.Fleet.Effects
import FleetDeploy.Proofs.Program.Calls

/-!
# What a program does to one service

A program over a fleet in memory may be stopped at by others between any two of its steps, so what it
does is said here of its tree, as `FleetDeploy.Program.AsksOnly` says what it asks for. The notion is
about one service at a time: from what is running of the service now, and whatever the collaborators
answer as far as they can (`FleetDeploy.Call.Affects`), every call alters what is running in a way
that is allowed, and every ending leaves something behind that is allowed for that ending.

* `FleetDeploy.Program.Treats`, `FleetDeploy.Procedure.Treats` – the notion, with a rule for each way
  of putting programs together that is needed here;
* `FleetDeploy.Program.Treats.step`, `FleetDeploy.Program.Treats.run` – a step keeps it, and so a
  run comes to an end that is allowed; `FleetDeploy.Program.affects_of_step` – a step that makes a
  call;
* `FleetDeploy.Program.AsksOnly.treats`, `FleetDeploy.Program.AsksOnly.running?_step` – programs
  that change no service of that name, and programs of which only the calls are known.
-/

namespace FleetDeploy

variable {α β : Type} {service : ServiceName} {now now' : Option RunningService}
  {R R' : Option RunningService → Option RunningService → Prop}

/-! ### Programs -/

namespace Program

variable {Q Q' : Ending α → Option RunningService → Prop} {p : Program α} {w w' : World Fleet}

/-- **What a program does to a service**: from what is running `now`, every call alters it as `R`
allows, and every ending comes with something that `Q` allows. -/
def Treats (service : ServiceName) (R : Option RunningService → Option RunningService → Prop)
    (Q : Ending α → Option RunningService → Prop) : Program α → Option RunningService → Prop
  | .done a, now => Q (.finished a) now
  | .call c next, now => ∀ reply now', c.Affects service reply now now' → R now now' ∧
    match reply with
    | .answered answer => (next answer).Treats service R Q now'
    | .crashed payload => Q (.crashed payload) now'
  | .emit _ next, now => next.Treats service R Q now
  | .sleep _ next, now => next.Treats service R Q now

/-- What a program that has come so far does to a service. -/
def Progress.Treats (service : ServiceName)
    (R : Option RunningService → Option RunningService → Prop)
    (Q : Ending α → Option RunningService → Prop) : Progress α → Option RunningService → Prop
  | .ended ending, now => Q ending now
  | .going rest, now => rest.Treats service R Q now

namespace Treats

theorem mono (alters : ∀ {now now'}, R now now' → R' now now')
    (ends : ∀ {ending now}, Q ending now → Q' ending now) (treats : p.Treats service R Q now) :
    p.Treats service R' Q' now := by
  induction p generalizing now with
  | done a => exact ends treats
  | call c next ih =>
    intro reply now' affects
    obtain ⟨altered, rest⟩ := treats reply now' affects
    refine ⟨alters altered, ?_⟩
    cases reply with
    | answered answer => exact ih answer rest
    | crashed payload => exact ends rest
  | emit event next ih => exact ih treats
  | sleep ms next ih => exact ih treats

/-- A program in two parts: where the first part ends, the second one goes on. -/
theorem bind {f : α → Program β} {Q : Ending β → Option RunningService → Prop}
    (treats : p.Treats service R
      (fun
        | .finished a, now => (f a).Treats service R Q now
        | .crashed payload, now => Q (.crashed payload) now) now) :
    (p.bind f).Treats service R Q now := by
  -- By induction on the first part: where it ends, its own ending is the claim on the second one.
  induction p generalizing now with
  | done a => exact treats
  | call c next ih =>
    intro reply now' affects
    obtain ⟨altered, rest⟩ := treats reply now' affects
    refine ⟨altered, ?_⟩
    cases reply with
    | answered answer => exact ih answer rest
    | crashed payload => exact rest
  | emit event next ih => exact ih treats
  | sleep ms next ih => exact ih treats

/-- **A step** alters what is running as it is allowed to, or not at all, and leaves a program that
does as it is allowed to. -/
theorem step {progress : Progress α}
    (treats : p.Treats service R Q (w.state.infrastructure.running? service))
    (stepped : p.step Fleet.respond w = (progress, w')) :
    (R (w.state.infrastructure.running? service) (w'.state.infrastructure.running? service) ∨
      w'.state.infrastructure.running? service = w.state.infrastructure.running? service) ∧
    progress.Treats service R Q (w'.state.infrastructure.running? service) := by
  -- Only a call changes anything, and then as its reply says.
  cases step_cases stepped with
  | done a => exact ⟨Or.inr rfl, treats⟩
  | @answered c next answer state replied =>
    have affects := w.state.affects service c
    rw [replied] at affects
    obtain ⟨altered, rest⟩ := treats _ _ affects
    exact ⟨Or.inl altered, rest⟩
  | @crashed c next payload state replied =>
    have affects := w.state.affects service c
    rw [replied] at affects
    obtain ⟨altered, rest⟩ := treats _ _ affects
    exact ⟨Or.inl altered, rest⟩
  | emit event next => exact ⟨Or.inr rfl, treats⟩
  | sleep ms next => exact ⟨Or.inr rfl, treats⟩

/-- **A run** comes to an end that is allowed. -/
theorem run {ending : Ending α}
    (treats : p.Treats service R Q (w.state.infrastructure.running? service))
    (ran : p.run Fleet.respond w = (ending, w')) :
    Q ending (w'.state.infrastructure.running? service) := by
  have kept := Program.run_of_steps (h := Fleet.respond) (p := p) (w := w)
    (Q := fun progress v => progress.Treats service R Q (v.state.infrastructure.running? service))
    (fun treats stepped => (Treats.step treats stepped).2) treats
  rwa [ran] at kept

end Treats

/-- **A step that makes a call** does to a service what the call may do to it. -/
theorem affects_of_step {progress : Progress α} {c : Call} {reply : Reply c}
    (stepped : p.step Fleet.respond w = (progress, w'))
    (made : w'.journal = .called c reply :: w.journal) (service : ServiceName) :
    c.Affects service reply (w.state.infrastructure.running? service)
      (w'.state.infrastructure.running? service) := by
  cases step_cases stepped with
  | done a => exact absurd made.symm (List.cons_ne_self _ _)
  | @answered c' next answer state replied =>
    have affects := w.state.affects service c'
    cases (List.cons.inj made).1
    rwa [replied] at affects
  | @crashed c' next payload state replied =>
    have affects := w.state.affects service c'
    cases (List.cons.inj made).1
    rwa [replied] at affects
  | emit event next => cases (List.cons.inj made).1
  | sleep ms next => cases (List.cons.inj made).1

namespace AsksOnly

variable {calls : Call → Prop}

/-- What the calls of a program may do to a service, the program may do. -/
theorem treats (asks : p.AsksOnly calls)
    (alters : ∀ {c reply now now'}, calls c → c.Affects service reply now now' → R now now') :
    p.Treats service R (fun _ _ => True) now := by
  induction p generalizing now with
  | done a => trivial
  | call c next ih =>
    intro reply now' affects
    refine ⟨alters asks.1 affects, ?_⟩
    cases reply with
    | answered answer => exact ih answer (asks.2 answer)
    | crashed payload => trivial
  | emit event next ih => exact ih asks
  | sleep ms next ih => exact ih asks

/-- A program that does not ask for a change of a service leaves it as it is. -/
theorem treats_of_ne (asks : p.AsksOnly fun c => c.changed? ≠ some service) (same : R now now)
    (ends : ∀ ending, Q ending now) : p.Treats service R Q now := by
  induction p with
  | done a => exact ends _
  | call c next ih =>
    intro reply now' affects
    obtain rfl := affects.eq_of_ne asks.1
    refine ⟨same, ?_⟩
    cases reply with
    | answered answer => exact ih answer (asks.2 answer)
    | crashed payload => exact ends _
  | emit event next ih => exact ih asks
  | sleep ms next ih => exact ih asks

/-- A program that asks for no change at all leaves every service as it is, and does not crash. -/
theorem treats_of_none (asks : p.AsksOnly fun c => c.changed? = none) (same : R now now)
    (ends : ∀ a, Q (.finished a) now) : p.Treats service R Q now := by
  induction p with
  | done a => exact ends a
  | call c next ih =>
    intro reply now' affects
    obtain rfl := affects.eq_of_ne (by rw [asks.1]; exact nofun)
    refine ⟨same, ?_⟩
    cases reply with
    | answered answer => exact ih answer (asks.2 answer)
    | crashed payload => exact absurd affects (Call.Affects.not_crashed asks.1)
  | emit event next ih => exact ih asks
  | sleep ms next ih => exact ih asks

/-- No step of a program that asks for no change of a service changes it. -/
theorem running?_step {progress : Progress α} (asks : p.AsksOnly fun c => c.changed? ≠ some service)
    (stepped : p.step Fleet.respond w = (progress, w')) :
    w'.state.infrastructure.running? service = w.state.infrastructure.running? service := by
  obtain ⟨altered | same, -⟩ :=
    (asks.treats_of_ne (R := fun now now' => now' = now) (Q := fun _ _ => True) rfl
      fun _ => trivial).step stepped
  · exact altered
  · exact same

end AsksOnly

end Program

/-! ### Procedures -/

namespace Procedure

variable {p : Procedure α} {Q Q' : Ending (Except DeployError α) → Option RunningService → Prop}

/-- What a procedure does to a service. -/
def Treats (service : ServiceName) (R : Option RunningService → Option RunningService → Prop)
    (Q : Ending (Except DeployError α) → Option RunningService → Prop) (p : Procedure α)
    (now : Option RunningService) : Prop :=
  p.run.Treats service R Q now

/-- What has to hold where a procedure ends that is to be gone on with: if it has come to a result,
what follows on it is treated, and otherwise the whole has ended. -/
def GoesOn (service : ServiceName) (R : Option RunningService → Option RunningService → Prop)
    (Q : Ending (Except DeployError β) → Option RunningService → Prop) (f : α → Procedure β) :
    Ending (Except DeployError α) → Option RunningService → Prop
  | .finished (.ok a), now => (f a).Treats service R Q now
  | .finished (.error e), now => Q (.finished (.error e)) now
  | .crashed payload, now => Q (.crashed payload) now

namespace Treats

theorem mono (alters : ∀ {now now'}, R now now' → R' now now')
    (ends : ∀ {ending now}, Q ending now → Q' ending now) (treats : p.Treats service R Q now) :
    p.Treats service R' Q' now :=
  Program.Treats.mono alters ends treats

theorem bind {f : α → Procedure β}
    {Q : Ending (Except DeployError β) → Option RunningService → Prop}
    (treats : p.Treats service R (GoesOn service R Q f) now) :
    (p >>= f).Treats service R Q now := by
  rw [Treats, ExceptT.run_bind]
  -- A failure of the first part ends the whole, as a crash does.
  refine Program.Treats.bind (Program.Treats.mono id (fun {ending now} goes_on => ?_) treats)
  rcases ending with (e | a) | payload
  · exact goes_on
  · exact goes_on
  · exact goes_on

/-- A procedure that asks for no change at all. -/
theorem of_none (asks : p.AsksOnly fun c => c.changed? = none) (same : R now now)
    (ends : ∀ r, Q (.finished r) now) : p.Treats service R Q now :=
  Program.AsksOnly.treats_of_none asks same ends

theorem emit_bind {event : DeployEvent} {f : Unit → Procedure β}
    {Q : Ending (Except DeployError β) → Option RunningService → Prop}
    (treats : (f ()).Treats service R Q now) :
    (Procedure.emit event >>= f).Treats service R Q now :=
  bind treats

/-- Telling observers of some items, one after the other. -/
theorem forM_emit_bind {ι : Type} {event : ι → DeployEvent} {items : List ι}
    {f : Unit → Procedure β} {Q : Ending (Except DeployError β) → Option RunningService → Prop}
    (treats : (f ()).Treats service R Q now) :
    (items.forM (fun a => Procedure.emit (event a)) >>= f).Treats service R Q now := by
  induction items with
  | nil => exact treats
  | cons a rest ih =>
    rw [List.forM, bind_assoc]
    exact emit_bind ih

/-- A call, with what may come of it. -/
theorem ask {c : Call} {Q : Ending (Except DeployError c.Result) → Option RunningService → Prop}
    (each : ∀ {reply now'}, c.Affects service reply now now' → R now now' ∧
      match reply with
      | .answered answer => Q (.finished answer) now'
      | .crashed payload => Q (.crashed payload) now') :
    (Procedure.ask c).Treats service R Q now := by
  intro reply now' affects
  obtain ⟨altered, ends⟩ := each affects
  refine ⟨altered, ?_⟩
  cases reply with
  | answered answer => exact ends
  | crashed payload => exact ends

/-- A procedure whose failure is a result. -/
theorem outcome {Q : Ending (Except DeployError (Except DeployError α)) →
      Option RunningService → Prop}
    (treats : p.Treats service R
      (fun
        | .finished r, now => Q (.finished (.ok r)) now
        | .crashed payload, now => Q (.crashed payload) now) now) :
    (Procedure.outcome p).Treats service R Q now := by
  refine Program.Treats.bind (Program.Treats.mono id (fun {ending now} ends => ?_) treats)
  cases ending with
  | finished r => exact ends
  | crashed payload => exact ends

end Treats

end Procedure

end FleetDeploy
