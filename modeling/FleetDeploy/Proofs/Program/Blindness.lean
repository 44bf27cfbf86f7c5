import FleetDeploy.Proofs.Program.Calls

/-!
# What a program cannot see

Two states that some calls are answered alike in, and that these calls keep so, are one state to a
program that makes no other calls. It takes the same steps in both, comes to the same ending, and
tells the same. `FleetDeploy.Program.KeepsTo.run_congr` says a part of this of runs; here it is said
of single steps, so that it can be followed through a batch, and of what is written into journals.

* `FleetDeploy.Handler.BlindTo` – calls that cannot tell some states apart;
* `FleetDeploy.World.Agrees` – worlds with one journal and such states;
* `FleetDeploy.Program.AsksOnly.step_congr`, `FleetDeploy.Program.AsksOnly.run_congr` – a step and a
  run of a program that is blind.
-/

namespace FleetDeploy

variable {σ α : Type} {h : Handler σ} {same : σ → σ → Prop}

/-- **A call that cannot tell states apart**: in states that are the same it is answered the same,
and it leads to states that are the same again. -/
def Handler.BlindTo (h : Handler σ) (same : σ → σ → Prop) (c : Call) : Prop :=
  ∀ {s t : σ}, same s t → (h c s).1 = (h c t).1 ∧ same (h c s).2 (h c t).2

/-- **Worlds that agree**: the same was done in them, and their states are the same. -/
structure World.Agrees (same : σ → σ → Prop) (v w : World σ) : Prop where
  journal : v.journal = w.journal
  state : same v.state w.state

namespace World.Agrees

variable {v w : World σ}

theorem record (agree : v.Agrees same w) (step : Step) :
    (v.record step).Agrees same (w.record step) :=
  ⟨congrArg (step :: ·) agree.journal, agree.state⟩

/-- A call that is blind leaves worlds that agree, with its answer in both journals. -/
theorem call {c : Call} {reply : Reply c} {s : σ} (agree : v.Agrees same w)
    (blind : h.BlindTo same c) (replied : h c v.state = (reply, s)) :
    ∃ t, h c w.state = (reply, t) ∧
      Agrees same ⟨s, .called c reply :: v.journal⟩ ⟨t, .called c reply :: w.journal⟩ := by
  obtain ⟨replies, after⟩ := blind agree.state
  rw [replied] at replies after
  exact ⟨(h c w.state).2, Prod.ext replies.symm rfl, congrArg (_ :: ·) agree.journal, after⟩

end World.Agrees

namespace Program.AsksOnly

variable {p : Program α} {v w : World σ}

/-- **A step of a blind program**, in worlds that agree. -/
theorem step_congr (blind : p.AsksOnly (h.BlindTo same)) (agree : v.Agrees same w) :
    (p.step h v).1 = (p.step h w).1 ∧ (p.step h v).2.Agrees same (p.step h w).2 := by
  cases p with
  | done a => exact ⟨rfl, agree⟩
  | call c next =>
    rcases replied : h c v.state with ⟨answer | payload, s⟩
    · obtain ⟨t, replied', after⟩ := agree.call blind.1 replied
      simp only [Program.step, replied, replied']
      exact ⟨trivial, after⟩
    · obtain ⟨t, replied', after⟩ := agree.call blind.1 replied
      simp only [Program.step, replied, replied']
      exact ⟨trivial, after⟩
  | emit event next => exact ⟨rfl, agree.record _⟩
  | sleep ms next => exact ⟨rfl, agree.record _⟩

/-- **A run of a blind program**, in worlds that agree. -/
theorem run_congr (blind : p.AsksOnly (h.BlindTo same)) (agree : v.Agrees same w) :
    (p.run h v).1 = (p.run h w).1 ∧ (p.run h v).2.Agrees same (p.run h w).2 := by
  induction p generalizing v w with
  | done a => exact ⟨rfl, agree⟩
  | call c next ih =>
    rcases replied : h c v.state with ⟨answer | payload, s⟩
    · obtain ⟨t, replied', after⟩ := agree.call blind.1 replied
      simp only [Program.run, replied, replied']
      exact ih answer (blind.2 answer) after
    · obtain ⟨t, replied', after⟩ := agree.call blind.1 replied
      simp only [Program.run, replied, replied']
      exact ⟨trivial, after⟩
  | emit event next ih => exact ih blind (agree.record _)
  | sleep ms next ih => exact ih blind (agree.record _)

end Program.AsksOnly

end FleetDeploy
