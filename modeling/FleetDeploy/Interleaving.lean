import FleetDeploy.Batch

/-!
# Interleavings of a batch

The units of a batch are carried out side by side. Each of them takes one step at a time, and which
one is next is left to the machine; a unit reports when it has ended, and the batch is over when all
have. So there are many ways in which one batch may go. They are the members of two relations.

* `Interleaved` – from the units as they are begun to the reports in the order in which they
  arrive, with what each unit did on its own and what all of them did to the world;
* `BatchOperation.Runs` – a whole call, from its preparation to its conclusion.

`Batch.runInOrder` is one of the schedules (`BatchOperation.runs_run`), so that what holds of every
run of a call holds of the one that is computed.
-/

namespace FleetDeploy

variable {σ ρ : Type}

/-! ### Units on their way -/

/-- A unit on its way: what it has done, the latest step first, and how far it has come. -/
structure Strand where
  journal : List Step := []
  progress : Program.Progress (Except DeployError Unit)

namespace Strand

/-- A unit as it is begun. -/
def ofUnit (u : WorkUnit) : Strand := { progress := .going u.body.run }

/-- Whether a unit has ended. -/
def HasEnded (s : Strand) : Prop := ∃ ending, s.progress = .ended ending

end Strand

/-- One way in which units may be carried out: from some strands and a world to the reports that
arrive, the strands when all have ended, and the world then. -/
inductive Interleaved (h : Handler σ) :
    List Strand → World σ → List (Nat × UnitEnding) → List Strand → World σ → Prop
  /-- All units have ended. -/
  | settled {strands w} (all : ∀ s ∈ strands, s.HasEnded) : Interleaved h strands w [] strands w
  /-- Some unit takes a step and goes on. -/
  | advanced {strands w i own p rest steps state arrivals strands' w'}
      (at_i : strands[i]? = some ⟨own, .going p⟩)
      (step : p.step h ⟨w.state, []⟩ = (.going rest, ⟨state, steps⟩))
      (others : Interleaved h (strands.set i ⟨steps ++ own, .going rest⟩)
        ⟨state, steps ++ w.journal⟩ arrivals strands' w') :
      Interleaved h strands w arrivals strands' w'
  /-- Some unit ends, and its report arrives. -/
  | reported {strands w i own p ending steps state arrivals strands' w'}
      (at_i : strands[i]? = some ⟨own, .going p⟩)
      (step : p.step h ⟨w.state, []⟩ = (.ended ending, ⟨state, steps⟩))
      (others : Interleaved h (strands.set i ⟨steps ++ own, .ended ending⟩)
        ⟨state, steps ++ w.journal⟩ arrivals strands' w') :
      Interleaved h strands w ((i, ending) :: arrivals) strands' w'

/-! ### Whole calls -/

/-- One way in which a call may go, its units interleaved in whichever way. -/
inductive BatchOperation.Runs (h : Handler σ) (op : BatchOperation ρ) (w : World σ) :
    Ending (Except DeployError ρ) → World σ → Prop
  /-- A collaborator crashes while the call is prepared. -/
  | crashed {payload w'} (prepared : op.prepare.run.run h w = (.crashed payload, w')) :
      op.Runs h w (.crashed payload) w'
  /-- The preparation fails, and nothing is begun. -/
  | refused {e w'} (prepared : op.prepare.run.run h w = (.finished (.error e), w')) :
      op.Runs h w (.finished (.error e)) w'
  /-- The plan is carried out, and the call concludes from what arrived. -/
  | carriedOut {plan w₁ arrivals strands w₂ ending w₃}
      (prepared : op.prepare.run.run h w = (.finished (.ok plan), w₁))
      (interleaved : Interleaved h ((op.units plan).map .ofUnit) w₁ arrivals strands w₂)
      (concluded :
        (op.conclude plan (.collect ((op.units plan).map (·.service)) arrivals)).run.run h w₂ =
          (ending, w₃)) :
      op.Runs h w ending w₃

/-! ### One after the other -/

/-- A unit may be carried out to its end without a break. -/
theorem Interleaved.of_run {h : Handler σ} (p : Program (Except DeployError Unit))
    (strands : List Strand) (i : Nat) (own : List Step) (w : World σ)
    (at_i : strands[i]? = some ⟨own, .going p⟩) :
    ∃ own', ∀ arrivals strands' w',
      Interleaved h (strands.set i ⟨own', .ended (p.run h w).1⟩) (p.run h w).2 arrivals strands' w' →
        Interleaved h strands w ((i, (p.run h w).1) :: arrivals) strands' w' := by
  -- What is left of a unit can be put in its place.
  have placed {l : List Strand} {s s' : Strand} (at_i : l[i]? = some s) :
      (l.set i s')[i]? = some s' :=
    List.getElem?_set_self (List.getElem?_eq_some_iff.1 at_i).1
  induction p generalizing strands own w with
  | done a => exact ⟨own, fun _ _ _ others => .reported at_i rfl others⟩
  | call c next ih =>
    rcases answered : h c w.state with ⟨reply, state⟩
    cases reply with
    | answered answer =>
      obtain ⟨own', continues⟩ := ih answer
        (strands.set i ⟨[.called c (.answered answer)] ++ own, .going (next answer)⟩) _
        ⟨state, .called c (.answered answer) :: w.journal⟩ (placed at_i)
      refine ⟨own', fun arrivals strands' w' others => ?_⟩
      rw [Program.run, answered] at others ⊢
      rw [List.set_set] at continues
      exact .advanced at_i (by rw [Program.step]; simp only [answered])
        (continues arrivals strands' w' others)
    | crashed payload =>
      refine ⟨[.called c (.crashed payload)] ++ own, fun arrivals strands' w' others => ?_⟩
      rw [Program.run, answered] at others ⊢
      exact .reported at_i (by rw [Program.step]; simp only [answered]) others
  | emit event next ih =>
    obtain ⟨own', continues⟩ := ih (strands.set i ⟨[.emitted event] ++ own, .going next⟩) _
      (w.record (.emitted event)) (placed at_i)
    refine ⟨own', fun arrivals strands' w' others => ?_⟩
    rw [Program.run] at others ⊢
    rw [List.set_set] at continues
    exact .advanced at_i rfl (continues arrivals strands' w' others)
  | sleep ms next ih =>
    obtain ⟨own', continues⟩ := ih (strands.set i ⟨[.slept ms] ++ own, .going next⟩) _
      (w.record (.slept ms)) (placed at_i)
    refine ⟨own', fun arrivals strands' w' others => ?_⟩
    rw [Program.run] at others ⊢
    rw [List.set_set] at continues
    exact .advanced at_i rfl (continues arrivals strands' w' others)

/-- The endings of some units as reports, the first of which is in place `start`. -/
def Batch.reportsFrom (start : Nat) (endings : List UnitEnding) : List (Nat × UnitEnding) :=
  (endings.zipIdx start).map fun (e, i) => (i, e)

/-- Units may be carried out one after the other, behind some that have ended. -/
theorem Interleaved.of_runInOrder (h : Handler σ) (units : List WorkUnit) (w : World σ)
    (before : List Strand) (ended : ∀ s ∈ before, s.HasEnded) :
    ∃ strands, Interleaved h (before ++ units.map .ofUnit) w
      (Batch.reportsFrom before.length (Batch.runInOrder h units w).1) strands
      (Batch.runInOrder h units w).2 := by
  induction units generalizing before w with
  | nil => exact ⟨before, by simpa [Batch.reportsFrom, Batch.runInOrder] using .settled ended⟩
  | cons u rest ih =>
    have at_u : (before ++ (u :: rest).map .ofUnit)[before.length]? =
        some ⟨[], .going u.body.run⟩ := by simp [Strand.ofUnit]
    obtain ⟨own', continues⟩ := Interleaved.of_run u.body.run _ _ _ w at_u
    obtain ⟨strands, others⟩ := ih (u.body.run.run h w).2
      (before ++ [⟨own', .ended (u.body.run.run h w).1⟩])
      (by
        intro s mem
        rcases List.mem_append.1 mem with mem | mem
        · exact ended s mem
        · rw [List.mem_singleton.1 mem]
          exact ⟨_, rfl⟩)
    refine ⟨strands, ?_⟩
    have := continues
      (Batch.reportsFrom (before.length + 1)
        (Batch.runInOrder h rest (u.body.run.run h w).2).1) strands
      (Batch.runInOrder h rest (u.body.run.run h w).2).2 (by simpa using others)
    simpa [Batch.reportsFrom, Batch.runInOrder] using this

/-- **The run that is computed is one of the runs.** -/
theorem BatchOperation.runs_run (h : Handler σ) (op : BatchOperation ρ) (w : World σ) :
    op.Runs h w (op.run h w).1 (op.run h w).2 := by
  rcases prepared : op.prepare.run.run h w with ⟨ending, w₁⟩
  rw [BatchOperation.run, prepared]
  cases ending with
  | crashed payload => exact .crashed prepared
  | finished r =>
    cases r with
    | error e => exact .refused prepared
    | ok plan =>
      obtain ⟨strands, interleaved⟩ :=
        Interleaved.of_runInOrder h (op.units plan) w₁ [] (by simp)
      exact .carriedOut prepared interleaved rfl

end FleetDeploy
