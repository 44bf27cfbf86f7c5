import FleetDeploy.Program

/-!
# Runs of composed programs

`FleetDeploy.Program.run` is a recursion over the tree of calls, while programs are written with
`do`. This file says what a run makes of each way of putting programs together, so that a run of a
written program can be read off its text and its tree never has to be looked at.

* `FleetDeploy.Program.run_bind`, `FleetDeploy.Procedure.run_bind` – a run of two programs is a run
  of the first and then, from the world it leaves, one of the second;
* `FleetDeploy.Procedure.run_ask` and its companions – a run of a single step;
* `FleetDeploy.Program.run_eq_append` – a run looks at the state of the world alone, and adds to its
  journal without reading it;
* `FleetDeploy.callsOf` – the calls among some steps, as `FleetDeploy.eventsOf` are the events.
-/

namespace FleetDeploy

variable {σ α β : Type} {h : Handler σ}

/-! ### The calls among some steps -/

/-- The call that a step made. -/
def Step.call? : Step → Option Call
  | .called c _ => some c
  | _ => none

/-- The calls among some steps. -/
def callsOf (steps : List Step) : List Call := steps.filterMap (·.call?)

@[simp] theorem callsOf_nil : callsOf [] = [] := rfl

@[simp] theorem callsOf_append (steps steps' : List Step) :
    callsOf (steps ++ steps') = callsOf steps ++ callsOf steps' :=
  List.filterMap_append

@[simp] theorem callsOf_called (c : Call) (reply : Reply c) (steps : List Step) :
    callsOf (.called c reply :: steps) = c :: callsOf steps := rfl

@[simp] theorem callsOf_emitted (event : DeployEvent) (steps : List Step) :
    callsOf (.emitted event :: steps) = callsOf steps := rfl

@[simp] theorem callsOf_slept (ms : Nat) (steps : List Step) :
    callsOf (.slept ms :: steps) = callsOf steps := rfl

namespace Program

/-! ### Programs -/

/-- **A run of two programs**: the second one starts in the world that the first one leaves, and is
not begun where the first one crashes. -/
theorem run_bind (p : Program α) (f : α → Program β) (w : World σ) :
    (p.bind f).run h w =
      match p.run h w with
      | (.finished a, w') => (f a).run h w'
      | (.crashed payload, w') => (.crashed payload, w') := by
  induction p generalizing w with
  | done a => rfl
  | call c next ih =>
    rcases replied : h c w.state with ⟨reply, state⟩
    cases reply with
    | answered answer =>
      simp only [bind, run, replied]
      exact ih answer _
    | crashed payload => simp only [bind, run, replied]
  | emit event next ih => exact ih _
  | sleep ms next ih => exact ih _

@[simp] theorem run_pure (a : α) (w : World σ) : (pure a : Program α).run h w = (.finished a, w) :=
  rfl

/-- **A run looks at the state alone**: what it comes to does not depend on the journal, and its own
steps are put on top of it. -/
theorem run_eq_append (p : Program α) (s : σ) (journal : List Step) :
    p.run h ⟨s, journal⟩ =
      ((p.run h ⟨s, []⟩).1,
        ⟨(p.run h ⟨s, []⟩).2.state, (p.run h ⟨s, []⟩).2.journal ++ journal⟩) := by
  induction p generalizing s journal with
  | done a => rfl
  | call c next ih =>
    rcases replied : h c s with ⟨reply, state⟩
    cases reply with
    | answered answer =>
      simp only [run, replied]
      -- The rest is compared with the same run on no journal at all, once from either side.
      rw [ih answer state (_ :: journal), ih answer state [_]]
      simp
    | crashed payload => simp [run, replied]
  | emit event next ih =>
    simp only [run, World.record]
    rw [ih s (_ :: journal), ih s [_]]
    simp
  | sleep ms next ih =>
    simp only [run, World.record]
    rw [ih s (_ :: journal), ih s [_]]
    simp

end Program

namespace Procedure

/-! ### Procedures -/

theorem run_bind (p : Procedure α) (f : α → Procedure β) (w : World σ) :
    (p >>= f).run.run h w =
      match p.run.run h w with
      | (.finished (.ok a), w') => (f a).run.run h w'
      | (.finished (.error e), w') => (.finished (.error e), w')
      | (.crashed payload, w') => (.crashed payload, w') := by
  rw [ExceptT.run_bind]
  refine (Program.run_bind _ _ w).trans ?_
  rcases p.run.run h w with ⟨(_ | _) | _, w'⟩ <;> rfl

theorem run_bind_of_ok {p : Procedure α} {f : α → Procedure β} {w w' : World σ} {a : α}
    (first : p.run.run h w = (.finished (.ok a), w')) :
    (p >>= f).run.run h w = (f a).run.run h w' := by
  rw [run_bind, first]

theorem run_bind_of_error {p : Procedure α} {f : α → Procedure β} {w w' : World σ}
    {e : DeployError} (first : p.run.run h w = (.finished (.error e), w')) :
    (p >>= f).run.run h w = (.finished (.error e), w') := by
  rw [run_bind, first]

theorem run_bind_of_crashed {p : Procedure α} {f : α → Procedure β} {w w' : World σ}
    {payload : Option String} (first : p.run.run h w = (.crashed payload, w')) :
    (p >>= f).run.run h w = (.crashed payload, w') := by
  rw [run_bind, first]

/-- A procedure in two parts succeeds only if both of them do. -/
theorem run_bind_eq_ok {p : Procedure α} {f : α → Procedure β} {w w' : World σ} {b : β}
    (whole : (p >>= f).run.run h w = (.finished (.ok b), w')) :
    ∃ a w₁, p.run.run h w = (.finished (.ok a), w₁) ∧
      (f a).run.run h w₁ = (.finished (.ok b), w') := by
  rw [run_bind] at whole
  rcases first : p.run.run h w with ⟨(e | a) | payload, w₁⟩
  · rw [first] at whole
    simp at whole
  · rw [first] at whole
    exact ⟨a, w₁, rfl, whole⟩
  · rw [first] at whole
    simp at whole

/-- A procedure in two parts fails in the first of them, or in the second. -/
theorem run_bind_eq_error {p : Procedure α} {f : α → Procedure β} {w w' : World σ}
    {e : DeployError} (whole : (p >>= f).run.run h w = (.finished (.error e), w')) :
    p.run.run h w = (.finished (.error e), w') ∨
      ∃ a w₁, p.run.run h w = (.finished (.ok a), w₁) ∧
        (f a).run.run h w₁ = (.finished (.error e), w') := by
  rw [run_bind] at whole
  rcases first : p.run.run h w with ⟨(e' | a) | payload, w₁⟩
  · rw [first] at whole
    exact Or.inl (by simpa using whole)
  · rw [first] at whole
    exact Or.inr ⟨a, w₁, rfl, whole⟩
  · rw [first] at whole
    simp at whole

/-! ### Single steps -/

@[simp] theorem run_ofExcept (r : Except DeployError α) (w : World σ) :
    (ofExcept r).run.run h w = (.finished r, w) := rfl

@[simp] theorem run_emit (event : DeployEvent) (w : World σ) :
    (emit event).run.run h w = (.finished (.ok ()), w.record (.emitted event)) := rfl

@[simp] theorem run_say (text : String) (w : World σ) :
    (say text).run.run h w = (.finished (.ok ()), w.record (.emitted (.message text))) := rfl

theorem run_forM_emit {ι : Type} (event : ι → DeployEvent) (items : List ι) (w : World σ) :
    (items.forM fun a => emit (event a)).run.run h w =
      (.finished (.ok ()),
        ⟨w.state, (items.map fun a => Step.emitted (event a)).reverse ++ w.journal⟩) := by
  induction items generalizing w with
  | nil => rfl
  | cons a rest ih =>
    rw [List.forM, run_bind_of_ok (run_emit (event a) w), ih]
    simp [World.record]

theorem run_ask {c : Call} {answer : Except DeployError c.Result} {w : World σ} {s : σ}
    (replied : h c w.state = (.answered answer, s)) :
    (ask c).run.run h w =
      (.finished answer, ⟨s, .called c (.answered answer) :: w.journal⟩) := by
  simp only [ask, ExceptT.run_mk, Program.run, replied]

theorem run_ask_of_crashed {c : Call} {payload : Option String} {w : World σ} {s : σ}
    (replied : h c w.state = (.crashed payload, s)) :
    (ask c).run.run h w = (.crashed payload, ⟨s, .called c (.crashed payload) :: w.journal⟩) := by
  simp only [ask, ExceptT.run_mk, Program.run, replied]

/-- Where asking comes to an answer, the answer was given. -/
theorem run_ask_eq {c : Call} {answer : Except DeployError c.Result} {w w' : World σ}
    (asked : (ask c).run.run h w = (.finished answer, w')) :
    ∃ s, h c w.state = (.answered answer, s) ∧
      w' = ⟨s, .called c (.answered answer) :: w.journal⟩ := by
  rcases replied : h c w.state with ⟨answer' | payload, s⟩
  · rw [run_ask replied] at asked
    obtain ⟨⟨⟩, rfl⟩ := Prod.mk.inj asked
    exact ⟨s, rfl, rfl⟩
  · rw [run_ask_of_crashed replied] at asked
    cases asked

/-- A procedure whose failure is a result does not fail. -/
theorem run_outcome (p : Procedure α) (w : World σ) :
    (outcome p).run.run h w =
      match p.run.run h w with
      | (.finished r, w') => (.finished (.ok r), w')
      | (.crashed payload, w') => (.crashed payload, w') := by
  rw [outcome, ExceptT.run_mk, Program.run_bind]
  rcases p.run.run h w with ⟨_ | _, w'⟩ <;> rfl

end Procedure

end FleetDeploy
