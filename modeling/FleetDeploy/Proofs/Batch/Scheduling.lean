import FleetDeploy.Proofs.Batch.Moments
import FleetDeploy.Proofs.Program.Blindness

/-!
# Calls under one schedule

`FleetDeploy.Interleaved` says that units may be interleaved, and not how. To compare two runs one
wants to say that they are interleaved in the same way, and so the schedule is made explicit here:
it is a list of places, and names for every step the unit whose step it is. Nothing is added by that,
since every interleaving goes by some schedule, and with the schedule nothing is left open.

* `FleetDeploy.Scheduled` – units carried out by a schedule, with
  `FleetDeploy.Interleaved.iff_scheduled` and `FleetDeploy.Scheduled.unique`;
* `FleetDeploy.BatchOperation.RunsBy` – whole calls, with
  `FleetDeploy.BatchOperation.runs_iff_runsBy`;
* `FleetDeploy.BatchOperation.CarriesOutBy.congr` – a batch that cannot tell two states apart goes
  the same way in both, by the same schedule.
-/

namespace FleetDeploy

variable {σ ρ : Type}

/-! ### Units -/

/-- **Units carried out by a schedule**, which says whose step is next. -/
inductive Scheduled (h : Handler σ) : List Nat → List Strand → World σ →
    List (Nat × UnitEnding) → List Strand → World σ → Prop
  | settled {strands w} (all : ∀ s ∈ strands, s.HasEnded) : Scheduled h [] strands w [] strands w
  | next {schedule strands w i own p progress steps state arrivals strands' w'}
      (at_i : strands[i]? = some ⟨own, .going p⟩)
      (stepped : p.step h ⟨w.state, []⟩ = (progress, ⟨state, steps⟩))
      (others : Scheduled h schedule (strands.set i ⟨steps ++ own, progress⟩)
        ⟨state, steps ++ w.journal⟩ arrivals strands' w') :
      Scheduled h (i :: schedule) strands w (Strand.report i progress ++ arrivals) strands' w'

section Units

variable {h : Handler σ} {schedule : List Nat} {strands strands' : List Strand} {w w' : World σ}
  {arrivals : List (Nat × UnitEnding)}

theorem Scheduled.interleaved (scheduled : Scheduled h schedule strands w arrivals strands' w') :
    Interleaved h strands w arrivals strands' w' := by
  induction scheduled with
  | settled all => exact .settled all
  | @next _ _ _ _ _ _ progress _ _ _ _ _ at_i stepped others ih =>
    cases progress with
    | going rest => exact .advanced at_i stepped ih
    | ended ending => exact .reported at_i stepped ih

/-- **Every interleaving goes by some schedule**, and every schedule is an interleaving. -/
theorem Interleaved.iff_scheduled :
    Interleaved h strands w arrivals strands' w' ↔
      ∃ schedule, Scheduled h schedule strands w arrivals strands' w' := by
  refine ⟨fun interleaved => ?_, fun ⟨_, scheduled⟩ => scheduled.interleaved⟩
  induction interleaved with
  | settled all => exact ⟨[], .settled all⟩
  | advanced at_i stepped others ih =>
    obtain ⟨schedule, scheduled⟩ := ih
    exact ⟨_, .next at_i stepped scheduled⟩
  | reported at_i stepped others ih =>
    obtain ⟨schedule, scheduled⟩ := ih
    exact ⟨_, .next at_i stepped scheduled⟩

/-- **A schedule leaves nothing open.** -/
theorem Scheduled.unique {arrivals₂ : List (Nat × UnitEnding)} {strands₂ : List Strand}
    {w₂ : World σ} (first : Scheduled h schedule strands w arrivals strands' w')
    (second : Scheduled h schedule strands w arrivals₂ strands₂ w₂) :
    arrivals = arrivals₂ ∧ strands' = strands₂ ∧ w' = w₂ := by
  induction first generalizing arrivals₂ with
  | settled all =>
    cases second with
    | settled all => exact ⟨rfl, rfl, rfl⟩
  | next at_i stepped others ih =>
    cases second with
    | next at_i₂ stepped₂ others₂ =>
      -- The schedule names the unit, and a unit has one step to take.
      obtain ⟨rfl, ⟨⟩⟩ := Strand.mk.inj (Option.some.inj (at_i.symm.trans at_i₂))
      obtain ⟨rfl, same⟩ := Prod.mk.inj (stepped.symm.trans stepped₂)
      obtain ⟨rfl, rfl⟩ := World.mk.inj same
      obtain ⟨rfl, rfl, rfl⟩ := ih others₂
      exact ⟨rfl, rfl, rfl⟩

/-- **Units that are blind** go the same way in worlds that agree, by the same schedule. -/
theorem Scheduled.congr {same : σ → σ → Prop} {v v' : World σ}
    (blind : ∀ s ∈ strands, ∀ p, s.progress = .going p → p.AsksOnly (h.BlindTo same))
    (agree : v.Agrees same w) (scheduled : Scheduled h schedule strands v arrivals strands' v') :
    ∃ w', Scheduled h schedule strands w arrivals strands' w' ∧ v'.Agrees same w' := by
  induction scheduled generalizing w with
  | settled all => exact ⟨w, .settled all, agree⟩
  | @next _ strands v i own p progress steps state _ _ _ at_i stepped others ih =>
    have blind_i : p.AsksOnly (h.BlindTo same) := blind _ (List.mem_of_getElem? at_i) p rfl
    -- The unit whose step it is takes the same step in the other world.
    have alone : (⟨v.state, []⟩ : World σ).Agrees same ⟨w.state, []⟩ := ⟨rfl, agree.state⟩
    obtain ⟨progresses, after⟩ := blind_i.step_congr alone
    rcases stepped' : p.step h ⟨w.state, []⟩ with ⟨progress', state', steps'⟩
    rw [stepped, stepped'] at progresses after
    obtain rfl : progress = progress' := progresses
    obtain rfl : steps = steps' := after.journal
    obtain ⟨w', scheduled', agree'⟩ := ih
      (w := ⟨state', steps ++ w.journal⟩)
      (by
        intro s mem p' going
        rcases List.mem_or_eq_of_mem_set mem with mem | rfl
        · exact blind s mem p' going
        · cases going
          exact blind_i.step stepped)
      ⟨congrArg (steps ++ ·) agree.journal, after.state⟩
    exact ⟨w', .next at_i stepped' scheduled', agree'⟩

end Units

/-! ### Calls -/

namespace BatchOperation

/-- A run of a call up to its conclusion, its units carried out by a schedule. -/
inductive CarriesOutBy (h : Handler σ) (op : BatchOperation ρ) (schedule : List Nat) (w : World σ) :
    Plan → BatchOutcome → World σ → Prop
  | intro {plan w₁ arrivals strands w₂}
      (prepared : op.prepare.run.run h w = (.finished (.ok plan), w₁))
      (scheduled : Scheduled h schedule ((op.units plan).map .ofUnit) w₁ arrivals strands w₂) :
      CarriesOutBy h op schedule w plan (op.joined plan arrivals) w₂

/-- **One way in which a call may go**, its units carried out by a schedule. A call that does not
get past its preparation does not look at the schedule. -/
inductive RunsBy (h : Handler σ) (op : BatchOperation ρ) (schedule : List Nat) (w : World σ) :
    Ending (Except DeployError ρ) → World σ → Prop
  | crashed {payload w'} (prepared : op.prepare.run.run h w = (.crashed payload, w')) :
      RunsBy h op schedule w (.crashed payload) w'
  | refused {e w'} (prepared : op.prepare.run.run h w = (.finished (.error e), w')) :
      RunsBy h op schedule w (.finished (.error e)) w'
  | carriedOut {plan outcome v ending w'} (carried : op.CarriesOutBy h schedule w plan outcome v)
      (concluded : (op.conclude plan outcome).run.run h v = (ending, w')) :
      RunsBy h op schedule w ending w'

section Calls

variable {h : Handler σ} {op : BatchOperation ρ} {schedule : List Nat} {plan : Plan}
  {outcome : BatchOutcome} {ending : Ending (Except DeployError ρ)} {w w' : World σ}

/-- **Every run goes by some schedule**, and what goes by a schedule is a run. -/
theorem runs_iff_runsBy : op.Runs h w ending w' ↔ ∃ schedule, op.RunsBy h schedule w ending w' := by
  constructor
  · intro ran
    cases ran with
    | crashed prepared => exact ⟨[], .crashed prepared⟩
    | refused prepared => exact ⟨[], .refused prepared⟩
    | carriedOut prepared interleaved concluded =>
      obtain ⟨schedule, scheduled⟩ := Interleaved.iff_scheduled.mp interleaved
      exact ⟨schedule, .carriedOut (.intro prepared scheduled) concluded⟩
  · rintro ⟨schedule, ran⟩
    cases ran with
    | crashed prepared => exact .crashed prepared
    | refused prepared => exact .refused prepared
    | carriedOut carried concluded =>
      obtain ⟨prepared, scheduled⟩ := carried
      exact .carriedOut prepared scheduled.interleaved concluded

/-- A call follows one plan under a schedule, with one outcome. -/
theorem CarriesOutBy.unique {plan₂ : Plan} {outcome₂ : BatchOutcome} {w₂ : World σ}
    (first : op.CarriesOutBy h schedule w plan outcome w')
    (second : op.CarriesOutBy h schedule w plan₂ outcome₂ w₂) :
    plan = plan₂ ∧ outcome = outcome₂ ∧ w' = w₂ := by
  obtain ⟨prepared, scheduled⟩ := first
  obtain ⟨prepared₂, scheduled₂⟩ := second
  obtain ⟨⟨⟩, rfl⟩ := Prod.mk.inj (prepared.symm.trans prepared₂)
  obtain ⟨rfl, -, rfl⟩ := scheduled.unique scheduled₂
  exact ⟨rfl, rfl, rfl⟩

/-- **A call that is blind until it concludes**: neither its preparation nor its units can tell
states apart that are the same. -/
structure BlindBefore (h : Handler σ) (same : σ → σ → Prop) (op : BatchOperation ρ) : Prop where
  prepare : op.prepare.AsksOnly (h.BlindTo same)
  body : ∀ item, (op.body item).AsksOnly (h.BlindTo same)

/-- A preparation that is blind comes to the same in worlds that agree. -/
theorem BlindBefore.prepared {same : σ → σ → Prop} {v v' : World σ}
    {ending : Ending (Except DeployError Plan)} (blind : op.BlindBefore h same)
    (agree : v.Agrees same w) (prepared : op.prepare.run.run h v = (ending, v')) :
    ∃ w', op.prepare.run.run h w = (ending, w') ∧ v'.Agrees same w' := by
  obtain ⟨endings, after⟩ := blind.prepare.run_congr agree
  rw [prepared] at endings after
  exact ⟨(op.prepare.run.run h w).2, Prod.ext endings.symm rfl, after⟩

/-- **A call that is blind until it concludes** carries the same plan out with the same outcome in
worlds that agree, by the same schedule. -/
theorem CarriesOutBy.congr {same : σ → σ → Prop} {v v' : World σ} (blind : op.BlindBefore h same)
    (agree : v.Agrees same w) (carried : op.CarriesOutBy h schedule v plan outcome v') :
    ∃ w', op.CarriesOutBy h schedule w plan outcome w' ∧ v'.Agrees same w' := by
  obtain ⟨prepared, scheduled⟩ := carried
  obtain ⟨w₁, prepared', agree₁⟩ := blind.prepared agree prepared
  obtain ⟨w', scheduled', agree'⟩ := scheduled.congr (w := w₁) (by
    intro s mem p going
    obtain ⟨unit, listed, rfl⟩ := List.mem_map.mp mem
    obtain ⟨item, -, rfl⟩ := List.mem_map.mp listed
    obtain rfl := Program.Progress.going.inj going
    exact blind.body item) agree₁
  exact ⟨w', .intro prepared' scheduled', agree'⟩

end Calls

end BatchOperation

end FleetDeploy
