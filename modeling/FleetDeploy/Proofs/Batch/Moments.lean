import FleetDeploy.Proofs.Batch.Alone
import FleetDeploy.Proofs.Program.Calls

/-!
# The moments of a call

Where a call may end is told by `FleetDeploy.BatchOperation.Runs`. What has happened by the time
that it does something, or by the time that it is broken off, is not told there. For that a call is
taken apart into moments here: it is being prepared, its units are on their way, it concludes, or it
is over; and it moves from one moment to the next by one step of one program, or by joining its
units when all of them have ended. The moments that are reached last are the ends of runs
(`FleetDeploy.BatchOperation.runs_iff_reaches`), so that nothing is added and nothing is left out.

The load-bearing fact is `FleetDeploy.BatchOperation.Reaches.asked`: for every call in a journal
there is the moment at which it was made, with what was in the journal by then and what was replied.
What may be asked for at a moment is a matter of its phase, and is read off the text of the operation
(`FleetDeploy.BatchOperation.Conduct`).

* `FleetDeploy.Moment`, `FleetDeploy.BatchOperation.Moves`, `FleetDeploy.BatchOperation.Reaches` –
  the moments of a call, one step, and any number of steps;
* `FleetDeploy.Moment.Stands` – what a moment has to do with the runs of a call: the invariant;
* `FleetDeploy.Moment.Asks`, `FleetDeploy.BatchOperation.Conduct` – what is asked for, phase by
  phase;
* `FleetDeploy.BatchOperation.Reaches.state` – what is kept by every call that is asked for;
* `FleetDeploy.BatchOperation.Reaches.joined`, `FleetDeploy.BatchOperation.Reaches.since_plan` –
  what lies behind a call that concludes, and behind one whose units are on their way.
-/

namespace FleetDeploy

variable {σ ρ : Type} {h : Handler σ}

/-! ### Moments -/

/-- How far a call has come. -/
inductive Moment (ρ : Type)
  /-- It is being prepared, and this is what is left to prepare. -/
  | preparing (rest : Program (Except DeployError Plan))
  /-- Its units are on their way, and these reports have arrived. -/
  | carryingOut (plan : Plan) (strands : List Strand) (arrivals : List (Nat × UnitEnding))
  /-- Its units have been joined, and this is what is left to conclude. -/
  | concluding (plan : Plan) (outcome : BatchOutcome) (rest : Program (Except DeployError ρ))
  /-- It is over. -/
  | closed (ending : Ending (Except DeployError ρ))

namespace Moment

/-- The moment after a step of the preparation: with a plan the units are begun. -/
def afterPreparing (op : BatchOperation ρ) : Program.Progress (Except DeployError Plan) → Moment ρ
  | .going rest => .preparing rest
  | .ended (.finished (.ok plan)) => .carryingOut plan ((op.units plan).map .ofUnit) []
  | .ended (.finished (.error e)) => .closed (.finished (.error e))
  | .ended (.crashed payload) => .closed (.crashed payload)

/-- The moment after a step of the conclusion. -/
def afterConcluding (plan : Plan) (outcome : BatchOutcome) :
    Program.Progress (Except DeployError ρ) → Moment ρ
  | .going rest => .concluding plan outcome rest
  | .ended ending => .closed ending

end Moment

/-- What arrives from the unit in some place that has come so far. -/
def Strand.report (i : Nat) : Program.Progress (Except DeployError Unit) → List (Nat × UnitEnding)
  | .going _ => []
  | .ended ending => [(i, ending)]

namespace BatchOperation

/-- The outcome of a batch whose reports have arrived. -/
def joined (op : BatchOperation ρ) (plan : Plan) (arrivals : List (Nat × UnitEnding)) :
    BatchOutcome :=
  .collect ((op.units plan).map (·.service)) arrivals

/-- **One step of a call.** -/
inductive Moves (h : Handler σ) (op : BatchOperation ρ) :
    Moment ρ → World σ → Moment ρ → World σ → Prop
  | prepare {p w progress w'} (stepped : p.step h w = (progress, w')) :
      Moves h op (.preparing p) w (.afterPreparing op progress) w'
  | work {plan strands arrivals w i own p progress steps state}
      (at_i : strands[i]? = some ⟨own, .going p⟩)
      (stepped : p.step h ⟨w.state, []⟩ = (progress, ⟨state, steps⟩)) :
      Moves h op (.carryingOut plan strands arrivals) w
        (.carryingOut plan (strands.set i ⟨steps ++ own, progress⟩)
          (arrivals ++ Strand.report i progress))
        ⟨state, steps ++ w.journal⟩
  | join {plan strands arrivals w} (all : ∀ s ∈ strands, s.HasEnded) :
      Moves h op (.carryingOut plan strands arrivals) w
        (.concluding plan (op.joined plan arrivals)
          (op.conclude plan (op.joined plan arrivals)).run)
        w
  | conclude {plan outcome p w progress w'} (stepped : p.step h w = (progress, w')) :
      Moves h op (.concluding plan outcome p) w (.afterConcluding plan outcome progress) w'

/-- **The moments that a call reaches** from a world. -/
inductive Reaches (h : Handler σ) (op : BatchOperation ρ) (w : World σ) : Moment ρ → World σ → Prop
  | start : Reaches h op w (.preparing op.prepare.run) w
  | move {m v m' v'} (so_far : Reaches h op w m v) (moves : op.Moves h m v m' v') :
      Reaches h op w m' v'

variable {op : BatchOperation ρ} {w v v' : World σ} {m m' : Moment ρ} {plan : Plan}
  {strands strands' : List Strand} {arrivals : List (Nat × UnitEnding)}

/-! ### Runs reach their ends -/

/-- A preparation is carried out to its end. -/
theorem Reaches.prepared {p : Program (Except DeployError Plan)}
    (so_far : op.Reaches h w (.preparing p) v) :
    op.Reaches h w (.afterPreparing op (.ended (p.run h v).1)) (p.run h v).2 :=
  Program.run_of_steps (Q := fun progress v => op.Reaches h w (.afterPreparing op progress) v)
    (fun so_far stepped => so_far.move (.prepare stepped)) so_far

/-- A call prepares to the end. -/
theorem reaches_prepared :
    op.Reaches h w (.afterPreparing op (.ended (op.prepare.run.run h w).1))
      (op.prepare.run.run h w).2 :=
  Reaches.start.prepared

/-- A conclusion is carried out to its end. -/
theorem Reaches.concluded {outcome : BatchOutcome} {p : Program (Except DeployError ρ)}
    (so_far : op.Reaches h w (.concluding plan outcome p) v) :
    op.Reaches h w (.closed (p.run h v).1) (p.run h v).2 :=
  Program.run_of_steps
    (Q := fun progress v => op.Reaches h w (.afterConcluding plan outcome progress) v)
    (fun so_far stepped => so_far.move (.conclude stepped)) so_far

/-- Units are carried out to their ends, however they are interleaved. -/
theorem Reaches.interleaved {later : List (Nat × UnitEnding)}
    (so_far : op.Reaches h w (.carryingOut plan strands arrivals) v)
    (interleaved : Interleaved h strands v later strands' v') :
    op.Reaches h w (.carryingOut plan strands' (arrivals ++ later)) v' := by
  induction interleaved generalizing arrivals with
  | settled all => rwa [List.append_nil]
  | advanced at_i stepped others ih =>
    refine ih ?_
    rw [← List.append_nil arrivals]
    exact so_far.move (.work at_i stepped)
  | reported at_i stepped others ih =>
    rw [List.append_cons]
    exact ih (so_far.move (.work at_i stepped))

/-- A plan that is made is carried out. -/
theorem Reaches.carried {w₁ : World σ}
    (prepared : op.prepare.run.run h w = (.finished (.ok plan), w₁))
    (interleaved : Interleaved h ((op.units plan).map .ofUnit) w₁ arrivals strands v) :
    op.Reaches h w (.carryingOut plan strands arrivals) v := by
  have begun : op.Reaches h w _ _ := reaches_prepared
  rw [prepared] at begun
  exact Reaches.interleaved begun interleaved

/-- A run ends in a moment that is reached. -/
theorem Runs.reaches {ending : Ending (Except DeployError ρ)} (ran : op.Runs h w ending v) :
    op.Reaches h w (.closed ending) v := by
  have prepared_to : op.Reaches h w _ _ := reaches_prepared
  cases ran with
  | crashed prepared => rwa [prepared] at prepared_to
  | refused prepared => rwa [prepared] at prepared_to
  | carriedOut prepared interleaved concluded =>
    have carried := Reaches.carried prepared interleaved
    have reached := (carried.move (.join interleaved.all_ended)).concluded
    rw [joined, concluded] at reached
    exact reached

end BatchOperation

/-! ### What is reached are runs -/

/-- **The invariant**: whatever a call may still come to from a moment, it comes to from its
start. -/
def Moment.Stands (h : Handler σ) (op : BatchOperation ρ) (w : World σ) : Moment ρ → World σ → Prop
  | .preparing rest, v => rest.run h v = op.prepare.run.run h w
  | .carryingOut plan strands arrivals, v =>
    ∃ w₁, op.prepare.run.run h w = (.finished (.ok plan), w₁) ∧
      ∀ {later strands' v'}, Interleaved h strands v later strands' v' →
        Interleaved h ((op.units plan).map .ofUnit) w₁ (arrivals ++ later) strands' v'
  | .concluding _ _ rest, v => op.Runs h w (rest.run h v).1 (rest.run h v).2
  | .closed ending, v => op.Runs h w ending v

namespace BatchOperation

variable {op : BatchOperation ρ} {w v v' : World σ} {m m' : Moment ρ} {plan : Plan}
  {strands : List Strand} {arrivals : List (Nat × UnitEnding)}

/-- **A step keeps the invariant.** -/
theorem Moves.stands (moves : op.Moves h m v m' v') (stands : m.Stands h op w v) :
    m'.Stands h op w v' := by
  cases moves with
  | @prepare p _ progress _ stepped =>
    have run := Program.run_of_step stepped
    rw [Moment.Stands] at stands
    rw [run] at stands
    rcases progress with ((e | plan) | payload) | rest
    · exact .refused stands.symm
    · exact ⟨v', stands.symm, fun interleaved => interleaved⟩
    · exact .crashed stands.symm
    · exact stands
  | @work _ _ _ _ i _ _ progress _ _ at_i stepped =>
    obtain ⟨w₁, prepared, goes_on⟩ := stands
    refine ⟨w₁, prepared, fun {later strands' v'} interleaved => ?_⟩
    cases progress with
    | ended ending =>
      rw [Strand.report, List.append_assoc]
      exact goes_on (.reported at_i stepped interleaved)
    | going rest =>
      rw [Strand.report, List.append_nil]
      exact goes_on (.advanced at_i stepped interleaved)
  | join all =>
    obtain ⟨w₁, prepared, goes_on⟩ := stands
    have interleaved := goes_on (.settled all)
    rw [List.append_nil] at interleaved
    exact .carriedOut prepared interleaved rfl
  | @conclude _ _ p _ progress _ stepped =>
    have run := Program.run_of_step stepped
    rw [Moment.Stands] at stands
    rw [run] at stands
    cases progress with
    | ended ending => exact stands
    | going rest => exact stands

/-- Every moment that is reached stands. -/
theorem Reaches.stands (reached : op.Reaches h w m v) : m.Stands h op w v := by
  induction reached with
  | start => rfl
  | move so_far moves ih => exact moves.stands ih

/-- **Runs are what is reached**: step by step a call comes to the same ends as all at once. -/
theorem runs_iff_reaches {ending : Ending (Except DeployError ρ)} :
    op.Runs h w ending v ↔ op.Reaches h w (.closed ending) v :=
  ⟨Runs.reaches, Reaches.stands⟩

end BatchOperation

/-! ### What is asked for -/

/-- Whether a call is about to be made at some moment, by whoever takes the next step. -/
def Moment.Asks (c : Call) : Moment ρ → Prop
  | .preparing rest => rest.next? = some c
  | .carryingOut _ strands _ => ∃ s ∈ strands, ∃ p, s.progress = .going p ∧ p.next? = some c
  | .concluding _ _ rest => rest.next? = some c
  | .closed _ => False

namespace BatchOperation

variable {op : BatchOperation ρ} {w v v' : World σ} {m m' : Moment ρ} {plan : Plan}
  {strands : List Strand} {arrivals : List (Nat × UnitEnding)}

/-- **What one step of a call adds to the journal**: nothing, or an entry that is no call but one
that was about to be made, with what the collaborators reply to it. -/
theorem Moves.journal (moves : op.Moves h m v m' v') :
    v'.journal = v.journal ∨ ∃ step, v'.journal = step :: v.journal ∧
      ∀ c reply, step = .called c reply → m.Asks c ∧ reply = (h c v.state).1 := by
  cases moves with
  | prepare stepped => exact Program.journal_of_step stepped
  | @work _ _ _ _ _ _ _ _ steps _ at_i stepped =>
    have mem := List.mem_of_getElem? at_i
    rcases Program.journal_of_step stepped with none | ⟨step, one, next⟩
    · obtain rfl : steps = [] := none
      exact Or.inl rfl
    · obtain rfl : steps = [step] := one
      refine Or.inr ⟨step, rfl, fun c reply call => ?_⟩
      obtain ⟨about, replied⟩ := next c reply call
      exact ⟨⟨_, mem, _, rfl, about⟩, replied⟩
  | join all => exact Or.inl rfl
  | conclude stepped => exact Program.journal_of_step stepped

/-- **What one step of a call does to the state**: nothing, or what a call does that was about to be
made. -/
theorem Moves.state (moves : op.Moves h m v m' v') :
    v'.state = v.state ∨ ∃ c, m.Asks c ∧ v'.state = (h c v.state).2 := by
  cases moves with
  | prepare stepped => exact Program.state_of_step stepped
  | work at_i stepped =>
    rcases Program.state_of_step stepped with same | ⟨c, next, after⟩
    · exact Or.inl same
    · exact Or.inr ⟨c, ⟨_, List.mem_of_getElem? at_i, _, rfl, next⟩, after⟩
  | join all => exact Or.inl rfl
  | conclude stepped => exact Program.state_of_step stepped

/-- **What every call leaves as it is** is as it was at the start. -/
theorem Reaches.state (reached : op.Reaches h w m v) (Kept : σ → Prop)
    (kept : ∀ {m v}, op.Reaches h w m v → ∀ c, m.Asks c → Kept v.state → Kept (h c v.state).2)
    (start : Kept w.state) : Kept v.state := by
  induction reached with
  | start => exact start
  | move so_far moves ih =>
    rcases moves.state with same | ⟨c, asks, after⟩
    · rw [same]
      exact ih
    · rw [after]
      exact kept so_far c asks ih

/-- **Every call was made at some moment**, what stands before it in the journal is what had
happened by then, and the reply is what the collaborators replied at that moment. -/
theorem Reaches.asked {s : σ} {later earlier : List Step} {c : Call} {reply : Reply c}
    (reached : op.Reaches h ⟨s, []⟩ m v) (made : v.journal = later ++ .called c reply :: earlier) :
    ∃ m' v', op.Reaches h ⟨s, []⟩ m' v' ∧ m'.Asks c ∧ v'.journal = earlier ∧
      reply = (h c v'.state).1 := by
  induction reached generalizing later with
  | start => cases later <;> cases made
  | @move m v _ _ so_far moves ih =>
    rcases moves.journal with same | ⟨step, one, asks⟩
    · exact ih (same ▸ made)
    · rw [one] at made
      cases later with
      | nil =>
        obtain ⟨last, before⟩ := List.cons.inj made
        obtain ⟨about, replied⟩ := asks c reply last
        exact ⟨m, v, so_far, about, before, replied⟩
      | cons _ later => exact ih (List.cons.inj made).2

/-- **How an operation conducts itself**: what it asks for while it prepares, what each of its units
asks for, and what it asks for when it concludes. -/
structure Conduct (op : BatchOperation ρ) (preparing : Call → Prop)
    (working : WorkItem → Call → Prop) (concluding : BatchOutcome → Call → Prop) : Prop where
  prepare : op.prepare.AsksOnly preparing
  body : ∀ item, (op.body item).AsksOnly (working item)
  conclude : ∀ plan outcome, (op.conclude plan outcome).AsksOnly (concluding outcome)

end BatchOperation

/-- What may still be asked for at some moment, by an operation that conducts itself. -/
def Moment.Conduct (preparing : Call → Prop) (working : WorkItem → Call → Prop)
    (concluding : BatchOutcome → Call → Prop) : Moment ρ → Prop
  | .preparing rest => rest.AsksOnly preparing
  | .carryingOut plan strands _ => ∀ s ∈ strands, ∀ p, s.progress = .going p →
    p.AsksOnly fun c => ∃ item ∈ plan.workItems, working item c
  | .concluding _ outcome rest => rest.AsksOnly (concluding outcome)
  | .closed _ => True

/-- Whether a call belongs to the phase of a moment. -/
def Moment.Allows (preparing : Call → Prop) (working : WorkItem → Call → Prop)
    (concluding : BatchOutcome → Call → Prop) (c : Call) : Moment ρ → Prop
  | .preparing _ => preparing c
  | .carryingOut plan _ _ => ∃ item ∈ plan.workItems, working item c
  | .concluding _ outcome _ => concluding outcome c
  | .closed _ => False

namespace BatchOperation

variable {op : BatchOperation ρ} {w v v' : World σ} {m m' : Moment ρ} {plan : Plan}
  {strands : List Strand} {arrivals : List (Nat × UnitEnding)} {preparing : Call → Prop}
  {working : WorkItem → Call → Prop} {concluding : BatchOutcome → Call → Prop}

theorem Moves.conduct (conduct : op.Conduct preparing working concluding)
    (moves : op.Moves h m v m' v') (before : m.Conduct preparing working concluding) :
    m'.Conduct preparing working concluding := by
  cases moves with
  | @prepare p _ progress _ stepped =>
    rcases progress with ((e | plan) | payload) | rest
    · trivial
    · intro s mem p going
      obtain ⟨unit, listed, rfl⟩ := List.mem_map.mp mem
      obtain ⟨item, planned, rfl⟩ := List.mem_map.mp listed
      obtain rfl := Program.Progress.going.inj going
      exact (conduct.body item).mono fun c asks => ⟨item, planned, asks⟩
    · trivial
    · exact before.step stepped
  | @work plan strands _ _ i own p progress _ _ at_i stepped =>
    intro s mem p' going
    rcases List.mem_or_eq_of_mem_set mem with mem | rfl
    · exact before s mem p' going
    · have asks := before _ (List.mem_of_getElem? at_i) p rfl
      cases going
      exact asks.step stepped
  | join all => exact conduct.conclude _ _
  | @conclude _ _ p _ progress _ stepped =>
    cases progress with
    | ended ending => trivial
    | going rest => exact before.step stepped

/-- **What is asked for belongs to its phase.** -/
theorem Reaches.allows (conduct : op.Conduct preparing working concluding)
    (reached : op.Reaches h w m v) {c : Call} (asks : m.Asks c) :
    m.Allows preparing working concluding c := by
  have kept : m.Conduct preparing working concluding := by
    clear asks
    induction reached with
    | start => exact conduct.prepare
    | move so_far moves ih => exact moves.conduct conduct ih
  cases m with
  | preparing rest => exact kept.next asks
  | carryingOut plan strands arrivals =>
    obtain ⟨s, mem, p, going, next⟩ := asks
    exact (kept s mem p going).next next
  | concluding plan outcome rest => exact kept.next asks
  | closed ending => exact asks

/-! ### What lies behind a moment -/

/-- **A call that concludes has joined its units**, each of which had ended. -/
theorem Reaches.joined {outcome : BatchOutcome} {rest : Program (Except DeployError ρ)}
    (reached : op.Reaches h w (.concluding plan outcome rest) v) :
    ∃ strands arrivals v₁ between, op.Reaches h w (.carryingOut plan strands arrivals) v₁ ∧
      (∀ s ∈ strands, s.HasEnded) ∧ outcome = op.joined plan arrivals ∧
      v.journal = between ++ v₁.journal := by
  generalize here : Moment.concluding plan outcome rest = m at reached
  induction reached generalizing rest with
  | start => cases here
  | @move m v m' v' so_far moves ih =>
    cases moves with
    | @prepare p _ progress _ stepped =>
      rcases progress with ((e | plan) | payload) | rest <;> cases here
    | work at_i stepped => cases here
    | @join _ strands arrivals _ all =>
      cases here
      exact ⟨strands, arrivals, v, [], so_far, all, rfl, rfl⟩
    | @conclude _ _ p _ progress _ stepped =>
      cases progress with
      | ended ending => cases here
      | going rest =>
        cases here
        obtain ⟨strands, arrivals, v₁, between, carried, all, joined, since⟩ := ih rfl
        rcases Program.journal_of_step stepped with same | ⟨step, one, -⟩
        · exact ⟨strands, arrivals, v₁, between, carried, all, joined, same.trans since⟩
        · refine ⟨strands, arrivals, v₁, step :: between, carried, all, joined, ?_⟩
          rw [one, since]
          rfl

/-- **A call whose units are on their way has a plan**, and since then only units have asked for
anything. -/
theorem Reaches.since_plan (conduct : op.Conduct preparing working concluding)
    (reached : op.Reaches h w (.carryingOut plan strands arrivals) v) :
    ∃ w₁ since, op.prepare.run.run h w = (.finished (.ok plan), w₁) ∧
      v.journal = since ++ w₁.journal ∧
      ∀ c ∈ callsOf since, ∃ item ∈ plan.workItems, working item c := by
  generalize here : Moment.carryingOut plan strands arrivals = m at reached
  induction reached generalizing strands arrivals with
  | start => cases here
  | @move m v m' v' so_far moves ih =>
    cases moves with
    | @prepare p _ progress _ stepped =>
      have stands : p.run h v = op.prepare.run.run h w := so_far.stands
      rcases progress with ((e | plan) | payload) | rest <;> cases here
      rw [Program.run_of_step stepped] at stands
      exact ⟨v', [], stands.symm, rfl, fun c mem => absurd mem List.not_mem_nil⟩
    | @work _ strands arrivals _ i own p progress steps state at_i stepped =>
      cases here
      obtain ⟨w₁, since, prepared, journal, asked⟩ := ih rfl
      have allowed {c : Call} (next : p.next? = some c) :
          ∃ item ∈ plan.workItems, working item c :=
        so_far.allows conduct ⟨_, List.mem_of_getElem? at_i, p, rfl, next⟩
      refine ⟨w₁, steps ++ since, prepared, by rw [journal, List.append_assoc], ?_⟩
      intro c mem
      rw [callsOf_append, List.mem_append] at mem
      rcases mem with mem | mem
      · obtain ⟨step, made, call⟩ := List.mem_filterMap.mp mem
        rcases Program.journal_of_step stepped with none | ⟨step', one, next⟩
        · obtain rfl : steps = [] := none
          cases made
        · obtain rfl : steps = [step'] := one
          obtain rfl := List.mem_singleton.mp made
          cases step with
          | called c' reply =>
            obtain rfl := Option.some.inj call
            exact allowed (next c' reply rfl).1
          | _ => cases call
      · exact asked c mem
    | join all => cases here
    | @conclude _ _ p _ progress _ stepped =>
      cases progress <;> cases here

end BatchOperation

end FleetDeploy
