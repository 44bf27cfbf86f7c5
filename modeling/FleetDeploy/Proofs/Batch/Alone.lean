import FleetDeploy.Proofs.Batch.Joining
import FleetDeploy.Proofs.Program.Alike

/-!
# Each unit as if it were alone

The units of a batch share a fleet, and their steps are interleaved in whichever way. But each of
them is about a service of its own, and what the others do it does not see. So every unit ends as it
would if there were no others, but for the number of the execution that it names, and it leaves its
service as it would then: how the units are interleaved makes no difference to any of them.

* `FleetDeploy.OnCourse` – how far a unit has come, compared with the same unit alone;
* `FleetDeploy.OnCourse.step`, `FleetDeploy.OnCourse.of_spares` – a unit keeps on course when it
  takes a step, and when another unit does;
* `FleetDeploy.Batch.OnCourse` – the invariant of a batch, which every step of it preserves
  (`FleetDeploy.Batch.OnCourse.step`) and with which it ends (`FleetDeploy.Interleaved.onCourse`);
* `FleetDeploy.Interleaved.alike` – two interleavings of a batch have outcomes that are alike, and
  leave the same running.
-/

namespace FleetDeploy

/-! ### One unit -/

/-- The programs of a unit that are alike. -/
abbrev UnitAlike (service : ServiceName) :
    Option Waiting → Program (Except DeployError Unit) → Program (Except DeployError Unit) → Prop :=
  Program.Alike service (Procedure.Results Procedure.Equal)

/-- **How far a unit has come**, compared with how the same unit ends when it is `alone`. The last
argument but one is the number of the execution that the unit waits for, which is its own. -/
inductive OnCourse (service : ServiceName) (alone : UnitEnding × World Fleet) (F : Fleet) :
    Option Nat → Program.Progress (Except DeployError Unit) → Prop
  /-- The unit is on its way, and alone it would be at the same point. -/
  | going {waiting p q w} (programs : UnitAlike service waiting p q)
      (fleets : F.Agree service waiting w.state) (rest : q.run Fleet.respond w = alone) :
      OnCourse service alone F (waiting.map (·.here)) (.going p)
  /-- The unit has ended as it does when it is alone. -/
  | ended {m n ending} (endings : UnitEnding.SameBut m n alone.1 ending)
      (running : F.infrastructure.running? service =
        alone.2.state.infrastructure.running? service) :
      OnCourse service alone F none (.ended ending)

namespace OnCourse

variable {service s : ServiceName} {alone : UnitEnding × World Fleet} {F F' : Fleet}
  {mine other : Option Nat} {progress : Program.Progress (Except DeployError Unit)}

/-- An execution that is waited for has been accepted. -/
theorem lt_sequence (onCourse : OnCourse service alone F mine progress) {n : Nat}
    (waits : mine = some n) : n < F.engine.sequence := by
  cases onCourse with
  | going programs fleets rest =>
    obtain ⟨x, known, rfl⟩ := Option.map_eq_some_iff.mp waits
    exact (fleets.known x known).1
  | ended endings running => cases waits

/-- **The step of another unit** does not put a unit off its course. -/
theorem of_spares (onCourse : OnCourse service alone F mine progress)
    (spares : F.Spares s other F') (different : service ≠ s)
    (apart : ∀ n, mine = some n → other ≠ some n) :
    OnCourse service alone F' mine progress := by
  cases onCourse with
  | going programs fleets rest =>
    refine .going programs (fleets.of_spares spares different fun x waits => ?_) rest
    exact apart x.here (by rw [waits]; rfl)
  | ended endings running => exact .ended endings ((spares.running service different).trans running)

/-- A step that keeps a unit on course and spares what is not the unit's. An execution that it waits
for afterwards is one that it waited for already, or a new one. -/
def Steady (service : ServiceName) (alone : UnitEnding × World Fleet) (mine : Option Nat)
    (F F' : Fleet) (progress : Program.Progress (Except DeployError Unit)) : Prop :=
  ∃ mine', OnCourse service alone F' mine' progress ∧ F.Spares service mine F' ∧
    ∀ n, mine' = some n → mine = some n ∨ F.engine.sequence ≤ n

section Steps

variable {w : World Fleet} {steps : List Step}

/-- Results that correspond are endings that do. -/
theorem sameBut_of_results {waiting : Option Waiting} {r r' : Except DeployError Unit}
    (results : Procedure.Results Procedure.Equal waiting r r') :
    ∃ m n, UnitEnding.SameBut m n (.finished r') (.finished r) := by
  cases results with
  | ok values => exact ⟨0, 0, .succeeded⟩
  | error errors => exact ⟨_, _, .failed errors.symm⟩

/-- Two calls that are answered so that the programs go on alike. -/
theorem steady_of_answers {c c' : Call}
    {next : Except DeployError c.Result → Program (Except DeployError Unit)}
    {next' : Except DeployError c'.Result → Program (Except DeployError Unit)}
    {answer : Except DeployError c.Result} {answer' : Except DeployError c'.Result}
    {waiting : Option Waiting} {F₁ G₁ : Fleet}
    (here : Fleet.respond c F = (.answered answer, F₁))
    (there : Fleet.respond c' w.state = (.answered answer', G₁))
    (programs : UnitAlike service waiting (next answer) (next' answer'))
    (fleets : F₁.Agree service waiting G₁) (spares : F.Spares service mine F₁)
    (fresh : ∀ x, waiting = some x → mine = some x.here ∨ F.engine.sequence ≤ x.here)
    (rest : (Program.call c' next').run Fleet.respond w = alone)
    (stepped : (Program.call c next).step Fleet.respond ⟨F, []⟩ = (progress, ⟨F', steps⟩)) :
    Steady service alone mine F F' progress := by
  simp only [Program.step, here] at stepped
  simp only [Program.run, there] at rest
  obtain ⟨rfl, ⟨⟩⟩ := Prod.mk.inj stepped
  refine ⟨_, .going programs (by exact fleets) rest, spares, fun n waits => ?_⟩
  obtain ⟨x, known, rfl⟩ := Option.map_eq_some_iff.mp waits
  exact fresh x known

/-- Staging or provisioning keeps a unit on course, even if the collaborator crashes. -/
theorem steady_of_provision {c : Call} (own : c.Provisions service) {waiting : Option Waiting}
    {next next' : Except DeployError c.Result → Program (Except DeployError Unit)}
    (programs : ∀ answer, UnitAlike service waiting (next answer) (next' answer))
    (fleets : F.Agree service waiting w.state)
    (rest : (Program.call c next').run Fleet.respond w = alone)
    (stepped : (Program.call c next).step Fleet.respond ⟨F, []⟩ = (progress, ⟨F', steps⟩)) :
    Steady service alone (waiting.map (·.here)) F F' progress := by
  have same := fleets.reply_eq own
  have after := fleets.provisions own
  have spares : F.Spares service (waiting.map (·.here)) (Fleet.respond c F).2 := .provisions own F
  -- Both programs are answered, or the collaborator crashes in both with the same text.
  rcases there : Fleet.respond c w.state with ⟨reply, G₁⟩
  rcases here : Fleet.respond c F with ⟨answer | payload, F₁⟩
  · rw [here, there] at same after
    rw [here] at spares
    obtain rfl : Reply.answered answer = reply := same
    refine steady_of_answers here there (programs answer) after spares ?_ rest stepped
    exact fun x known => Or.inl (by rw [known]; rfl)
  · rw [here, there] at same after
    rw [here] at spares
    obtain rfl : Reply.crashed payload = reply := same
    simp only [Program.step, here] at stepped
    simp only [Program.run, there] at rest
    obtain ⟨rfl, ⟨⟩⟩ := Prod.mk.inj stepped
    subst rest
    exact ⟨none, .ended (m := 0) (n := 0) (.crashed payload) after.running, spares, by simp⟩

/-- Submitting keeps a unit on course: either both submissions are rejected, or the unit waits for
the new execution from then on. The engine accepts the execution with the next number. -/
theorem steady_of_submission {c : Call} {kind : ExecutionKind} {waiting : Option Waiting}
    (tasks : List TaskDefinition) (pipelines : List PipelineDefinition)
    (accept : Submission → c.Result)
    {next next' : Except DeployError c.Result → Program (Except DeployError Unit)}
    (responds : ∀ f, Fleet.respond c f =
      (.answered (((f.keeping tasks pipelines).engine.submit kind (some service)).1.map accept),
        (f.keeping tasks pipelines).submitted kind service))
    (rejected : ∀ e, UnitAlike service waiting (next (.error e)) (next' (.error e)))
    (accepted : ∀ m n, UnitAlike service (some ⟨kind, m, n⟩)
      (next (.ok (accept ⟨Engine.referenceOf kind m⟩)))
      (next' (.ok (accept ⟨Engine.referenceOf kind n⟩))))
    (fleets : F.Agree service waiting w.state)
    (rest : (Program.call c next').run Fleet.respond w = alone)
    (stepped : (Program.call c next).step Fleet.respond ⟨F, []⟩ = (progress, ⟨F', steps⟩)) :
    Steady service alone (waiting.map (·.here)) F F' progress := by
  have here := responds F
  have there := responds w.state
  have spares : F.Spares service (waiting.map (·.here)) _ :=
    (Fleet.Spares.keeping tasks pipelines F).trans (.submitted kind _)
  rcases (fleets.keeping tasks pipelines).submitting kind with
    ⟨p, no, no', after⟩ | ⟨yes, yes', after⟩
  · rw [no] at here
    rw [no'] at there
    refine steady_of_answers here there (rejected _) after spares ?_ rest stepped
    exact fun x known => Or.inl (by rw [known]; rfl)
  · rw [yes] at here
    rw [yes'] at there
    refine steady_of_answers here there (accepted _ _) after spares ?_ rest stepped
    intro x known
    obtain rfl := Option.some.inj known
    exact Or.inr (Nat.le_refl _)

end Steps

/-- **A step of the unit itself** keeps it on course. -/
theorem step {p : Program (Except DeployError Unit)} {steps : List Step}
    (onCourse : OnCourse service alone F mine (.going p))
    (stepped : p.step Fleet.respond ⟨F, []⟩ = (progress, ⟨F', steps⟩)) :
    Steady service alone mine F F' progress := by
  cases onCourse with
  | @going waiting _ _ w programs fleets rest =>
    cases programs with
    | done results =>
      obtain ⟨rfl, ⟨⟩⟩ := Prod.mk.inj stepped
      subst rest
      obtain ⟨m, n, endings⟩ := sameBut_of_results results
      exact ⟨none, .ended endings fleets.running, .refl _ _ _, by simp⟩
    | emit programs =>
      obtain ⟨rfl, ⟨⟩⟩ := Prod.mk.inj stepped
      exact ⟨_, .going programs (by exact fleets) rest, .refl _ _ _, fun n waits => .inl waits⟩
    | sleep programs =>
      obtain ⟨rfl, ⟨⟩⟩ := Prod.mk.inj stepped
      exact ⟨_, .going programs (by exact fleets) rest, .refl _ _ _, fun n waits => .inl waits⟩
    | provision own programs => exact steady_of_provision own programs fleets rest stepped
    | @submitTask _ task _ _ own rejected accepted =>
      refine steady_of_submission [task] [] id (fun f => ?_) rejected accepted fleets rest stepped
      rw [Except.map_id]
      exact Fleet.respond_submitTask own f
    | @orchestrate _ pipeline _ _ own rejected accepted =>
      refine steady_of_submission [] [pipeline] id (fun f => ?_) rejected accepted fleets rest stepped
      rw [Except.map_id]
      exact Fleet.respond_orchestrate own f
    | @query kind m n _ _ programs =>
      have here := Fleet.respond_executionStatus kind (Engine.referenceOf kind m) F
      have there := Fleet.respond_executionStatus kind (Engine.referenceOf kind n) w.state
      rw [fleets.status_eq kind] at here
      refine steady_of_answers here there (programs _) (fleets.queried kind)
        (.queried kind F) ?_ rest stepped
      intro x known
      obtain rfl := Option.some.inj known
      exact Or.inl rfl

end OnCourse

/-! ### All units -/

namespace Batch

/-- **The invariant of a batch**: every unit is on course, no two of them wait for the same
execution, and what is no unit's is as it was in the beginning. -/
structure OnCourse (f : Fleet) (units : List WorkUnit) (strands : List Strand) (F : Fleet)
    (mine : Nat → Option Nat) : Prop where
  length : strands.length = units.length
  arrangement : F.arrangement = f.arrangement
  running : ∀ service, (∀ u ∈ units, u.service ≠ service) →
    F.infrastructure.running? service = f.infrastructure.running? service
  each : ∀ i u s, units[i]? = some u → strands[i]? = some s →
    FleetDeploy.OnCourse u.service (u.body.run.run Fleet.respond ⟨f, []⟩) F (mine i) s.progress
  known : ∀ i n, mine i = some n → n < F.engine.sequence
  apart : ∀ i j n, mine i = some n → mine j = some n → i = j

namespace OnCourse

variable {f F F' : Fleet} {units : List WorkUnit} {strands : List Strand}
  {mine : Nat → Option Nat}

/-- The units as they are begun are on course. -/
theorem start (unscripted : f.engine.Unscripted)
    (alike : ∀ u ∈ units, UnitAlike u.service none u.body.run u.body.run) :
    OnCourse f units (units.map .ofUnit) f fun _ => none where
  length := List.length_map _
  arrangement := rfl
  running _ _ := rfl
  each i u s at_i begun := by
    rw [List.getElem?_map, at_i] at begun
    obtain rfl := Option.some.inj begun
    refine .going (alike u (List.mem_of_getElem? at_i)) ?_ rfl
    exact ⟨rfl, rfl, unscripted, unscripted, by simp, by simp⟩
  known _ _ waits := by cases waits
  apart _ _ _ waits _ := by cases waits

/-- Units in different places have different services. -/
theorem service_ne (distinct : (units.map (·.service)).Nodup) {i j : Nat} {u v : WorkUnit}
    (at_i : units[i]? = some u) (at_j : units[j]? = some v) (different : i ≠ j) :
    u.service ≠ v.service := by
  intro same
  have inside : i < (units.map (·.service)).length := by
    rw [List.length_map]
    exact (List.getElem?_eq_some_iff.mp at_i).1
  refine different ((List.getElem?_inj inside distinct).mp ?_)
  rw [List.getElem?_map, List.getElem?_map, at_i, at_j]
  exact congrArg some same

/-- The executions that are waited for stay apart when one unit waits for a new one, since nobody
can have waited for that before. -/
theorem apart_update {sequence i : Nat} {mine' : Option Nat}
    (known : ∀ j n, mine j = some n → n < sequence)
    (apart : ∀ j k n, mine j = some n → mine k = some n → j = k)
    (fresh : ∀ n, mine' = some n → mine i = some n ∨ sequence ≤ n) (j k n : Nat)
    (waits : Function.update mine i mine' j = some n)
    (waits' : Function.update mine i mine' k = some n) : j = k := by
  have nobody_else {l : Nat} (other : l ≠ i) (old : mine l = some n) : mine' ≠ some n := by
    intro own
    rcases fresh n own with before | new
    · exact other (apart l i n old before)
    · exact absurd (known l n old) (Nat.not_lt_of_le new)
  by_cases at_j : j = i <;> by_cases at_k : k = i
  · rw [at_j, at_k]
  · rw [at_j, Function.update_self] at waits
    rw [Function.update_of_ne at_k] at waits'
    exact absurd waits (nobody_else at_k waits')
  · rw [Function.update_of_ne at_j] at waits
    rw [at_k, Function.update_self] at waits'
    exact absurd waits' (nobody_else at_j waits)
  · rw [Function.update_of_ne at_j] at waits
    rw [Function.update_of_ne at_k] at waits'
    exact apart j k n waits waits'

/-- **Every step of a batch preserves the invariant.** The unit that takes the step keeps on course
by itself, and the others because their services are spared and so are the executions they wait
for. -/
theorem step (onCourse : OnCourse f units strands F mine)
    (distinct : (units.map (·.service)).Nodup) {i : Nat} {own own' steps : List Step}
    {p : Program (Except DeployError Unit)} {progress : Program.Progress (Except DeployError Unit)}
    (at_i : strands[i]? = some ⟨own, .going p⟩)
    (stepped : p.step Fleet.respond ⟨F, []⟩ = (progress, ⟨F', steps⟩)) :
    ∃ mine', OnCourse f units (strands.set i ⟨own', progress⟩) F' mine' := by
  have there : i < strands.length := (List.getElem?_eq_some_iff.mp at_i).1
  have inside : i < units.length := onCourse.length ▸ there
  have unit : units[i]? = some units[i] := List.getElem?_eq_getElem inside
  obtain ⟨mine', kept, spares, fresh⟩ := (onCourse.each i _ _ unit at_i).step stepped
  refine ⟨Function.update mine i mine',
    { length := by rw [List.length_set, onCourse.length]
      arrangement := by rw [spares.arrangement, onCourse.arrangement]
      running := ?_
      each := ?_
      known := ?_
      apart := apart_update onCourse.known onCourse.apart fresh }⟩
  · intro service none_of_them
    have other : units[i].service ≠ service := none_of_them units[i] (List.getElem_mem inside)
    exact (spares.running service (Ne.symm other)).trans (onCourse.running service none_of_them)
  · intro j u s unit_j at_j
    by_cases same : j = i
    · subst same
      rw [List.getElem?_set_self there] at at_j
      obtain rfl := Option.some.inj at_j
      obtain rfl := Option.some.inj (unit.symm.trans unit_j)
      rw [Function.update_self]
      exact kept
    · rw [List.getElem?_set_ne (Ne.symm same)] at at_j
      rw [Function.update_of_ne same]
      refine (onCourse.each j u s unit_j at_j).of_spares spares
        (service_ne distinct unit_j unit same) ?_
      exact fun n waits waits' => same (onCourse.apart j i n waits waits')
  · intro j n waits
    by_cases same : j = i
    · rw [same, Function.update_self] at waits
      exact kept.lt_sequence waits
    · rw [Function.update_of_ne same] at waits
      exact Nat.lt_of_lt_of_le (onCourse.known j n waits) spares.sequence

end OnCourse

end Batch

namespace Interleaved

variable {f : Fleet} {units : List WorkUnit} {strands strands' : List Strand} {w w' : World Fleet}
  {arrivals : List (Nat × UnitEnding)} {mine : Nat → Option Nat}

/-- **A batch that keeps to the invariant ends with it.** -/
theorem onCourse (interleaved : Interleaved Fleet.respond strands w arrivals strands' w')
    (distinct : (units.map (·.service)).Nodup)
    (start : Batch.OnCourse f units strands w.state mine) :
    ∃ mine', Batch.OnCourse f units strands' w'.state mine' := by
  induction interleaved generalizing mine with
  | settled all => exact ⟨mine, start⟩
  | advanced at_i stepped others ih =>
    obtain ⟨mine', kept⟩ := start.step distinct at_i stepped
    exact ih kept
  | reported at_i stepped others ih =>
    obtain ⟨mine', kept⟩ := start.step distinct at_i stepped
    exact ih kept

/-- **Every unit ends as if it were alone**, but for a number, and so it leaves its service. -/
theorem as_if_alone
    (interleaved : Interleaved Fleet.respond (units.map .ofUnit) w arrivals strands' w')
    (distinct : (units.map (·.service)).Nodup) (unscripted : w.state.engine.Unscripted)
    (alike : ∀ u ∈ units, UnitAlike u.service none u.body.run u.body.run) {i : Nat} {u : WorkUnit}
    (unit : units[i]? = some u) :
    ∃ m n ending, (Strand.fates strands')[i]? = some (some ending) ∧
      UnitEnding.SameBut m n (u.body.run.run Fleet.respond ⟨w.state, []⟩).1 ending ∧
      w'.state.infrastructure.running? u.service =
        (u.body.run.run Fleet.respond ⟨w.state, []⟩).2.state.infrastructure.running?
          u.service := by
  obtain ⟨mine, course⟩ := interleaved.onCourse distinct (.start unscripted alike)
  have inside : i < strands'.length := course.length ▸ (List.getElem?_eq_some_iff.mp unit).1
  have at_i := List.getElem?_eq_getElem inside
  obtain ⟨ending, ended⟩ := interleaved.all_ended _ (List.getElem_mem inside)
  have kept := course.each i u _ unit at_i
  -- Nothing is known of what the unit waits for, until it is seen that it has ended.
  generalize mine i = own at kept
  rw [ended] at kept
  cases kept with
  | ended endings running =>
    refine ⟨_, _, ending, ?_, endings, running⟩
    rw [Strand.getElem?_fates at_i, Strand.ending?, ended]

/-- There is one fate for each service of the batch. -/
theorem length_fates {σ : Type} {h : Handler σ} {w w' : World σ}
    (interleaved : Interleaved h (units.map .ofUnit) w arrivals strands' w') :
    (Strand.fates strands').length = (units.map (·.service)).length := by
  rw [Strand.fates, List.length_map, interleaved.length_eq, List.length_map, List.length_map]

section Pair

variable {arrivals₁ arrivals₂ : List (Nat × UnitEnding)} {strands₁ strands₂ : List Strand}
  {w₁ w₂ : World Fleet}

/-- Two interleavings of a batch have outcomes that are alike: unit for unit, both are as if the
unit were alone. -/
theorem outcome_alike
    (first : Interleaved Fleet.respond (units.map .ofUnit) w arrivals₁ strands₁ w₁)
    (second : Interleaved Fleet.respond (units.map .ofUnit) w arrivals₂ strands₂ w₂)
    (distinct : (units.map (·.service)).Nodup) (unscripted : w.state.engine.Unscripted)
    (alike : ∀ u ∈ units, UnitAlike u.service none u.body.run u.body.run) :
    (BatchOutcome.collect (units.map (·.service)) arrivals₁).Alike
      (.collect (units.map (·.service)) arrivals₂) := by
  have size₁ := first.length_fates
  have size₂ := second.length_fates
  rw [BatchOutcome.collect_of_delivers size₁.symm first.delivers,
    BatchOutcome.collect_of_delivers size₂.symm second.delivers]
  refine .ofOutcomes (List.forall₂_iff_get.mpr ⟨by simp [size₁, size₂], fun i here _ => ?_⟩)
  have inside : i < units.length := by simp [size₁] at here; exact here
  have unit := List.getElem?_eq_getElem inside
  obtain ⟨_, _, e₁, fate₁, same₁, -⟩ := first.as_if_alone distinct unscripted alike unit
  obtain ⟨_, _, e₂, fate₂, same₂, -⟩ := second.as_if_alone distinct unscripted alike unit
  obtain ⟨m, n, same⟩ := same₁.of_common same₂
  rw [List.getElem?_eq_some_iff] at fate₁ fate₂
  obtain ⟨_, fate₁⟩ := fate₁
  obtain ⟨_, fate₂⟩ := fate₂
  simp only [List.get_eq_getElem, List.getElem_zipWith, List.getElem_map, fate₁, fate₂]
  exact same.ofReport units[i].service

/-- Two interleavings of a batch leave the same running: the service of a unit is left as the unit
leaves it alone, and any other service is left as it was. -/
theorem running_alike
    (first : Interleaved Fleet.respond (units.map .ofUnit) w arrivals₁ strands₁ w₁)
    (second : Interleaved Fleet.respond (units.map .ofUnit) w arrivals₂ strands₂ w₂)
    (distinct : (units.map (·.service)).Nodup) (unscripted : w.state.engine.Unscripted)
    (alike : ∀ u ∈ units, UnitAlike u.service none u.body.run u.body.run)
    (service : ServiceName) :
    w₁.state.infrastructure.running? service = w₂.state.infrastructure.running? service := by
  by_cases own : ∃ u ∈ units, u.service = service
  · obtain ⟨u, mem, rfl⟩ := own
    obtain ⟨i, unit⟩ := List.getElem?_of_mem mem
    obtain ⟨_, _, e₁, -, -, running₁⟩ := first.as_if_alone distinct unscripted alike unit
    obtain ⟨_, _, e₂, -, -, running₂⟩ := second.as_if_alone distinct unscripted alike unit
    rw [running₁, running₂]
  · have nobody : ∀ u ∈ units, u.service ≠ service := fun u mem same => own ⟨u, mem, same⟩
    obtain ⟨_, course₁⟩ := first.onCourse distinct (.start unscripted alike)
    obtain ⟨_, course₂⟩ := second.onCourse distinct (.start unscripted alike)
    rw [course₁.running service nobody, course₂.running service nobody]

/-- **How units are interleaved makes no difference**: two interleavings of a batch have outcomes that
are alike, and the same is running afterwards. -/
theorem alike
    (first : Interleaved Fleet.respond (units.map .ofUnit) w arrivals₁ strands₁ w₁)
    (second : Interleaved Fleet.respond (units.map .ofUnit) w arrivals₂ strands₂ w₂)
    (distinct : (units.map (·.service)).Nodup) (unscripted : w.state.engine.Unscripted)
    (alike : ∀ u ∈ units, UnitAlike u.service none u.body.run u.body.run) :
    (BatchOutcome.collect (units.map (·.service)) arrivals₁).Alike
      (.collect (units.map (·.service)) arrivals₂) ∧
    w₁.state.arrangement = w₂.state.arrangement ∧
    ∀ service, w₁.state.infrastructure.running? service =
      w₂.state.infrastructure.running? service := by
  obtain ⟨_, course₁⟩ := first.onCourse distinct (.start unscripted alike)
  obtain ⟨_, course₂⟩ := second.onCourse distinct (.start unscripted alike)
  exact ⟨first.outcome_alike second distinct unscripted alike,
    course₁.arrangement.trans course₂.arrangement.symm,
    first.running_alike second distinct unscripted alike⟩

end Pair

end Interleaved

end FleetDeploy
