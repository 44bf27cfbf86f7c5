import FleetDeploy.Interleaving
import Mathlib.Data.List.Induction
import Mathlib.Data.List.Nodup

/-!
# How a batch is joined

Units report in whichever order they end, each with the place it was given, and the reports are put
into slots one by one. A unit that is lost leaves its slot empty. This file shows that the order is
forgotten: what stands in the slots in the end is what became of the units, in the order of the
batch.

* `FleetDeploy.Batch.Delivers` – some reports are those of a batch, each of them made once, in
  whichever order;
* `FleetDeploy.BatchOutcome.Placed` – the invariant of the join: after some reports, the slots hold
  these and nothing else;
* `FleetDeploy.Interleaved.delivers` – units that are interleaved deliver the endings they come to;
* `FleetDeploy.TimedUnit.join_becomes` – there is one outcome for each unit, in the order of the
  batch, and it depends on that unit alone, neither on the delays nor on its siblings.
-/

namespace FleetDeploy

namespace Batch

/-! ### The reports of a batch -/

/-- **Reports of a batch**: each unit that is not lost reports how it ended, and does so once. -/
structure Delivers (fates : List (Option UnitEnding)) (arrivals : List (Nat × UnitEnding)) :
    Prop where
  once : (arrivals.map (·.1)).Nodup
  mem_iff : ∀ i ending, (i, ending) ∈ arrivals ↔ fates[i]? = some (some ending)

/-- The report of the unit in place `i`, unless it is lost. -/
def report? (fates : List (Option UnitEnding)) (i : Nat) : Option (Nat × UnitEnding) :=
  fates[i]?.join.map fun ending => (i, ending)

theorem report?_eq_some {fates : List (Option UnitEnding)} {i j : Nat} {ending : UnitEnding} :
    report? fates i = some (j, ending) ↔ i = j ∧ fates[j]? = some (some ending) := by
  rw [report?, Option.map_eq_some_iff]
  constructor
  · rintro ⟨e, found, same⟩
    obtain ⟨rfl, rfl⟩ := Prod.mk.inj same
    exact ⟨rfl, Option.join_eq_some_iff.mp found⟩
  · rintro ⟨rfl, found⟩
    exact ⟨ending, Option.join_eq_some_iff.mpr found, rfl⟩

/-- The reports of units that end in some order. -/
def reports (fates : List (Option UnitEnding)) (order : List Nat) : List (Nat × UnitEnding) :=
  order.filterMap (report? fates)

/-- The places of some reports are among those of the units that ended. -/
theorem places_reports_sublist (fates : List (Option UnitEnding)) (order : List Nat) :
    ((reports fates order).map (·.1)).Sublist order := by
  induction order with
  | nil => exact List.Sublist.refl []
  | cons i rest ih =>
    rcases reported : report? fates i with _ | ⟨j, ending⟩
    · rw [reports, List.filterMap_cons_none reported]
      exact ih.cons i
    · obtain ⟨rfl, -⟩ := report?_eq_some.mp reported
      rw [reports, List.filterMap_cons_some reported]
      exact ih.cons_cons i

/-- In whichever order units end, they deliver their endings. -/
theorem delivers_reports {fates : List (Option UnitEnding)} {order : List Nat}
    (all : order.Perm (List.range fates.length)) : Delivers fates (reports fates order) where
  once := (all.nodup_iff.mpr List.nodup_range).sublist (places_reports_sublist fates order)
  mem_iff i ending := by
    rw [reports, List.mem_filterMap]
    constructor
    · rintro ⟨j, -, reported⟩
      exact (report?_eq_some.mp reported).2
    · intro found
      have inside : i < fates.length := (List.getElem?_eq_some_iff.mp found).1
      exact ⟨i, all.mem_iff.mpr (List.mem_range.mpr inside), report?_eq_some.mpr ⟨rfl, found⟩⟩

/-- Reports in another order are reports of the same batch. -/
theorem Delivers.perm {fates : List (Option UnitEnding)}
    {arrivals arrivals' : List (Nat × UnitEnding)} (delivers : Delivers fates arrivals)
    (reordered : arrivals'.Perm arrivals) : Delivers fates arrivals' where
  once := (reordered.map (·.1)).nodup_iff.mpr delivers.once
  mem_iff i ending := reordered.mem_iff.trans (delivers.mem_iff i ending)

end Batch

/-! ### The join -/

namespace BatchOutcome

/-- **The invariant of the join**: the slots hold the reports that have arrived, each in its place,
and are empty otherwise. -/
structure Placed (size : Nat) (arrivals : List (Nat × UnitEnding))
    (slots : List (Option UnitEnding)) : Prop where
  length : slots.length = size
  holds : ∀ i ending, slots[i]? = some (some ending) ↔ (i, ending) ∈ arrivals

variable {size : Nat} {arrivals : List (Nat × UnitEnding)}

theorem slots_concat (size : Nat) (arrivals : List (Nat × UnitEnding)) (i : Nat)
    (ending : UnitEnding) :
    slots size (arrivals ++ [(i, ending)]) = (slots size arrivals).set i (some ending) := by
  rw [slots, List.foldl_append]
  rfl

theorem placed_nil (size : Nat) : Placed size [] (slots size []) where
  length := List.length_replicate
  holds i ending := by simp [slots, List.getElem?_replicate]

/-- One more report is put into its slot, and into no other. -/
theorem Placed.concat {slots : List (Option UnitEnding)} (placed : Placed size arrivals slots)
    {i : Nat} (inside : i < size) (first : i ∉ arrivals.map (·.1)) (ending : UnitEnding) :
    Placed size (arrivals ++ [(i, ending)]) (slots.set i (some ending)) where
  length := List.length_set.trans placed.length
  holds j ending' := by
    rw [List.mem_append, List.mem_singleton, Prod.mk.injEq]
    by_cases same : i = j
    · subst same
      have absent : (i, ending') ∉ arrivals := fun mem => first (List.mem_map_of_mem mem)
      rw [List.getElem?_set_self (placed.length ▸ inside)]
      simp [absent, eq_comm]
    · rw [List.getElem?_set_ne same, placed.holds]
      simp [Ne.symm same]

/-- After some reports of different units the slots hold these. -/
theorem placed_slots (arrivals : List (Nat × UnitEnding)) (once : (arrivals.map (·.1)).Nodup)
    (inside : ∀ i ∈ arrivals.map (·.1), i < size) : Placed size arrivals (slots size arrivals) := by
  -- By induction on the last report, which is the one that is put into its slot last.
  induction arrivals using List.reverseRecOn with
  | nil => exact placed_nil size
  | append_singleton arrivals report ih =>
    obtain ⟨i, ending⟩ := report
    rw [List.map_append, List.nodup_append] at once
    simp only [List.map_append, List.mem_append] at inside
    rw [slots_concat]
    refine (ih once.1 fun j mem => inside j (Or.inl mem)).concat (inside i (Or.inr (by simp))) ?_ _
    exact fun mem => once.2.2 i mem i (by simp) rfl

/-- **The order is forgotten**: once all reports are there, the slots show what became of the units,
in the order of the batch. -/
theorem slots_of_delivers {fates : List (Option UnitEnding)}
    (delivers : Batch.Delivers fates arrivals) : slots fates.length arrivals = fates := by
  have inside : ∀ i ∈ arrivals.map (·.1), i < fates.length := by
    intro i mem
    obtain ⟨report, arrived, rfl⟩ := List.mem_map.mp mem
    exact (List.getElem?_eq_some_iff.mp ((delivers.mem_iff _ report.2).mp arrived)).1
  have placed := placed_slots arrivals delivers.once inside
  refine List.ext_getElem placed.length fun i there in_fates => ?_
  -- An ending stands in a slot if and only if it is what became of the unit.
  have same : ∀ ending, (slots fates.length arrivals)[i] = some ending ↔ fates[i] = some ending := by
    intro ending
    have holds := (placed.holds i ending).trans (delivers.mem_iff i ending)
    rwa [List.getElem?_eq_getElem there, List.getElem?_eq_getElem in_fates, Option.some_inj,
      Option.some_inj] at holds
  exact Option.ext same

/-- The outcome of a batch whose units came to `fates`. -/
theorem collect_of_delivers {services : List ServiceName} {fates : List (Option UnitEnding)}
    (size : services.length = fates.length) (delivers : Batch.Delivers fates arrivals) :
    collect services arrivals = ofOutcomes (services.zipWith UnitOutcome.ofReport fates) := by
  rw [collect, size, slots_of_delivers delivers]

end BatchOutcome

/-! ### Units that are interleaved -/

/-- How a unit has ended, if it has. -/
def Strand.ending? (s : Strand) : Option UnitEnding :=
  match s.progress with
  | .ended ending => some ending
  | .going _ => none

/-- How some units have ended, as far as they have. -/
def Strand.fates (strands : List Strand) : List (Option UnitEnding) := strands.map (·.ending?)

namespace Strand

theorem fates_set (strands : List Strand) (i : Nat) (s : Strand) :
    fates (strands.set i s) = (fates strands).set i s.ending? :=
  List.map_set

theorem getElem?_fates {strands : List Strand} {i : Nat} {s : Strand}
    (at_i : strands[i]? = some s) : (fates strands)[i]? = some s.ending? := by
  rw [fates, List.getElem?_map, at_i]
  rfl

/-- **What holds of every unit** holds again when one of them has got further, if it holds of that
one. -/
theorem forall_set {P : Nat → Strand → Prop} {strands : List Strand} {i : Nat} {s : Strand}
    (before : ∀ j t, strands[j]? = some t → P j t) (put : P i s) :
    ∀ j t, (strands.set i s)[j]? = some t → P j t := by
  intro j t at_j
  by_cases same : i = j
  · subst same
    have inside : i < strands.length := by
      simpa using (List.getElem?_eq_some_iff.mp at_j).1
    rw [List.getElem?_set_self inside] at at_j
    obtain rfl := Option.some.inj at_j
    exact put
  · rw [List.getElem?_set_ne same] at at_j
    exact before j t at_j

/-- A unit that goes on has no fate yet. -/
theorem fates_set_going {strands : List Strand} {i : Nat} {own own' : List Step}
    {p p' : Program (Except DeployError Unit)} (at_i : strands[i]? = some ⟨own, .going p⟩) :
    fates (strands.set i ⟨own', .going p'⟩) = fates strands := by
  obtain ⟨inside, still⟩ := List.getElem?_eq_some_iff.mp (getElem?_fates at_i)
  have unchanged := List.set_getElem_self inside
  rw [still] at unchanged
  rw [fates_set]
  exact unchanged

end Strand

namespace Interleaved

variable {σ : Type} {h : Handler σ} {strands strands' : List Strand} {w w' : World σ}
  {arrivals : List (Nat × UnitEnding)}

/-- No unit is added and none is lost. -/
theorem length_eq (interleaved : Interleaved h strands w arrivals strands' w') :
    strands'.length = strands.length := by
  induction interleaved with
  | settled all => rfl
  | advanced at_i step others ih => rw [ih, List.length_set]
  | reported at_i step others ih => rw [ih, List.length_set]

/-- When a batch is over all of its units have ended. -/
theorem all_ended (interleaved : Interleaved h strands w arrivals strands' w') :
    ∀ s ∈ strands', s.HasEnded := by
  induction interleaved with
  | settled all => exact all
  | advanced at_i step others ih => exact ih
  | reported at_i step others ih => exact ih

/-- A unit that has ended does not end in another way. -/
theorem fate_stays (interleaved : Interleaved h strands w arrivals strands' w') {i : Nat}
    {ending : UnitEnding} (ended : (Strand.fates strands)[i]? = some (some ending)) :
    (Strand.fates strands')[i]? = some (some ending) := by
  induction interleaved with
  | settled all => exact ended
  | advanced at_j step others ih => exact ih (by rwa [Strand.fates_set_going at_j])
  | @reported _ _ j _ _ _ _ _ _ _ _ at_j _ _ ih =>
    have other : j ≠ i := by
      rintro rfl
      rw [Strand.getElem?_fates at_j] at ended
      cases ended
    exact ih (by rwa [Strand.fates_set, List.getElem?_set_ne other])

/-- What is reported is the ending of a unit that was still on its way. -/
theorem mem_arrivals_iff (interleaved : Interleaved h strands w arrivals strands' w') (i : Nat)
    (ending : UnitEnding) :
    (i, ending) ∈ arrivals ↔ (Strand.fates strands)[i]? = some none ∧
      (Strand.fates strands')[i]? = some (some ending) := by
  induction interleaved with
  | settled all =>
    refine ⟨fun mem => absurd mem List.not_mem_nil, ?_⟩
    rintro ⟨going, ended⟩
    cases going.symm.trans ended
  | advanced at_j step others ih => rwa [Strand.fates_set_going at_j] at ih
  | @reported strands _ j own _ ended steps _ _ _ _ at_j _ others ih =>
    -- The unit that reports first is not among the later reports, since it has a fate by then.
    have inside : j < (Strand.fates strands).length :=
      (List.getElem?_eq_some_iff.mp (Strand.getElem?_fates at_j)).1
    have placed : (Strand.fates (strands.set j ⟨steps ++ own, .ended ended⟩))[j]? =
        some (some ended) := by
      rw [Strand.fates_set, List.getElem?_set_self inside]
      rfl
    have stays := others.fate_stays placed
    rw [List.mem_cons, Prod.mk.injEq, ih]
    by_cases same : i = j
    · subst same
      rw [placed, stays, Strand.getElem?_fates at_j]
      simp [Strand.ending?, eq_comm]
    · rw [Strand.fates_set, List.getElem?_set_ne (Ne.symm same)]
      simp [same]

/-- No unit reports twice. -/
theorem once (interleaved : Interleaved h strands w arrivals strands' w') :
    (arrivals.map (·.1)).Nodup := by
  induction interleaved with
  | settled all => exact List.nodup_nil
  | advanced at_j step others ih => exact ih
  | @reported strands _ j _ _ ended _ _ _ _ _ at_j _ others ih =>
    refine List.nodup_cons.mpr ⟨fun mem => ?_, ih⟩
    obtain ⟨⟨_, ending⟩, arrived, rfl⟩ := List.mem_map.mp mem
    have going := ((others.mem_arrivals_iff _ ending).mp arrived).1
    have inside := (List.getElem?_eq_some_iff.mp (Strand.getElem?_fates at_j)).1
    rw [Strand.fates_set, List.getElem?_set_self inside] at going
    cases going

/-- **Units that are interleaved deliver the endings they come to.** -/
theorem delivers {units : List WorkUnit}
    (interleaved : Interleaved h (units.map .ofUnit) w arrivals strands' w') :
    Batch.Delivers (Strand.fates strands') arrivals where
  once := interleaved.once
  mem_iff i ending := by
    rw [interleaved.mem_arrivals_iff]
    refine ⟨And.right, fun ended => ⟨?_, ended⟩⟩
    -- All units are on their way at the start.
    have inside : i < units.length := by
      have := (List.getElem?_eq_some_iff.mp ended).1
      rwa [Strand.fates, List.length_map, interleaved.length_eq, List.length_map] at this
    rw [Strand.getElem?_fates (s := .ofUnit units[i])]
    · rfl
    · rw [List.getElem?_map, List.getElem?_eq_getElem inside]
      rfl

end Interleaved

/-! ### Timed units -/

namespace TimedUnit

/-- **What a unit becomes**, told from its own service and its own ending. -/
structure Becomes (u : TimedUnit) (o : UnitOutcome) : Prop where
  service : o.service = u.service
  succeeded : u.ending = some (.finished (.ok ())) → o.problem = none
  failed : ∀ e, u.ending = some (.finished (.error e)) → o.problem = some (e.toProblem u.service)
  crashed : ∀ payload, u.ending = some (.crashed payload) →
    o.problem = some
      { severity := .fatal
        message := "Task for " ++ u.service ++ " panicked: " ++ payload.getD "unknown panic"
        service := some u.service }
  lost : u.ending = none →
    o.problem = some
      { severity := .fatal
        message := "task was cancelled before completing"
        service := some u.service }

/-- The outcome of a unit is told by its service and its ending. -/
def becomes (u : TimedUnit) : UnitOutcome := .ofReport u.service u.ending

theorem becomes_iff {u : TimedUnit} {o : UnitOutcome} : Becomes u o ↔ o = u.becomes := by
  obtain ⟨service, delay, ending⟩ := u
  obtain ⟨service', problem⟩ := o
  rw [becomes, UnitOutcome.ofReport.eq_def, UnitOutcome.mk.injEq]
  constructor
  · rintro ⟨rfl, succeeded, failed, crashed, lost⟩
    refine ⟨rfl, ?_⟩
    rcases ending with _ | (e | _) | payload
    · exact lost rfl
    · exact failed e rfl
    · exact succeeded rfl
    · exact crashed payload rfl
  · rintro ⟨rfl, rfl⟩
    exact
      { service := rfl
        succeeded := by rintro rfl; rfl
        failed := by rintro e rfl; rfl
        crashed := by rintro payload rfl; rfl
        lost := by rintro rfl; rfl }

/-- The outcome of a batch whose units are joined in some order, whether they succeed, fail, crash
or are lost. -/
def join (units : List TimedUnit) (order : List Nat) : BatchOutcome :=
  .collect (units.map (·.service)) (Batch.reports (units.map (·.ending)) order)

variable {units : List TimedUnit}

theorem collect_eq_map {arrivals : List (Nat × UnitEnding)}
    (delivers : Batch.Delivers (units.map (·.ending)) arrivals) :
    BatchOutcome.collect (units.map (·.service)) arrivals = .ofOutcomes (units.map becomes) := by
  rw [BatchOutcome.collect_of_delivers (by simp) delivers, List.zipWith_map, List.zipWith_self]
  rfl

/-- In whichever order the units are joined, each of them becomes what it would on its own. -/
theorem join_eq_map {order : List Nat} (all : order.Perm (List.range units.length)) :
    join units order = .ofOutcomes (units.map becomes) :=
  collect_eq_map (Batch.delivers_reports (by rwa [List.length_map]))

/-- Timed units that report in the order of the batch. -/
theorem filterMap_zipIdx (units : List TimedUnit) :
    (units.zipIdx.filterMap fun (u, i) => u.ending.map fun e => (u.time, i, e)).map (·.2) =
      Batch.reports (units.map (·.ending)) (List.range units.length) := by
  have places : List.range units.length = units.zipIdx.map (·.2) := by
    rw [List.zipIdx_map_snd, List.range_eq_range']
  rw [Batch.reports, places, List.filterMap_map, List.map_filterMap]
  refine List.filterMap_congr fun (u, i) mem => ?_
  have at_i : units[i]? = some u := List.mem_zipIdx_iff_getElem?.mp mem
  simp [Batch.report?, at_i, Function.comp_def]

/-- Delays put the reports into an order, and do nothing else. -/
theorem delivers_arrivals (units : List TimedUnit) :
    Batch.Delivers (units.map (·.ending)) ((arrivals units).map (·.2)) := by
  refine .perm (Batch.delivers_reports (List.Perm.refl _)) ?_
  rw [List.length_map, ← filterMap_zipIdx]
  exact (List.mergeSort_perm _ _).map _

theorem outcome_eq_map (units : List TimedUnit) :
    outcome units = .ofOutcomes (units.map becomes) :=
  collect_eq_map (delivers_arrivals units)

/-- **There is one outcome for each unit, and it is the unit's own.** Whichever order the units are
joined in, their outcomes stand in the order of the batch, and each of them is told by its own unit:
so delays make no difference, and no unit changes the outcome of another one, not even of one for the
same service. -/
theorem join_becomes {order : List Nat} (all : order.Perm (List.range units.length)) :
    List.Forall₂ Becomes units (join units order).outcomes ∧
    (join units order).problems.problems = (join units order).outcomes.filterMap (·.problem) ∧
    outcome units = join units order ∧
    (∀ (units' : List TimedUnit) (order' : List Nat),
      order'.Perm (List.range units'.length) →
      (units'.map fun u => (u.service, u.ending)) = (units.map fun u => (u.service, u.ending)) →
        join units' order' = join units order) ∧
    ∀ (j : Nat) (u : TimedUnit) (order' : List Nat),
      order'.Perm (List.range units.length) →
      ∀ i, i ≠ j → (join (units.set j u) order').outcomes[i]? = (join units order).outcomes[i]? := by
  rw [join_eq_map all]
  refine ⟨?_, rfl, outcome_eq_map units, ?_, ?_⟩
  · refine List.forall₂_map_right_iff.mpr (List.forall₂_same.mpr fun u _ => ?_)
    exact becomes_iff.mpr rfl
  · intro units' order' all' same
    -- What a unit becomes is a function of the two things that the batches share.
    have told (us : List TimedUnit) : us.map becomes =
        (us.map fun u => (u.service, u.ending)).map fun t => .ofReport t.1 t.2 := by
      rw [List.map_map]
      rfl
    rw [join_eq_map all', told, told, same]
  · intro j u order' all' i other
    rw [join_eq_map (by rwa [List.length_set])]
    simp only [BatchOutcome.ofOutcomes, List.map_set]
    exact List.getElem?_set_ne (Ne.symm other)

/-- Three units, two of them for one service: the first one fails, the second one crashes and the
third one is lost. -/
def threeUnits : List TimedUnit :=
  [⟨"api", 30, some (.finished (.error (.collaborator "down")))⟩,
    ⟨"api", 10, some (.crashed (some "boom"))⟩, ⟨"web", 20, none⟩]

/-- The last unit is joined first, and the outcomes are in the order of the batch all the same. -/
theorem join_becomes_threeUnits :
    [2, 1, 0].Perm (List.range threeUnits.length) ∧
    (join threeUnits [2, 1, 0]).outcomes.map (·.service) = ["api", "api", "web"] ∧
    List.Forall₂ Becomes threeUnits (join threeUnits [2, 1, 0]).outcomes ∧
    outcome threeUnits = join threeUnits [2, 1, 0] := by
  have all : [2, 1, 0].Perm (List.range threeUnits.length) := by decide
  obtain ⟨own, -, delays, -⟩ := join_becomes all
  exact ⟨all, rfl, own, delays⟩

end TimedUnit

end FleetDeploy
