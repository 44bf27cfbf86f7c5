import FleetDeploy.Proofs.Batch.Shuffling
import FleetDeploy.Proofs.Program.Exchanges

/-!
# What a batch exchanges with its collaborators

What a unit exchanges with its collaborators is described by a relation that holds whatever it is
answered (`FleetDeploy.Procedure.Yields`), and so it holds whatever the other units do in between.
Each unit of a batch yields in its own journal what it yields when it is alone. The journal of the
batch is a shuffle of these, and so the calls of a batch are those of its units, as often as the
units make them.

* `FleetDeploy.Strand.Yields` – what a unit on its way yields, the invariant of each of its steps
  (`FleetDeploy.Strand.Yields.step`);
* `FleetDeploy.Interleaved.yields` – what each unit has yielded when all have ended;
* `FleetDeploy.Interleaved.calls_perm` – the calls of a batch, where it is known which calls each
  unit makes.
-/

namespace FleetDeploy

variable {σ ι β : Type} {h : Handler σ} {strands : List Strand} {w w' : World σ}
  {arrivals : List (Nat × UnitEnding)}

/-- **What a unit on its way yields**: what it has exchanged, and then what it will exchange. -/
def Strand.Yields (Q : List Step → UnitEnding → Prop) (s : Strand) : Prop :=
  s.progress.Yields fun more => Q (exchangesOf s.journal.reverse ++ more)

/-- **A step of the unit** moves an exchange from the one to the other. -/
theorem Strand.Yields.step {Q : List Step → UnitEnding → Prop} {own steps : List Step}
    {p : Program (Except DeployError Unit)}
    {progress : Program.Progress (Except DeployError Unit)} {state state' : σ}
    (yields : Strand.Yields Q ⟨own, .going p⟩)
    (stepped : p.step h ⟨state, []⟩ = (progress, ⟨state', steps⟩)) :
    Strand.Yields Q ⟨steps ++ own, progress⟩ := by
  obtain ⟨steps', journal, yields⟩ := Program.Yields.step yields stepped
  obtain rfl : steps = steps' := journal.trans (List.append_nil _)
  rw [Strand.Yields, List.reverse_append, exchangesOf_append]
  simpa only [List.append_assoc] using yields

namespace Interleaved

variable {items : List ι} {unit : ι → WorkUnit}

/-- **Each unit yields in a batch what it yields alone.** -/
theorem yields {Q : ι → List Step → UnitEnding → Prop}
    (interleaved : Interleaved h ((items.map unit).map .ofUnit) w arrivals strands w')
    (each : ∀ item ∈ items, (unit item).body.Yields (Q item)) {i : Nat} {item : ι} {s : Strand}
    (at_i : items[i]? = some item) (there : strands[i]? = some s) :
    ∃ ending, s.progress = .ended ending ∧ Q item (exchangesOf s.journal.reverse) ending := by
  have kept : s.Yields (Q item) := by
    refine interleaved.keeps (P := fun j s => ∀ item, items[j]? = some item → s.Yields (Q item))
      (fun before stepped item at_j => (before item at_j).step stepped) ?_ i s there item at_i
    -- A unit that has not begun has exchanged nothing.
    intro j s begun item at_j
    rw [List.getElem?_map, List.getElem?_map, at_j] at begun
    obtain rfl := Option.some.inj begun
    exact each item (List.mem_of_getElem? at_j)
  obtain ⟨ending, ended⟩ := interleaved.all_ended s (List.mem_of_getElem? there)
  rw [Strand.Yields, ended, Program.Progress.Yields, List.append_nil] at kept
  exact ⟨ending, ended, kept⟩

/-- **The calls of a batch** are those of its units together, in some order. Some of the calls may
be left out of account. -/
theorem calls_perm {pick : Call → Option β} {makes : ι → List β}
    (interleaved : Interleaved h ((items.map unit).map .ofUnit) w arrivals strands w')
    (each : ∀ item ∈ items, (unit item).body.Yields fun steps _ =>
      (callsOf steps).filterMap pick = makes item) :
    ∃ later, w'.journal = later ++ w.journal ∧
      ((callsOf later).filterMap pick).Perm (items.flatMap makes) := by
  obtain ⟨later, journal, shuffled⟩ := interleaved.shuffled
  refine ⟨later, journal, ?_⟩
  have own : ((tracesOf strands).map callsOf).map (·.filterMap pick) = items.map makes := by
    have size : strands.length = items.length := by
      rw [interleaved.length_eq, List.length_map, List.length_map]
    refine List.ext_getElem (by simp [tracesOf, size]) fun i inside inside' => ?_
    simp only [tracesOf, List.getElem_map]
    rw [List.length_map] at inside'
    have at_i := List.getElem?_eq_getElem inside'
    have there := List.getElem?_eq_getElem (size ▸ inside')
    obtain ⟨ending, -, made⟩ := interleaved.yields each at_i there
    rwa [callsOf_exchangesOf] at made
  have calls := ((shuffled.filterMap (·.call?)).filterMap pick).perm
  have reversed : later.Perm later.reverse := (List.reverse_perm later).symm
  calc (callsOf later).filterMap pick
    _ |>.Perm ((callsOf later.reverse).filterMap pick) := (reversed.filterMap _).filterMap _
    _ |>.Perm (items.map makes).flatten := own ▸ calls
    _ = items.flatMap makes := List.flatMap_def.symm

end Interleaved

end FleetDeploy
