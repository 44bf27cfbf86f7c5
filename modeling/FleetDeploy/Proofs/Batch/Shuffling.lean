import FleetDeploy.Proofs.Batch.Joining
import FleetDeploy.Proofs.Program.Events
import Mathlib.Data.List.Perm.Basic

/-!
# What a batch tells observers

The units of a batch write into one journal, and each of them has a journal of its own besides. How
the two go together is the subject here: the common journal is a shuffle of the units' own ones, in
which nothing is lost and nothing is made up, and in which what one unit did stands in the order in
which it did it.

* `FleetDeploy.Shuffled` – some lists shuffled into one;
* `FleetDeploy.Shuffled.filterMap`, `FleetDeploy.Shuffled.perm` – what is read off a shuffle;
* `FleetDeploy.Interleaved.shuffled` – the journal of a batch is a shuffle;
* `FleetDeploy.Interleaved.keeps` – what every unit keeps in each of its steps, it keeps in a batch.
-/

namespace FleetDeploy

/-! ### Shuffles -/

/-- **Some lists shuffled into one**, item by item: the next item of the whole is put behind those of
one of the lists. -/
inductive Shuffled {α : Type} : List (List α) → List α → Prop
  | start {ls} (all : ∀ l ∈ ls, l = []) : Shuffled ls []
  | next {ls whole i l} (so_far : Shuffled ls whole) (at_i : ls[i]? = some l) (a : α) :
      Shuffled (ls.set i (l ++ [a])) (whole ++ [a])

namespace Shuffled

variable {α β : Type} {ls : List (List α)} {whole : List α}

/-- What is picked out of a shuffle is a shuffle of what is picked out of the lists. -/
theorem filterMap (f : α → Option β) (shuffled : Shuffled ls whole) :
    Shuffled (ls.map (·.filterMap f)) (whole.filterMap f) := by
  induction shuffled with
  | start all =>
    refine .start fun l mem => ?_
    obtain ⟨l', mem', rfl⟩ := List.mem_map.mp mem
    rw [all l' mem', List.filterMap_nil]
  | @next ls whole i l so_far at_i a ih =>
    have at_i' : (ls.map (·.filterMap f))[i]? = some (l.filterMap f) := by
      rw [List.getElem?_map, at_i]
      rfl
    rw [List.map_set, List.filterMap_append, List.filterMap_append]
    rcases picked : f a with _ | b
    · -- What is not picked leaves the list, and the shuffle, as they are.
      rw [List.filterMap_cons_none picked, List.filterMap_nil, List.append_nil, List.append_nil]
      obtain ⟨inside, still⟩ := List.getElem?_eq_some_iff.mp at_i'
      rw [← still, List.set_getElem_self]
      exact ih
    · rw [List.filterMap_cons_some picked, List.filterMap_nil]
      exact ih.next at_i' b

/-- A shuffle has the items of the lists, as often as they are there. -/
theorem perm (shuffled : Shuffled ls whole) : whole.Perm ls.flatten := by
  induction shuffled with
  | start all => rw [List.flatten_eq_nil_iff.mpr all]
  | @next ls whole i l so_far at_i a ih =>
    obtain ⟨inside, here⟩ := List.getElem?_eq_some_iff.mp at_i
    have split : ls = ls.take i ++ l :: ls.drop (i + 1) := by
      rw [← here, List.getElem_cons_drop, List.take_append_drop]
    have put : ls.set i (l ++ [a]) = ls.take i ++ (l ++ [a]) :: ls.drop (i + 1) :=
      List.set_eq_take_append_cons_drop.trans (if_pos inside)
    rw [split] at ih
    rw [put]
    -- In the whole the new item stands at the end, behind all the lists that come after its own.
    simp only [List.flatten_append, List.flatten_cons] at ih ⊢
    refine (ih.append_right [a]).trans ?_
    simp only [List.append_assoc]
    exact (List.perm_append_comm.append_left l).append_left _

end Shuffled

/-! ### The journal of a batch -/

namespace Interleaved

variable {σ : Type} {h : Handler σ} {strands strands' : List Strand} {w w' : World σ}
  {arrivals : List (Nat × UnitEnding)}

/-- What units have done so far, each for itself and in order. -/
def tracesOf (strands : List Strand) : List (List Step) := strands.map (·.journal.reverse)

/-- A step of one unit goes into its own trace and into that of all. -/
theorem shuffled_step {done steps : List Step} {i : Nat} {own : List Step} {state state' : σ}
    {p : Program (Except DeployError Unit)}
    {progress progress' : Program.Progress (Except DeployError Unit)}
    (so_far : Shuffled (tracesOf strands) done)
    (at_i : strands[i]? = some ⟨own, .going p⟩)
    (stepped : p.step h ⟨state, []⟩ = (progress, ⟨state', steps⟩)) :
    Shuffled (tracesOf (strands.set i ⟨steps ++ own, progress'⟩)) (done ++ steps.reverse) := by
  have at_i' : (tracesOf strands)[i]? = some own.reverse := by
    rw [tracesOf, List.getElem?_map, at_i]
    rfl
  rw [tracesOf, List.map_set]
  rcases Program.journal_of_step stepped with none | ⟨step, one, -⟩
  · obtain rfl : steps = [] := none
    obtain ⟨inside, still⟩ := List.getElem?_eq_some_iff.mp at_i'
    have unchanged := List.set_getElem_self inside
    rw [still] at unchanged
    rw [List.reverse_nil, List.append_nil, List.nil_append]
    exact unchanged ▸ so_far
  · obtain rfl : steps = [step] := one
    have next := so_far.next at_i' step
    rwa [← List.reverse_cons] at next

/-- **The journal of a batch is a shuffle** of the journals of its units. -/
theorem shuffled_from {done : List Step} (so_far : Shuffled (tracesOf strands) done)
    (interleaved : Interleaved h strands w arrivals strands' w') :
    ∃ later, w'.journal = later ++ w.journal ∧
      Shuffled (tracesOf strands') (done ++ later.reverse) := by
  induction interleaved generalizing done with
  | settled all => exact ⟨[], rfl, by simpa using so_far⟩
  | advanced at_i stepped others ih =>
    obtain ⟨later, journal, shuffled⟩ := ih (shuffled_step so_far at_i stepped)
    exact ⟨_, by rw [journal, ← List.append_assoc], by simpa using shuffled⟩
  | reported at_i stepped others ih =>
    obtain ⟨later, journal, shuffled⟩ := ih (shuffled_step so_far at_i stepped)
    exact ⟨_, by rw [journal, ← List.append_assoc], by simpa using shuffled⟩

theorem shuffled {units : List WorkUnit}
    (interleaved : Interleaved h (units.map .ofUnit) w arrivals strands' w') :
    ∃ later, w'.journal = later ++ w.journal ∧ Shuffled (tracesOf strands') later.reverse := by
  refine shuffled_from (.start fun l mem => ?_) interleaved
  rw [tracesOf, List.map_map] at mem
  obtain ⟨unit, -, rfl⟩ := List.mem_map.mp mem
  rfl

/-- **What units keep in a batch** is what each of them keeps in a step of its own. -/
theorem keeps {P : Nat → Strand → Prop}
    (kept : ∀ {i own p progress state steps state'}, P i ⟨own, .going p⟩ →
      p.step h ⟨state, []⟩ = (progress, ⟨state', steps⟩) → P i ⟨steps ++ own, progress⟩)
    (interleaved : Interleaved h strands w arrivals strands' w')
    (start : ∀ i s, strands[i]? = some s → P i s) : ∀ i s, strands'[i]? = some s → P i s := by
  -- The unit that takes the step keeps what it has to, and the others have not moved.
  induction interleaved with
  | settled all => exact start
  | advanced at_i stepped others ih =>
    exact ih (Strand.forall_set start (kept (start _ _ at_i) stepped))
  | reported at_i stepped others ih =>
    exact ih (Strand.forall_set start (kept (start _ _ at_i) stepped))

end Interleaved

end FleetDeploy
