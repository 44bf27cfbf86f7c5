import FleetDeploy.Proofs.Batch.Alone
import FleetDeploy.Proofs.Program.Effects

/-!
# What a batch does to one service

The units of a batch are interleaved, but a unit that never asks for a change of a service may take
its steps whenever it likes: they leave that service alone. So where one unit at most asks for
changes of a service, the service fares as if that unit had been carried out without a break.

* `FleetDeploy.Strand.Spares` – a unit that asks for no change of a service;
* `FleetDeploy.Interleaved.spared` – where no unit asks for a change nothing is changed;
* `FleetDeploy.Interleaved.treated` – where one unit does, it comes to an end that it is allowed to
  come to.
-/

namespace FleetDeploy

variable {service : ServiceName} {strands strands' : List Strand} {w w' : World Fleet}
  {arrivals : List (Nat × UnitEnding)} {i : Nat}

/-- A unit that asks for no change of a service any more. -/
def Strand.Spares (service : ServiceName) (s : Strand) : Prop :=
  ∀ p, s.progress = .going p → p.AsksOnly fun c => c.changed? ≠ some service

/-- What is left of a unit after a step spares what it spared before. -/
theorem Strand.Spares.step {own steps : List Step} (own' : List Step)
    {p : Program (Except DeployError Unit)}
    {progress : Program.Progress (Except DeployError Unit)} {f f' : Fleet}
    (spares : Strand.Spares service ⟨own, .going p⟩)
    (stepped : p.step Fleet.respond ⟨f, []⟩ = (progress, ⟨f', steps⟩)) :
    Strand.Spares service ⟨own', progress⟩ ∧
      f'.infrastructure.running? service = f.infrastructure.running? service := by
  refine ⟨?_, (spares p rfl).running?_step stepped⟩
  rintro rest rfl
  exact (spares p rfl).step stepped

/-- After a step of one of them, units that all spare a service do so still. -/
theorem Strand.spare_step {own own' steps : List Step} {p : Program (Except DeployError Unit)}
    {progress : Program.Progress (Except DeployError Unit)} {f f' : Fleet}
    (spare : ∀ s ∈ strands, s.Spares service) (at_i : strands[i]? = some ⟨own, .going p⟩)
    (stepped : p.step Fleet.respond ⟨f, []⟩ = (progress, ⟨f', steps⟩)) :
    (∀ s ∈ strands.set i ⟨own', progress⟩, s.Spares service) ∧
      f'.infrastructure.running? service = f.infrastructure.running? service := by
  obtain ⟨spares, same⟩ := (spare _ (List.mem_of_getElem? at_i)).step own' stepped
  refine ⟨fun s mem => ?_, same⟩
  rcases List.mem_or_eq_of_mem_set mem with mem | rfl
  · exact spare s mem
  · exact spares

/-- **Units that all spare a service** leave it as it is. -/
theorem Interleaved.spared (interleaved : Interleaved Fleet.respond strands w arrivals strands' w')
    (spare : ∀ s ∈ strands, s.Spares service) :
    w'.state.infrastructure.running? service = w.state.infrastructure.running? service := by
  induction interleaved with
  | settled all => rfl
  | advanced at_j stepped others ih =>
    obtain ⟨spare', same⟩ := Strand.spare_step spare at_j stepped
    exact (ih spare').trans same
  | reported at_j stepped others ih =>
    obtain ⟨spare', same⟩ := Strand.spare_step spare at_j stepped
    exact (ih spare').trans same

/-- **The unit in one place treats a service**, and all others spare it. -/
structure Batch.Treats (service : ServiceName) (Q : UnitEnding → Option RunningService → Prop)
    (i : Nat) (strands : List Strand) (now : Option RunningService) : Prop where
  own : ∃ s, strands[i]? = some s ∧ s.progress.Treats service (fun _ _ => True) Q now
  others : ∀ j s, j ≠ i → strands[j]? = some s → s.Spares service

namespace Batch.Treats

variable {Q : UnitEnding → Option RunningService → Prop} {own own' steps : List Step}
  {p : Program (Except DeployError Unit)} {progress : Program.Progress (Except DeployError Unit)}
  {f f' : Fleet} {j : Nat}

/-- **A step of some unit** keeps it so. -/
theorem step (treats : Treats service Q i strands (f.infrastructure.running? service))
    (at_j : strands[j]? = some ⟨own, .going p⟩)
    (stepped : p.step Fleet.respond ⟨f, []⟩ = (progress, ⟨f', steps⟩)) :
    Treats service Q i (strands.set j ⟨own', progress⟩) (f'.infrastructure.running? service) := by
  have inside : j < strands.length := (List.getElem?_eq_some_iff.mp at_j).1
  -- It is the step of the unit that treats the service, or of one that spares it.
  by_cases same : j = i
  · subst same
    obtain ⟨s, at_i, going⟩ := treats.own
    obtain rfl : s = ⟨own, .going p⟩ := Option.some.inj (at_i.symm.trans at_j)
    refine ⟨⟨_, List.getElem?_set_self inside, ?_⟩, fun k s other at_k => ?_⟩
    · have going : p.Treats service (fun _ _ => True) Q (f.infrastructure.running? service) := going
      exact (Program.Treats.step (w := ⟨f, []⟩) going stepped).2
    · rw [List.getElem?_set_ne (Ne.symm other)] at at_k
      exact treats.others k s other at_k
  · have spared := (treats.others j _ same at_j).step own' stepped
    refine ⟨?_, fun k s other at_k => ?_⟩
    · rw [spared.2, List.getElem?_set_ne same]
      exact treats.own
    · by_cases here : j = k
      · subst here
        rw [List.getElem?_set_self inside] at at_k
        cases at_k
        exact spared.1
      · rw [List.getElem?_set_ne here] at at_k
        exact treats.others k s other at_k

end Batch.Treats

/-- **Where one unit treats a service** it ends as it may, whatever the others do in between. -/
theorem Interleaved.treated {Q : UnitEnding → Option RunningService → Prop}
    (interleaved : Interleaved Fleet.respond strands w arrivals strands' w')
    (treats : Batch.Treats service Q i strands (w.state.infrastructure.running? service)) :
    ∃ ending, (Strand.fates strands')[i]? = some (some ending) ∧
      Q ending (w'.state.infrastructure.running? service) := by
  induction interleaved with
  | settled all =>
    obtain ⟨⟨own, progress⟩, at_i, treated⟩ := treats.own
    obtain ⟨ending, ended⟩ := all _ (List.mem_of_getElem? at_i)
    obtain rfl : progress = .ended ending := ended
    exact ⟨ending, Strand.getElem?_fates at_i, treated⟩
  | advanced at_j stepped others ih => exact ih (treats.step at_j stepped)
  | reported at_j stepped others ih => exact ih (treats.step at_j stepped)

end FleetDeploy
