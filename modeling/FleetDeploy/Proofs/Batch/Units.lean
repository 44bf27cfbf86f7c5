import FleetDeploy.Proofs.Batch.Joining
import FleetDeploy.Proofs.Batch.Moments

/-!
# Whose call it is

A journal tells what was asked for, and not which unit asked. Units have their places, though: the
unit in place `i` was begun with the item of work in place `i`, and it stays there however it is
interleaved with the others. So whoever is about to make a call can be told by its place, and what
it may ask for is what the item in that place is for. Services are not looked up by name in this,
and a plan may have two of one name.

* `FleetDeploy.Moment.AskedBy` – the unit of a service is about to make a call;
* `FleetDeploy.Moment.InPlace` – every unit is in its place and asks for what it is for: the
  invariant;
* `FleetDeploy.BatchOperation.Reaches.askedBy_of_asks`,
  `FleetDeploy.BatchOperation.Reaches.works_of_askedBy` – what only units ask for is asked for by one
  of them, and by nobody whom it is not for.
-/

namespace FleetDeploy

variable {σ ρ : Type} {h : Handler σ}

namespace Moment

/-- **The unit of a service is about to make a call.** -/
def AskedBy (service : Service) (c : Call) : Moment ρ → Prop
  | .carryingOut plan strands _ => ∃ (i : Nat) (item : WorkItem) (own : List Step)
      (p : Program (Except DeployError Unit)), plan.workItems[i]? = some item ∧
      item.service = service ∧ strands[i]? = some ⟨own, .going p⟩ ∧ p.next? = some c
  | _ => False

/-- **The invariant**: every unit is in the place of an item of work, and what is left of it asks
for nothing but what that item is for. -/
def InPlace (working : WorkItem → Call → Prop) : Moment ρ → Prop
  | .carryingOut plan strands _ => ∀ (i : Nat) (s : Strand), strands[i]? = some s →
      ∃ item, plan.workItems[i]? = some item ∧
        ∀ p, s.progress = .going p → p.AsksOnly (working item)
  | _ => True

end Moment

namespace BatchOperation

variable {op : BatchOperation ρ} {w v v' : World σ} {m m' : Moment ρ} {service : Service} {c : Call}
  {preparing : Call → Prop} {working : WorkItem → Call → Prop}
  {concluding : BatchOutcome → Call → Prop}

/-- Units are begun in the order of the items of work. -/
theorem item_of_begun {plan : Plan} {i : Nat} {s : Strand}
    (begun : ((op.units plan).map Strand.ofUnit)[i]? = some s) :
    ∃ item, plan.workItems[i]? = some item ∧ s = ⟨[], .going (op.body item).run⟩ := by
  rw [units, List.map_map, List.getElem?_map, Option.map_eq_some_iff] at begun
  obtain ⟨item, at_i, rfl⟩ := begun
  exact ⟨item, at_i, rfl⟩

/-- **A step leaves every unit in its place.** -/
theorem Moves.inPlace (body : ∀ item, (op.body item).AsksOnly (working item))
    (moves : op.Moves h m v m' v') (before : m.InPlace working) : m'.InPlace working := by
  cases moves with
  | @prepare p _ progress _ stepped =>
    rcases progress with ((e | plan) | payload) | rest
    · trivial
    · intro i s begun
      obtain ⟨item, at_i, rfl⟩ := item_of_begun begun
      refine ⟨item, at_i, fun p going => ?_⟩
      obtain rfl := Program.Progress.going.inj going
      exact body item
    · trivial
    · trivial
  | @work plan strands _ _ i own p progress _ _ at_i stepped =>
    refine Strand.forall_set before ?_
    obtain ⟨item, place, asks⟩ := before i _ at_i
    refine ⟨item, place, fun rest going => ?_⟩
    obtain rfl : progress = .going rest := going
    exact (asks p rfl).step stepped
  | join all => trivial
  | @conclude _ _ p _ progress _ stepped => cases progress <;> trivial

/-- At every moment that is reached, every unit is in its place. -/
theorem Reaches.inPlace (body : ∀ item, (op.body item).AsksOnly (working item))
    (reached : op.Reaches h w m v) : m.InPlace working := by
  induction reached with
  | start => trivial
  | move so_far moves ih => exact moves.inPlace body ih

/-- **A call that is for units only is asked for by one of them.** -/
theorem Reaches.askedBy_of_asks (conduct : op.Conduct preparing working concluding)
    (reached : op.Reaches h w m v) (asks : m.Asks c) (unprepared : ¬preparing c)
    (unconcluded : ∀ outcome, ¬concluding outcome c) : ∃ service, m.AskedBy service c := by
  have allowed := reached.allows conduct asks
  cases m with
  | preparing rest => exact absurd allowed unprepared
  | carryingOut plan strands arrivals =>
    obtain ⟨⟨own, progress⟩, mem, p, rfl, next⟩ := asks
    obtain ⟨i, at_i⟩ := List.getElem?_of_mem mem
    obtain ⟨item, place, -⟩ := reached.inPlace conduct.body i _ at_i
    exact ⟨item.service, i, item, own, p, place, rfl, at_i, next⟩
  | concluding plan outcome rest => exact absurd allowed (unconcluded outcome)
  | closed ending => exact allowed.elim

/-- **A unit asks for what its item of work is for**, and its item is one of a plan that was made
for the call. -/
theorem Reaches.works_of_askedBy (conduct : op.Conduct preparing working concluding)
    (reached : op.Reaches h w m v) (asked : m.AskedBy service c) :
    ∃ plan w₁ item, op.prepare.run.run h w = (.finished (.ok plan), w₁) ∧
      item ∈ plan.workItems ∧ item.service = service ∧ working item c := by
  cases m with
  | carryingOut plan strands arrivals =>
    obtain ⟨i, item, own, p, place, mine, at_i, next⟩ := asked
    obtain ⟨w₁, -, prepared, -, -⟩ := reached.since_plan conduct
    obtain ⟨item', place', asks⟩ := reached.inPlace conduct.body i _ at_i
    obtain rfl := Option.some.inj (place.symm.trans place')
    exact ⟨plan, w₁, item, prepared, List.mem_of_getElem? place, mine, (asks p rfl).next next⟩
  | _ => exact asked.elim

end BatchOperation

end FleetDeploy
