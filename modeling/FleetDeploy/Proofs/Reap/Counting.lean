import FleetDeploy.Proofs.Reap.Usage
import Mathlib.Algebra.BigOperators.Group.List.Basic

/-!
# Usage as sums

The engine hands out its tables in no particular order, and several of its identifiers may be about
one instance. The folds of `FleetDeploy.Usage` go through a table entry by entry, once adding to
what is there and once writing over it, and still the order makes no difference: what they come to
is a sum in the one case and a yes or no in the other. Both are said here of the table as a map,
whatever the order in which its entries are gone through.

| table | an instance is there if | and its usage is |
|---|---|---|
| active executions | some identifier is about it | the sum of the counts of all of them |
| bakes | some bake runs on it | one |

A version's usage is then the sum over its instances, and so it adds up as the usage by instance
does (`FleetDeploy.Usage.byVersion_add`). Counts are natural numbers throughout, so that no sum is
too large.

* `FleetDeploy.SortedMap.get?_add` – two maps of counts, added up key by key;
* `FleetDeploy.Usage.isSome_get?_foldl` – the instances that a fold writes to;
* `FleetDeploy.UsageSource.counts_usage` – what a query comes to, and what follows by version.
-/

namespace FleetDeploy

/-! ### Maps of counts -/

namespace SortedMap

variable {κ : Type} [LT κ] [DecidableLT κ] [DecidableEq κ] [LE κ] [Std.IsLinearOrder κ]
  [Std.LawfulOrderLT κ]

/-- The counts of two maps added up, key by key. A key is there if one of the maps has it. -/
def add (a b : SortedMap κ Nat) : SortedMap κ Nat :=
  b.keys.foldl (fun sums k => sums.insert k (a.getD k 0 + b.getD k 0)) a

instance : Add (SortedMap κ Nat) := ⟨add⟩

variable (a b : SortedMap κ Nat) (k : κ)

theorem get?_add : (a + b).get? k = (a.get? k).merge (· + ·) (b.get? k) := by
  have written (keys : List κ) (sums : SortedMap κ Nat) :
      (keys.foldl (fun sums k => sums.insert k (a.getD k 0 + b.getD k 0)) sums).get? k =
        if k ∈ keys then some (a.getD k 0 + b.getD k 0) else sums.get? k := by
    induction keys generalizing sums with
    | nil => simp
    | cons x rest ih =>
      rw [List.foldl_cons, ih, get?_insert]
      by_cases first : k = x <;> by_cases later : k ∈ rest <;> simp [first, later]
  have sums : (a + b).get? k = if k ∈ b.keys then some (a.getD k 0 + b.getD k 0) else a.get? k :=
    written b.keys a
  rcases found : b.get? k with _ | n
  · have absent : k ∉ b.keys := by simp [mem_keys, found]
    rw [sums, if_neg absent, Option.merge_none_right]
  · rw [sums, if_pos (mem_keys_of_get? found), getD, getD, found]
    cases a.get? k <;> simp

theorem getD_add : (a + b).getD k 0 = a.getD k 0 + b.getD k 0 := by
  rw [getD, getD, getD, get?_add]
  rcases a.get? k with _ | m <;> rcases b.get? k with _ | n <;> simp

end SortedMap

namespace Usage

/-! ### Which instances are there -/

section Written

variable {β : Type} {inst : InstanceId}

/-- **A fold writes to the instances that its entries are about**, if each of its steps does. -/
theorem isSome_get?_foldl {step : InstanceUsage → β → InstanceUsage} {about : β → Prop}
    (writes : ∀ usage e, ((step usage e).get? inst).isSome ↔
      about e ∨ (usage.get? inst).isSome) (table : List β) (usage : InstanceUsage) :
    ((table.foldl step usage).get? inst).isSome ↔
      (∃ e ∈ table, about e) ∨ (usage.get? inst).isSome := by
  induction table generalizing usage with
  | nil => simp
  | cons e rest ih =>
    rw [List.foldl_cons, ih, writes, List.exists_mem_cons_iff, ← or_assoc, or_comm (b := about e)]

theorem isSome_get?_insert (usage : InstanceUsage) (i : InstanceId) (n : Nat) :
    ((usage.insert i n).get? inst).isSome ↔ i = inst ∨ (usage.get? inst).isSome := by
  rw [SortedMap.get?_insert]
  by_cases same : inst = i
  · simp [same]
  · simp [same, Ne.symm same]

theorem isSome_get?_addActive (usage : InstanceUsage) (e : String × ActiveExecutions) :
    ((addActive usage e).get? inst).isSome ↔ Names e.1 inst ∨ (usage.get? inst).isSome := by
  rw [addActive, ← parseInstance?_eq_some_iff]
  rcases parsed : parseInstance? e.1 with _ | i
  · simp
  · simpa [SortedMap.alter] using isSome_get?_insert usage i _

theorem isSome_get?_addBake (usage : InstanceUsage) (e : String × BakeStatus) :
    ((addBake usage e).get? inst).isSome ↔
      (Names e.1 inst ∧ e.2 = .running) ∨ (usage.get? inst).isSome := by
  rw [addBake, ← parseInstance?_eq_some_iff]
  by_cases runs : e.2 = .running
  · rcases parsed : parseInstance? e.1 with _ | i
    · simp [runs]
    · simpa [runs] using isSome_get?_insert usage i 1
  · simp [runs]

end Written

/-- A lookup of a count is told by whether it finds anything and by the count, nought if not. -/
theorem get?_eq_ite (usage : InstanceUsage) (inst : InstanceId) :
    usage.get? inst = if (usage.get? inst).isSome then some (usage.getD inst 0) else none := by
  rw [SortedMap.getD]
  cases usage.get? inst <;> rfl

/-! ### Sums over a table -/

instance (composite : String) (inst : InstanceId) : Decidable (Names composite inst) :=
  decidable_of_iff _ parseInstance?_eq_some_iff

instance (table : List (String × BakeStatus)) (inst : InstanceId) :
    Decidable (Bakes table inst) :=
  inferInstanceAs (Decidable (∃ e ∈ table, Names e.1 inst ∧ e.2 = .running))

section Tables

variable (inst : InstanceId)

/-- How many executions a table tells of on an instance: the counts of all entries about it. -/
def executing (table : List (String × ActiveExecutions)) : Nat :=
  ((table.filter fun e => Names e.1 inst).map fun e => e.2.count.toNat).sum

theorem executing_eq (table : List (String × ActiveExecutions)) :
    executing inst table = (table.map (activeOf inst)).sum := by
  rw [executing]
  induction table with
  | nil => rfl
  | cons e rest ih =>
    rw [List.map_cons, List.sum_cons, ← ih, activeOf, List.filter_cons]
    simp only [parseInstance?_eq_some_iff, decide_eq_true_eq]
    split <;> simp

/-- The order of a table makes no difference to the sum. -/
theorem executing_perm {table table' : List (String × ActiveExecutions)}
    (reordered : table.Perm table') : executing inst table = executing inst table' :=
  ((reordered.filter _).map _).sum_nat

/-- **Active executions by instance**: those instances are there that some entry is about, each with
the sum of the counts. -/
theorem get?_ofActive (table : List (String × ActiveExecutions)) :
    (ofActive table).get? inst =
      if ∃ e ∈ table, Names e.1 inst then some (executing inst table) else none := by
  have there : ((ofActive table).get? inst).isSome ↔ ∃ e ∈ table, Names e.1 inst :=
    (isSome_get?_foldl isSome_get?_addActive table ∅).trans (or_iff_left (by simp))
  rw [get?_eq_ite, getD_ofActive, executing_eq]
  simp only [there]

/-- **Bakes by instance**: those instances are there that some bake runs on, each with one. -/
theorem get?_ofBakes (table : List (String × BakeStatus)) :
    (ofBakes table).get? inst = if Bakes table inst then some 1 else none := by
  have there : ((ofBakes table).get? inst).isSome ↔ Bakes table inst :=
    (isSome_get?_foldl isSome_get?_addBake table ∅).trans (or_iff_left (by simp))
  have once (baking : Bakes table inst) : (ofBakes table).getD inst 0 = 1 := by
    rw [getD_ofBakes, if_pos]
    simpa only [RunsOn, parseInstance?_eq_some_iff, Bakes] using baking
  rw [get?_eq_ite]
  by_cases baking : Bakes table inst
  · rw [if_pos baking, if_pos (there.mpr baking), once baking]
  · rw [if_neg baking, if_neg (mt there.mp baking)]

end Tables

/-! ### Sums by version -/

/-- **Usage by version adds up**: that of a sum is the sum of both. -/
theorem byVersion_add (running : RunningService) (a b : InstanceUsage) :
    byVersion running (a + b) = byVersion running a + byVersion running b := by
  refine SortedMap.ext_get? fun v => ?_
  rw [SortedMap.get?_add, get?_byVersion, get?_byVersion, get?_byVersion]
  rcases running.instances.get? v with _ | members
  · rfl
  · simp only [Option.map_some, Option.merge_some_some, SortedMap.getD_add, List.sum_map_add]

/-! ### What a query comes to -/

/-- **The usage that active executions come to**: an instance is there if some identifier is about
it, and its usage is the sum of the counts of all of them. -/
def CountsExecutions (table : SortedMap String ActiveExecutions) (usage : InstanceUsage) : Prop :=
  ∀ inst, usage.get? inst =
    if ∃ e ∈ table.entries, Names e.1 inst then some (executing inst table.entries) else none

/-- **The usage that bakes come to**: an instance is there if some bake runs on it, and counts
once. -/
def CountsBakes (table : SortedMap String BakeStatus) (usage : InstanceUsage) : Prop :=
  ∀ inst, usage.get? inst = if Bakes table.entries inst then some 1 else none

theorem countsExecutions_ofActive {table : SortedMap String ActiveExecutions}
    {entries : List (String × ActiveExecutions)} (same : entries.Perm table.entries) :
    CountsExecutions table (ofActive entries) := by
  intro inst
  have about : (∃ e ∈ entries, Names e.1 inst) ↔ ∃ e ∈ table.entries, Names e.1 inst := by
    simp only [same.mem_iff]
  rw [get?_ofActive, executing_perm inst same]
  simp only [about]

theorem countsBakes_ofBakes {table : SortedMap String BakeStatus}
    {entries : List (String × BakeStatus)} (same : entries.Perm table.entries) :
    CountsBakes table (ofBakes entries) := by
  intro inst
  have baking : Bakes entries inst ↔ Bakes table.entries inst := by
    simp only [Bakes, same.mem_iff]
  rw [get?_ofBakes]
  simp only [baking]

end Usage

namespace UsageSource

open Usage

/-- **Usage is counted so**, in whatever order the engine hands out the entries of its tables. By
instance, active executions add up and bakes count once; by version, it is the sum over the members
of the version, and so the usage by version of two usages added up is that of each of them, added
up. -/
theorem counts_usage {σ : Type} (h : Handler σ) (w : World σ) :
    (∀ (table : SortedMap String ActiveExecutions) (entries : List (String × ActiveExecutions)) (s),
      entries.Perm table.entries →
      h .activeExecutions w.state = (.answered (.ok entries), s) →
      ∃ usage, UsageSource.activeExecutions.query.run.run h w =
          (.finished (.ok usage),
            ⟨s, .called .activeExecutions (.answered (.ok entries)) :: w.journal⟩) ∧
        CountsExecutions table usage) ∧
    (∀ (table : SortedMap String BakeStatus) (entries : List (String × BakeStatus)) (s),
      entries.Perm table.entries →
      h .bakeStatuses w.state = (.answered (.ok entries), s) →
      ∃ usage, UsageSource.bakes.query.run.run h w =
          (.finished (.ok usage),
            ⟨s, .called .bakeStatuses (.answered (.ok entries)) :: w.journal⟩) ∧
        CountsBakes table usage) ∧
    (∀ running usage v, (byVersion running usage).get? v =
      (running.instances.get? v).map fun members =>
        (members.members.map fun inst => usage.getD inst 0).sum) ∧
    ∀ running (a b : InstanceUsage),
      (∀ inst, (a + b).getD inst 0 = a.getD inst 0 + b.getD inst 0) ∧
      byVersion running (a + b) = byVersion running a + byVersion running b ∧
      ∀ v, (byVersion running (a + b)).getD v 0 =
        (byVersion running a).getD v 0 + (byVersion running b).getD v 0 := by
  refine ⟨?_, ?_, get?_byVersion, fun running a b => ⟨a.getD_add b, byVersion_add running a b, ?_⟩⟩
  · intro table entries s same told
    exact ⟨_, @run_query σ h w s .activeExecutions entries told, countsExecutions_ofActive same⟩
  · intro table entries s same told
    exact ⟨_, @run_query σ h w s .bakes entries told, countsBakes_ofBakes same⟩
  · intro v
    rw [byVersion_add, SortedMap.getD_add]

/-- An engine whose tables come out of order. -/
def jumbled : Handler Unit
  | .activeExecutions, _ =>
    (.answered (.ok [("run@j", ⟨0⟩), ("bake@i", ⟨3⟩), ("@i", ⟨9⟩), ("run@i", ⟨2⟩)]), ())
  | .bakeStatuses, _ =>
    (.answered (.ok [("two@i", .running), ("one@j", .completed), ("one@i", .running)]), ())
  | _, _ => (.crashed none, ())

/-- Two identifiers are about one instance: their executions add up, and their bakes count once. -/
theorem counts_usage_outOfOrder :
    let executions : SortedMap String ActiveExecutions :=
      .ofList [("run@i", ⟨2⟩), ("bake@i", ⟨3⟩), ("run@j", ⟨0⟩), ("@i", ⟨9⟩)]
    let bakes : SortedMap String BakeStatus :=
      .ofList [("one@i", .running), ("two@i", .running), ("one@j", .completed)]
    [("run@j", ⟨0⟩), ("bake@i", ⟨3⟩), ("@i", ⟨9⟩), ("run@i", ⟨2⟩)].Perm executions.entries ∧
    [("two@i", .running), ("one@j", .completed), ("one@i", .running)].Perm bakes.entries ∧
    (∃ usage w, UsageSource.activeExecutions.query.run.run jumbled ⟨(), []⟩ =
        (.finished (.ok usage), w) ∧
      usage.get? "i" = some 5 ∧ usage.get? "j" = some 0 ∧ usage.get? "k" = none) ∧
    ∃ usage w, UsageSource.bakes.query.run.run jumbled ⟨(), []⟩ = (.finished (.ok usage), w) ∧
      usage.get? "i" = some 1 ∧ usage.get? "j" = none := by
  intro executions bakes
  have active : [("run@j", ⟨0⟩), ("bake@i", ⟨3⟩), ("@i", ⟨9⟩), ("run@i", ⟨2⟩)].Perm
      executions.entries := by decide
  have baking : [("two@i", .running), ("one@j", .completed), ("one@i", .running)].Perm
      bakes.entries := by decide
  obtain ⟨of_executions, of_bakes, -⟩ := counts_usage jumbled ⟨(), []⟩
  obtain ⟨usage, ran, counts⟩ := of_executions executions _ () active rfl
  obtain ⟨once, ran_once, counts_once⟩ := of_bakes bakes _ () baking rfl
  exact ⟨active, baking,
    ⟨usage, _, ran, (counts "i").trans (by decide), (counts "j").trans (by decide),
      (counts "k").trans (by decide)⟩,
    once, _, ran_once, (counts_once "i").trans (by decide), (counts_once "j").trans (by decide)⟩

end UsageSource

end FleetDeploy
