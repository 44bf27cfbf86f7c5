import FleetDeploy.Proofs.Program.Run
import FleetDeploy.Proofs.Reap.Identifiers
import FleetDeploy.Proofs.SortedMap
import Mathlib.Algebra.GroupWithZero.Nat

/-!
# What the tables of usage say

The engine's tables are lists of entries in no particular order, and what they say of one instance
is spread over them. This file says what it comes to, without the folds that add it up.

* `FleetDeploy.UsageSource.Live` – an instance is live if some entry about it says so, and it is
  exactly the live instances that have a positive usage (`usage_pos_iff`);
* `FleetDeploy.Usage.byVersion_pos_iff` – a version is in use if one of its instances is live.
-/

namespace FleetDeploy

namespace Usage

/-! ### Usage by instance -/

/-- What one entry says of an instance. -/
def activeOf (inst : InstanceId) (e : String × ActiveExecutions) : Nat :=
  if parseInstance? e.1 = some inst then e.2.count.toNat else 0

theorem getD_addActive (usage : InstanceUsage) (e : String × ActiveExecutions)
    (inst : InstanceId) :
    (addActive usage e).getD inst 0 = usage.getD inst 0 + activeOf inst e := by
  rw [addActive, activeOf]
  rcases parsed : parseInstance? e.1 with _ | i
  · simp
  · dsimp only
    rw [SortedMap.alter, SortedMap.getD_insert]
    by_cases same : inst = i
    · subst same
      simp [SortedMap.getD]
    · simp [same, Ne.symm same]

/-- **Active executions add up**: the usage of an instance is the sum over all entries about it. -/
theorem getD_ofActive (table : List (String × ActiveExecutions)) (inst : InstanceId) :
    (ofActive table).getD inst 0 = (table.map (activeOf inst)).sum := by
  -- The fold is followed from any usage, so that the induction goes through its steps.
  have added (usage : InstanceUsage) :
      (table.foldl addActive usage).getD inst 0 =
        usage.getD inst 0 + (table.map (activeOf inst)).sum := by
    induction table generalizing usage with
    | nil => simp
    | cons e rest ih =>
      rw [List.foldl_cons, ih, getD_addActive, List.map_cons, List.sum_cons, Nat.add_assoc]
  simpa [ofActive, SortedMap.getD] using added ∅

/-- Some entry about the instance has a positive number of active executions. -/
def Executes (table : List (String × ActiveExecutions)) (inst : InstanceId) : Prop :=
  ∃ e ∈ table, Names e.1 inst ∧ 0 < e.2.count

theorem ofActive_pos_iff {table : List (String × ActiveExecutions)} {inst : InstanceId} :
    0 < (ofActive table).getD inst 0 ↔ Executes table inst := by
  simp only [getD_ofActive, List.sum_pos_iff_exists_pos_nat, List.mem_map,
    exists_exists_and_eq_and, Executes]
  refine exists_congr fun e => and_congr_right fun _ => ?_
  rw [← parseInstance?_eq_some_iff, activeOf, UInt32.lt_iff_toNat_lt]
  by_cases about : parseInstance? e.1 = some inst <;> simp [about]

/-- Whether an entry tells of a bake that runs on an instance. -/
def RunsOn (inst : InstanceId) (e : String × BakeStatus) : Prop :=
  parseInstance? e.1 = some inst ∧ e.2 = .running

instance (inst : InstanceId) : DecidablePred (RunsOn inst) :=
  fun e => inferInstanceAs (Decidable (parseInstance? e.1 = some inst ∧ e.2 = .running))

theorem getD_addBake (usage : InstanceUsage) (e : String × BakeStatus) (inst : InstanceId) :
    (addBake usage e).getD inst 0 = if RunsOn inst e then 1 else usage.getD inst 0 := by
  by_cases runs : e.2 = .running
  · rw [addBake, if_pos runs]
    rcases parsed : parseInstance? e.1 with _ | i
    · simp [RunsOn, parsed]
    · dsimp only
      rw [SortedMap.getD_insert]
      simp [RunsOn, runs, parsed, eq_comm]
  · simp [addBake, RunsOn, runs]

/-- **Bakes do not add up**: an instance with running bakes counts once, however many there are. -/
theorem getD_ofBakes (table : List (String × BakeStatus)) (inst : InstanceId) :
    (ofBakes table).getD inst 0 = if ∃ e ∈ table, RunsOn inst e then 1 else 0 := by
  have added (usage : InstanceUsage) :
      (table.foldl addBake usage).getD inst 0 =
        if ∃ e ∈ table, RunsOn inst e then 1 else usage.getD inst 0 := by
    induction table generalizing usage with
    | nil => simp
    | cons e rest ih =>
      rw [List.foldl_cons, ih, getD_addBake]
      simp only [List.exists_mem_cons_iff]
      by_cases here : RunsOn inst e <;> by_cases later : ∃ e ∈ rest, RunsOn inst e <;>
        simp [here, later]
  simpa [ofBakes, SortedMap.getD] using added ∅

/-- Some entry about the instance has a bake that is running. -/
def Bakes (table : List (String × BakeStatus)) (inst : InstanceId) : Prop :=
  ∃ e ∈ table, Names e.1 inst ∧ e.2 = .running

theorem ofBakes_pos_iff {table : List (String × BakeStatus)} {inst : InstanceId} :
    0 < (ofBakes table).getD inst 0 ↔ Bakes table inst := by
  rw [getD_ofBakes, Bakes]
  simp only [← parseInstance?_eq_some_iff, ← RunsOn.eq_def]
  by_cases baking : ∃ e ∈ table, RunsOn inst e
  · rw [if_pos baking]
    exact iff_of_true Nat.one_pos baking
  · rw [if_neg baking]
    exact iff_of_false (Nat.lt_irrefl 0) baking

end Usage

/-! ### Live instances -/

namespace UsageSource

/-- The call by which a source is asked. -/
def call : UsageSource → Call
  | .activeExecutions => .activeExecutions
  | .bakes => .bakeStatuses

/-- The usage that the table of a source comes to. -/
def usage : (source : UsageSource) → source.call.Result → InstanceUsage
  | .activeExecutions, table => Usage.ofActive table
  | .bakes, table => Usage.ofBakes table

/-- **An instance is live** if some entry about it says so: a positive number of active executions,
or a bake that is running. -/
def Live : (source : UsageSource) → source.call.Result → InstanceId → Prop
  | .activeExecutions, table, inst => Usage.Executes table inst
  | .bakes, table, inst => Usage.Bakes table inst

theorem query_eq (source : UsageSource) :
    source.query = (do
      let table ← Procedure.ask source.call
      pure (source.usage table)) := by
  cases source <;> rfl

/-- A query asks once, and gives what the table comes to. -/
theorem run_query {σ : Type} {h : Handler σ} {w : World σ} {s : σ} {source : UsageSource}
    {table : source.call.Result} (told : h source.call w.state = (.answered (.ok table), s)) :
    source.query.run.run h w =
      (.finished (.ok (source.usage table)),
        ⟨s, .called source.call (.answered (.ok table)) :: w.journal⟩) := by
  rw [query_eq, Procedure.run_bind_of_ok (Procedure.run_ask told)]
  rfl

/-- **It is the live instances that are in use.** -/
theorem usage_pos_iff (source : UsageSource) (table : source.call.Result) (inst : InstanceId) :
    0 < (source.usage table).getD inst 0 ↔ source.Live table inst := by
  cases source with
  | activeExecutions => exact Usage.ofActive_pos_iff
  | bakes => exact Usage.ofBakes_pos_iff

end UsageSource

/-! ### Usage by version -/

/-- The instances of a version, if a service has that version. -/
def RunningService.HasInstance (running : RunningService) (v : Version) (inst : InstanceId) : Prop :=
  ∃ members, running.instances.get? v = some members ∧ inst ∈ members

namespace Usage

variable (running : RunningService) (usage : InstanceUsage)

@[simp] theorem keys_byVersion : (byVersion running usage).keys = running.versions :=
  SortedMap.keys_mapValues _ _

/-- The usage of a version is the sum over its instances. -/
theorem get?_byVersion (v : Version) :
    (byVersion running usage).get? v =
      (running.instances.get? v).map fun instances =>
        (instances.members.map fun i => usage.getD i 0).sum := by
  rw [byVersion, SortedMap.get?_mapValues]
  refine congrArg (fun f => (running.instances.get? v).map f) (funext fun instances => ?_)
  rw [List.sum_eq_foldl, List.foldl_map]

/-- **A version is in use** if one of its instances is. -/
theorem byVersion_pos_iff (v : Version) :
    0 < (byVersion running usage).getD v 0 ↔
      ∃ inst, running.HasInstance v inst ∧ 0 < usage.getD inst 0 := by
  simp only [SortedMap.getD, get?_byVersion, RunningService.HasInstance]
  rcases running.instances.get? v with _ | instances
  · simp
  · simp only [Option.map_some, Option.getD_some, List.sum_pos_iff_exists_pos_nat, List.mem_map,
      exists_exists_and_eq_and, Option.some.injEq, exists_eq_left']
    rfl

end Usage

end FleetDeploy
