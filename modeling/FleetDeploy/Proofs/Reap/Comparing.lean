import FleetDeploy.Proofs.Reap.Deletions

/-!
# More usage never deletes more

What is selected depends on a table of usage in one way only: through which of the instances of the
service are live. So a table that tells of everything live that another one tells of can but spare
more versions, and entries that make no instance of the service live can be added to a table, and
left out of it, without a difference. This is why it is safe to pass over identifiers that are not
well formed or that are about other services.

| the larger table | the selection |
|---|---|
| tells of no less (`UsageSource.Covers`) | spares no less (`ReapSelection.SparesMore`) |
| has idle entries besides (`UsageSource.AddsIdle`) | is the same |

The second line is the first one taken both ways (`ReapSelection.SparesMore.antisymm`).

* `FleetDeploy.ReapSelection.sparesMore_of_busy` – more versions in use, fewer that may go;
* `FleetDeploy.UsageSource.sparesMore_of_live` – the same, told from what is live;
* `FleetDeploy.UsageSource.spares_of_more_usage` – the comparison of two tables.
-/

namespace FleetDeploy

/-! ### Selections that spare more -/

namespace ReapSelection

/-- **A selection that spares more** than another one: the same versions are kept, and of the others
more stay in use and fewer may go. -/
structure SparesMore (more less : ReapSelection) : Prop where
  kept : more.kept = less.kept
  inUse : less.inUse.Sublist more.inUse
  reapable : more.reapable.Sublist less.reapable

theorem SparesMore.antisymm {s s' : ReapSelection} (more : s.SparesMore s')
    (less : s'.SparesMore s) : s = s' := by
  have inUse : s.inUse = s'.inUse := less.inUse.antisymm more.inUse
  have reapable : s.reapable = s'.reapable := more.reapable.antisymm less.reapable
  calc s = ⟨s.kept, s.inUse, s.reapable⟩ := rfl
    _ = ⟨s'.kept, s'.inUse, s'.reapable⟩ := by rw [more.kept, inUse, reapable]

/-- **Where more versions are in use, more are spared.** -/
theorem sparesMore_of_busy {usage usage' : VersionUsage} (keep : Nat)
    (keys : usage'.keys = usage.keys)
    (busy : ∀ v, 0 < usage.getD v 0 → 0 < usage'.getD v 0) :
    (ReapSelection.of usage' keep).SparesMore (ReapSelection.of usage keep) := by
  -- The same versions are old in both cases, and it is the old ones that usage divides.
  obtain ⟨old, new, parts, count⟩ := exists_parts usage keep
  have parts' : usage'.keys = old ++ new := keys.trans parts
  have count' : new.length = min keep usage'.keys.length := by rw [keys, count]
  rw [of_append parts count, of_append parts' count']
  constructor
  case kept => rfl
  case inUse =>
    refine List.monotone_filter_right old fun v used => ?_
    exact decide_eq_true (busy v (of_decide_eq_true used))
  case reapable =>
    refine List.monotone_filter_right old fun v idle => ?_
    simp only [Bool.not_eq_true', decide_eq_false_iff_not] at idle ⊢
    exact fun used => idle (busy v used)

end ReapSelection

namespace UsageSource

variable {running : RunningService} {source : UsageSource} {table larger : source.call.Result}

/-- **Where more instances of a service are live, more of its versions are spared.** -/
theorem sparesMore_of_live (keep : Nat)
    (live : ∀ v inst, running.HasInstance v inst → source.Live table inst →
      source.Live larger inst) :
    (ReapSelection.of (Usage.byVersion running (source.usage larger)) keep).SparesMore
      (ReapSelection.of (Usage.byVersion running (source.usage table)) keep) := by
  refine ReapSelection.sparesMore_of_busy keep (by simp) fun v busy => ?_
  rw [Usage.byVersion_pos_iff] at busy ⊢
  obtain ⟨inst, has, used⟩ := busy
  have still := live v inst has ((source.usage_pos_iff table inst).mp used)
  exact ⟨inst, has, (source.usage_pos_iff larger inst).mpr still⟩

end UsageSource

/-! ### Tables that tell of more -/

namespace Usage

section Tables

variable {ν : Type} {runs : ν → Prop} {noLess : ν → ν → Prop} {running : RunningService}
  {table larger : List (String × ν)} {inst : InstanceId} {v : Version}

variable (runs noLess) in
/-- **A table covers another one** if each entry of that one by which something runs is in it, with
the same identifier, and tells of no less. -/
def Covers (table larger : List (String × ν)) : Prop :=
  ∀ e ∈ table, runs e.2 → ∃ e' ∈ larger, e'.1 = e.1 ∧ noLess e.2 e'.2

variable (runs running) in
/-- **An idle entry** makes no instance of a service live: its identifier is not well formed, or
nothing runs by it, or it is about an instance that the service does not have. -/
def Idle (e : String × ν) : Prop :=
  (∀ inst, ¬Names e.1 inst) ∨ ¬runs e.2 ∨
    ∃ inst, Names e.1 inst ∧ ∀ v, ¬running.HasInstance v inst

variable (runs running) in
/-- **A table adds nothing but idle entries** to another one. -/
structure AddsIdle (table larger : List (String × ν)) : Prop where
  stays : ∀ e ∈ table, e ∈ larger
  idle : ∀ e ∈ larger, e ∈ table ∨ Idle runs running e

/-- What is live stays live in a table that covers. -/
theorem Covers.live (covers : Covers runs noLess table larger)
    (still : ∀ {a b}, runs a → noLess a b → runs b)
    (live : ∃ e ∈ table, Names e.1 inst ∧ runs e.2) : ∃ e ∈ larger, Names e.1 inst ∧ runs e.2 := by
  obtain ⟨e, mem, names, runs_now⟩ := live
  obtain ⟨e', mem', same, more⟩ := covers e mem runs_now
  exact ⟨e', mem', same ▸ names, still runs_now more⟩

/-- An entry by which something runs on an instance of the service is not idle. -/
theorem not_idle {e : String × ν} (names : Names e.1 inst) (runs_now : runs e.2)
    (has : running.HasInstance v inst) : ¬Idle runs running e := by
  rintro (malformed | still | ⟨other, names', absent⟩)
  · exact malformed inst names
  · exact still runs_now
  · -- An identifier is about one instance.
    have same : some inst = some other :=
      (parseInstance?_eq_some_iff.mpr names).symm.trans (parseInstance?_eq_some_iff.mpr names')
    cases same
    exact absent v has

theorem AddsIdle.covers (adds : AddsIdle runs running table larger)
    (no_less : ∀ a, runs a → noLess a a) : Covers runs noLess table larger :=
  fun e mem runs_now => ⟨e, adds.stays e mem, rfl, no_less e.2 runs_now⟩

/-- Where only idle entries are added, no instance of the service is live that was not. -/
theorem AddsIdle.live (adds : AddsIdle runs running table larger)
    (has : running.HasInstance v inst) (live : ∃ e ∈ larger, Names e.1 inst ∧ runs e.2) :
    ∃ e ∈ table, Names e.1 inst ∧ runs e.2 := by
  obtain ⟨e, mem, names, runs_now⟩ := live
  exact ⟨e, (adds.idle e mem).resolve_right (not_idle names runs_now has), names, runs_now⟩

end Tables

end Usage

namespace UsageSource

variable {running : RunningService} {source : UsageSource} {table larger : source.call.Result}

/-- **A table of a source covers another one**: for each entry with active executions it has one
with as many or more, and for each bake that is running one that is running as well. -/
def Covers : (source : UsageSource) → (table larger : source.call.Result) → Prop
  | .activeExecutions => Usage.Covers (fun a => 0 < a.count) fun a a' => a.count ≤ a'.count
  | .bakes => Usage.Covers (· = .running) fun _ status => status = .running

/-- **A table of a source adds nothing but idle entries** to another one. -/
def AddsIdle (running : RunningService) :
    (source : UsageSource) → (table larger : source.call.Result) → Prop
  | .activeExecutions => Usage.AddsIdle (fun a => 0 < a.count) running
  | .bakes => Usage.AddsIdle (· = .running) running

theorem Covers.live (covers : source.Covers table larger) {inst : InstanceId}
    (live : source.Live table inst) : source.Live larger inst := by
  cases source with
  | activeExecutions =>
    rw [Covers] at covers
    exact covers.live UInt32.lt_of_lt_of_le live
  | bakes =>
    rw [Covers] at covers
    exact covers.live (fun _ still => still) live

theorem AddsIdle.covers (adds : source.AddsIdle running table larger) :
    source.Covers table larger := by
  cases source with
  | activeExecutions =>
    rw [Covers]
    exact Usage.AddsIdle.covers adds fun a _ => UInt32.le_refl a.count
  | bakes =>
    rw [Covers]
    exact Usage.AddsIdle.covers adds fun _ runs => runs

theorem AddsIdle.live (adds : source.AddsIdle running table larger) {v : Version}
    {inst : InstanceId} (has : running.HasInstance v inst) (live : source.Live larger inst) :
    source.Live table inst := by
  cases source with
  | activeExecutions => exact Usage.AddsIdle.live adds has live
  | bakes => exact Usage.AddsIdle.live adds has live

/-! ### The comparison -/

/-- **More usage never deletes more.** Where a table covers another one, the same versions are kept,
and whatever may go under the larger table may go under the smaller one. Where it adds nothing but
idle entries, the selection is the same. -/
theorem spares_of_more_usage (running : RunningService) (keep : Nat) (source : UsageSource)
    (table larger : source.call.Result) :
    (source.Covers table larger →
      (ReapSelection.of (Usage.byVersion running (source.usage larger)) keep).SparesMore
        (ReapSelection.of (Usage.byVersion running (source.usage table)) keep)) ∧
    (source.AddsIdle running table larger →
      ReapSelection.of (Usage.byVersion running (source.usage larger)) keep =
        ReapSelection.of (Usage.byVersion running (source.usage table)) keep) := by
  constructor
  · intro covers
    exact sparesMore_of_live keep fun _ _ _ live => covers.live live
  · intro adds
    refine (sparesMore_of_live keep ?_).antisymm (sparesMore_of_live keep ?_)
    · exact fun _ _ _ live => adds.covers.live live
    · exact fun _ _ has live => adds.live has live

open Reap (fourVersions someExecutions)

/-- Executions on one more version, and more of them on the one that was in use. -/
def moreExecutions : List (String × ActiveExecutions) :=
  [("run@@a", ⟨7⟩), ("bake@a", ⟨1⟩), ("run@b", ⟨3⟩)]

/-- Entries of each idle kind besides: of another service, not well formed, and with a count of
nought. -/
def idleExecutions : List (String × ActiveExecutions) :=
  [("run@z", ⟨5⟩), ("@a", ⟨4⟩), ("bake@a", ⟨0⟩)] ++ someExecutions

theorem addsIdle_idleExecutions :
    UsageSource.activeExecutions.AddsIdle fourVersions someExecutions idleExecutions where
  stays := by decide
  idle := by
    intro e mem
    rcases List.mem_append.mp mem with new | old
    · right
      simp only [List.mem_cons, List.not_mem_nil, or_false] at new
      rcases new with rfl | rfl | rfl
      · have elsewhere : ∀ e ∈ fourVersions.instances.entries, "z" ∉ e.2.members := by decide
        refine Or.inr (Or.inr ⟨"z", Usage.parseInstance?_eq_some_iff.mp (by decide), ?_⟩)
        rintro v ⟨members, found, has⟩
        exact elsewhere _ (SortedMap.mem_entries.mpr found) has
      · have malformed : Usage.parseInstance? "@a" = none := by decide
        refine Or.inl fun inst names => ?_
        rw [Usage.parseInstance?_eq_some_iff.mpr names] at malformed
        cases malformed
      · exact Or.inr (Or.inl (by decide))
    · exact Or.inl old

/-- Of four versions two are kept. With the second one in use the first may go; once the first is in
use as well, none may; and idle entries make no difference. -/
theorem spares_of_more_usage_fourVersions :
    UsageSource.activeExecutions.Covers someExecutions moreExecutions ∧
    UsageSource.activeExecutions.AddsIdle fourVersions someExecutions idleExecutions ∧
    ReapSelection.of (Usage.byVersion fourVersions (Usage.ofActive someExecutions)) 2 =
      ⟨[3, 4], [2], [1]⟩ ∧
    ReapSelection.of (Usage.byVersion fourVersions (Usage.ofActive moreExecutions)) 2 =
      ⟨[3, 4], [1, 2], []⟩ ∧
    (ReapSelection.of (Usage.byVersion fourVersions (Usage.ofActive moreExecutions)) 2).SparesMore
      (ReapSelection.of (Usage.byVersion fourVersions (Usage.ofActive someExecutions)) 2) ∧
    ReapSelection.of (Usage.byVersion fourVersions (Usage.ofActive idleExecutions)) 2 =
      ⟨[3, 4], [2], [1]⟩ := by
  have covers : UsageSource.activeExecutions.Covers someExecutions moreExecutions := by
    show ∀ e ∈ someExecutions, 0 < e.2.count →
      ∃ e' ∈ moreExecutions, e'.1 = e.1 ∧ e.2.count ≤ e'.2.count
    decide
  have selected : ReapSelection.of
      (Usage.byVersion fourVersions (Usage.ofActive someExecutions)) 2 = ⟨[3, 4], [2], [1]⟩ := by
    decide
  have more := (spares_of_more_usage fourVersions 2 .activeExecutions someExecutions
    moreExecutions).1 covers
  have same := (spares_of_more_usage fourVersions 2 .activeExecutions someExecutions
    idleExecutions).2 addsIdle_idleExecutions
  exact ⟨covers, addsIdle_idleExecutions, selected, by decide, more, same.trans selected⟩

end UsageSource

end FleetDeploy
