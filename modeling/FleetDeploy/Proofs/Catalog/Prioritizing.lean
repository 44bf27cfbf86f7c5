import FleetDeploy.Catalog
import Mathlib.Data.List.Basic

/-!
# The order of a catalog

The order of a catalog is the order in which a fleet is deployed, and its first entry of a kind is
the one that is reaped, so both have to be a matter of the entries alone. They are put in order by
descending priority, and those of one priority stay as they were given. Nothing is said about names,
which may occur more than once.

A request picks entries by their names, and a name that no entry has is told rather than passed
over. Which entries are picked depends on the names that occur in the request, and not on where or
how often they do. The order in which they occur matters only for the name that is told.

* `FleetDeploy.Catalog.Ranks` – a list of services put in order;
* `FleetDeploy.Catalog.Leads` – the service that comes first among some of a list, told from the
  list as it was given;
* `FleetDeploy.Catalog.Ranks.find?_eq_some_iff` – what is found first in the order is what leads;
* `FleetDeploy.Catalog.FirstUnknown` – the name of a request that is told;
* `FleetDeploy.Catalog.First` – the entry that a search finds, in any catalog;
* `FleetDeploy.Catalog.Prioritizes`, `FleetDeploy.Catalog.ranks_and_prioritizes` – what becomes of a
  request, and the laws of a catalog together.
-/

namespace FleetDeploy.Catalog

/-! ### The order -/

/-- **A list of services put in order**: they are the same services, those of higher priority come
first, and those of one priority stand as they did. -/
structure Ranks (given ranked : List Service) : Prop where
  perm : ranked.Perm given
  descending : ranked.Pairwise fun s t => t.priority ≤ s.priority
  stable : ∀ p, ranked.filter (fun s => s.priority = p) = given.filter fun s => s.priority = p

/-- **A catalog has its services in order.** -/
theorem ranks_ofList (given : List Service) : Ranks given (ofList given).services := by
  have trans : ∀ a b c : Service, decide (b.priority ≤ a.priority) = true →
      decide (c.priority ≤ b.priority) = true → decide (c.priority ≤ a.priority) = true := by
    intro a b c ab bc
    exact decide_eq_true (UInt32.le_trans (of_decide_eq_true bc) (of_decide_eq_true ab))
  have total : ∀ a b : Service,
      (decide (b.priority ≤ a.priority) || decide (a.priority ≤ b.priority)) = true := by
    intro a b
    simpa using UInt32.le_total b.priority a.priority
  have perm : (ofList given).services.Perm given := List.mergeSort_perm _ _
  have sorted := List.pairwise_mergeSort trans total given
  refine ⟨perm, sorted.imp fun le => of_decide_eq_true le, fun p => ?_⟩
  -- The services of one priority are in order as they are, and so they are found in this order
  -- among all others.
  have level : (given.filter fun s => s.priority = p).Pairwise
      fun a b => decide (b.priority ≤ a.priority) = true := by
    rw [List.pairwise_filter]
    refine List.pairwise_of_forall fun a b a_level b_level => decide_eq_true ?_
    rw [of_decide_eq_true a_level, of_decide_eq_true b_level]
    exact UInt32.le_refl p
  have among : (given.filter fun s => s.priority = p).Sublist
      ((ofList given).services.filter fun s => s.priority = p) := by
    have kept := List.sublist_mergeSort trans total level List.filter_sublist
    simpa [ofList] using kept.filter fun s => decide (s.priority = p)
  exact (among.eq_of_length (perm.filter _).length_eq.symm).symm

/-- **The service that leads** among those of a list that meet some condition: none of them has a
higher priority, and none that was given before it has the same. -/
structure Leads (given : List Service) (p : Service → Bool) (s : Service) : Prop where
  meets : p s = true
  first : ∃ before after, given = before ++ s :: after ∧
    (∀ t ∈ before, p t = true → t.priority < s.priority) ∧
      ∀ t ∈ after, p t = true → t.priority ≤ s.priority

section Leading

variable {given ranked : List Service} {p : Service → Bool} {s s' : Service}

/-- What leads is of the highest priority. -/
theorem Leads.highest (leads : Leads given p s) :
    ∀ t ∈ given, p t = true → t.priority ≤ s.priority := by
  obtain ⟨before, after, rfl, below, within⟩ := leads.first
  intro t mem meets
  rcases List.mem_append.mp mem with mem | mem
  · exact UInt32.le_of_lt (below t mem meets)
  · rcases List.mem_cons.mp mem with rfl | mem
    · exact UInt32.le_refl _
    · exact within t mem meets

/-- What leads is the first of its priority. -/
theorem Leads.find? (leads : Leads given p s) :
    given.find? (fun t => p t && t.priority = s.priority) = some s := by
  obtain ⟨before, after, rfl, below, -⟩ := leads.first
  rw [List.find?_eq_some_iff_append]
  refine ⟨by simp [leads.meets], before, after, rfl, fun t mem => ?_⟩
  by_cases meets : p t = true
  · have different : t.priority ≠ s.priority := UInt32.ne_of_lt (below t mem meets)
    simp [different]
  · simp [meets]

/-- At most one service leads. -/
theorem Leads.unique (leads : Leads given p s) (leads' : Leads given p s') : s = s' := by
  have mem : s ∈ given := List.mem_of_find?_eq_some leads.find?
  have mem' : s' ∈ given := List.mem_of_find?_eq_some leads'.find?
  have level : s.priority = s'.priority :=
    UInt32.le_antisymm (leads'.highest s mem leads.meets) (leads.highest s' mem' leads'.meets)
  have found := leads.find?
  rw [level, leads'.find?] at found
  exact (Option.some.inj found).symm

/-- What is found first in the order leads. -/
theorem Ranks.leads (ranks : Ranks given ranked) (found : ranked.find? p = some s) :
    Leads given p s := by
  obtain ⟨meets, passed, rest, split, failed⟩ := List.find?_eq_some_iff_append.mp found
  have others : ∀ t ∈ passed, p t = false := fun t mem => by simpa using failed t mem
  have highest : ∀ t ∈ given, p t = true → t.priority ≤ s.priority := by
    intro t mem t_meets
    have descending := ranks.descending
    rw [split, List.pairwise_append, List.pairwise_cons] at descending
    rw [← ranks.perm.mem_iff, split, List.mem_append, List.mem_cons] at mem
    rcases mem with mem | rfl | mem
    · rw [others t mem] at t_meets
      cases t_meets
    · exact UInt32.le_refl _
    · exact descending.2.1.1 t mem
  -- Among the services of its priority it is found first too, and these stand as they were given.
  have first : given.find? (fun t => t.priority = s.priority && p t) = some s := by
    have level : (ranked.filter fun t => t.priority = s.priority).find? p = some s := by
      rw [List.find?_filter, List.find?_eq_some_iff_append]
      refine ⟨by simp [meets], passed, rest, split, fun t mem => ?_⟩
      simp [others t mem]
    rw [ranks.stable, List.find?_filter] at level
    simpa using level
  obtain ⟨-, before, after, rfl, failed⟩ := List.find?_eq_some_iff_append.mp first
  refine ⟨meets, before, after, rfl, fun t mem t_meets => ?_, fun t mem => ?_⟩
  · have below := highest t (List.mem_append_left _ mem) t_meets
    have different : t.priority ≠ s.priority := by simpa [t_meets] using failed t mem
    exact UInt32.lt_of_le_of_ne below different
  · exact highest t (List.mem_append_right _ (List.mem_cons_of_mem _ mem))

/-- **What is found first in the order is what leads.** -/
theorem Ranks.find?_eq_some_iff (ranks : Ranks given ranked) :
    ranked.find? p = some s ↔ Leads given p s := by
  refine ⟨ranks.leads, fun leads => ?_⟩
  have mem : s ∈ ranked := ranks.perm.mem_iff.mpr (List.mem_of_find?_eq_some leads.find?)
  rcases found : ranked.find? p with _ | s'
  · exact absurd leads.meets (List.find?_eq_none.mp found s mem)
  · rw [leads.unique (ranks.leads found)]

/-- Nothing is found in the order where nothing meets the condition. -/
theorem Ranks.find?_eq_none_iff (ranks : Ranks given ranked) :
    ranked.find? p = none ↔ ∀ s ∈ given, p s = false := by
  simp only [List.find?_eq_none, ranks.perm.mem_iff, Bool.not_eq_true]

end Leading

/-! ### Names -/

variable {c : Catalog} {requested : List ServiceName} {name : ServiceName}

/-- Whether some entry has a name. -/
def Has (c : Catalog) (name : ServiceName) : Prop := ∃ s ∈ c.services, s.name = name

/-- **The first name of a request that no entry has.** -/
inductive FirstUnknown (c : Catalog) : List ServiceName → ServiceName → Prop
  | here {name rest} (unknown : ¬c.Has name) : FirstUnknown c (name :: rest) name
  | later {known name rest} (has : c.Has known) (first : FirstUnknown c rest name) :
      FirstUnknown c (known :: rest) name

theorem get?_eq_none_iff : c.get? name = none ↔ ¬c.Has name := by
  rw [get?, List.find?_eq_none, Has]
  simp

theorem isSome_get?_iff : (c.get? name).isSome ↔ c.Has name := by
  rw [← not_iff_not, ← get?_eq_none_iff, Option.not_isSome_iff_eq_none]

/-- An entry that is found has the name. -/
theorem mem_of_get? {s : Service} (found : c.get? name = some s) :
    s ∈ c.services ∧ s.name = name := by
  have named := List.find?_some found
  exact ⟨List.mem_of_find?_eq_some found, of_decide_eq_true named⟩

/-! ### The first entry -/

/-- **The first entry that meets a condition**: no entry before it does. -/
structure First (c : Catalog) (p : Service → Prop) (s : Service) : Prop where
  meets : p s
  first : ∃ before after, c.services = before ++ s :: after ∧ ∀ t ∈ before, ¬p t

theorem First.mem {p : Service → Prop} {s : Service} (first : c.First p s) : s ∈ c.services := by
  obtain ⟨-, before, after, split, -⟩ := first
  rw [split]
  exact List.mem_append_right _ List.mem_cons_self

/-- The search for an entry finds the first one. -/
theorem find?_eq_some_iff_first {p : Service → Prop} [DecidablePred p] {s : Service} :
    c.services.find? (fun t => p t) = some s ↔ c.First p s := by
  rw [List.find?_eq_some_iff_append]
  constructor
  · rintro ⟨meets, before, after, split, failed⟩
    exact ⟨of_decide_eq_true meets, before, after, split, fun t mem => by simpa using failed t mem⟩
  · rintro ⟨meets, before, after, split, failed⟩
    exact ⟨decide_eq_true meets, before, after, split, fun t mem => by simpa using failed t mem⟩

theorem First.unique {p : Service → Prop} [DecidablePred p] {s s' : Service} (first : c.First p s)
    (first' : c.First p s') : s = s' := by
  have found := find?_eq_some_iff_first.mpr first
  rw [find?_eq_some_iff_first.mpr first'] at found
  exact (Option.some.inj found).symm

theorem get?_eq_some_iff_first {s : Service} :
    c.get? name = some s ↔ c.First (fun t => t.name = name) s :=
  find?_eq_some_iff_first

theorem byKind?_eq_some_iff {kind : ServiceKind} {s : Service} :
    c.byKind? kind = some s ↔ c.First (fun t => t.kind = kind) s :=
  find?_eq_some_iff_first

theorem byKind?_eq_none_iff {kind : ServiceKind} :
    c.byKind? kind = none ↔ ∀ s ∈ c.services, s.kind ≠ kind := by
  rw [byKind?, List.find?_eq_none]
  simp

namespace FirstUnknown

theorem mem (first : c.FirstUnknown requested name) : name ∈ requested := by
  induction first with
  | here unknown => exact List.mem_cons_self
  | later has first ih => exact List.mem_cons_of_mem _ ih

theorem unknown (first : c.FirstUnknown requested name) : ¬c.Has name := by
  induction first with
  | here unknown => exact unknown
  | later has first ih => exact ih

theorem unique {name' : ServiceName} (first : c.FirstUnknown requested name)
    (first' : c.FirstUnknown requested name') : name = name' := by
  induction first with
  | here unknown =>
    cases first' with
    | here _ => rfl
    | later has _ => exact absurd has unknown
  | later has first ih =>
    cases first' with
    | here unknown => exact absurd has unknown
    | later _ first' => exact ih first'

/-- A request with an unknown name has a first one. -/
theorem exists_iff :
    (∃ name, c.FirstUnknown requested name) ↔ ∃ name ∈ requested, ¬c.Has name := by
  constructor
  · rintro ⟨name, first⟩
    exact ⟨name, first.mem, first.unknown⟩
  · induction requested with
    | nil => simp
    | cons n rest ih =>
      intro some_unknown
      by_cases has : c.Has n
      · have later : ∃ name ∈ rest, ¬c.Has name := by
          simpa [has] using some_unknown
        obtain ⟨name, first⟩ := ih later
        exact ⟨name, .later has first⟩
      · exact ⟨n, .here has⟩

/-- The search for a name that is not there finds the first one. -/
theorem find?_eq_some_iff :
    requested.find? (fun name => (c.get? name).isNone) = some name ↔
      c.FirstUnknown requested name := by
  induction requested with
  | nil => exact iff_of_false (by simp) fun first => by cases first
  | cons n rest ih =>
    rw [List.find?_cons]
    rcases found : c.get? n with _ | s
    · have absent : ¬c.Has n := get?_eq_none_iff.mp found
      constructor
      · rintro ⟨⟩
        exact .here absent
      · intro first
        cases first with
        | here unknown => rfl
        | later has first => exact absurd has absent
    · have has : c.Has n := isSome_get?_iff.mp (by rw [found]; rfl)
      rw [Option.isNone_some]
      constructor
      · exact fun later => .later has (ih.mp later)
      · intro first
        cases first with
        | here unknown => exact absurd has unknown
        | later has first => exact ih.mpr first

end FirstUnknown

/-! ### Requests -/

variable {services : List Service} {e : DeployError}

/-- **How a request fails**: its first unknown name is told. -/
theorem prioritized_eq_error_iff : c.prioritized requested = .error e ↔
    ∃ name, c.FirstUnknown requested name ∧ e = .unknownService name := by
  rw [prioritized]
  split
  · next nothing =>
    rw [List.isEmpty_iff.mp nothing]
    refine iff_of_false (by simp) ?_
    rintro ⟨name, first, -⟩
    cases first
  · rcases found : requested.find? fun name => (c.get? name).isNone with _ | name
    · refine iff_of_false (by simp) ?_
      rintro ⟨name, first, -⟩
      rw [FirstUnknown.find?_eq_some_iff.mpr first] at found
      cases found
    · constructor
      · rintro ⟨⟩
        exact ⟨name, FirstUnknown.find?_eq_some_iff.mp found, rfl⟩
      · rintro ⟨name', first, rfl⟩
        rw [FirstUnknown.find?_eq_some_iff.mpr first] at found
        obtain rfl := Option.some.inj found
        rfl

/-- The services of a request are those that it names, or all if it names none. -/
theorem prioritized_eq (found : c.prioritized requested = .ok services) :
    services = c.services.filter fun service =>
      requested.isEmpty || requested.contains service.name := by
  rw [prioritized] at found
  split at found
  · next none_named =>
    obtain rfl := Except.ok.inj found
    exact (List.filter_eq_self.mpr fun service _ => by rw [none_named]; rfl).symm
  · next some_named =>
    have named : requested.isEmpty = false := by simpa using some_named
    split at found
    · cases found
    · rw [named]
      exact (Except.ok.inj found).symm

/-- **How a request succeeds**: all its names are known, and it picks the entries that have them. -/
theorem prioritized_eq_ok_iff : c.prioritized requested = .ok services ↔
    (∀ name ∈ requested, c.Has name) ∧ services = c.services.filter fun service =>
      requested.isEmpty || requested.contains service.name := by
  constructor
  · intro found
    refine ⟨?_, prioritized_eq found⟩
    by_contra some_unknown
    obtain ⟨name, first⟩ := FirstUnknown.exists_iff.mpr (by simpa using some_unknown)
    have failed := prioritized_eq_error_iff.mpr ⟨name, first, rfl⟩
    rw [found] at failed
    cases failed
  · rintro ⟨known, rfl⟩
    rcases found : c.prioritized requested with e | services
    · obtain ⟨name, first, -⟩ := prioritized_eq_error_iff.mp found
      exact absurd (known name first.mem) first.unknown
    · rw [prioritized_eq found]

/-- The services of a request are some of the catalog, in the order of the catalog. -/
theorem prioritized_sublist (found : c.prioritized requested = .ok services) :
    services.Sublist c.services := by
  rw [prioritized_eq found]
  exact List.filter_sublist

/-- The only thing wrong with a request is a name that is not in the catalog. -/
theorem error_of_prioritized (unknown : c.prioritized requested = .error e) :
    ∃ name ∈ requested, c.get? name = none ∧ e = .unknownService name := by
  obtain ⟨name, first, rfl⟩ := prioritized_eq_error_iff.mp unknown
  exact ⟨name, first.mem, get?_eq_none_iff.mpr first.unknown, rfl⟩

/-- **What becomes of a request**: it fails if it names a service that is not there, and tells the
first such name; otherwise it picks every entry that it names, or every entry if it names none, as
often as the catalog has it and in the order of the catalog. Where it succeeds, another request with
the same names in it does so with the same services. -/
structure Prioritizes (c : Catalog) (requested : List ServiceName) : Prop where
  fails_iff : (∃ e, c.prioritized requested = .error e) ↔
    requested ≠ [] ∧ ∃ name ∈ requested, ¬c.Has name
  told : ∀ e, c.prioritized requested = .error e ↔
    ∃ name, c.FirstUnknown requested name ∧ e = .unknownService name
  ordered : ∀ services, c.prioritized requested = .ok services → services.Sublist c.services
  picked : ∀ services, c.prioritized requested = .ok services → ∀ s, services.count s =
    if requested = [] ∨ s.name ∈ requested then c.services.count s else 0
  names : ∀ requested', (∀ name, name ∈ requested' ↔ name ∈ requested) →
    ∀ services, c.prioritized requested' = .ok services ↔ c.prioritized requested = .ok services

/-- Every request is treated so, whatever is in the catalog. -/
theorem prioritizes (c : Catalog) (requested : List ServiceName) : c.Prioritizes requested where
  fails_iff := by
    simp only [prioritized_eq_error_iff]
    constructor
    · rintro ⟨e, name, first, -⟩
      exact ⟨List.ne_nil_of_mem first.mem, name, first.mem, first.unknown⟩
    · rintro ⟨-, unknown⟩
      obtain ⟨name, first⟩ := FirstUnknown.exists_iff.mpr unknown
      exact ⟨_, name, first, rfl⟩
  told e := prioritized_eq_error_iff
  ordered services found := prioritized_sublist found
  picked services found s := by
    have wanted : (requested.isEmpty || requested.contains s.name) = true ↔
        requested = [] ∨ s.name ∈ requested := by simp
    rw [prioritized_eq found]
    split
    · next asked => exact List.count_filter (p := fun s => _) (wanted.mpr asked)
    · next others =>
      refine List.count_eq_zero.mpr fun mem => others (wanted.mp ?_)
      exact (List.mem_filter.mp mem).2
  names requested' same services := by
    have nothing : requested'.isEmpty = requested.isEmpty := by
      rw [Bool.eq_iff_iff, List.isEmpty_iff, List.isEmpty_iff, List.eq_nil_iff_forall_not_mem,
        List.eq_nil_iff_forall_not_mem]
      simp only [same]
    have contained : ∀ name, requested'.contains name = requested.contains name := by
      intro name
      rw [Bool.eq_iff_iff, List.contains_iff_mem, List.contains_iff_mem, same]
    simp only [prioritized_eq_ok_iff, same, nothing, contained]

/-- **The laws of a catalog.** It has the services that it was given, in order of priority and
otherwise as they were given; the first entry of a kind or of a name is the one that leads among the
entries of that kind or name; and a request picks those entries that it names. -/
theorem ranks_and_prioritizes (given : List Service) :
    Ranks given (ofList given).services ∧
    (∀ kind, (∀ s, (ofList given).byKind? kind = some s ↔ Leads given (fun t => t.kind = kind) s) ∧
      ((ofList given).byKind? kind = none ↔ ∀ s ∈ given, s.kind ≠ kind)) ∧
    (∀ name, (∀ s, (ofList given).get? name = some s ↔ Leads given (fun t => t.name = name) s) ∧
      ((ofList given).get? name = none ↔ ∀ s ∈ given, s.name ≠ name)) ∧
    ∀ requested, (ofList given).Prioritizes requested := by
  have ranks := ranks_ofList given
  refine ⟨ranks, fun kind => ⟨fun s => ranks.find?_eq_some_iff, ?_⟩,
    fun name => ⟨fun s => ranks.find?_eq_some_iff, ?_⟩, (ofList given).prioritizes⟩
  · exact ranks.find?_eq_none_iff.trans (by simp)
  · exact ranks.find?_eq_none_iff.trans (by simp)

/-- Two services of one priority stay as they were given, behind one of higher priority. -/
example : (ofList
    [{ name := "deck", priority := 10 }, { name := "redis", kind := .cacheStore, priority := 100 },
      { name := "gate", priority := 10 }]).services.map (·.name) = ["redis", "deck", "gate"] := by
  cbv

end FleetDeploy.Catalog
