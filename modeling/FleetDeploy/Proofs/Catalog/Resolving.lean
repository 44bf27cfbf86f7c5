import FleetDeploy.Proofs.Catalog.Prioritizing
import Mathlib.Data.List.Forall2
import Mathlib.Data.List.Nodup

/-!
# Two answers to one request

A catalog answers a request in two ways, and neither is made from the other. What is deployed is
picked out of the catalog once all names are known to be there. What is connected to is looked up
name by name, and the first name that is not there ends it. An operator who uses the same request
for both relies on them to be about the same services.

| | `Catalog.prioritized` | `Catalog.resolve` |
|---|---|---|
| order | that of the catalog | that of the request |
| a name that is repeated | picks its entries once | gives its entry each time |
| a name that several entries have | picks all of them | gives the first of them |
| an unknown name | the first one is told | the first one is told |
| a request without names | all entries | all entries |

In a catalog of distinct names the third line does not matter, and what is left is a difference of
order and of repetition.

* `FleetDeploy.Catalog.resolve_eq_error_iff`, `FleetDeploy.Catalog.resolve_eq_ok_iff` – how a
  request is resolved, name by name;
* `FleetDeploy.Catalog.ResolversAgree`, `FleetDeploy.Catalog.SameServices` – the two answers
  compared, in any catalog and in one of distinct names;
* `FleetDeploy.Catalog.resolvers_agree` – they compare so.
-/

namespace FleetDeploy.Catalog

variable {c : Catalog} {requested : List ServiceName} {name : ServiceName}
  {services resolved prioritized : List Service} {e : DeployError}

/-! ### Name by name -/

theorem resolveName_eq_ok_iff {s : Service} :
    c.resolveName name = .ok s ↔ c.get? name = some s := by
  rw [resolveName]
  cases c.get? name <;> simp

theorem resolveName_of_unknown (unknown : ¬c.Has name) :
    c.resolveName name = .error (.unknownService name) := by
  rw [resolveName, get?_eq_none_iff.mpr unknown]

/-- A name that is known has an entry. -/
theorem Has.resolveName (has : c.Has name) : ∃ s, c.resolveName name = .ok s := by
  obtain ⟨s, found⟩ := Option.isSome_iff_exists.mp (isSome_get?_iff.mpr has)
  exact ⟨s, resolveName_eq_ok_iff.mpr found⟩

/-- **The first unknown name ends it.** -/
theorem mapM_resolveName_of_unknown (first : c.FirstUnknown requested name) :
    requested.mapM c.resolveName = .error (.unknownService name) := by
  induction first with
  | here unknown =>
    rw [List.mapM_cons, resolveName_of_unknown unknown]
    rfl
  | later has first ih =>
    obtain ⟨s, found⟩ := has.resolveName
    rw [List.mapM_cons, found, ih]
    rfl

/-- **Where all names are known each has its entry.** -/
theorem exists_mapM_resolveName (known : ∀ name ∈ requested, c.Has name) :
    ∃ services, requested.mapM c.resolveName = .ok services ∧
      List.Forall₂ (fun name s => c.get? name = some s) requested services := by
  induction requested with
  | nil => exact ⟨[], rfl, .nil⟩
  | cons name rest ih =>
    obtain ⟨has, others⟩ := List.forall_mem_cons.mp known
    obtain ⟨s, found⟩ := has.resolveName
    obtain ⟨services, more, each⟩ := ih others
    refine ⟨s :: services, ?_, .cons (resolveName_eq_ok_iff.mp found) each⟩
    rw [List.mapM_cons, found, more]
    rfl

/-- A request either has a first unknown name or all its names are known. -/
theorem firstUnknown_or_known (c : Catalog) (requested : List ServiceName) :
    (∃ name, c.FirstUnknown requested name) ∨ ∀ name ∈ requested, c.Has name := by
  by_cases known : ∀ name ∈ requested, c.Has name
  · exact Or.inr known
  · exact Or.inl (FirstUnknown.exists_iff.mpr (by simpa using known))

theorem resolve_nil (c : Catalog) : c.resolve [] = .ok c.services := rfl

theorem resolve_of_ne_nil (named : requested ≠ []) :
    c.resolve requested = requested.mapM c.resolveName := by
  rw [resolve, if_neg (by simpa using named)]

/-- **How a request cannot be resolved**: its first unknown name is told. -/
theorem resolve_eq_error_iff : c.resolve requested = .error e ↔
    ∃ name, c.FirstUnknown requested name ∧ e = .unknownService name := by
  rcases c.firstUnknown_or_known requested with ⟨name, first⟩ | known
  · have failed : c.resolve requested = .error (.unknownService name) := by
      rw [resolve_of_ne_nil (List.ne_nil_of_mem first.mem), mapM_resolveName_of_unknown first]
    constructor
    · intro failed'
      rw [failed] at failed'
      exact ⟨name, first, (Except.error.inj failed').symm⟩
    · rintro ⟨name', first', rfl⟩
      rw [resolve_of_ne_nil (List.ne_nil_of_mem first.mem), mapM_resolveName_of_unknown first']
  · refine iff_of_false ?_ ?_
    · intro failed
      by_cases named : requested = []
      · rw [named, resolve_nil] at failed
        cases failed
      · obtain ⟨services, found, -⟩ := exists_mapM_resolveName known
        rw [resolve_of_ne_nil named, found] at failed
        cases failed
    · rintro ⟨name, first, -⟩
      exact first.unknown (known name first.mem)

/-- **How a request is resolved**: without names it is all entries, and otherwise the entry of each
name. -/
theorem resolve_eq_ok (found : c.resolve requested = .ok resolved) :
    (requested = [] ∧ resolved = c.services) ∨
      requested ≠ [] ∧ List.Forall₂ (fun name s => c.get? name = some s) requested resolved := by
  by_cases named : requested = []
  · rw [named, resolve_nil] at found
    exact Or.inl ⟨named, (Except.ok.inj found).symm⟩
  · rcases c.firstUnknown_or_known requested with ⟨name, first⟩ | known
    · rw [resolve_eq_error_iff.mpr ⟨name, first, rfl⟩] at found
      cases found
    · obtain ⟨services, found', each⟩ := exists_mapM_resolveName known
      rw [resolve_of_ne_nil named, found'] at found
      obtain rfl := Except.ok.inj found
      exact Or.inr ⟨named, each⟩

/-! ### Both answers -/

/-- An answer that is no failure is a success. -/
theorem exists_ok_iff {α : Type} {r : Except DeployError α} :
    (∃ a, r = .ok a) ↔ ¬∃ e, r = .error e := by
  cases r <;> simp

/-- **The two answers to a request** succeed together, and where they fail they tell the same
unknown name. To a request without names both are the whole catalog. -/
structure ResolversAgree (c : Catalog) (requested : List ServiceName) : Prop where
  succeed : (∃ services, c.resolve requested = .ok services) ↔
    ∃ services, c.prioritized requested = .ok services
  fail : ∀ e, c.resolve requested = .error e ↔ c.prioritized requested = .error e
  told : ∀ e, c.resolve requested = .error e →
    ∃ name ∈ requested, ¬c.Has name ∧ e = .unknownService name
  all : requested = [] →
    c.resolve requested = .ok c.services ∧ c.prioritized requested = .ok c.services

/-- **Two answers with the same services**: the one has an entry for each name of the request, in
its order and as often as it stands there; the services in it are those of the other, and if the
request repeats no name then each is there as often. -/
structure SameServices (c : Catalog) (requested : List ServiceName)
    (resolved prioritized : List Service) : Prop where
  each : requested ≠ [] →
    List.Forall₂ (fun name s => s ∈ c.services ∧ s.name = name) requested resolved
  same : ∀ s, s ∈ resolved ↔ s ∈ prioritized
  perm : requested.Nodup → resolved.Perm prioritized

/-- In a catalog of distinct names a name belongs to one entry. -/
theorem get?_eq_some_iff (distinct : (c.services.map (·.name)).Nodup) {s : Service} :
    c.get? name = some s ↔ s ∈ c.services ∧ s.name = name := by
  refine ⟨mem_of_get?, ?_⟩
  rintro ⟨mem, named⟩
  obtain ⟨s', found⟩ := Option.isSome_iff_exists.mp (isSome_get?_iff.mpr ⟨s, mem, named⟩)
  obtain ⟨mem', named'⟩ := mem_of_get? found
  rw [found, List.inj_on_of_nodup_map distinct mem' mem (named'.trans named.symm)]

section Distinct

variable (distinct : (c.services.map (·.name)).Nodup)
  (each : List.Forall₂ (fun name s => c.get? name = some s) requested resolved)

include each in
/-- The entries of some names have these names. -/
theorem map_name_of_forall₂ : resolved.map (·.name) = requested := by
  induction each with
  | nil => rfl
  | cons found _ ih => rw [List.map_cons, ih, (mem_of_get? found).2]

include distinct each in
/-- What is looked up is what has one of the names. -/
theorem mem_of_forall₂ {s : Service} :
    s ∈ resolved ↔ s ∈ c.services ∧ s.name ∈ requested := by
  induction each with
  | nil => simp
  | @cons name t rest more found _ ih =>
    rw [get?_eq_some_iff distinct] at found
    have first : s = t ↔ s ∈ c.services ∧ s.name = name := by
      constructor
      · rintro rfl
        exact found
      · rintro ⟨mem, named⟩
        exact List.inj_on_of_nodup_map distinct mem found.1 (named.trans found.2.symm)
    rw [List.mem_cons, List.mem_cons, ih, first, and_or_left]

end Distinct

/-- **Both answers are about the same services**, if the catalog has no name twice. -/
theorem sameServices_of_distinct (distinct : (c.services.map (·.name)).Nodup)
    (one : c.resolve requested = .ok resolved)
    (other : c.prioritized requested = .ok prioritized) :
    c.SameServices requested resolved prioritized := by
  have chosen := prioritized_eq other
  rcases resolve_eq_ok one with ⟨rfl, rfl⟩ | ⟨named, each⟩
  · -- Nothing is named, and both are the whole catalog.
    obtain rfl : prioritized = c.services := by simpa using chosen
    exact ⟨fun named => absurd rfl named, fun s => Iff.rfl, fun _ => .refl _⟩
  · have same : ∀ s, s ∈ resolved ↔ s ∈ prioritized := by
      intro s
      rw [mem_of_forall₂ distinct each, chosen]
      simp [named]
    refine ⟨fun _ => each.imp fun name s found => mem_of_get? found, same, fun once => ?_⟩
    have resolved_once : resolved.Nodup := by
      refine List.Nodup.of_map (·.name) ?_
      rwa [map_name_of_forall₂ each]
    have prioritized_once : prioritized.Nodup :=
      (List.Nodup.of_map _ distinct).sublist (prioritized_sublist other)
    exact (List.perm_ext_iff_of_nodup resolved_once prioritized_once).mpr same

/-- **The two answers to a request agree.** In any catalog they succeed for the same requests and
tell the same unknown name for the others; in a catalog of distinct names they are about the same
services, in the order of the request the one and in that of the catalog the other. -/
theorem resolvers_agree (c : Catalog) (requested : List ServiceName) :
    c.ResolversAgree requested ∧
    ((c.services.map (·.name)).Nodup → ∀ resolved prioritized,
      c.resolve requested = .ok resolved → c.prioritized requested = .ok prioritized →
        c.SameServices requested resolved prioritized) := by
  have fail : ∀ e, c.resolve requested = .error e ↔ c.prioritized requested = .error e := by
    intro e
    rw [resolve_eq_error_iff, prioritized_eq_error_iff]
  refine ⟨⟨?_, fail, ?_, ?_⟩, fun distinct _ _ => sameServices_of_distinct distinct⟩
  · rw [exists_ok_iff, exists_ok_iff, exists_congr fail]
  · intro e failed
    obtain ⟨name, first, rfl⟩ := resolve_eq_error_iff.mp failed
    exact ⟨name, first.mem, first.unknown, rfl⟩
  · rintro rfl
    exact ⟨rfl, rfl⟩

/-! ### A name that is repeated -/

/-- A catalog of four services, in its order. -/
def ofFour : Catalog :=
  ⟨[{ name := "redis", kind := .cacheStore, priority := 100 }, { name := "orca", priority := 50 },
    { name := "deck", priority := 10 }, { name := "gate", priority := 10 }]⟩

/-- One name is repeated, and then an unknown name is put between the others, before another one. -/
theorem resolvers_agree_repeated :
    (ofFour.services.map (·.name)).Nodup ∧
    (∃ resolved prioritized, ofFour.resolve ["gate", "redis", "gate"] = .ok resolved ∧
      ofFour.prioritized ["gate", "redis", "gate"] = .ok prioritized ∧
      resolved.map (·.name) = ["gate", "redis", "gate"] ∧
      prioritized.map (·.name) = ["redis", "gate"] ∧
      ofFour.SameServices ["gate", "redis", "gate"] resolved prioritized) ∧
    ofFour.resolve ["gate", "igor", "echo", "redis"] = .error (.unknownService "igor") ∧
    ofFour.prioritized ["gate", "igor", "echo", "redis"] = .error (.unknownService "igor") := by
  have distinct : (ofFour.services.map (·.name)).Nodup := by decide
  have failed : ofFour.resolve ["gate", "igor", "echo", "redis"] =
      .error (.unknownService "igor") := by rfl
  refine ⟨distinct, ⟨_, _, rfl, rfl, rfl, rfl, ?_⟩, failed, ?_⟩
  · exact (resolvers_agree ofFour ["gate", "redis", "gate"]).2 distinct _ _ rfl rfl
  · exact ((resolvers_agree ofFour _).1.fail _).mp failed

end FleetDeploy.Catalog
