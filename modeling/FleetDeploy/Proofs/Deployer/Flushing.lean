import FleetDeploy.Deployer
import FleetDeploy.Fleet.Basic
import FleetDeploy.Proofs.Catalog.Prioritizing
import FleetDeploy.Proofs.Program.Run

/-!
# Flushing the caches

A flush takes keys out of a cache that others go on using, so it has to take out those that were
meant and no others. Which ones are meant is told by a pattern, which is either a key or, where it
ends in a star, a beginning of keys. The deployer hands the pattern of its configuration to the
first cache store of its catalog and passes on how many keys are gone.

A flush that fails has removed nothing. It is always fatal, even if what went wrong in the cache is
a mere warning, and it is nobody's: the problem that is told has the text of the cause and nothing
else of it.

* `FleetDeploy.KeySpace.Matches` – the keys that a pattern stands for;
* `FleetDeploy.KeySpace.Flushed` – a cache before and after a flush, and the count that is told;
* `FleetDeploy.Deployer.FlushObstacle` – what stands in the way of a flush, and
  `FleetDeploy.Deployer.fatalFlush`, what is told of it;
* `FleetDeploy.Deployer.Flushing`, `FleetDeploy.Deployer.flushes_matching_keys` – what becomes of a
  flush.
-/

namespace FleetDeploy

namespace KeySpace

/-! ### Patterns -/

/-- **The keys that a pattern stands for**: if it ends in a star, the keys that begin with what is
before that star, and otherwise the one key that it is. Any other star in it is a character of
the key. -/
inductive Matches : String → String → Prop
  | beginning (start rest : String) : Matches (start ++ "*") (start ++ rest)
  | itself {pattern : String} (plain : ∀ start, pattern ≠ start ++ "*") : Matches pattern pattern

variable {pattern key start : String}

/-- A text ends in a star if its last character is one. -/
theorem getLast?_eq_star_iff :
    pattern.toList.getLast? = some '*' ↔ ∃ start, pattern = start ++ "*" := by
  constructor
  · intro last
    obtain ⟨before, split⟩ := List.getLast?_eq_some_iff.mp last
    refine ⟨String.ofList before, String.toList_injective ?_⟩
    rw [String.toList_append, String.toList_ofList]
    exact split
  · rintro ⟨start, rfl⟩
    rw [String.toList_append]
    exact List.getLast?_append

theorem covers_star : covers (start ++ "*") key = true ↔ ∃ rest, key = start ++ rest := by
  have last : (start ++ "*").toList.getLast? = some '*' := getLast?_eq_star_iff.mpr ⟨start, rfl⟩
  have before : (start ++ "*").toList.dropLast = start.toList := by
    rw [String.toList_append]
    exact List.dropLast_concat
  simp only [covers, last, before, List.isPrefixOf_iff_prefix]
  constructor
  · rintro ⟨rest, split⟩
    refine ⟨String.ofList rest, String.toList_injective ?_⟩
    rw [String.toList_append, String.toList_ofList, split]
  · rintro ⟨rest, rfl⟩
    exact ⟨rest.toList, String.toList_append.symm⟩

theorem covers_of_plain (plain : ∀ start, pattern ≠ start ++ "*") :
    covers pattern key = true ↔ key = pattern := by
  have last : pattern.toList.getLast? ≠ some '*' := fun star => by
    obtain ⟨start, ends⟩ := getLast?_eq_star_iff.mp star
    exact plain start ends
  rw [covers]
  split
  · next star => exact absurd star last
  · exact decide_eq_true_iff

/-- **What is flushed is what the pattern stands for.** -/
theorem covers_iff : covers pattern key = true ↔ Matches pattern key := by
  by_cases ends : ∃ start, pattern = start ++ "*"
  · obtain ⟨start, rfl⟩ := ends
    rw [covers_star]
    constructor
    · rintro ⟨rest, rfl⟩
      exact .beginning start rest
    · intro hits
      generalize whole : start ++ "*" = p at hits
      cases hits with
      | beginning start' rest =>
        have same : start.toList = start'.toList := by
          have texts := congrArg String.toList whole
          rwa [String.toList_append, String.toList_append, List.append_cancel_right_eq] at texts
        exact ⟨rest, by rw [String.toList_injective same]⟩
      | itself plain => exact absurd whole.symm (plain start)
  · have plain : ∀ start, pattern ≠ start ++ "*" := fun start whole => ends ⟨start, whole⟩
    rw [covers_of_plain plain]
    constructor
    · rintro rfl
      exact .itself plain
    · intro hits
      cases hits with
      | beginning start rest => exact absurd rfl (plain start)
      | itself plain => rfl

instance (pattern key : String) : Decidable (Matches pattern key) :=
  decidable_of_iff _ covers_iff

/-- A star is special at the end of a pattern only, and there one star is. -/
example : Matches "app*:**" "app*:*1" ∧ ¬Matches "app*:**" "app*:1" ∧ ¬Matches "app*:**" "app2:*1" ∧
    Matches "*" "" ∧ ¬Matches "*a" "ba" := by
  decide

/-! ### One cache -/

/-- **A cache that has been flushed**: the keys that the pattern stands for are gone, the others are
there, and so many were removed. -/
structure Flushed (pattern : String) (before after : KeySpace) (count : Nat) : Prop where
  keys : ∀ key, key ∈ after.keys ↔ key ∈ before.keys ∧ ¬Matches pattern key
  count : count = (before.keys.filter fun key => Matches pattern key).size
  failures : after.failures = before.failures

variable {k : KeySpace} {service : ServiceName}

theorem flush_of_failing {p : Problem} (fails : k.failures.get? service = some p) :
    k.flush service pattern = (.error (.problem p), k) := by
  rw [flush, fails]

/-- Where no failure is arranged the cache is flushed. -/
theorem flushed_of_sound (pattern : String) (sound : k.failures.get? service = none) :
    ∃ count after, k.flush service pattern = (.ok count, after) ∧ k.Flushed pattern after count := by
  rw [flush, sound]
  refine ⟨_, _, rfl, fun key => ?_, ?_, rfl⟩
  · show key ∈ k.keys.members.filter _ ↔ key ∈ k.keys.members ∧ _
    rw [List.mem_filter, ← covers_iff]
    simp
  · have parts := List.length_eq_length_filter_add (l := k.keys.members) (covers pattern)
    have hits : (k.keys.filter fun key => Matches pattern key).members =
        k.keys.members.filter (covers pattern) :=
      List.filter_congr fun key _ => by rw [Bool.eq_iff_iff, decide_eq_true_iff, covers_iff]
    rw [SortedSet.size, SortedSet.size, SortedSet.size, hits]
    simp only [SortedSet.filter]
    omega

/-- Where nothing matches nothing is removed. -/
theorem flush_of_clean (sound : k.failures.get? service = none)
    (clean : ∀ key ∈ k.keys, ¬Matches pattern key) : k.flush service pattern = (.ok 0, k) := by
  have all : (k.keys.filter fun key => !covers pattern key) = k.keys := by
    refine SortedSet.ext (List.filter_eq_self.mpr fun key mem => ?_)
    have other := clean key mem
    rw [← covers_iff] at other
    simpa using other
  simp only [flush, sound, all, Nat.sub_self]

end KeySpace

namespace Deployer

/-! ### The deployer -/

variable {d : Deployer} {settings : RuntimeSettings}

/-- **What stands in the way of a flush**: there is no cache store, or flushes fail for the first
one of the catalog. -/
inductive FlushObstacle (d : Deployer) (k : KeySpace) : DeployError → Prop
  | missing (none : ∀ s ∈ d.catalog.services, s.kind ≠ .cacheStore) :
      FlushObstacle d k (.collaborator "no cache store service in the catalog")
  | failing {s : Service} {p : Problem} (first : d.catalog.First (fun t => t.kind = .cacheStore) s)
      (fails : k.failures.get? s.name = some p) : FlushObstacle d k (.problem p)

/-- The text of a cause: of a problem its message alone. -/
def causeText : DeployError → String
  | .problem p => p.message
  | e => e.message

/-- **What is told of a flush that fails**, whatever the cause: a fatal problem of no service, without
any advice. -/
def fatalFlush (cause : DeployError) : DeployError :=
  .problem
    { severity := .fatal
      message := "Failed to flush cache: " ++ causeText cause
      service := none
      remediation := none }

theorem flushFailure_eq (cause : DeployError) : flushFailure cause = fatalFlush cause := by
  cases cause <;> rfl

section Runs

variable {σ : Type} {h : Handler σ} {w : World σ}

/-- Without a cache store nothing is asked for. -/
theorem run_flushCaches_of_missing (none : ∀ s ∈ d.catalog.services, s.kind ≠ .cacheStore) :
    (d.flushCaches settings).run.run h w =
      (.finished (.error (fatalFlush (.collaborator "no cache store service in the catalog"))), w) := by
  rw [flushCaches, Catalog.byKind?_eq_none_iff.mpr none]
  rfl

/-- **The first cache store is asked for the keys of the configured pattern**, and what it answers
is passed on. -/
theorem run_flushCaches {s : Service} {answer : Except DeployError Nat} {state : σ}
    (first : d.catalog.First (fun t => t.kind = .cacheStore) s)
    (replied : h (.flushKeySpace s settings d.config.cache.keyPattern) w.state =
      (.answered answer, state)) :
    (d.flushCaches settings).run.run h w = (.finished (answer.mapError fatalFlush),
      ⟨state, .called (.flushKeySpace s settings d.config.cache.keyPattern) (.answered answer) ::
        w.journal⟩) := by
  rw [flushCaches, Catalog.byKind?_eq_some_iff.mpr first, Procedure.run_bind, Procedure.run_outcome,
    Procedure.run_ask replied]
  cases answer with
  | error e => rw [Except.mapError, ← flushFailure_eq]; rfl
  | ok count => rfl

end Runs

/-- **What becomes of a flush of the caches.** It fails if and only if something stands in its way,
which is then told as a fatal problem of no service, and everything is as it was. Otherwise the keys
that the pattern stands for are removed and counted, nothing else changes, and another flush finds
nothing to remove. -/
structure Flushing (d : Deployer) (settings : RuntimeSettings) (w w' : World Fleet)
    (answer : Except DeployError Nat) : Prop where
  ran : (d.flushCaches settings).run.run Fleet.respond w = (.finished answer, w')
  fails_iff : (∃ e, answer = .error e) ↔ (∀ s ∈ d.catalog.services, s.kind ≠ .cacheStore) ∨
    ∃ s p, d.catalog.First (fun t => t.kind = .cacheStore) s ∧
      w.state.cache.failures.get? s.name = some p
  failed : ∀ e, answer = .error e →
    w'.state = w.state ∧ ∃ cause, d.FlushObstacle w.state.cache cause ∧ e = fatalFlush cause
  flushed : ∀ count, answer = .ok count →
    w.state.cache.Flushed d.config.cache.keyPattern w'.state.cache count ∧
      w'.state = { w.state with cache := w'.state.cache }
  again : ∀ count, answer = .ok count → ∀ settings', ∃ w'',
    (d.flushCaches settings').run.run Fleet.respond w' = (.finished (.ok 0), w'') ∧
      w''.state = w'.state

section Fleet

variable {s : Service} {w : World Fleet}

/-- The cache in memory answers by what becomes of it. -/
theorem respond_flushKeySpace {pattern : String} {answer : Except DeployError Nat} {cache : KeySpace}
    {f : Fleet} (flushed : f.cache.flush s.name pattern = (answer, cache)) :
    Fleet.respond (.flushKeySpace s settings pattern) f = (.answered answer, { f with cache }) := by
  simp only [Fleet.respond, flushed]

theorem exists_flushing_of_failing {p : Problem}
    (first : d.catalog.First (fun t => t.kind = .cacheStore) s)
    (fails : w.state.cache.failures.get? s.name = some p) :
    ∃ answer w', d.Flushing settings w w' answer := by
  refine ⟨_, _, run_flushCaches first (respond_flushKeySpace (KeySpace.flush_of_failing fails)),
    ⟨fun _ => Or.inr ⟨s, p, first, fails⟩, fun _ => ⟨_, rfl⟩⟩, ?_, ?_, ?_⟩
  · rintro _ ⟨⟩
    exact ⟨rfl, _, .failing first fails, rfl⟩
  · rintro _ ⟨⟩
  · rintro _ ⟨⟩

theorem exists_flushing_of_sound (first : d.catalog.First (fun t => t.kind = .cacheStore) s)
    (sound : w.state.cache.failures.get? s.name = none) :
    ∃ answer w', d.Flushing settings w w' answer := by
  obtain ⟨count, after, flush, flushed⟩ :=
    KeySpace.flushed_of_sound d.config.cache.keyPattern sound
  refine ⟨_, _, run_flushCaches first (respond_flushKeySpace flush), ⟨?_, ?_⟩, ?_, ?_, ?_⟩
  · rintro ⟨e, failed⟩
    cases failed
  · rintro (missing | ⟨s', p, first', fails⟩)
    · exact absurd first.meets (missing s first.mem)
    · rw [← first.unique first', sound] at fails
      cases fails
  · rintro _ ⟨⟩
  · rintro _ ⟨⟩
    exact ⟨flushed, rfl⟩
  · rintro _ ⟨⟩ settings'
    have still_sound : after.failures.get? s.name = none := by rw [flushed.failures, sound]
    have clean : ∀ key ∈ after.keys, ¬KeySpace.Matches d.config.cache.keyPattern key :=
      fun key mem => ((flushed.keys key).mp mem).2
    exact ⟨_, run_flushCaches first
      (respond_flushKeySpace (KeySpace.flush_of_clean still_sound clean)), rfl⟩

end Fleet

/-- **A flush removes the keys that its pattern stands for**, or fails and removes nothing. However
the cache is kept, what is told of its failure is fatal and nobody's. -/
theorem flushes_matching_keys (d : Deployer) (settings : RuntimeSettings) :
    (∀ w : World Fleet, ∃ answer w', d.Flushing settings w w' answer) ∧
    ∀ {σ : Type} (h : Handler σ) (w : World σ) (s : Service) (cause : DeployError) (state : σ),
      d.catalog.First (fun t => t.kind = .cacheStore) s →
      h (.flushKeySpace s settings d.config.cache.keyPattern) w.state =
        (.answered (.error cause), state) →
      ∃ w', (d.flushCaches settings).run.run h w = (.finished (.error (fatalFlush cause)), w') ∧
        w'.state = state := by
  refine ⟨fun w => ?_, fun h w s cause state first replied => ⟨_, run_flushCaches first replied, rfl⟩⟩
  by_cases missing : ∀ s ∈ d.catalog.services, s.kind ≠ .cacheStore
  · refine ⟨_, w, run_flushCaches_of_missing missing, ⟨fun _ => Or.inl missing, fun _ => ⟨_, rfl⟩⟩,
      ?_, ?_, ?_⟩
    · rintro _ ⟨⟩
      exact ⟨rfl, _, .missing missing, rfl⟩
    · rintro _ ⟨⟩
    · rintro _ ⟨⟩
  · obtain ⟨s, first⟩ : ∃ s, d.catalog.First (fun t => t.kind = .cacheStore) s := by
      rcases found : d.catalog.byKind? .cacheStore with _ | s
      · exact absurd (Catalog.byKind?_eq_none_iff.mp found) missing
      · exact ⟨s, Catalog.byKind?_eq_some_iff.mp found⟩
    rcases arranged : w.state.cache.failures.get? s.name with _ | p
    · exact exists_flushing_of_sound first arranged
    · exact exists_flushing_of_failing first arranged

/-- A catalog with two cache stores behind a service of another kind. -/
def ofTwoStores : Deployer :=
  ⟨⟨[{ name := "gate" }, { name := "redis", kind := .cacheStore },
    { name := "memcached", kind := .cacheStore }]⟩, {}⟩

/-- A cache with two infrastructure keys in it. -/
def twoKeys : Fleet :=
  { cache := KeySpace.insertKeys {}
      ["infrastructure-cache:images", "infrastructure-cache:*", "sessions:42"] }

/-- A warning about a store, with advice. -/
def connectionReset : Problem :=
  ((Problem.warning "connection reset").forService "redis").withRemediation "retry"

/-- The cache of two keys, where the first store cannot be flushed. -/
def twoKeysReset : Fleet := { twoKeys with cache := twoKeys.cache.failFor "redis" connectionReset }

/-- Two keys are removed and the third stays; where the first store fails with a warning, a fatal
problem is told and all keys stay. -/
theorem flushes_matching_keys_twoStores :
    (∃ w', ofTwoStores.Flushing {} ⟨twoKeys, []⟩ w' (.ok 2) ∧
      w'.state.cache.keys.members = ["sessions:42"]) ∧
    ofTwoStores.catalog.First (fun s => s.kind = .cacheStore)
      { name := "redis", kind := .cacheStore } ∧
    ∃ w', (ofTwoStores.flushCaches {}).run.run Fleet.respond ⟨twoKeysReset, []⟩ =
        (.finished (.error (.problem (.fatal "Failed to flush cache: connection reset"))), w') ∧
      w'.state = twoKeysReset := by
  have first : ofTwoStores.catalog.First (fun s => s.kind = .cacheStore)
      { name := "redis", kind := .cacheStore } := Catalog.byKind?_eq_some_iff.mp rfl
  refine ⟨?_, first, ?_⟩
  · obtain ⟨answer, w', flushing⟩ := (flushes_matching_keys ofTwoStores {}).1 ⟨twoKeys, []⟩
    have ran : (ofTwoStores.flushCaches {}).run.run Fleet.respond ⟨twoKeys, []⟩ =
        (.finished (.ok 2), _) := rfl
    obtain ⟨⟨⟩, rfl⟩ := Prod.mk.inj (ran.symm.trans flushing.ran)
    exact ⟨_, flushing, by decide⟩
  · exact (flushes_matching_keys ofTwoStores {}).2 Fleet.respond ⟨twoKeysReset, []⟩ _
      (.problem connectionReset) twoKeysReset first rfl

end Deployer

end FleetDeploy
