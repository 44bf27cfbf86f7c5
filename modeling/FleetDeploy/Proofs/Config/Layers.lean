import FleetDeploy.Config.Load
import FleetDeploy.Proofs.Config.Trees
import FleetDeploy.Proofs.Config.Validation
import Mathlib.Tactic.Choose

/-!
# Where a configured value comes from

A configuration is put together from three layers, and each of its single values, the leaves, comes
from the last layer that says something of it. Nothing else matters: not which other leaves a layer
has in the same section, nor what it has besides. This is so as long as the layers have the shape of
a configuration, tables for its sections and scalars for its leaves; then the tree of all layers has
something at each leaf, since the defaults have, and is read leaf by leaf.

* `FleetDeploy.DeployerConfig.Leaf` – the leaves, with the names that lead to them;
* `FleetDeploy.DeployerConfig.toConfig?_eq_some_iff` – a tree is read leaf by leaf;
* `FleetDeploy.DeployerConfig.saidBy_layer` – what the environment says of a leaf is what the
  variable of the leaf is set to;
* `FleetDeploy.DeployerConfig.loadsByLeaf` – so is what is loaded, and unknown keys make no
  difference to it;
* `FleetDeploy.DeployerConfig.layers_by_leaf` – that, and what validation has to do with it.
-/

namespace FleetDeploy

open ConfigValue
open Toml (valueAt?)

namespace ConfigValue

variable {α : Type} {v x : ConfigValue} {name : String}

/-- A part of a section is read from what stands at its name. -/
theorem part_of_get? {place : Nat} {read : ConfigValue → Option α} {default : α}
    (found : v.get? name = some x) : part place name read default v = read x := by
  cases v with
  | table entries =>
    have found : entries.lookup name = some x := found
    rw [part, found]
    rfl
  | _ => cases found

end ConfigValue

namespace DeployerConfig

/-! ### The leaves of a configuration -/

/-- The single values of a configuration. -/
inductive Leaf
  | maxRemaining
  | pollInterval
  | timeout
  | failureThreshold
  | keyPattern
  | scriptDescription
  | level
  | json
  deriving DecidableEq

namespace Leaf

/-- All leaves. -/
def all : List Leaf :=
  [.maxRemaining, .pollInterval, .timeout, .failureThreshold, .keyPattern, .scriptDescription,
    .level, .json]

/-- The names that lead to a leaf: that of its section, if it is in one, and its own. -/
def names : Leaf → List String
  | .maxRemaining => ["retention", "max_remaining_versions"]
  | .pollInterval => ["monitor", "poll_interval_ms"]
  | .timeout => ["monitor", "timeout_secs"]
  | .failureThreshold => ["failure_threshold"]
  | .keyPattern => ["cache", "key_pattern"]
  | .scriptDescription => ["connect", "script_description"]
  | .level => ["logging", "level"]
  | .json => ["logging", "json"]

/-- What a leaf is a value of. -/
def Carrier : Leaf → Type
  | .maxRemaining => UInt32
  | .pollInterval | .timeout => UInt64
  | .failureThreshold => Severity
  | .keyPattern | .scriptDescription | .level => String
  | .json => Bool

/-- The value of a leaf in a configuration. -/
def of (c : DeployerConfig) : (l : Leaf) → l.Carrier
  | .maxRemaining => c.retention.maxRemaining
  | .pollInterval => c.monitor.pollIntervalMs
  | .timeout => c.monitor.timeoutSecs
  | .failureThreshold => c.failureThreshold
  | .keyPattern => c.cache.keyPattern
  | .scriptDescription => c.connect.scriptDescription
  | .level => c.logging.level
  | .json => c.logging.json

/-- What is configured for a leaf, as a value of it. -/
def read? : (l : Leaf) → ConfigValue → Option l.Carrier
  | .maxRemaining => toUInt32?
  | .pollInterval | .timeout => toUInt64?
  | .failureThreshold => toSeverity?
  | .keyPattern | .scriptDescription | .level => toText?
  | .json => toBool?

/-- Whether a variable of the environment is the one of a leaf: its key is the path to the leaf. -/
def isVariable (l : Leaf) (name : String) : Bool :=
  (Environment.keyOf? name).map pathOf = some (l.names.map .key)

/-- What the variable of a leaf is set to. -/
def setIn? (l : Leaf) (bindings : List (String × String)) : Option String :=
  (bindings.reverse.find? fun b => l.isVariable b.1).map (·.2)

/-- **What a leaf is to be** after what is said of it, if that can be read; the default where
nothing is said. -/
def settle? (l : Leaf) : Option ConfigValue → Option l.Carrier
  | some value => l.read? value
  | none => some (of {} l)

end Leaf

/-! ### Reading a tree -/

variable {c : DeployerConfig} {tree : ConfigValue}

/-- **A tree is read leaf by leaf**, if there is something at each of them. -/
theorem toConfig?_eq_some_iff {value : Leaf → ConfigValue}
    (there : ∀ l : Leaf, valueAt? tree l.names = some (value l)) :
    tree.toConfig? = some c ↔ ∀ l : Leaf, l.read? (value l) = some (l.of c) := by
  have within {name name' : String} {v : ConfigValue}
      (found : valueAt? tree [name, name'] = some v) :
      ∃ t, tree.get? name = some t ∧ t.get? name' = some v := by
    simpa [valueAt?, Option.bind_eq_some_iff] using found
  obtain ⟨retention, inRetention, maxRemaining⟩ := within (there .maxRemaining)
  obtain ⟨monitor, inMonitor, pollInterval⟩ := within (there .pollInterval)
  obtain ⟨monitor', inMonitor', timeout⟩ := within (there .timeout)
  obtain rfl : monitor = monitor' := Option.some.inj (inMonitor.symm.trans inMonitor')
  obtain ⟨cache, inCache, keyPattern⟩ := within (there .keyPattern)
  obtain ⟨connect, inConnect, scriptDescription⟩ := within (there .scriptDescription)
  obtain ⟨logging, inLogging, level⟩ := within (there .level)
  obtain ⟨logging', inLogging', json⟩ := within (there .json)
  obtain rfl : logging = logging' := Option.some.inj (inLogging.symm.trans inLogging')
  have inThreshold : tree.get? "failure_threshold" = some (value .failureThreshold) := by
    simpa [Leaf.names, valueAt?, Option.bind_eq_some_iff] using there .failureThreshold
  rw [toConfig?, part_of_get? inRetention, part_of_get? inMonitor, part_of_get? inThreshold,
    part_of_get? inCache, part_of_get? inConnect, part_of_get? inLogging, toRetention?, toMonitor?,
    toCache?, toConnect?, toLogging?, part_of_get? maxRemaining, part_of_get? pollInterval,
    part_of_get? timeout, part_of_get? keyPattern, part_of_get? scriptDescription,
    part_of_get? level, part_of_get? json]
  simp only [Option.bind_eq_bind, Option.bind_eq_some_iff, Option.pure_def, Option.some.injEq]
  constructor
  · intro read
    obtain ⟨_, ⟨_, maxRemaining, rfl⟩, _, ⟨_, pollInterval, _, timeout, rfl⟩, _, threshold,
      _, ⟨_, keyPattern, rfl⟩, _, ⟨_, description, rfl⟩, _, ⟨_, level, _, json, rfl⟩, rfl⟩ := read
    intro l
    cases l <;> assumption
  · intro each
    exact ⟨_, ⟨_, each .maxRemaining, rfl⟩, _, ⟨_, each .pollInterval, _, each .timeout, rfl⟩, _,
      each .failureThreshold, _, ⟨_, each .keyPattern, rfl⟩, _,
      ⟨_, each .scriptDescription, rfl⟩, _, ⟨_, each .level, _, each .json, rfl⟩, rfl⟩

/-- The defaults are laid down first, and each of them is read as itself. -/
theorem valueAt?_defaults (l : Leaf) :
    ∃ value, valueAt? (layOver (.table []) (ofConfig {})) l.names = some value ∧
      l.read? value = some (Leaf.of {} l) := by
  cases l <;> exact ⟨_, rfl, rfl⟩

/-! ### Loading layers -/

variable {file file' environment environment' : List (String × ConfigValue)}
  {bindings bindings' : List (String × String)} {l : Leaf}

/-- **A layer in which sections are tables and leaves are scalars**, as far as it has them. -/
def Shaped (layer : List (String × ConfigValue)) : Prop :=
  ∀ l : Leaf, AllFit pathOf layer l.names

/-- **Keys are added to a layer** that are neither a section nor a leaf, nor below a leaf. -/
def AddsUnknown (layer layer' : List (String × ConfigValue)) : Prop :=
  Grows (Leaf.all.map (·.names)) pathOf layer layer'

/-- What the layers say of a leaf: what the environment says, or else the file. -/
def saidOf (file environment : List (String × ConfigValue)) (l : Leaf) : Option ConfigValue :=
  (saidBy pathOf environment l.names).or (saidBy pathOf file l.names)

/-- The tree of all layers has something at each leaf: what the layers say of it, or the default. -/
theorem valueAt?_layered (shapedFile : Shaped file) (shapedEnvironment : Shaped environment)
    (l : Leaf) :
    ∃ value, valueAt? (layered file environment) l.names = some value ∧
      l.read? value = l.settle? (saidOf file environment l) := by
  obtain ⟨default, there, readDefault⟩ := valueAt?_defaults l
  have afterFile := valueAt?_layOver (shapedFile l) there
  have afterAll := valueAt?_layOver (shapedEnvironment l) afterFile
  refine ⟨_, afterAll, ?_⟩
  rw [saidOf]
  rcases saidBy pathOf environment l.names with _ | value
  · rcases saidBy pathOf file l.names with _ | value
    · exact readDefault
    · rfl
  · rfl

/-- **What is read of layers**: the configuration of which every leaf is what the layers say of
it. -/
theorem toConfig?_layered (shapedFile : Shaped file) (shapedEnvironment : Shaped environment) :
    (layered file environment).toConfig? = some c ↔
      ∀ l : Leaf, l.settle? (saidOf file environment l) = some (l.of c) := by
  choose value there said using valueAt?_layered shapedFile shapedEnvironment
  rw [toConfig?_eq_some_iff there]
  simp only [said]

theorem ofLayers_eq_ok_iff :
    ofLayers file environment = .ok c ↔
      (layered file environment).toConfig? = some c ∧ c.validate = .ok () := by
  rw [ofLayers]
  rcases (layered file environment).toConfig? with _ | config
  · simp
  · rcases valid : config.validate with e | _
    · simp [bind, Except.bind, valid]
      rintro rfl
      simp [valid]
    · simp [bind, Except.bind, pure, Except.pure, valid]
      rintro rfl
      exact valid

/-- Layers that say the same of every leaf have the same result. -/
theorem ofLayers_congr (shapedFile : Shaped file) (shapedFile' : Shaped file')
    (shapedEnvironment : Shaped environment) (shapedEnvironment' : Shaped environment')
    (same : ∀ l, saidOf file' environment' l = saidOf file environment l) :
    ofLayers file' environment' = ofLayers file environment := by
  have read : (layered file' environment').toConfig? = (layered file environment).toConfig? := by
    refine Option.ext fun c => ?_
    rw [toConfig?_layered shapedFile' shapedEnvironment',
      toConfig?_layered shapedFile shapedEnvironment]
    simp only [same]
  rw [ofLayers, ofLayers, read]

/-! ### Variables of the environment -/

/-- What is not a table says something only at its own path. -/
theorem saidAt_of_scalar {path : List Segment} {names : List String} {value : ConfigValue}
    (scalar : value.IsScalar) :
    saidAt path names value = if path = names.map .key then some value else none := by
  have bare : value.entries = [] := by
    cases value with
    | table entries => exact scalar.elim
    | _ => rfl
  induction path generalizing names with
  | nil =>
    rcases names with _ | ⟨name, names⟩
    · rfl
    · simp [saidAt, said, bare]
  | cons step path ih =>
    rcases step with key | place <;> rcases names with _ | ⟨name, names⟩
    · rfl
    · by_cases same : key = name <;> simp [saidAt, same, ih]
    · rfl
    · simp [saidAt]

theorem isScalar_valueOf (text : String) : (Environment.valueOf text).IsScalar := by
  simp only [Environment.valueOf]
  repeat' split
  all_goals trivial

/-- What an entry of the environment says of a leaf. -/
theorem saidAt_entry {name text key : String} (configures : Environment.keyOf? name = some key)
    (l : Leaf) :
    saidAt (pathOf key) l.names (Environment.valueOf text) =
      if l.isVariable name then some (Environment.valueOf text) else none := by
  simp [saidAt_of_scalar (isScalar_valueOf text), Leaf.isVariable, configures]

/-- **The environment says of a leaf** what the variable of the leaf is set to. -/
theorem saidBy_layer (l : Leaf) (bindings : List (String × String)) :
    saidBy pathOf (Environment.layer bindings) l.names =
      (l.setIn? bindings).map Environment.valueOf := by
  induction bindings with
  | nil => rfl
  | cons b rest ih =>
    have set : l.setIn? (b :: rest) =
        (l.setIn? rest).or (if l.isVariable b.1 then some b.2 else none) := by
      rw [Leaf.setIn?, List.reverse_cons, List.find?_append, Option.map_or, List.find?_singleton]
      split <;> rfl
    rw [set, Environment.layer, List.filterMap_cons, Environment.entryOf?]
    rcases configures : Environment.keyOf? b.1 with _ | key
    · have other : l.isVariable b.1 = false := by simp [Leaf.isVariable, configures]
      rw [other, if_neg Bool.false_ne_true, Option.or_none]
      exact ih
    · rw [Option.map_some, saidBy_cons, saidAt_entry configures, Option.map_or]
      refine congrArg₂ Option.or ih ?_
      split <;> rfl

/-- The name of the variable of a leaf, in lower case. -/
def Leaf.variableName (l : Leaf) : String := Environment.namePrefix ++ "__".intercalate l.names

/-- A variable may have its name in any case. -/
theorem isVariable_of_lowercase {name : String} (same : Text.lowercase name = l.variableName) :
    l.isVariable name = true := by
  have key : Environment.keyOf? name = some (".".intercalate l.names) := by
    rw [Environment.keyOf?, same]
    cases l <;> rfl
  rw [Leaf.isVariable, key]
  cases l <;> decide +kernel

/-! ### Loading -/

/-- The entries of a file, of which there may be none. -/
def entriesOf? (file : Option ConfigFile) : Option (List (String × ConfigValue)) :=
  file.elim (some []) (·.layer?)

theorem load_of_entries {source : Option ConfigFile} (entries : entriesOf? source = some file) :
    load source bindings = ofLayers file (Environment.layer bindings) := by
  rw [entriesOf?] at entries
  rw [load, entries]

/-- What is loaded is valid, wherever it comes from. -/
theorem validate_of_load {source : Option ConfigFile} (loaded : load source bindings = .ok c) :
    c.validate = .ok () := by
  rw [load] at loaded
  split at loaded
  · cases loaded
  · exact (ofLayers_eq_ok_iff.mp loaded).2

/-- **A configuration is loaded leaf by leaf** from a file with these entries and these variables.
Each leaf is what its variable is set to; or else what the file says of it, or else the default; and
the whole has to be valid. With keys besides, in the file or in the environment, that are neither a
section nor a leaf nor below one, the same comes out. -/
structure LoadsByLeaf (source : Option ConfigFile) (file : List (String × ConfigValue))
    (bindings : List (String × String)) : Prop where
  leaves : ∀ c, load source bindings = .ok c ↔
    (∀ l : Leaf, l.settle? (((l.setIn? bindings).map Environment.valueOf).or
      (saidBy pathOf file l.names)) = some (l.of c)) ∧ c.validate = .ok ()
  unknown : ∀ source' file' bindings', entriesOf? source' = some file' →
    AddsUnknown file file' →
    AddsUnknown (Environment.layer bindings) (Environment.layer bindings') →
      load source' bindings' = load source bindings

theorem mem_all (l : Leaf) : l ∈ Leaf.all := by
  cases l <;> decide

/-- Keys that are unknown make no difference to a leaf. -/
theorem AddsUnknown.said_eq (adds : AddsUnknown file file') (shaped : Shaped file) :
    Shaped file' ∧ ∀ l : Leaf, saidBy pathOf file' l.names = saidBy pathOf file l.names := by
  have known (l : Leaf) : l.names ∈ Leaf.all.map (·.names) := List.mem_map_of_mem (mem_all l)
  exact ⟨fun l => (Grows.said_eq adds (known l) (shaped l)).1,
    fun l => (Grows.said_eq adds (known l) (shaped l)).2⟩

theorem loadsByLeaf {source : Option ConfigFile} (entries : entriesOf? source = some file)
    (shapedFile : Shaped file) (shapedEnvironment : Shaped (Environment.layer bindings)) :
    LoadsByLeaf source file bindings where
  leaves c := by
    rw [load_of_entries entries, ofLayers_eq_ok_iff, toConfig?_layered shapedFile shapedEnvironment]
    simp only [saidOf, saidBy_layer]
  unknown source' file' bindings' entries' more more' := by
    obtain ⟨shapedFile', sameFile⟩ := more.said_eq shapedFile
    obtain ⟨shapedEnvironment', sameEnvironment⟩ := more'.said_eq shapedEnvironment
    rw [load_of_entries entries, load_of_entries entries']
    refine ofLayers_congr shapedFile shapedFile' shapedEnvironment shapedEnvironment' fun l => ?_
    rw [saidOf, saidOf, sameFile, sameEnvironment]

/-- **The layers of a configuration.** -/
theorem layers_by_leaf :
    (∀ source file bindings, entriesOf? source = some file → Shaped file →
      Shaped (Environment.layer bindings) → LoadsByLeaf source file bindings) ∧
    (∀ (l : Leaf) name, Text.lowercase name = l.variableName → l.isVariable name = true) ∧
    (∀ source bindings c, load source bindings = .ok c → c.validate = .ok ()) ∧
    ∀ c : DeployerConfig, c.Checked :=
  ⟨fun _ _ _ => loadsByLeaf, fun _ _ => isVariable_of_lowercase, fun _ _ _ => validate_of_load,
    checked⟩

/-! ### A file and two variables -/

/-- Whether a layer has the shape of a configuration can be decided. -/
instance (layer : List (String × ConfigValue)) : Decidable (Shaped layer) :=
  decidable_of_iff (∀ l ∈ Leaf.all, ∀ e ∈ layer, Fits (pathOf e.1) l.names e.2)
    ⟨fun each l => each l (mem_all l), fun each l _ => each l⟩

/-- A file that sets both leaves of a section. -/
def pollingFile : ConfigFile := .toml "[monitor]\npoll_interval_ms = 250\ntimeout_secs = 60\n"

/-- What is in the file. -/
def pollingEntries : List (String × ConfigValue) := (entriesOf? (some pollingFile)).getD []

/-- Two variables, the first of them for a leaf that the file sets too. -/
def pollingVariables : List (String × String) :=
  [("BOSUN__MONITOR__POLL_INTERVAL_MS", "500"), ("Bosun__Logging__Json", "on")]

/-- What comes of both. -/
def pollingConfig : DeployerConfig where
  monitor := ⟨500, 60⟩
  logging := ⟨"info", true⟩

/-- The variable has the last word on its leaf and none on the other one of the section, and one
more variable, which is unknown, makes no difference. -/
theorem layers_by_leaf_polling :
    entriesOf? (some pollingFile) = some pollingEntries ∧ Shaped pollingEntries ∧
    Shaped (Environment.layer pollingVariables) ∧
    load (some pollingFile) (("BOSUN__RETENTION__SPARE", "0") :: pollingVariables) =
      .ok pollingConfig ∧
    ∀ l : Leaf, l.settle? (((l.setIn? pollingVariables).map Environment.valueOf).or
      (saidBy pathOf pollingEntries l.names)) = some (l.of pollingConfig) := by
  have entries : entriesOf? (some pollingFile) = some pollingEntries := by
    have readable : (entriesOf? (some pollingFile)).isSome := by decide +kernel
    exact (Option.getD_of_ne_none (Option.isSome_iff_ne_none.mp readable) []).symm
  have shapedFile : Shaped pollingEntries := by decide +kernel
  have shapedEnvironment : Shaped (Environment.layer pollingVariables) := by decide +kernel
  have byLeaf := layers_by_leaf.1 _ _ _ entries shapedFile shapedEnvironment
  have loaded : load (some pollingFile) pollingVariables = .ok pollingConfig := by decide +kernel
  have spare : AddsUnknown (Environment.layer pollingVariables)
      (Environment.layer (("BOSUN__RETENTION__SPARE", "0") :: pollingVariables)) :=
    .added (by decide +kernel) (.refl _)
  refine ⟨entries, shapedFile, shapedEnvironment, ?_, ((byLeaf.leaves _).mp loaded).1⟩
  rw [byLeaf.unknown _ _ _ entries (.refl _) spare]
  exact loaded

end DeployerConfig

end FleetDeploy
