import FleetDeploy.Config.Basic
import FleetDeploy.Config.Value
import FleetDeploy.Number.Shortest
import FleetDeploy.Text.Lowercase

/-!
# From configured values to a configuration

What is configured in a file or a variable need not have the type of the field it is for: a port may
be quoted, a switch may be a number. Each type of field says what it takes:

* a whole number takes whole numbers, truth values as one and zero, numbers rounded to the nearest
  and cut off at the ends of 64 bits, and texts that say one of these things;
* a switch takes truth values, numbers – all but zero are on – and the usual words;
* a text takes texts, and whatever else can be written as one;
* a grade takes its name in any case, alone or as the only key of a table.

A section takes a table, in which keys it does not know are passed over, or an array of its fields
in their order, of which any number may be missing at the end.
-/

namespace FleetDeploy.ConfigValue

/-! ### Fields -/

/-- The words for a switch that is on. -/
def isOn (word : String) : Bool := word = "true" || word = "on" || word = "yes"

/-- The words for a switch that is off. -/
def isOff (word : String) : Bool := word = "false" || word = "off" || word = "no"

/-- The greatest whole number of 64 bits. -/
def maxWord : Nat := UInt64.size - 1

/-- A value as a whole number. -/
def toNat? : ConfigValue → Option Nat
  | .integer i => if 0 ≤ i then some i.toNat else none
  | .bool b => some (if b then 1 else 0)
  | .float x => some (x.roundToNat maxWord)
  | .text s =>
    let word := Text.lowercase s
    if isOn word then some 1
    else if isOff word then some 0
    else Text.readUnsigned? maxWord s.toList
  | _ => none

/-- A value as a whole number of 32 bits. -/
def toUInt32? (v : ConfigValue) : Option UInt32 :=
  (v.toNat?.filter (· < UInt32.size)).map UInt32.ofNat

/-- A value as a whole number of 64 bits. -/
def toUInt64? (v : ConfigValue) : Option UInt64 :=
  (v.toNat?.filter (· < UInt64.size)).map UInt64.ofNat

/-- A value as a switch. -/
def toBool? : ConfigValue → Option Bool
  | .bool b => some b
  | .integer i => some (decide (i ≠ 0))
  | .float x => some !x.isZero
  | .text s =>
    let word := Text.lowercase s
    if word = "1" || isOn word then some true
    else if word = "0" || isOff word then some false
    else none
  | _ => none

/-- A value as a text. -/
def toText? : ConfigValue → Option String
  | .text s => some s
  | .bool b => some (if b then "true" else "false")
  | .integer i => some (String.ofList (Text.writeInt i))
  | .float x => some x.display
  | _ => none

/-- The grade of a name in any case. -/
def gradeOf? (name : String) : Option Severity :=
  Severity.all.find? fun s => s.word = Text.lowercase name

/-- A value as a grade. -/
def toSeverity? : ConfigValue → Option Severity
  | .text s => gradeOf? s
  | .table [(name, _)] => gradeOf? name
  | _ => none

/-! ### Sections -/

/-- One field of a section: its place among the fields, its name, what it takes, and its value where
it is not mentioned. -/
def part {α : Type} (place : Nat) (name : String) (read : ConfigValue → Option α) (default : α)
    (given : ConfigValue) : Option α :=
  let mentioned := match given with
    | .table entries => some (entries.lookup name)
    | .array items => some items[place]?
    | _ => none
  mentioned.bind fun v => match v with
    | some v => read v
    | none => some default

/-- A value as the retention section. -/
def toRetention? (v : ConfigValue) : Option RetentionPolicy := do
  let maxRemaining ← part 0 "max_remaining_versions" toUInt32? ({} : RetentionPolicy).maxRemaining v
  pure ⟨maxRemaining⟩

/-- A value as the polling section. -/
def toMonitor? (v : ConfigValue) : Option MonitorConfig := do
  let pollIntervalMs ← part 0 "poll_interval_ms" toUInt64? ({} : MonitorConfig).pollIntervalMs v
  let timeoutSecs ← part 1 "timeout_secs" toUInt64? ({} : MonitorConfig).timeoutSecs v
  pure ⟨pollIntervalMs, timeoutSecs⟩

/-- A value as the cache section. -/
def toCache? (v : ConfigValue) : Option CacheConfig := do
  let keyPattern ← part 0 "key_pattern" toText? ({} : CacheConfig).keyPattern v
  pure ⟨keyPattern⟩

/-- A value as the connection section. -/
def toConnect? (v : ConfigValue) : Option ConnectConfig := do
  let scriptDescription ←
    part 0 "script_description" toText? ({} : ConnectConfig).scriptDescription v
  pure ⟨scriptDescription⟩

/-- A value as the logging section. -/
def toLogging? (v : ConfigValue) : Option LoggingConfig := do
  let level ← part 0 "level" toText? ({} : LoggingConfig).level v
  let json ← part 1 "json" toBool? ({} : LoggingConfig).json v
  pure ⟨level, json⟩

/-- A value as a configuration. -/
def toConfig? (v : ConfigValue) : Option DeployerConfig := do
  let retention ← part 0 "retention" toRetention? {} v
  let monitor ← part 1 "monitor" toMonitor? {} v
  let failureThreshold ← part 2 "failure_threshold" toSeverity? .warning v
  let cache ← part 3 "cache" toCache? {} v
  let connect ← part 4 "connect" toConnect? {} v
  let logging ← part 5 "logging" toLogging? {} v
  pure ⟨retention, monitor, failureThreshold, cache, connect, logging⟩

/-! ### The defaults as a layer -/

/-- A configuration as the layer that others are laid over. -/
def ofConfig (c : DeployerConfig) : List (String × ConfigValue) :=
  [("retention", .table [("max_remaining_versions", .integer c.retention.maxRemaining.toNat)]),
    ("monitor",
      .table
        [("poll_interval_ms", .integer c.monitor.pollIntervalMs.toNat),
          ("timeout_secs", .integer c.monitor.timeoutSecs.toNat)]),
    ("failure_threshold", .text c.failureThreshold.word),
    ("cache", .table [("key_pattern", .text c.cache.keyPattern)]),
    ("connect", .table [("script_description", .text c.connect.scriptDescription)]),
    ("logging", .table [("level", .text c.logging.level), ("json", .bool c.logging.json)])]

end FleetDeploy.ConfigValue
