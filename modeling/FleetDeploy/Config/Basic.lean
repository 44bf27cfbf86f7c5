import FleetDeploy.Error
import FleetDeploy.Retention

/-!
# The deployer's configuration

Everything about the deployer itself that can be configured, with its defaults: how many versions
are kept, how executions are polled, from which grade on a batch fails, which cache keys a flush
removes, what a connection script is called and how much is logged. `DeployerConfig.validate` says
which configurations can be used; where the values come from is the matter of
`FleetDeploy.Config.Load`.
-/

namespace FleetDeploy

/-! ### The sections -/

/-- How executions are polled. -/
structure MonitorConfig where
  /-- The time between two queries, in milliseconds. -/
  pollIntervalMs : UInt64 := 2000
  /-- The time after which an execution is given up, in seconds. -/
  timeoutSecs : UInt64 := 3600
  deriving DecidableEq, Inhabited

namespace MonitorConfig

/-- The time between two queries, in milliseconds. -/
def interval (m : MonitorConfig) : Nat := m.pollIntervalMs.toNat

/-- The time after which an execution is given up, in milliseconds. -/
def timeout (m : MonitorConfig) : Nat := m.timeoutSecs.toNat * 1000

/-- The polling section on the wire. -/
def record : Record MonitorConfig where
  types := [UInt64, UInt64]
  fields :=
    .cons (.defaulted "poll_interval_ms" .uint64 2000) <|
    .cons (.defaulted "timeout_secs" .uint64 3600) .nil
  pack := fun (pollIntervalMs, timeoutSecs, ()) => ⟨pollIntervalMs, timeoutSecs⟩
  unpack m := (m.pollIntervalMs, m.timeoutSecs, ())

end MonitorConfig

/-- Which keys a flush of the caches removes. -/
structure CacheConfig where
  keyPattern : String := "infrastructure-cache:*"
  deriving DecidableEq, Inhabited

/-- The cache section on the wire. -/
def CacheConfig.record : Record CacheConfig where
  types := [String]
  fields := .cons (.defaulted "key_pattern" .text ({} : CacheConfig).keyPattern) .nil
  pack := fun (keyPattern, ()) => ⟨keyPattern⟩
  unpack c := (c.keyPattern, ())

/-- How connection scripts are described. -/
structure ConnectConfig where
  scriptDescription : String :=
    "The generated script will open connections to the API & UI servers using ssh tunnels"
  deriving DecidableEq, Inhabited

/-- The connection section on the wire. -/
def ConnectConfig.record : Record ConnectConfig where
  types := [String]
  fields :=
    .cons (.defaulted "script_description" .text ({} : ConnectConfig).scriptDescription) .nil
  pack := fun (scriptDescription, ()) => ⟨scriptDescription⟩
  unpack c := (c.scriptDescription, ())

/-- What is logged, and how. -/
structure LoggingConfig where
  level : String := "info"
  json : Bool := false
  deriving DecidableEq, Inhabited

/-- The logging section on the wire. -/
def LoggingConfig.record : Record LoggingConfig where
  types := [String, Bool]
  fields := .cons (.defaulted "level" .text "info") <| .cons (.defaulted "json" .bool false) .nil
  pack := fun (level, json, ()) => ⟨level, json⟩
  unpack l := (l.level, l.json, ())

/-! ### The whole -/

/-- The deployer's configuration. -/
structure DeployerConfig where
  retention : RetentionPolicy := {}
  monitor : MonitorConfig := {}
  /-- The worst grade that a batch may have and still succeed. -/
  failureThreshold : Severity := .warning
  cache : CacheConfig := {}
  connect : ConnectConfig := {}
  logging : LoggingConfig := {}
  deriving DecidableEq, Inhabited

namespace DeployerConfig

/-- Whether a configuration can be used; if not, why, by the first fault in the order of the
sections. -/
def validate (c : DeployerConfig) : Except DeployError Unit :=
  if !c.retention.isValid then
    .error (.invalidConfiguration "retention.max_remaining_versions must be at least 1")
  else if c.monitor.pollIntervalMs = 0 then
    .error (.invalidConfiguration "monitor.poll_interval_ms must be positive")
  else if c.monitor.timeoutSecs = 0 then
    .error (.invalidConfiguration "monitor.timeout_secs must be positive")
  else if c.cache.keyPattern.isEmpty then
    .error (.invalidConfiguration "cache.key_pattern must not be empty")
  else .ok ()

/-- A configuration on the wire. -/
def record : Record DeployerConfig where
  types := [RetentionPolicy, MonitorConfig, Severity, CacheConfig, ConnectConfig, LoggingConfig]
  fields :=
    .cons (.defaulted "retention" RetentionPolicy.record.codec {}) <|
    .cons (.defaulted "monitor" MonitorConfig.record.codec {}) <|
    .cons (.defaulted "failure_threshold" Severity.codec .warning) <|
    .cons (.defaulted "cache" CacheConfig.record.codec {}) <|
    .cons (.defaulted "connect" ConnectConfig.record.codec {}) <|
    .cons (.defaulted "logging" LoggingConfig.record.codec {}) .nil
  pack := fun (retention, monitor, failureThreshold, cache, connect, logging, ()) =>
    ⟨retention, monitor, failureThreshold, cache, connect, logging⟩
  unpack c := (c.retention, c.monitor, c.failureThreshold, c.cache, c.connect, c.logging, ())

end DeployerConfig

end FleetDeploy
