import FleetDeploy.Config.Basic
import Mathlib.Data.List.Basic

/-!
# Which configurations can be used

A configuration can be unusable in four ways, and validation looks for them one after the other, so
that the one that is told is the first of those that there are.

* `FleetDeploy.DeployerConfig.Fault` – the four faults, in their order;
* `FleetDeploy.DeployerConfig.checked` – validation fails if and only if there is a fault, and then
  with the first one.
-/

namespace FleetDeploy.DeployerConfig

variable {c : DeployerConfig}

/-- What can be wrong with a configuration, in the order in which it is looked for. -/
inductive Fault
  | retention
  | interval
  | timeout
  | pattern
  deriving DecidableEq

namespace Fault

/-- All faults, in their order. -/
def all : List Fault := [.retention, .interval, .timeout, .pattern]

/-- Whether a configuration has a fault. -/
def Present (c : DeployerConfig) : Fault → Prop
  | .retention => c.retention.maxRemaining = 0
  | .interval => c.monitor.pollIntervalMs = 0
  | .timeout => c.monitor.timeoutSecs = 0
  | .pattern => c.cache.keyPattern = ""

/-- How a fault is told. -/
def reason : Fault → String
  | .retention => "retention.max_remaining_versions must be at least 1"
  | .interval => "monitor.poll_interval_ms must be positive"
  | .timeout => "monitor.timeout_secs must be positive"
  | .pattern => "cache.key_pattern must not be empty"

end Fault

instance (c : DeployerConfig) : DecidablePred (Fault.Present c)
  | .retention => inferInstanceAs (Decidable (c.retention.maxRemaining = 0))
  | .interval => inferInstanceAs (Decidable (c.monitor.pollIntervalMs = 0))
  | .timeout => inferInstanceAs (Decidable (c.monitor.timeoutSecs = 0))
  | .pattern => inferInstanceAs (Decidable (c.cache.keyPattern = ""))

/-- **The first fault of a configuration**: it has this one and none before it. -/
def FirstFault (c : DeployerConfig) (f : Fault) : Prop :=
  f.Present c ∧ ∃ before after, Fault.all = before ++ f :: after ∧ ∀ g ∈ before, ¬g.Present c

theorem find?_faults_eq_some_iff {f : Fault} :
    Fault.all.find? (fun f => decide (f.Present c)) = some f ↔ c.FirstFault f := by
  rw [List.find?_eq_some_iff_append, FirstFault]
  simp

/-- Validation looks for the faults one after the other. -/
theorem validate_eq (c : DeployerConfig) :
    c.validate = match Fault.all.find? (fun f => decide (f.Present c)) with
      | some f => .error (.invalidConfiguration f.reason)
      | none => .ok () := by
  have nothing : (!c.retention.isValid) = true ↔ c.retention.maxRemaining = 0 := by
    rw [Bool.not_eq_true', RetentionPolicy.isValid, decide_eq_false_iff_not, UInt32.not_lt]
    exact UInt32.le_zero_iff
  have empty : c.cache.keyPattern.isEmpty = true ↔ c.cache.keyPattern = "" := String.isEmpty_iff
  simp only [validate, Fault.all, List.find?_cons, List.find?_nil, Fault.Present, nothing, empty]
  by_cases retention : c.retention.maxRemaining = 0
  · simp [retention, Fault.reason]
  · by_cases interval : c.monitor.pollIntervalMs = 0
    · simp [retention, interval, Fault.reason]
    · by_cases timeout : c.monitor.timeoutSecs = 0
      · simp [retention, interval, timeout, Fault.reason]
      · by_cases pattern : c.cache.keyPattern = ""
        · simp [retention, interval, timeout, pattern, Fault.reason]
        · simp [retention, interval, timeout, pattern]

/-- **A configuration is checked**: it fails with its first fault, and passes if it has none. -/
structure Checked (c : DeployerConfig) : Prop where
  fails : ∀ e, c.validate = .error e ↔
    ∃ f, c.FirstFault f ∧ e = .invalidConfiguration f.reason
  passes : c.validate = .ok () ↔ ∀ f : Fault, ¬f.Present c

theorem checked (c : DeployerConfig) : c.Checked := by
  have complete : ∀ f : Fault, f ∈ Fault.all := by rintro ⟨⟩ <;> decide
  rcases found : Fault.all.find? (fun f => decide (f.Present c)) with _ | f
  · have valid : c.validate = .ok () := by rw [validate_eq, found]
    have none : ∀ f : Fault, ¬f.Present c := fun f => by
      simpa using List.find?_eq_none.mp found f (complete f)
    refine ⟨fun e => ?_, fun _ => none, fun _ => valid⟩
    rw [valid]
    refine ⟨nofun, ?_⟩
    rintro ⟨f, first, -⟩
    exact absurd first.1 (none f)
  · have invalid : c.validate = .error (.invalidConfiguration f.reason) := by
      rw [validate_eq, found]
    have first := find?_faults_eq_some_iff.mp found
    refine ⟨fun e => ?_, ?_, fun none => absurd first.1 (none f)⟩
    · rw [invalid]
      constructor
      · rintro ⟨⟩
        exact ⟨f, first, rfl⟩
      · rintro ⟨f', first', rfl⟩
        rw [← find?_faults_eq_some_iff, found] at first'
        rw [Option.some.inj first']
    · rw [invalid]
      exact nofun

end FleetDeploy.DeployerConfig
