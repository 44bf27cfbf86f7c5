import FleetDeploy.Wire.Variant

/-!
# Severities

Every outcome that is not a plain success has one of four grades. They are ordered, and the grade of
several outcomes together is the greatest among them; a batch is judged by comparing that grade
with a threshold.
-/

namespace FleetDeploy

/-- How bad a problem is. -/
inductive Severity
  | none
  | warning
  | error
  | fatal
  deriving DecidableEq, Inhabited

namespace Severity

/-- All grades, the mildest first. -/
def all : List Severity := [.none, .warning, .error, .fatal]

/-- The place of a grade in the order. -/
def rank : Severity → Nat
  | .none => 0
  | .warning => 1
  | .error => 2
  | .fatal => 3

instance : LE Severity := ⟨fun a b => a.rank ≤ b.rank⟩

instance : LT Severity := ⟨fun a b => a.rank < b.rank⟩

instance : DecidableLE Severity := fun a b => inferInstanceAs (Decidable (a.rank ≤ b.rank))

instance : DecidableLT Severity := fun a b => inferInstanceAs (Decidable (a.rank < b.rank))

instance : Max Severity := ⟨fun a b => if a ≤ b then b else a⟩

instance : Ord Severity := ⟨fun a b => compare a.rank b.rank⟩

/-- A grade as people read it. -/
def display : Severity → String
  | .none => "NONE"
  | .warning => "WARNING"
  | .error => "ERROR"
  | .fatal => "FATAL"

/-- A grade as it travels. -/
def word : Severity → String
  | .none => "none"
  | .warning => "warning"
  | .error => "error"
  | .fatal => "fatal"

/-- A grade on the wire. -/
def codec : Codec Severity := .words all word

/-- The greatest of several grades; `none` of no grades. -/
def worst (l : List Severity) : Severity := l.foldl max .none

end Severity

end FleetDeploy
