import FleetDeploy.Severity

/-!
# Problems

Whatever goes wrong for one service is told as a `Problem`: a grade, a message, and, where they are
known, the service it happened to and what can be done about it. The problems of a batch are
collected in a `ProblemSet`, in the order of the batch; merging two sets appends them, and the grade
of a set is the worst among its members.
-/

namespace FleetDeploy

/-- The name of a service. -/
abbrev ServiceName := String

/-- Something that went wrong. -/
structure Problem where
  severity : Severity
  message : String
  service : Option ServiceName := none
  remediation : Option String := none
  deriving DecidableEq, Inhabited

namespace Problem

/-- A problem of grade `warning`. -/
def warning (message : String) : Problem := ⟨.warning, message, none, none⟩

/-- A problem of grade `error`. -/
def error (message : String) : Problem := ⟨.error, message, none, none⟩

/-- A problem of grade `fatal`. -/
def fatal (message : String) : Problem := ⟨.fatal, message, none, none⟩

/-- The problem attributed to a service. -/
def forService (p : Problem) (service : ServiceName) : Problem := { p with service := some service }

/-- The problem with advice on what to do about it. -/
def withRemediation (p : Problem) (remediation : String) : Problem :=
  { p with remediation := some remediation }

/-- A problem as people read it: grade, service and message, and the advice in parentheses. -/
def display (p : Problem) : String :=
  let head := match p.service with
    | some service => "[" ++ p.severity.display ++ "] " ++ service ++ ": " ++ p.message
    | none => "[" ++ p.severity.display ++ "] " ++ p.message
  match p.remediation with
  | some remediation => head ++ " (" ++ remediation ++ ")"
  | none => head

/-- A problem on the wire. -/
def record : Record Problem where
  types := [Severity, String, Option ServiceName, Option String]
  fields :=
    .cons (.required "severity" Severity.codec) <|
    .cons (.required "message" .text) <|
    .cons (.absentByDefault "service" .text) <|
    .cons (.absentByDefault "remediation" .text) .nil
  pack := fun (severity, message, service, remediation, ()) =>
    ⟨severity, message, service, remediation⟩
  unpack p := (p.severity, p.message, p.service, p.remediation, ())

end Problem

/-- The problems of a batch, in its order. -/
structure ProblemSet where
  problems : List Problem
  deriving DecidableEq, Inhabited

namespace ProblemSet

/-- No problems. -/
def empty : ProblemSet := ⟨[]⟩

/-- The problems of `a`, then those of `b`. -/
def merge (a b : ProblemSet) : ProblemSet := ⟨a.problems ++ b.problems⟩

/-- How many problems there are. -/
def size (s : ProblemSet) : Nat := s.problems.length

/-- Whether there are no problems. -/
def isEmpty (s : ProblemSet) : Bool := s.problems.isEmpty

/-- The worst grade among the problems. -/
def maxSeverity (s : ProblemSet) : Severity := .worst (s.problems.map (·.severity))

/-- Whether the worst grade lies above a threshold. -/
def exceeds (s : ProblemSet) (threshold : Severity) : Bool := decide (threshold < s.maxSeverity)

/-- The problems as people read them. -/
def display (s : ProblemSet) : String := "; ".intercalate (s.problems.map (·.display))

/-- A set of problems on the wire. -/
def record : Record ProblemSet where
  types := [List Problem]
  fields := .cons (.required "problems" (.list Problem.record.codec)) .nil
  pack := fun (problems, ()) => ⟨problems⟩
  unpack s := (s.problems, ())

end ProblemSet

end FleetDeploy
