import FleetDeploy.Fleet.Engine
import FleetDeploy.Monitor
import FleetDeploy.Outcome
import Mathlib.Data.List.Forall2

/-!
# What depends on the number of an execution

The engine numbers what it accepts, whoever submits it, so the number that an execution gets depends
on who else is at work. It shows in the name of the execution, and from there in two errors: that an
execution failed, and that one did not end in time. This file says what it is for errors, problems
and outcomes to be alike but for such a number.

* `FleetDeploy.Engine.referenceOf_inj` – a name tells the kind and the number of its execution;
* `FleetDeploy.DeployError.SameBut` – one error with one number in place of another;
* `FleetDeploy.TextAlike`, `FleetDeploy.Problem.Alike`, `FleetDeploy.UnitOutcome.Alike`,
  `FleetDeploy.BatchOutcome.Alike` – what is alike whatever the numbers are.
-/

namespace FleetDeploy

/-! ### Names of executions -/

theorem Text.natText_inj {m n : Nat} (same : Text.natText m = Text.natText n) : m = n := by
  have digits := congrArg (Nat.ofDigitChars 10 · 0) (String.ofList_inj.mp same)
  simpa [Text.writeNat] using digits

theorem ExecutionKind.toList_word (kind : ExecutionKind) :
    kind.word.toList = match kind with
      | .task => ['t', 'a', 's', 'k']
      | .pipeline => ['p', 'i', 'p', 'e', 'l', 'i', 'n', 'e'] := by
  cases kind <;> rfl

/-- **A name tells its execution**: no two executions have the same name. -/
theorem Engine.referenceOf_inj {kind kind' : ExecutionKind} {m n : Nat}
    (same : referenceOf kind m = referenceOf kind' n) : kind = kind' ∧ m = n := by
  have chars := congrArg String.toList same
  simp only [referenceOf, String.toList_append, ExecutionKind.toList_word] at chars
  cases kind <;> cases kind'
  · exact ⟨rfl, Text.natText_inj (String.toList_inj.mp (List.append_cancel_left chars))⟩
  · cases chars
  · cases chars
  · exact ⟨rfl, Text.natText_inj (String.toList_inj.mp (List.append_cancel_left chars))⟩

/-- What a timeout says was waited for begins with the kind of the execution. -/
theorem Monitor.kind_of_operation {kind kind' : ExecutionKind} {r r' : ExecutionRef}
    (same : operation kind r = operation kind' r') : kind = kind' := by
  have initial (kind : ExecutionKind) (r : ExecutionRef) :
      (operation kind r).toList.head? = some (match kind with
        | .task => 't'
        | .pipeline => 'p') := by
    simp only [operation, Text.lowercase, String.toList_ofList, String.toList_append,
      ExecutionKind.toList_word]
    cases kind <;> rfl
  have heads := congrArg (·.toList.head?) same
  simp only [initial] at heads
  cases kind <;> cases kind' <;> simp at heads ⊢

/-! ### Errors -/

/-- **Errors that differ in a number**: the same error, or the same thing said of execution `m` and
of execution `n`. -/
inductive DeployError.SameBut (m n : Nat) : DeployError → DeployError → Prop
  | same (e : DeployError) : SameBut m n e e
  | executionFailed (kind : ExecutionKind) (status : ExecutionStatus) :
      SameBut m n (.executionFailed (Engine.referenceOf kind m) status)
        (.executionFailed (Engine.referenceOf kind n) status)
  | timeout (kind : ExecutionKind) :
      SameBut m n (.timeout (Monitor.operation kind (Engine.referenceOf kind m)))
        (.timeout (Monitor.operation kind (Engine.referenceOf kind n)))

theorem DeployError.SameBut.symm {m n : Nat} {e e' : DeployError} (same : SameBut m n e e') :
    SameBut n m e' e := by
  cases same with
  | same => exact .same e
  | executionFailed kind status => exact .executionFailed kind status
  | timeout kind => exact .timeout kind

/-- Errors that differ in a number from one error differ in a number. -/
theorem DeployError.SameBut.of_common {k k' m n : Nat} {e e₁ e₂ : DeployError}
    (first : SameBut k m e e₁) (second : SameBut k' n e e₂) :
    ∃ m' n', SameBut m' n' e₁ e₂ := by
  cases first with
  | same => exact ⟨k', n, second⟩
  | executionFailed kind status =>
    -- Where both say it of an execution, it is the same one, since its name tells which it is.
    generalize common : DeployError.executionFailed (Engine.referenceOf kind k) status = e at second
    cases second with
    | same =>
      subst common
      exact ⟨m, k, .executionFailed kind status⟩
    | executionFailed kind' status' =>
      obtain ⟨same, rfl⟩ := DeployError.executionFailed.inj common
      obtain ⟨rfl, rfl⟩ := Engine.referenceOf_inj same
      exact ⟨m, n, .executionFailed kind status⟩
    | timeout kind' => cases common
  | timeout kind =>
    -- A timeout has the name in lower case, but it begins with the kind all the same.
    generalize common :
      DeployError.timeout (Monitor.operation kind (Engine.referenceOf kind k)) = e at second
    cases second with
    | same =>
      subst common
      exact ⟨m, k, .timeout kind⟩
    | executionFailed kind' status' => cases common
    | timeout kind' =>
      obtain rfl := Monitor.kind_of_operation (DeployError.timeout.inj common)
      exact ⟨m, n, .timeout kind⟩

/-! ### Texts and problems -/

/-- **Texts that are alike**: the same text, or the text of the same error of two executions. -/
inductive TextAlike : String → String → Prop
  | same (text : String) : TextAlike text text
  | executionFailed (kind : ExecutionKind) (m n : Nat) (status : ExecutionStatus) :
      TextAlike (DeployError.executionFailed (Engine.referenceOf kind m) status).message
        (DeployError.executionFailed (Engine.referenceOf kind n) status).message
  | timeout (kind : ExecutionKind) (m n : Nat) :
      TextAlike
        (DeployError.timeout (Monitor.operation kind (Engine.referenceOf kind m))).message
        (DeployError.timeout (Monitor.operation kind (Engine.referenceOf kind n))).message

/-- **Problems that are alike**: their texts are, and all else is the same. -/
structure Problem.Alike (p q : Problem) : Prop where
  severity : p.severity = q.severity
  message : TextAlike p.message q.message
  service : p.service = q.service
  remediation : p.remediation = q.remediation

theorem Problem.Alike.refl (p : Problem) : p.Alike p := ⟨rfl, .same p.message, rfl, rfl⟩

theorem DeployError.SameBut.toProblem {m n : Nat} {e e' : DeployError} (same : SameBut m n e e')
    (service : ServiceName) : (e.toProblem service).Alike (e'.toProblem service) := by
  cases same with
  | same => exact .refl _
  | executionFailed kind status => exact ⟨rfl, .executionFailed kind m n status, rfl, rfl⟩
  | timeout kind => exact ⟨rfl, .timeout kind m n, rfl, rfl⟩

/-! ### Endings and outcomes -/

/-- Endings that differ in a number. -/
inductive UnitEnding.SameBut (m n : Nat) : UnitEnding → UnitEnding → Prop
  | succeeded : SameBut m n (.finished (.ok ())) (.finished (.ok ()))
  | failed {e e' : DeployError} (same : DeployError.SameBut m n e e') :
      SameBut m n (.finished (.error e)) (.finished (.error e'))
  | crashed (payload : Option String) : SameBut m n (.crashed payload) (.crashed payload)

theorem UnitEnding.SameBut.of_common {k k' m n : Nat} {e e₁ e₂ : UnitEnding}
    (first : SameBut k m e e₁) (second : SameBut k' n e e₂) :
    ∃ m' n', SameBut m' n' e₁ e₂ := by
  cases first with
  | succeeded =>
    cases second
    exact ⟨m, n, .succeeded⟩
  | failed same =>
    cases second with
    | failed same' =>
      obtain ⟨m', n', alike⟩ := same.of_common same'
      exact ⟨m', n', .failed alike⟩
  | crashed payload =>
    cases second
    exact ⟨m, n, .crashed payload⟩

/-- **Outcomes of a unit that are alike**: for the same service, both a success or both not, of the
same grade, and with problems that are alike where there is one. -/
structure UnitOutcome.Alike (o o' : UnitOutcome) : Prop where
  service : o.service = o'.service
  isSuccess : o.isSuccess = o'.isSuccess
  severity : o.severity = o'.severity
  problem : Option.Rel Problem.Alike o.problem o'.problem

/-- A unit that ends alike has an outcome that is alike. -/
theorem UnitEnding.SameBut.ofReport {m n : Nat} {e e' : UnitEnding} (same : SameBut m n e e')
    (service : ServiceName) :
    (UnitOutcome.ofReport service (some e)).Alike (.ofReport service (some e')) := by
  cases same with
  | succeeded => exact ⟨rfl, rfl, rfl, .none⟩
  | failed errors =>
    have alike := errors.toProblem service
    exact ⟨rfl, rfl, alike.severity, .some alike⟩
  | crashed payload => exact ⟨rfl, rfl, rfl, .some (.refl _)⟩

/-- **Outcomes of a batch that are alike**: unit for unit, and problem for problem. -/
structure BatchOutcome.Alike (b b' : BatchOutcome) : Prop where
  outcomes : List.Forall₂ UnitOutcome.Alike b.outcomes b'.outcomes
  problems : List.Forall₂ Problem.Alike b.problems.problems b'.problems.problems

/-- A batch is alike if its units are. -/
theorem BatchOutcome.Alike.ofOutcomes {outcomes outcomes' : List UnitOutcome}
    (alike : List.Forall₂ UnitOutcome.Alike outcomes outcomes') :
    (BatchOutcome.ofOutcomes outcomes).Alike (.ofOutcomes outcomes') where
  outcomes := alike
  problems := by
    induction alike with
    | nil => exact .nil
    | @cons o o' _ _ first _ ih =>
      obtain ⟨service, problem⟩ := o
      obtain ⟨service', problem'⟩ := o'
      cases first.problem with
      | none => exact ih
      | some problems => exact .cons problems ih

/-- Batches that are alike have the same grade. -/
theorem BatchOutcome.Alike.maxSeverity_eq {b b' : BatchOutcome} (alike : b.Alike b') :
    b.problems.maxSeverity = b'.problems.maxSeverity := by
  obtain ⟨outcomes, ⟨problems⟩⟩ := b
  obtain ⟨outcomes', ⟨problems'⟩⟩ := b'
  have pairs : List.Forall₂ Problem.Alike problems problems' := alike.problems
  have grades : problems.map (·.severity) = problems'.map (·.severity) := by
    clear alike
    induction pairs with
    | nil => rfl
    | cons first _ ih => rw [List.map_cons, List.map_cons, first.severity, ih]
  exact congrArg Severity.worst grades

end FleetDeploy
