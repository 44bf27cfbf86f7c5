import FleetDeploy.Proofs.Fleet.Collaborators
import FleetDeploy.Proofs.Program.Blindness

/-!
# Fleets that are in use differently

Two fleets may be in every respect the same, but for what the engine tells of executions that are
not the deployer's own, whether it tells so at all, and which deletions fail. Reaping is the only
thing that these three make a difference to, and the calls that are not made for its sake cannot
tell such fleets apart.

* `FleetDeploy.Fleet.withoutUsage`, `FleetDeploy.Fleet.UsedDifferently` – what two such fleets have
  in common;
* `FleetDeploy.Fleet.blindTo_usage` – calls that cannot tell them apart;
* `FleetDeploy.Fleet.withoutReaping` – what reaping does not change, apart from having its
  inspections counted.
-/

namespace FleetDeploy

/-- Whether a call is made for the sake of reaping, and for nothing else. -/
def Call.ReapingAlone : Call → Prop
  | .bakeStatuses => True
  | .activeExecutions => True
  | .deleteVersion .. => True
  | _ => False

/-! ### What nothing but reaping can tell -/

/-- The engine with nothing in use. -/
def Engine.withoutUsage (e : Engine) : Engine :=
  { e with bakes := ∅, active := ∅, usageUnavailable := false }

/-- The infrastructure with no deletion failing. -/
def Infrastructure.withoutUsage (i : Infrastructure) : Infrastructure :=
  { i with deleteFailures := [] }

/-- The fleet with nothing in use and no deletion failing. -/
def Fleet.withoutUsage (f : Fleet) : Fleet :=
  { f with infrastructure := f.infrastructure.withoutUsage, engine := f.engine.withoutUsage }

/-- **Fleets that are in use differently**, and that differ in nothing else: in what is in use, in
whether this can be learned, and in which deletions fail. -/
def Fleet.UsedDifferently (f g : Fleet) : Prop := f.withoutUsage = g.withoutUsage

/-- A submission does not depend on what is in use. -/
theorem Engine.submit_withoutUsage (e : Engine) (kind : ExecutionKind)
    (service : Option ServiceName) :
    e.withoutUsage.submit kind service =
      ((e.submit kind service).1, (e.submit kind service).2.withoutUsage) := by
  have rejected : e.withoutUsage.rejection? service = e.rejection? service := rfl
  have scripted : e.withoutUsage.scriptFor? service = e.scriptFor? service := rfl
  rw [submit, submit, rejected, scripted]
  rcases e.rejection? service with _ | p
  · cases e.scriptFor? service <;> rfl
  · rfl

theorem Engine.submitTask_withoutUsage (e : Engine) (task : TaskDefinition) :
    e.withoutUsage.submitTask task =
      ((e.submitTask task).1, (e.submitTask task).2.withoutUsage) :=
  submit_withoutUsage { e with tasks := e.tasks ++ [task] } .task task.service?

theorem Engine.orchestrate_withoutUsage (e : Engine) (pipeline : PipelineDefinition) :
    e.withoutUsage.orchestrate pipeline =
      ((e.orchestrate pipeline).1, (e.orchestrate pipeline).2.withoutUsage) :=
  submit_withoutUsage { e with pipelines := e.pipelines ++ [pipeline] } .pipeline pipeline.service?

/-- Neither does a status. -/
theorem Engine.executionStatus_withoutUsage (e : Engine) (reference : ExecutionRef) :
    e.withoutUsage.executionStatus reference =
      ((e.executionStatus reference).1, (e.executionStatus reference).2.withoutUsage) := by
  have scripted : e.withoutUsage.scripts.get? reference = e.scripts.get? reference := rfl
  rw [executionStatus, executionStatus, scripted]
  cases e.scripts.get? reference <;> rfl

/-- Neither does a provisioning. -/
theorem Infrastructure.ensureRunning_withoutUsage (i : Infrastructure) (service : ServiceName)
    (safe : Bool) :
    i.withoutUsage.ensureRunning service safe =
      ((i.ensureRunning service safe).1, (i.ensureRunning service safe).2.withoutUsage) := by
  have provisioned : i.withoutUsage.provision service = i.provision service :=
    provision_congr rfl rfl rfl
  rw [ensureRunning, ensureRunning, provisioned]
  cases i.provision service <;> rfl

namespace Fleet

variable {f g : Fleet} {c : Call}

/-- **A call that is not made for the sake of reaping** is answered as if nothing were in use. -/
theorem respond_withoutUsage (other : ¬c.ReapingAlone) (f : Fleet) :
    respond c f.withoutUsage = ((respond c f).1, (respond c f).2.withoutUsage) := by
  cases c with
  | bakeStatuses => exact absurd trivial other
  | activeExecutions => exact absurd trivial other
  | deleteVersion => exact absurd trivial other
  | ensureRunning service _ _ safe =>
    simp only [respond, withoutUsage,
      f.infrastructure.ensureRunning_withoutUsage service.name safe]
  | submitTask task => simp only [respond, withoutUsage, f.engine.submitTask_withoutUsage task]
  | orchestrate pipeline =>
    simp only [respond, withoutUsage, f.engine.orchestrate_withoutUsage pipeline]
  | executionStatus _ reference =>
    simp only [respond, withoutUsage, f.engine.executionStatus_withoutUsage reference]
  | _ => rfl

/-- **Calls that are not made for the sake of reaping** cannot tell such fleets apart. -/
theorem blindTo_usage (other : ¬c.ReapingAlone) : Handler.BlindTo respond UsedDifferently c := by
  intro f g differ
  have answered := congrArg (respond c) (show f.withoutUsage = g.withoutUsage from differ)
  rw [respond_withoutUsage other, respond_withoutUsage other] at answered
  exact Prod.mk.inj answered

/-! ### What reaping does not change -/

/-- The fleet without what is deleted by reaping, and without what reaping alone can tell. -/
def withoutReaping (f : Fleet) : Fleet :=
  { f.withoutUsage with
    infrastructure := { f.withoutUsage.infrastructure with running := ∅, deleted := [] } }

/-- The fleet with some services inspected besides. -/
def inspecting (f : Fleet) (names : List ServiceName) : Fleet :=
  { f with infrastructure :=
      { f.infrastructure with inspected := f.infrastructure.inspected ++ names } }

theorem inspecting_nil (f : Fleet) : f.inspecting [] = f := by
  simp [inspecting]

theorem inspecting_append (f : Fleet) (names later : List ServiceName) :
    (f.inspecting names).inspecting later = f.inspecting (names ++ later) := by
  simp [inspecting]

theorem UsedDifferently.withoutReaping_eq (differ : f.UsedDifferently g) :
    f.withoutReaping = g.withoutReaping := by
  rw [withoutReaping, withoutReaping, show f.withoutUsage = g.withoutUsage from differ]

/-- A call that is made for the sake of reaping changes nothing else. -/
theorem withoutReaping_respond (alone : c.ReapingAlone) (f : Fleet) :
    (respond c f).2.withoutReaping = f.withoutReaping := by
  cases c with
  | bakeStatuses => rfl
  | activeExecutions => rfl
  | deleteVersion service own version =>
    simp only [respond, Infrastructure.deleteVersion, Infrastructure.withoutVersion]
    rcases f.infrastructure.deleteFailure? service.name version with _ | p
    · cases Infrastructure.running? _ service.name <;> rfl
    · rfl
  | _ => exact alone.elim

end Fleet

end FleetDeploy
