import FleetDeploy.Deployer
import FleetDeploy.Proofs.Catalog.Prioritizing
import FleetDeploy.Proofs.Plan.Planning

/-!
# How a call is prepared

A deployment and a rollback are prepared in one way: the services of the request are looked up, a
stage begins, the services are planned, and observers are told of the plan. Two of these may fail,
the lookup and the planning. So a call that does not get past its preparation was refused for the
request or for one of its services, and a call that does carries out the plan that was made.

* `FleetDeploy.Deployer.preparation` – the way in which both are prepared
  (`FleetDeploy.Deployer.prepare_deploy`, `FleetDeploy.Deployer.prepare_rollback`);
* `FleetDeploy.Deployer.error_of_preparation`, `FleetDeploy.Deployer.plan_of_preparation` – how a
  preparation fails, and how it succeeds.
-/

namespace FleetDeploy

namespace Deployer

variable {σ : Type} {h : Handler σ} {w w' : World σ} {d : Deployer}
  {requested : List ServiceName} {resolved : ResolvedConfiguration} {e : DeployError}

/-! ### Telling of a plan -/

theorem announce_keepsTo (plan : Plan) (waiting : String) {calls : Call → Prop} :
    (announce plan waiting).KeepsTo calls fun _ => True :=
  .bind (.forM (fun _ => .emit trivial) _) fun _ => .emit trivial

theorem announce_ne_error {plan : Plan} {waiting : String} :
    (announce plan waiting).run.run h w ≠ (.finished (.error e), w') := by
  intro failed
  rw [announce, Procedure.run_bind_of_ok (Procedure.run_forM_emit _ _ w)] at failed
  cases failed

/-! ### Preparations -/

/-- **How a call is prepared**: its services are looked up, a stage begins, they are planned, and
there is something to tell of the plan. -/
def preparation (d : Deployer) (requested : List ServiceName) (stage : String)
    (planning : List Service → Procedure Plan) (tell : Plan → Procedure Unit) : Procedure Plan := do
  let services ← Procedure.ofExcept (d.catalog.prioritized requested)
  Procedure.emit (.stageStarted stage)
  let plan ← planning services
  tell plan
  pure plan

theorem prepare_deploy :
    (d.deploy requested resolved).prepare =
      d.preparation requested "Deploying services"
        (fun services => Plan.forDeploy services resolved.runtimeSettings)
        fun plan => announce plan "Waiting on deployments to complete" :=
  rfl

theorem prepare_rollback :
    (d.rollback requested resolved).prepare =
      d.preparation requested "Checking if it is safe to roll back all services"
        (fun services => Plan.forRollback services resolved.runtimeSettings)
        (fun plan => do
          Procedure.emit (.stageStarted "Rolling back all updatable services")
          announce plan "Waiting on rollbacks to complete") :=
  rfl

section Preparation

variable {stage : String} {planning : List Service → Procedure Plan} {tell : Plan → Procedure Unit}

/-- A preparation is as well conducted as the planning, apart from what it tells. -/
theorem preparation_keepsTo {calls : Call → Prop}
    (plans : ∀ services, (planning services).KeepsTo calls fun _ => True)
    (tells : ∀ plan, (tell plan).KeepsTo calls fun _ => True) :
    (d.preparation requested stage planning tell).KeepsTo calls fun _ => True :=
  .bind (.ofExcept _) fun services => .bind (.emit trivial) fun _ =>
    .bind (plans services) fun plan => .bind (tells plan) fun _ => .pure _

/-- **A preparation fails** because of the request, before anything has happened, or because the
services cannot be planned. -/
theorem error_of_preparation
    (told : ∀ {plan : Plan} {v v' : World σ}, (tell plan).run.run h v ≠ (.finished (.error e), v'))
    (failed : (d.preparation requested stage planning tell).run.run h w =
      (.finished (.error e), w')) :
    (d.catalog.prioritized requested = .error e ∧ w' = w) ∨
      ∃ services, d.catalog.prioritized requested = .ok services ∧
        (planning services).run.run h (w.record (.emitted (.stageStarted stage))) =
          (.finished (.error e), w') := by
  rcases Procedure.run_bind_eq_error failed with failed | ⟨services, w₁, found, failed⟩
  · obtain ⟨unknown, rfl⟩ := Prod.mk.inj failed
    exact Or.inl ⟨Ending.finished.inj unknown, rfl⟩
  · obtain rfl : w = w₁ := congrArg Prod.snd found
    refine Or.inr ⟨services, Ending.finished.inj (congrArg Prod.fst found), ?_⟩
    rw [Procedure.run_bind_of_ok (Procedure.run_emit _ _)] at failed
    rcases Procedure.run_bind_eq_error failed with failed | ⟨plan, w₂, -, failed⟩
    · exact failed
    · rcases Procedure.run_bind_eq_error failed with failed | ⟨_, w₃, -, failed⟩
      · exact absurd failed told
      · cases failed

/-- **A preparation succeeds** with the plan that was made for the services of the request. -/
theorem plan_of_preparation {plan : Plan}
    (prepared : (d.preparation requested stage planning tell).run.run h w =
      (.finished (.ok plan), w')) :
    ∃ services w₁, d.catalog.prioritized requested = .ok services ∧
      (planning services).run.run h (w.record (.emitted (.stageStarted stage))) =
        (.finished (.ok plan), w₁) ∧
      (tell plan).run.run h w₁ = (.finished (.ok ()), w') := by
  obtain ⟨services, w₁, found, prepared⟩ := Procedure.run_bind_eq_ok prepared
  obtain rfl : w = w₁ := congrArg Prod.snd found
  rw [Procedure.run_bind_of_ok (Procedure.run_emit _ _)] at prepared
  obtain ⟨plan', w₂, planned, prepared⟩ := Procedure.run_bind_eq_ok prepared
  obtain ⟨_, w₃, told, done⟩ := Procedure.run_bind_eq_ok prepared
  obtain ⟨⟨⟩, rfl⟩ := Prod.mk.inj done
  exact ⟨services, w₂, Ending.finished.inj (congrArg Prod.fst found), planned, told⟩

end Preparation

end Deployer

end FleetDeploy
