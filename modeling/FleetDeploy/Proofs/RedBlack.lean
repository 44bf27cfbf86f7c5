import FleetDeploy.RedBlack
import Mathlib.Data.List.Nodup

/-!
# The shape of what is submitted

A pipeline is a list of stages, and what makes it safe is said of the list: which of its stages
deploy, and what they leave; which of them move traffic, and in what order; and for which others a
stage waits. This file says what a rollout and a rollback have to look like, and that the pipelines
which are built look like that.

| pipeline | `rolloutParameters?` | stages that move traffic |
| --- | --- | --- |
| rollout of a stateful service | any number remains, nothing is scaled down | none |
| rollout of a stateless service | as many as the policy keeps, the rest is scaled down | none |
| rollback | none | the previous server group is enabled, then the current one is disabled |

* `FleetDeploy.PipelineDefinition.Ordered` – stages that wait for none but earlier ones;
* `FleetDeploy.PipelineDefinition.RollsOut`, `FleetDeploy.PipelineDefinition.PutsBack` – what a
  rollout and a rollback look like;
* `FleetDeploy.TaskDefinition.Balances` – a task that makes the load balancer of a service.
-/

namespace FleetDeploy

/-! ### Shapes -/

namespace StageDefinition

/-- Whether a stage lets the previous server group take traffic. -/
def EnablesPrevious : StageDefinition → Prop
  | .enableServerGroup _ _ _ .previous => True
  | _ => False

/-- Whether a stage takes the traffic off the current server group. -/
def DisablesCurrent : StageDefinition → Prop
  | .disableServerGroup _ _ _ .current => True
  | _ => False

end StageDefinition

namespace PipelineDefinition

/-- **Stages that wait for none but earlier ones** of their own pipeline, in which no name stands
for two stages. -/
structure Ordered (pipeline : PipelineDefinition) : Prop where
  distinct : (pipeline.stages.map (·.refId)).Nodup
  waits : ∀ earlier stage later, pipeline.stages = earlier ++ stage :: later →
    stage.requisites ⊆ earlier.map (·.refId)

/-- **A pipeline that rolls a service out**, and leaves as many server groups as the policy allows
for it: all of them if there is state in them, and otherwise no more than are kept. -/
structure RollsOut (service : Service) (policy : RetentionPolicy) (pipeline : PipelineDefinition) :
    Prop where
  parameters : pipeline.rolloutParameters? = some (.forService service policy)
  stateful : service.stateful = true → pipeline.rolloutParameters? = some ⟨none, false⟩
  stateless : service.stateful = false →
    pipeline.rolloutParameters? = some ⟨some policy.maxRemaining, true⟩

/-- **A pipeline that puts a service back**: it deploys nothing, and it disables the current server
group, but not before the previous one has been enabled. -/
structure PutsBack (pipeline : PipelineDefinition) : Prop where
  parameters : pipeline.rolloutParameters? = none
  disables : ∃ stage ∈ pipeline.stages, stage.DisablesCurrent
  enables_first : ∀ earlier stage later, pipeline.stages = earlier ++ stage :: later →
    stage.DisablesCurrent →
      ∃ first ∈ earlier, first.EnablesPrevious ∧ first.refId ∈ stage.requisites

end PipelineDefinition

/-- **A task that makes the load balancer of a service**, under the name of the service. -/
def TaskDefinition.Balances (service : ServiceName) (task : TaskDefinition) : Prop :=
  ∃ port, task.job = [.upsertLoadBalancer service service port]

/-! ### Stages one by one -/

section Splitting

variable {α : Type} {P : List α → α → Prop}

theorem forall_split_nil : ∀ earlier a later, [] = earlier ++ a :: later → P earlier a := by
  intro earlier a later split
  cases earlier <;> cases split

/-- **What is said of an item and of those before it** is said of the first item, and then of each
item of the rest. -/
theorem forall_split_cons {first : α} {rest : List α} (at_first : P [] first)
    (at_rest : ∀ earlier a later, rest = earlier ++ a :: later → P (first :: earlier) a) :
    ∀ earlier a later, first :: rest = earlier ++ a :: later → P earlier a := by
  intro earlier a later split
  cases earlier with
  | nil =>
    obtain ⟨rfl, -⟩ := List.cons.inj split
    exact at_first
  | cons first' earlier =>
    obtain ⟨rfl, inside⟩ := List.cons.inj split
    exact at_rest earlier a later inside

end Splitting

/-! ### What is built -/

namespace RedBlack

variable (service : Service) (settings : ServiceSettings) (configs : List ConfigSource)
  (policy : RetentionPolicy)

theorem rolloutParameters?_deployPipeline :
    (deployPipeline service settings configs policy).rolloutParameters? =
      some (.forService service policy) := rfl

/-- **A rollout is one**, whatever is staged for it. -/
theorem rollsOut_deployPipeline :
    (deployPipeline service settings configs policy).RollsOut service policy where
  parameters := rolloutParameters?_deployPipeline service settings configs policy
  stateful state := by
    rw [rolloutParameters?_deployPipeline, RolloutParameters.forService, if_pos state]
  stateless stateless := by
    rw [rolloutParameters?_deployPipeline, RolloutParameters.forService,
      if_neg (Bool.not_eq_true _ ▸ stateless)]

/-- A rollout has one stage, which waits for none. -/
theorem ordered_deployPipeline : (deployPipeline service settings configs policy).Ordered where
  distinct := List.nodup_singleton _
  waits := forall_split_cons (List.nil_subset _) forall_split_nil

/-- **A rollback is one**: the current server group is disabled by its second stage, which waits for
the first. -/
theorem putsBack_rollbackPipeline : (rollbackPipeline service).PutsBack where
  parameters := rfl
  disables := ⟨_, List.mem_cons_of_mem _ List.mem_cons_self, trivial⟩
  enables_first := by
    refine forall_split_cons False.elim (forall_split_cons (fun _ => ?_) forall_split_nil)
    exact ⟨_, List.mem_cons_self, trivial, List.mem_cons_self⟩

theorem ordered_rollbackPipeline : (rollbackPipeline service).Ordered where
  distinct := by simp [rollbackPipeline, StageDefinition.refId]
  waits := by
    refine forall_split_cons (List.nil_subset _) (forall_split_cons ?_ forall_split_nil)
    exact List.Subset.refl ["enable"]

end RedBlack

end FleetDeploy
