import FleetDeploy.Proofs.Deployer.Reaping

/-!
# Where calls are routed

Each service has one way in which it is treated: it is left alone if it is disabled, it is never
driven by pipelines if the fleet needs it to start or if it is not safe to update, it is rolled out
only where something is serving, and it is rolled back only where there is something to roll back
to. The planner decides so, and the decision goes through a plan, a mode, a dispatcher and the
pipelines that are made of it before anything is asked of a collaborator. This file says that it
gets there: of every call that a deployment or a rollback makes, at any moment and in any sequence
of calls.

The snapshot that a decision was made on is found in the journal. It is the only one that the call
has taken of the service by then, since the catalog has no name twice and units do not inspect.

* `FleetDeploy.Call.RoutedTo` – a call that is about one service, and rightly so;
* `FleetDeploy.Deployer.routedTo_of_unit` – the calls of a unit are about its service;
* `FleetDeploy.Deployer.Session`, `FleetDeploy.Deployer.session_routed` – every call of every
  deployment and rollback in a session is routed so.
-/

namespace FleetDeploy

/-! ### What a call is about -/

namespace Call

/-- The services that a call names. -/
def services : Call → List ServiceName
  | .inspect service _ => [service.name]
  | .stage service _ => [service.name]
  | .ensureRunning service _ _ _ => [service.name]
  | .deleteVersion service _ _ => [service.name]
  | .submitTask task => task.job.map (·.service)
  | .orchestrate pipeline => pipeline.stages.map (·.service)
  | .collectLogs service _ => [service.name]
  | .connectCommand service _ => [service.name]
  | .flushKeySpace service _ _ => [service.name]
  | .executionStatus .. => []
  | .bakeStatuses => []
  | .activeExecutions => []

section Built

variable (service : Service) (settings : ServiceSettings)

@[simp] theorem services_upsertLoadBalancer :
    (submitTask (RedBlack.upsertLoadBalancer service settings)).services = [service.name] := rfl

@[simp] theorem services_deployPipeline (configs : List ConfigSource) (policy : RetentionPolicy) :
    (orchestrate (RedBlack.deployPipeline service settings configs policy)).services =
      [service.name] := rfl

@[simp] theorem services_rollbackPipeline :
    (orchestrate (RedBlack.rollbackPipeline service)).services = [service.name, service.name] := rfl

end Built

/-- Whether a call asks the engine what goes on in it. Such a call names no service. -/
def IsQuery : Call → Prop
  | .executionStatus .. => True
  | .bakeStatuses => True
  | .activeExecutions => True
  | _ => False

/-- Whether a call hands the engine something to carry out. -/
def Submits : Call → Prop
  | .submitTask _ => True
  | .orchestrate _ => True
  | _ => False

/-- Whether a call hands the engine a task that makes a load balancer, or a pipeline that
deploys. -/
def RollsOut : Call → Prop
  | .submitTask task => ∃ service name port, .upsertLoadBalancer service name port ∈ task.job
  | .orchestrate pipeline => pipeline.rolloutParameters?.isSome
  | _ => False

/-- Whether a call hands the engine a pipeline that enables a previous server group. -/
def RollsBack : Call → Prop
  | .orchestrate pipeline =>
    ∃ refId requisites service,
      .enableServerGroup refId requisites service .previous ∈ pipeline.stages
  | _ => False

/-- **A call that is about one service, and rightly so.** The service is one of the catalog and
enabled; what is submitted is a rollout or a rollback of a service that may be driven by pipelines;
and the one snapshot that has been taken of it by then shows something to start from. -/
structure RoutedTo (c : Call) (d : Deployer) (settings : RuntimeSettings) (earlier : List Step)
    (service : Service) : Prop where
  known : service ∈ d.catalog.services
  named : c.services ≠ [] ∧ ∀ name ∈ c.services, name = service.name
  enabled : settings.isEnabled service.name = true
  submitted : c.Submits → (c.RollsOut ∨ c.RollsBack) ∧ service.requiredToBootstrap = false ∧
    ∃ own, settings.get? service.name = some own ∧ own.safeToUpdate = true
  rollout : c.RollsOut → ∃ running, snapshotsOf service.name earlier = [running] ∧
    running.latestEnabled.isSome
  rollback : c.RollsBack → ∃ running, snapshotsOf service.name earlier = [running] ∧
    2 ≤ running.versionCount

end Call

namespace Deployer

variable {d : Deployer} {settings : RuntimeSettings} {service : Service} {earlier : List Step}
  {c : Call}

/-! ### The calls of each phase -/

/-- A call that names one service that is enabled, and submits nothing. -/
theorem routedTo_of_names (known : service ∈ d.catalog.services)
    (enabled : settings.isEnabled service.name = true) (named : c.services = [service.name])
    (harmless : ¬c.Submits) : c.RoutedTo d settings earlier service where
  known := known
  named := by simp [named]
  enabled := enabled
  submitted submits := absurd submits harmless
  rollout rolls := by
    cases c with
    | submitTask => exact absurd trivial harmless
    | orchestrate => exact absurd trivial harmless
    | _ => exact rolls.elim
  rollback rolls := by
    cases c with
    | orchestrate => exact absurd trivial harmless
    | _ => exact rolls.elim

theorem routedTo_of_inspects {services : List Service} (known : services.Sublist d.catalog.services)
    (inspects : Plan.Inspects services settings c) :
    ∃ service, c.RoutedTo d settings earlier service := by
  obtain ⟨service, mem, enabled, rfl⟩ := inspects
  exact ⟨service, routedTo_of_names (known.subset mem) enabled rfl id⟩

theorem routed_of_reaps (known : service ∈ d.catalog.services)
    (enabled : settings.isEnabled service.name = true) (reaps : Reap.Asks service settings c) :
    c.IsQuery ∨ c.RoutedTo d settings earlier service := by
  cases c with
  | inspect s _ =>
    obtain rfl : s = service := reaps
    exact Or.inr (routedTo_of_names known enabled rfl id)
  | deleteVersion s _ _ =>
    obtain ⟨rfl, -⟩ := reaps
    exact Or.inr (routedTo_of_names known enabled rfl id)
  | bakeStatuses => exact Or.inl trivial
  | activeExecutions => exact Or.inl trivial
  | _ => exact reaps.elim

/-- **The calls of a unit are about its service.** -/
theorem routed_of_unit {config : DispatchConfig} {item : WorkItem}
    (known : item.service ∈ d.catalog.services) (grounded : item.Grounded settings)
    (snapshots : snapshotsOf item.service.name earlier = [item.running])
    (asks : item.Asks config c) : c.IsQuery ∨ c.RoutedTo d settings earlier item.service := by
  have enabled : settings.isEnabled item.service.name = true := by
    rw [RuntimeSettings.isEnabled, grounded.configured]
    exact grounded.enabled
  have driven (staged : item.mode ≠ .manual) : item.service.requiredToBootstrap = false ∧
      ∃ own, settings.get? item.service.name = some own ∧ own.safeToUpdate = true :=
    ⟨(grounded.fit staged).1, item.settings, grounded.configured, (grounded.fit staged).2⟩
  cases c with
  | stage s _ =>
    obtain ⟨rfl, -⟩ := asks
    exact Or.inr (routedTo_of_names known enabled rfl id)
  | ensureRunning s _ _ _ =>
    obtain ⟨rfl, -⟩ := asks
    exact Or.inr (routedTo_of_names known enabled rfl id)
  | submitTask task =>
    obtain ⟨mode, rfl⟩ := asks
    refine Or.inr
      { known := known
        named := by simp
        enabled := enabled
        submitted := fun _ => ⟨Or.inl ⟨_, _, _, List.mem_singleton_self _⟩, driven (by simp [mode])⟩
        rollout := fun _ => ⟨item.running, snapshots, grounded.rollout mode⟩
        rollback := fun rolls => rolls.elim }
  | orchestrate pipeline =>
    rcases asks with ⟨mode, configs, rfl⟩ | ⟨mode, rfl⟩
    · refine Or.inr
        { known := known
          named := by simp
          enabled := enabled
          submitted := fun _ => ⟨Or.inl rfl, driven (by simp [mode])⟩
          rollout := fun _ => ⟨item.running, snapshots, grounded.rollout mode⟩
          rollback := fun rolls => ?_ }
      obtain ⟨refId, requisites, service, stage⟩ := rolls
      cases List.mem_singleton.mp stage
    · refine Or.inr
        { known := known
          named := by simp
          enabled := enabled
          submitted := fun _ => ⟨Or.inr ⟨_, _, _, List.mem_cons_self⟩, driven (by simp [mode])⟩
          rollout := fun rolls => by cases rolls
          rollback := fun _ => ⟨item.running, snapshots, grounded.rollback mode⟩ }
  | executionStatus => exact Or.inl trivial
  | _ => exact asks.elim

/-! ### The plan of a call -/

section Preparation

variable {σ : Type} {h : Handler σ} {s : σ} {w : World σ} {requested : List ServiceName}
  {resolved : ResolvedConfiguration} {plan : Plan}

/-- A plan that has been prepared rests on snapshots that were taken for it: nothing else that a
preparation does takes any. -/
theorem rests_of_preparation {stage : String} {planning : List Service → Procedure Plan}
    {tell : Plan → Procedure Unit} (distinct : (d.catalog.services.map (·.name)).Nodup)
    (plans : ∀ {services : List Service} {plan : Plan} {v v' : World σ},
      (services.map (·.name)).Nodup →
        (planning services).run.run h v = (.finished (.ok plan), v') →
          ∃ steps, v'.journal = steps ++ v.journal ∧ plan.Rests settings services steps)
    (tells : ∀ plan, (tell plan).AsksOnly fun _ => False)
    (prepared : (d.preparation requested stage planning tell).run.run h ⟨s, []⟩ =
      (.finished (.ok plan), w)) : plan.Rests settings d.catalog.services w.journal := by
  obtain ⟨services, w₁, found, planned, told⟩ := plan_of_preparation prepared
  have chosen := Catalog.prioritized_sublist found
  obtain ⟨steps, journal, rests⟩ := plans (distinct.sublist (chosen.map _)) planned
  obtain ⟨after, journal', silent⟩ := (tells plan).run told
  intro item mem
  obtain ⟨listed, grounded, snapshots⟩ := rests item mem
  refine ⟨chosen.subset listed, grounded, ?_⟩
  have nothing : snapshotsOf item.service.name after = [] :=
    snapshotsOf_eq_nil fun c made => (silent c made).elim
  rw [journal', journal, snapshotsOf_append, snapshotsOf_append, nothing, snapshots]
  rfl

theorem rests_of_prepare_deploy (distinct : (d.catalog.services.map (·.name)).Nodup)
    (prepared : (d.deploy requested resolved).prepare.run.run h ⟨s, []⟩ =
      (.finished (.ok plan), w)) :
    plan.Rests resolved.runtimeSettings d.catalog.services w.journal :=
  rests_of_preparation distinct Plan.rests_of_forDeploy (fun plan => announce_asksOnly plan _)
    prepared

theorem rests_of_prepare_rollback (distinct : (d.catalog.services.map (·.name)).Nodup)
    (prepared : (d.rollback requested resolved).prepare.run.run h ⟨s, []⟩ =
      (.finished (.ok plan), w)) :
    plan.Rests resolved.runtimeSettings d.catalog.services w.journal :=
  rests_of_preparation distinct Plan.rests_of_forRollback
    (fun plan => .bind (.emit _) fun _ => announce_asksOnly plan _) prepared

end Preparation

/-! ### Whole calls -/

section Calls

variable {σ ρ : Type} {h : Handler σ} {s : σ} {requested : List ServiceName}
  {resolved : ResolvedConfiguration}

/-- **A call routes what it asks for**, if its plan rests on its snapshots, its units ask for what
their modes are for, and what it asks for when it concludes is routed. -/
theorem routed_of_conduct {op : BatchOperation ρ} {config : DispatchConfig}
    {concluding : BatchOutcome → Call → Prop} {m : Moment ρ} {v : World σ}
    (conduct : op.Conduct (Plan.Inspects d.catalog.services settings) (WorkItem.Asks config)
      concluding)
    (rests : ∀ {plan : Plan} {w : World σ},
      op.prepare.run.run h ⟨s, []⟩ = (.finished (.ok plan), w) →
        plan.Rests settings d.catalog.services w.journal)
    (concludes : ∀ {outcome : BatchOutcome} {c : Call} {earlier : List Step}, concluding outcome c →
      c.IsQuery ∨ ∃ service, c.RoutedTo d settings earlier service)
    (reached : op.Reaches h ⟨s, []⟩ m v) (asks : m.Asks c) :
    c.IsQuery ∨ ∃ service, c.RoutedTo d settings v.journal service := by
  have allowed := reached.allows conduct asks
  cases m with
  | preparing rest => exact Or.inr (routedTo_of_inspects (List.Sublist.refl _) allowed)
  | carryingOut plan strands arrivals =>
    obtain ⟨item, mem, works⟩ := allowed
    obtain ⟨w₁, since, prepared, journal, asked⟩ := reached.since_plan conduct
    obtain ⟨known, grounded, snapshots⟩ := rests prepared item mem
    -- Units do not inspect, so that the snapshot of the plan is still the only one.
    have nothing : snapshotsOf item.service.name since = [] := by
      refine snapshotsOf_eq_nil fun c made inspects => ?_
      obtain ⟨other, -, works⟩ := asked c made
      cases c with
      | inspect => exact works.elim
      | _ => exact inspects.elim
    have still : snapshotsOf item.service.name v.journal = [item.running] := by
      rw [journal, snapshotsOf_append, nothing, snapshots]
      rfl
    exact (routed_of_unit known grounded still works).imp_right fun routed => ⟨_, routed⟩
  | concluding plan outcome rest => exact concludes allowed
  | closed ending => exact allowed.elim

theorem routed_deploy (distinct : (d.catalog.services.map (·.name)).Nodup) {m : Moment DeployReport}
    {v : World σ} (reached : (d.deploy requested resolved).Reaches h ⟨s, []⟩ m v)
    (asks : m.Asks c) :
    c.IsQuery ∨ ∃ service, c.RoutedTo d resolved.runtimeSettings v.journal service := by
  refine routed_of_conduct deploy_conduct (rests_of_prepare_deploy distinct) ?_ reached asks
  rintro outcome c earlier ⟨-, service, known, enabled, reaps⟩
  exact (routed_of_reaps known enabled reaps).imp_right fun routed => ⟨service, routed⟩

theorem routed_rollback (distinct : (d.catalog.services.map (·.name)).Nodup)
    {m : Moment RollbackReport} {v : World σ}
    (reached : (d.rollback requested resolved).Reaches h ⟨s, []⟩ m v) (asks : m.Asks c) :
    c.IsQuery ∨ ∃ service, c.RoutedTo d resolved.runtimeSettings v.journal service :=
  routed_of_conduct rollback_conduct (rests_of_prepare_rollback distinct) False.elim reached asks

end Calls

end Deployer

/-! ### Sessions -/

namespace Deployer

/-- What an operator may order. -/
inductive Order
  | deploy (requested : List ServiceName) (resolved : ResolvedConfiguration)
  | rollback (requested : List ServiceName) (resolved : ResolvedConfiguration)

namespace Order

variable {σ : Type}

/-- The settings that an order comes with. -/
def settings : Order → RuntimeSettings
  | .deploy _ resolved => resolved.runtimeSettings
  | .rollback _ resolved => resolved.runtimeSettings

/-- How far an order may have been followed from some state: to its end, or to any moment at which
it is broken off. -/
def Followed (h : Handler σ) (d : Deployer) (s : σ) (v : World σ) : Order → Prop
  | .deploy requested resolved => ∃ m, (d.deploy requested resolved).Reaches h ⟨s, []⟩ m v
  | .rollback requested resolved => ∃ m, (d.rollback requested resolved).Reaches h ⟨s, []⟩ m v

end Order

/-- **A session**: orders that are followed one after the other, each with the journal of its own
steps. -/
inductive Session {σ : Type} (h : Handler σ) (d : Deployer) :
    σ → List (Order × List Step) → σ → Prop
  | nil (s : σ) : Session h d s [] s
  | cons {s order v rest s'} (followed : order.Followed h d s v)
      (others : Session h d v.state rest s') : Session h d s ((order, v.journal) :: rest) s'

section Sessions

variable {σ : Type} {h : Handler σ} {d : Deployer} {s s' : σ} {earlier : List Step} {c : Call}
  {calls : List (Order × List Step)}

/-- Every call that is made while an order is followed is routed. -/
theorem routed_of_followed (distinct : (d.catalog.services.map (·.name)).Nodup) {order : Order}
    {v : World σ} (followed : order.Followed h d s v) {later : List Step} {reply : Reply c}
    (made : v.journal = later ++ .called c reply :: earlier) :
    c.IsQuery ∨ ∃ service, c.RoutedTo d order.settings earlier service := by
  cases order with
  | deploy requested resolved =>
    obtain ⟨m, reached⟩ := followed
    obtain ⟨m', v', reached', asks, rfl, -⟩ := reached.asked made
    exact routed_deploy distinct reached' asks
  | rollback requested resolved =>
    obtain ⟨m, reached⟩ := followed
    obtain ⟨m', v', reached', asks, rfl, -⟩ := reached.asked made
    exact routed_rollback distinct reached' asks

/-- **Every call of a session is routed.** In a catalog of distinct names, and whatever the
collaborators answer, each call that a deployment or a rollback makes either asks the engine what
goes on in it, or is about one service that is enabled in the settings of its order; and what is
submitted is submitted for a service that may be driven by pipelines, to roll it out where the
snapshot of the plan shows that it is serving, or to roll it back where there are two versions. -/
theorem session_routed (distinct : (d.catalog.services.map (·.name)).Nodup)
    (session : Session h d s calls s') :
    ∀ order journal, (order, journal) ∈ calls → ∀ later c (reply : Reply c) earlier,
      journal = later ++ .called c reply :: earlier →
        c.IsQuery ∨ ∃ service, c.RoutedTo d order.settings earlier service := by
  induction session with
  | nil s => exact fun _ _ mem => absurd mem List.not_mem_nil
  | cons followed others ih =>
    intro order journal mem later c reply earlier made
    rcases List.mem_cons.mp mem with first | mem
    · obtain ⟨rfl, rfl⟩ := Prod.mk.inj first
      exact routed_of_followed distinct followed made
    · exact ih order journal mem later c reply earlier made

end Sessions

/-! ### A rollback and then a deployment -/

/-- The pipeline that a call hands to the engine. -/
def pipelineOf? : Call → Option PipelineDefinition
  | .orchestrate pipeline => some pipeline
  | _ => none

/-- Three versions of one service are rolled back and then deployed. The rollback pipeline is
submitted for a snapshot of three versions, the deploy pipeline for one in which the third is
serving. -/
theorem session_routed_backAndForth :
    (ofRunner.catalog.services.map (·.name)).Nodup ∧
    ∃ back forth s', Session Fleet.respond ofRunner (threeVersions 3)
        [(.rollback [] runnerOn, back), (.deploy [] runnerOn, forth)] s' ∧
      (callsOf back).filterMap pipelineOf? =
        [RedBlack.rollbackPipeline { name := "orca", kind := .pipelineRunner }] ∧
      (callsOf forth).filterMap pipelineOf? =
        [RedBlack.deployPipeline { name := "orca", kind := .pipelineRunner } .on
          [⟨"orca-profile", "/opt/orca/config"⟩] {}] ∧
      ∀ c ∈ callsOf back ++ callsOf forth,
        c.IsQuery ∨
          ∃ service earlier, c.RoutedTo ofRunner runnerOn.runtimeSettings earlier service := by
  have distinct : (ofRunner.catalog.services.map (·.name)).Nodup := by decide
  let rolled := (ofRunner.rollback [] runnerOn).run Fleet.respond ⟨threeVersions 3, []⟩
  let deployed := (ofRunner.deploy [] runnerOn).run Fleet.respond ⟨rolled.2.state, []⟩
  have session : Session Fleet.respond ofRunner (threeVersions 3)
      [(.rollback [] runnerOn, rolled.2.journal), (.deploy [] runnerOn, deployed.2.journal)]
      deployed.2.state :=
    .cons ⟨_, ((ofRunner.rollback [] runnerOn).runs_run _ _).reaches⟩
      (.cons ⟨_, ((ofRunner.deploy [] runnerOn).runs_run _ _).reaches⟩ (.nil _))
  have routed := session_routed distinct session
  refine ⟨distinct, _, _, _, session, by decide +kernel, by decide +kernel, fun c mem => ?_⟩
  rcases List.mem_append.mp mem with mem | mem
  · obtain ⟨later, reply, earlier, made⟩ := exists_of_mem_callsOf mem
    refine (routed _ _ List.mem_cons_self later c reply earlier made).imp_right ?_
    exact fun ⟨service, routed⟩ => ⟨service, earlier, routed⟩
  · obtain ⟨later, reply, earlier, made⟩ := exists_of_mem_callsOf mem
    refine (routed _ _ (List.mem_cons_of_mem _ List.mem_cons_self) later c reply earlier
      made).imp_right ?_
    exact fun ⟨service, routed⟩ => ⟨service, earlier, routed⟩

end Deployer

end FleetDeploy
