import FleetDeploy.Proofs.Batch.Units
import FleetDeploy.Proofs.Deployer.Routing
import FleetDeploy.Proofs.Fleet.Attribution
import FleetDeploy.Proofs.Plan.Modes
import FleetDeploy.Proofs.RedBlack

/-!
# What is submitted for a service

A rollout must not take server groups away from a service with state in them, and a rollback must
not leave a service without a server group that takes traffic. Both are decided when a pipeline is
built, from the service and the policy; but the service comes through the catalog, the plan and a
unit, and the policy through the configuration and the dispatcher. Here it is followed all the way,
for each task and each pipeline that any deployment or rollback of a session hands to the engine,
whatever the collaborators answer and however units are interleaved. Of the service that a
submission is for, no more is used than that a unit was begun for it. Names need not be distinct.

* `FleetDeploy.Deployer.UnitAsks` – the unit of a service makes a call in a session;
* `FleetDeploy.Deployer.Order.Builds` – what a deployment and a rollback have built for a service;
* `FleetDeploy.Deployer.SubmittedFor` – what there is to know of a submission for a service;
* `FleetDeploy.Deployer.session_submits` – every submission of a session is made by a unit, and it
  is made for the service of that unit.
-/

namespace FleetDeploy

namespace Call

variable {c : Call}

/-- Whether the stages of what is submitted wait for none but earlier ones. -/
def StagesOrdered : Call → Prop
  | .orchestrate pipeline => pipeline.Ordered
  | _ => True

/-- The engine takes a submission to be for the first service that it names. -/
theorem attributed?_eq_head? (submits : c.Submits) : c.attributed? = c.services.head? := by
  cases c with
  | submitTask task => exact List.head?_map.symm
  | orchestrate pipeline => exact List.head?_map.symm
  | _ => exact submits.elim

/-- **A submission that names one service** is taken to be for that service. -/
theorem attributed?_of_named {service : ServiceName} (submits : c.Submits)
    (some_named : c.services ≠ []) (named : ∀ name ∈ c.services, name = service) :
    c.attributed? = some service := by
  obtain ⟨first, rest, names⟩ := List.exists_cons_of_ne_nil some_named
  obtain rfl : first = service := named first (names ▸ List.mem_cons_self)
  rw [attributed?_eq_head? submits, names]
  rfl

end Call

namespace Deployer

variable {σ : Type} {h : Handler σ} {d : Deployer} {s s' : σ} {v : World σ} {service : Service}
  {order : Order} {c : Call} {requested : List ServiceName} {resolved : ResolvedConfiguration}
  {plan : Plan} {w w' : World σ}

/-! ### The work of a call -/

/-- The work of a call is for services of the catalog, and in the modes that are planned. -/
theorem works_of_preparation {stage : String} {planning : List Service → Procedure Plan}
    {tell : Plan → Procedure Unit} {modes : DispatchMode → Prop}
    (plans : ∀ {services : List Service} {plan : Plan} {v v' : World σ},
      (planning services).run.run h v = (.finished (.ok plan), v') → plan.Works services modes)
    (prepared : (d.preparation requested stage planning tell).run.run h w =
      (.finished (.ok plan), w')) : plan.Works d.catalog.services modes := by
  obtain ⟨services, w₁, found, planned, -⟩ := plan_of_preparation prepared
  intro item mem
  obtain ⟨listed, mode⟩ := plans planned item mem
  exact ⟨(Catalog.prioritized_sublist found).subset listed, mode⟩

theorem works_of_prepare_deploy
    (prepared : (d.deploy requested resolved).prepare.run.run h w = (.finished (.ok plan), w')) :
    plan.Works d.catalog.services (· ≠ .stagedRollback) :=
  works_of_preparation Plan.works_of_forDeploy (prepare_deploy ▸ prepared)

theorem works_of_prepare_rollback
    (prepared : (d.rollback requested resolved).prepare.run.run h w = (.finished (.ok plan), w')) :
    plan.Works d.catalog.services (· = .stagedRollback) :=
  works_of_preparation Plan.works_of_forRollback (prepare_rollback ▸ prepared)

/-! ### What is built for a service -/

namespace Order

/-- **What an order has built for a service**: a deployment makes its load balancer and rolls it
out, and a rollback puts it back. -/
def Builds (d : Deployer) (service : Service) : Order → Call → Prop
  | .deploy .., .submitTask task => task.Balances service.name
  | .deploy .., .orchestrate pipeline => pipeline.RollsOut service d.config.retention
  | .rollback .., .orchestrate pipeline => pipeline.PutsBack
  | _, _ => False

/-- **The unit of a service is about to make a call**, when an order has come so far from some
state. -/
def AskedBy (h : Handler σ) (d : Deployer) (s : σ) (service : Service) (c : Call) (v : World σ) :
    Order → Prop
  | .deploy requested resolved =>
    ∃ m, (d.deploy requested resolved).Reaches h ⟨s, []⟩ m v ∧ m.AskedBy service c
  | .rollback requested resolved =>
    ∃ m, (d.rollback requested resolved).Reaches h ⟨s, []⟩ m v ∧ m.AskedBy service c

end Order

/-- **What is built for a service** in the course of an order: it names the service and no other,
and does with it what the order is for. -/
structure BuiltFor (d : Deployer) (order : Order) (service : Service) (c : Call) : Prop where
  known : service ∈ d.catalog.services
  named : c.services ≠ [] ∧ ∀ name ∈ c.services, name = service.name
  built : order.Builds d service c
  ordered : c.StagesOrdered

/-- **What a unit of a deployment submits** is built for its service. -/
theorem builtFor_of_rollout {item : WorkItem} (known : item.service ∈ d.catalog.services)
    (mode : item.mode ≠ .stagedRollback) (asks : item.Asks d.dispatchConfig c)
    (submits : c.Submits) : d.BuiltFor (.deploy requested resolved) item.service c := by
  cases c with
  | submitTask task =>
    obtain ⟨-, rfl⟩ := asks
    exact
      { known := known
        named := by simp
        built := ⟨item.settings.port, rfl⟩
        ordered := trivial }
  | orchestrate pipeline =>
    rcases asks with ⟨-, configs, rfl⟩ | ⟨rolled_back, -⟩
    · exact
        { known := known
          named := by simp
          built := RedBlack.rollsOut_deployPipeline item.service item.settings configs _
          ordered := RedBlack.ordered_deployPipeline item.service item.settings configs _ }
    · exact absurd rolled_back mode
  | _ => exact submits.elim

/-- **What a unit of a rollback submits** is built for its service. -/
theorem builtFor_of_rollback {item : WorkItem} (known : item.service ∈ d.catalog.services)
    (mode : item.mode = .stagedRollback) (asks : item.Asks d.dispatchConfig c)
    (submits : c.Submits) : d.BuiltFor (.rollback requested resolved) item.service c := by
  cases c with
  | submitTask task => cases mode.symm.trans asks.1
  | orchestrate pipeline =>
    rcases asks with ⟨rolled_out, -⟩ | ⟨-, rfl⟩
    · cases mode.symm.trans rolled_out
    · exact
        { known := known
          named := by simp
          built := RedBlack.putsBack_rollbackPipeline item.service
          ordered := RedBlack.ordered_rollbackPipeline item.service }
  | _ => exact submits.elim

/-- **Whatever the unit of a service submits is built for it.** -/
theorem builtFor_of_askedBy (asked : order.AskedBy h d s service c v) (submits : c.Submits) :
    d.BuiltFor order service c := by
  cases order with
  | deploy requested resolved =>
    obtain ⟨m, reached, asked⟩ := asked
    obtain ⟨plan, w₁, item, prepared, mem, rfl, asks⟩ :=
      reached.works_of_askedBy deploy_conduct asked
    obtain ⟨known, mode⟩ := works_of_prepare_deploy prepared item mem
    exact builtFor_of_rollout known mode asks submits
  | rollback requested resolved =>
    obtain ⟨m, reached, asked⟩ := asked
    obtain ⟨plan, w₁, item, prepared, mem, rfl, asks⟩ :=
      reached.works_of_askedBy rollback_conduct asked
    obtain ⟨known, mode⟩ := works_of_prepare_rollback prepared item mem
    exact builtFor_of_rollback known mode asks submits

/-! ### Who submits -/

theorem not_inspects_of_submits {services : List Service} {settings : RuntimeSettings}
    (submits : c.Submits) : ¬Plan.Inspects services settings c := by
  rintro ⟨service, -, -, rfl⟩
  exact submits

theorem not_reaps_of_submits {settings : RuntimeSettings} (submits : c.Submits)
    (outcome : BatchOutcome) : ¬d.ReapsEnabled settings outcome c := by
  rintro ⟨-, service, -, -, reaps⟩
  cases c with
  | submitTask => exact reaps
  | orchestrate => exact reaps
  | _ => exact submits

/-- **Whatever is submitted while an order is followed is submitted by a unit.** -/
theorem askedBy_of_followed (followed : order.Followed h d s v) {later earlier : List Step}
    {reply : Reply c} (made : v.journal = later ++ .called c reply :: earlier)
    (submits : c.Submits) :
    ∃ v', v'.journal = earlier ∧ reply = (h c v'.state).1 ∧
      ∃ service, order.AskedBy h d s service c v' := by
  cases order with
  | deploy requested resolved =>
    obtain ⟨m, reached⟩ := followed
    obtain ⟨m', v', reached', asks, before, replied⟩ := reached.asked made
    obtain ⟨service, asked⟩ := reached'.askedBy_of_asks deploy_conduct asks
      (not_inspects_of_submits submits) (not_reaps_of_submits submits)
    exact ⟨v', before, replied, service, m', reached', asked⟩
  | rollback requested resolved =>
    obtain ⟨m, reached⟩ := followed
    obtain ⟨m', v', reached', asks, before, replied⟩ := reached.asked made
    obtain ⟨service, asked⟩ := reached'.askedBy_of_asks rollback_conduct asks
      (not_inspects_of_submits submits) fun _ => id
    exact ⟨v', before, replied, service, m', reached', asked⟩

/-! ### Faults stay arranged -/

section Faults

variable {engine : σ → Engine} {faults : Engine}

/-- An order that has come to a call has been followed that far. -/
theorem Order.AskedBy.followed (asked : order.AskedBy h d s service c v) :
    order.Followed h d s v := by
  cases order with
  | deploy requested resolved =>
    obtain ⟨m, reached, -⟩ := asked
    exact ⟨m, reached⟩
  | rollback requested resolved =>
    obtain ⟨m, reached, -⟩ := asked
    exact ⟨m, reached⟩

/-- However far an order is followed, faults stay arranged. -/
theorem Order.Followed.sameFaults (followed : order.Followed h d s v) (has : h.HasEngine engine)
    (start : (engine s).SameFaults faults) : (engine v.state).SameFaults faults := by
  have kept (c : Call) (s : σ) (same : (engine s).SameFaults faults) :
      (engine (h c s).2).SameFaults faults := (has.kept c s).trans same
  cases order with
  | deploy requested resolved =>
    obtain ⟨m, reached⟩ := followed
    exact reached.state (fun s => (engine s).SameFaults faults) (fun _ c _ => kept c _) start
  | rollback requested resolved =>
    obtain ⟨m, reached⟩ := followed
    exact reached.state (fun s => (engine s).SameFaults faults) (fun _ c _ => kept c _) start

theorem Session.sameFaults {calls : List (Order × List Step)} (session : Session h d s calls s')
    (has : h.HasEngine engine) (start : (engine s).SameFaults faults) :
    (engine s').SameFaults faults := by
  induction session with
  | nil s => exact start
  | cons followed others ih => exact ih (followed.sameFaults has start)

end Faults

/-! ### Sessions -/

/-- **The unit of a service makes a call in a session** that begins in state `s`: the orders before
have led to a state from which this order has come to the call. -/
def UnitAsks (d : Deployer) (h : Handler σ) (s : σ) (before : List (Order × List Step))
    (order : Order) (service : Service) (c : Call) (v : World σ) : Prop :=
  ∃ start, Session h d s before start ∧ order.AskedBy h d start service c v

/-- **A submission for a service**, made in a session that begins in state `s`. It is built for the
service and, if the engine is the one in memory, it is taken to be for the service and decided by
the faults that were arranged for the service when the session began. -/
structure SubmittedFor (d : Deployer) (h : Handler σ) (s : σ) (order : Order) (service : Service)
    (c : Call) (v : World σ) : Prop extends d.BuiltFor order service c where
  attributed : c.attributed? = some service.name
  decided : ∀ engine : σ → Engine, h.HasEngine engine →
    ∃ answer, c.submission? (h c v.state).1 = some answer ∧
      (engine s).Decides service.name (engine v.state) (engine (h c v.state).2) answer

section Sessions

variable {before after calls : List (Order × List Step)} {journal : List Step}

/-- An order in a session is followed from where the orders before it have led. -/
theorem followed_of_session (session : Session h d s (before ++ (order, journal) :: after) s') :
    ∃ start v, Session h d s before start ∧ order.Followed h d start v ∧ v.journal = journal := by
  induction before generalizing s with
  | nil =>
    cases session with
    | cons followed others => exact ⟨s, _, .nil s, followed, rfl⟩
  | cons first before ih =>
    cases session with
    | cons followed others =>
      obtain ⟨start, v, leads, followed', made⟩ := ih others
      exact ⟨start, v, .cons followed leads, followed', made⟩

/-- **What the unit of a service submits** is a submission for the service. -/
theorem submittedFor_of_unitAsks (asked : d.UnitAsks h s before order service c v)
    (submits : c.Submits) : d.SubmittedFor h s order service c v := by
  obtain ⟨start, leads, asked⟩ := asked
  have built := builtFor_of_askedBy asked submits
  have attributed := Call.attributed?_of_named submits built.named.1 built.named.2
  refine { built with attributed, decided := fun engine has => has.decides ?_ attributed }
  exact asked.followed.sameFaults has (leads.sameFaults has ⟨rfl, rfl⟩)

/-- **Every submission of a session is made for the service of a unit.** Whatever the collaborators
answer, each task and each pipeline that a deployment or a rollback hands to the engine is handed
over by a unit, and is a submission for the service of that unit: the pipelines of a deployment roll
it out, and leave as many server groups as the policy of the deployer allows for it; those of a
rollback put it back; and where the engine is the one in memory, the faults of that service, and of
no other, apply. -/
theorem session_submits (session : Session h d s calls s') :
    ∀ before order journal after, calls = before ++ (order, journal) :: after →
      ∀ later c (reply : Reply c) earlier, journal = later ++ .called c reply :: earlier →
        c.Submits → ∃ v, v.journal = earlier ∧ reply = (h c v.state).1 ∧
          (∃ service, d.UnitAsks h s before order service c v) ∧
          ∀ service, d.UnitAsks h s before order service c v →
            d.SubmittedFor h s order service c v := by
  intro before order journal after split later c reply earlier made submits
  subst split
  obtain ⟨start, v, leads, followed, rfl⟩ := followed_of_session session
  obtain ⟨v', so_far, replied, service, asked⟩ := askedBy_of_followed followed made submits
  exact ⟨v', so_far, replied, ⟨service, start, leads, asked⟩,
    fun service asked => submittedFor_of_unitAsks asked submits⟩

end Sessions

/-! ### A rollback and then a deployment -/

/-- A deployer of a service with state and of two without, which keeps three versions. -/
def keepingThree : Deployer where
  catalog := ⟨[{ name := "redis", stateful := true }, { name := "orca" }, { name := "gate" }]⟩
  config := { retention := ⟨3⟩ }

/-- All three services are enabled. -/
def allOn : ResolvedConfiguration :=
  ⟨((RuntimeSettings.withService {} "redis" .on).withService "orca" .on).withService "gate" .on, ∅⟩

/-- Two versions of a service, the second of which is serving. -/
def twoVersions (service : ServiceName) : RunningService :=
  (((RunningService.empty service).withVersion 1 ["a"]).withVersion 2 ["b"]).withLatestEnabled 2

/-- Why the engine takes nothing for the service with state. -/
def quotaExceeded : Problem := .fatal "quota exceeded"

/-- Two versions of each service, of which only the last has no load balancer. Submissions for the
first are rejected, and executions for the second fail. -/
def twoOfEach : Fleet where
  infrastructure :=
    ((Infrastructure.setRunning {} (twoVersions "redis").withLoadBalancer).setRunning
      (twoVersions "orca").withLoadBalancer).setRunning (twoVersions "gate")
  engine := (Engine.rejectSubmissions {} "redis" quotaExceeded).failExecutions "orca" .terminal

/-- All three services are rolled back and then deployed. The pipelines for the service with state
leave all of its server groups, and they are the ones that are rejected. -/
theorem session_submits_twoOfEach :
    ∃ back forth s', Session Fleet.respond keepingThree twoOfEach
        [(.rollback [] allOn, back), (.deploy [] allOn, forth)] s' ∧
      ((callsOf back).filterMap pipelineOf?).map (·.rolloutParameters?) = [none, none, none] ∧
      ((callsOf forth).filterMap pipelineOf?).map (·.rolloutParameters?) =
        [some ⟨some 3, true⟩, some ⟨some 3, true⟩, some ⟨none, false⟩] ∧
      ∀ later c (reply : Reply c) earlier, forth = later ++ .called c reply :: earlier →
        c.Submits → ∃ service v,
          keepingThree.SubmittedFor Fleet.respond twoOfEach (.deploy [] allOn) service c v ∧
          (service.name = "redis" →
            c.submission? reply = some (.error (.problem quotaExceeded))) := by
  let rolled := (keepingThree.rollback [] allOn).run Fleet.respond ⟨twoOfEach, []⟩
  let deployed := (keepingThree.deploy [] allOn).run Fleet.respond ⟨rolled.2.state, []⟩
  have session : Session Fleet.respond keepingThree twoOfEach
      [(.rollback [] allOn, rolled.2.journal), (.deploy [] allOn, deployed.2.journal)]
      deployed.2.state :=
    .cons ⟨_, ((keepingThree.rollback [] allOn).runs_run _ _).reaches⟩
      (.cons ⟨_, ((keepingThree.deploy [] allOn).runs_run _ _).reaches⟩ (.nil _))
  refine ⟨_, _, _, session, by decide +kernel, by decide +kernel, ?_⟩
  intro later c reply earlier made submits
  obtain ⟨v, -, rfl, ⟨service, asked⟩, all⟩ :=
    session_submits session [_] _ _ [] rfl later c reply earlier made submits
  have submitted := all service asked
  refine ⟨service, v, submitted, fun stateful => ?_⟩
  obtain ⟨answer, answered, decides⟩ := submitted.decided (·.engine) Fleet.hasEngine
  have arranged : twoOfEach.engine.rejections.get? service.name = some quotaExceeded := by
    rw [stateful]
    decide
  rw [answered, (decides.rejected quotaExceeded arranged).1]

end Deployer

end FleetDeploy
