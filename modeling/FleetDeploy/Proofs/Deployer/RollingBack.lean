import FleetDeploy.Proofs.Batch.Exchanges
import FleetDeploy.Proofs.Deployer.Routing
import FleetDeploy.Proofs.Deployer.Running
import FleetDeploy.Proofs.Deployer.Schedules
import FleetDeploy.Proofs.Dispatch.Phases
import FleetDeploy.Proofs.Plan.Verdicts

/-!
# All candidates are rolled back, or none

A service is a candidate for a rollback if it is enabled, is not needed to start and is safe to
update. A rollback looks at every candidate of its request before it begins, and is refused if one
of them has nothing to go back to, wherever it stands in the catalog. Otherwise every candidate has
a unit of its own. The first thing that a unit asks for is its pipeline, and it asks for nothing but
the status of the execution after that; so whatever becomes of the pipelines, each of them is
submitted once. Nothing else is submitted, and no collaborator but the engine is asked for a change.

* `FleetDeploy.Deployer.candidates` – the candidates of a request;
* `FleetDeploy.Plan.LetsRollBack`, `FleetDeploy.Deployer.plansRollback_iff` – when a rollback has a
  plan;
* `FleetDeploy.Deployer.rollsBack_of_prepare` – a rollback that has one has a unit for each of its
  candidates;
* `FleetDeploy.WorkItem.submits_once` – what a unit submits, whatever it is answered;
* `FleetDeploy.Deployer.asks_of_rollback` – what a rollback asks for at some moment;
* `FleetDeploy.Deployer.rolls_back_all_or_none` – what a rollback has done at some moment, and when
  it is over.
-/

namespace FleetDeploy

/-! ### Candidates -/

/-- **The candidates of a request**, in the order of the catalog. A request that names nothing is
for all services. -/
def Deployer.candidates (d : Deployer) (requested : List ServiceName)
    (settings : RuntimeSettings) : List Service :=
  (d.catalog.services.filter fun service =>
    requested.isEmpty || requested.contains service.name).filter settings.rollsBack

/-! ### The plan of a rollback -/

namespace Plan

variable {settings : RuntimeSettings} {service : Service} {services : List Service} {f : Fleet}
  {w w' : World Fleet}

/-- **What lets a rollback pass a service**: it has settings, and if it is a candidate it can be
inspected and has two versions. -/
structure LetsRollBack (settings : RuntimeSettings) (f : Fleet) (service : Service) : Prop where
  configured : (settings.get? service.name).isSome
  inspected : settings.rollsBack service = true →
    f.infrastructure.inspectionFailures.get? service.name = none
  enough : settings.rollsBack service = true →
    2 ≤ (f.infrastructure.details service.name).versionCount

/-- In a fleet, a service that is ready for a rollback is one that lets it pass. -/
theorem rollbackable_iff :
    Rollbackable settings f.inspector service ↔ LetsRollBack settings f service := by
  constructor
  · rintro ⟨configured, enough⟩
    refine ⟨configured, fun candidate => ?_, fun candidate => ?_⟩
    · obtain ⟨running, snapshot, -⟩ := enough candidate
      exact (inspector_eq_ok.mp snapshot).1
    · obtain ⟨running, snapshot, enough⟩ := enough candidate
      rwa [(inspector_eq_ok.mp snapshot).2]
  · rintro ⟨configured, inspected, enough⟩
    exact ⟨configured, fun candidate =>
      ⟨_, inspector_eq_ok.mpr ⟨inspected candidate, rfl⟩, enough candidate⟩⟩

/-- **A plan that rolls candidates back**: it has work for each of them and for nothing else, and
the work is to roll back. -/
structure RollsBack (candidates : List Service) (plan : Plan) : Prop where
  services : plan.workItems.map (·.service) = candidates
  mode : ∀ item ∈ plan.workItems, item.mode = .stagedRollback

/-- Work of rolling candidates back rolls back each of them. -/
theorem rollsBack_of_work {inspector : Service → Except DeployError RunningService}
    {candidates : List Service} {items : List WorkItem}
    (work : List.Forall₂ (RolledBack settings inspector) candidates items) :
    items.map (·.service) = candidates ∧ ∀ item ∈ items, item.mode = .stagedRollback := by
  induction work with
  | nil => exact ⟨rfl, fun _ mem => absurd mem List.not_mem_nil⟩
  | cons rolled _ ih =>
    obtain ⟨own, running, -, -, rfl⟩ := rolled
    obtain ⟨services, mode⟩ := ih
    exact ⟨congrArg _ services, List.forall_mem_cons.mpr ⟨rfl, mode⟩⟩

/-- Services for which there is a plan let a rollback pass, and the plan rolls the candidates
back. -/
theorem rollsBack_of_forRollback {plan : Plan} (so_far : f.Inspected w.state)
    (planned : (forRollback services settings).run.run Fleet.respond w =
      (.finished (.ok plan), w')) :
    (∀ service ∈ services, LetsRollBack settings f service) ∧
      plan.RollsBack (services.filter settings.rollsBack) := by
  obtain ⟨asked, plans⟩ :=
    Rules.plans_of_run (followed_rollbackEntry (f.inspectsBy settings)) so_far planned
  have ready := (plans.ok_iff EntersRollback.rollbackable RefusesRollback.not_rollbackable).mp
    ⟨plan.entries, rfl⟩
  obtain ⟨candidates, mode⟩ := rollsBack_of_work (rolledBack_of_enters plans.entered)
  exact ⟨fun service mem => rollbackable_iff.mp (ready service mem), candidates, mode⟩

/-- **A rollback of services that let it pass** can be planned. -/
theorem run_forRollback (so_far : f.Inspected w.state)
    (let_pass : ∀ service ∈ services, LetsRollBack settings f service) :
    ∃ plan w', (forRollback services settings).run.run Fleet.respond w =
      (.finished (.ok plan), w') := by
  obtain ⟨result, w', asked, made, -, plans⟩ :=
    Rules.plans_of_plan (followed_rollbackEntry (f.inspectsBy settings)) services so_far
  have ready : ∀ service ∈ services, Rollbackable settings f.inspector service :=
    fun service mem => rollbackable_iff.mpr (let_pass service mem)
  obtain ⟨entries, same⟩ :=
    (plans.ok_iff EntersRollback.rollbackable RefusesRollback.not_rollbackable).mpr ready
  cases result with
  | error e => cases same
  | ok plan => exact ⟨plan, w', made⟩

end Plan

/-! ### What a unit submits -/

/-- The questions about an execution are about this one. -/
theorem Polls.call_eq {kind : ExecutionKind} {reference : ExecutionRef} {remaining : Nat}
    {steps : List Step} {ending : Ending (Except DeployError Unit)}
    (polls : Polls kind reference remaining steps ending) :
    ∀ c ∈ callsOf steps, c = .executionStatus kind reference := by
  induction polls with
  | again unfinished later ih => exact List.forall_mem_cons.mpr ⟨rfl, ih⟩
  | _ => exact fun c mem => List.mem_singleton.mp mem

open Deployer (pipelineOf?)

/-- The pipelines that are handed to the engine in some steps. -/
def pipelinesOf (steps : List Step) : List PipelineDefinition :=
  (callsOf steps).filterMap pipelineOf?

@[simp] theorem pipelinesOf_append (steps steps' : List Step) :
    pipelinesOf (steps ++ steps') = pipelinesOf steps ++ pipelinesOf steps' := by
  rw [pipelinesOf, callsOf_append, List.filterMap_append]
  rfl

/-- Where no pipeline is asked for none is handed over. -/
theorem pipelinesOf_eq_nil {steps : List Step} (none : ∀ c ∈ callsOf steps, pipelineOf? c = none) :
    pipelinesOf steps = [] :=
  List.filterMap_eq_nil_iff.mpr none

/-- **A unit that rolls back submits one pipeline**, whatever it is answered. -/
theorem WorkItem.submits_once (config : DispatchConfig) (resolved : ResolvedConfiguration)
    {item : WorkItem} (mode : item.mode = .stagedRollback) :
    (item.dispatch config resolved).Yields fun steps _ =>
      pipelinesOf steps = [RedBlack.rollbackPipeline item.service] := by
  rw [dispatch, mode]
  refine .emit_bind (.emit_bind (.ask_bind (fun submission => ?_) fun reply stop ended => rfl))
  -- The pipeline is submitted by now, and waiting for it is no submission.
  refine (Monitor.poll_yields _ _ .pipeline submission.reference _).mono fun more ending polls => ?_
  have waiting : pipelinesOf more = [] :=
    pipelinesOf_eq_nil fun c mem => by rw [polls.call_eq c mem]; rfl
  exact congrArg (RedBlack.rollbackPipeline item.service :: ·) waiting

/-! ### Rollbacks -/

/-- Whether a call looks at a service or at an execution, and does nothing else. -/
def Call.IsReading : Call → Prop
  | .inspect .. => True
  | .executionStatus .. => True
  | _ => False

namespace Deployer

variable {d : Deployer} {requested : List ServiceName} {resolved : ResolvedConfiguration}
  {f : Fleet} {m : Moment RollbackReport} {v w : World Fleet} {plan : Plan} {c : Call}

/-- Whether planning a rollback succeeds. -/
def PlansRollback (d : Deployer) (requested : List ServiceName) (resolved : ResolvedConfiguration)
    (f : Fleet) : Prop :=
  ∃ plan w, (d.rollback requested resolved).prepare.run.run Fleet.respond ⟨f, []⟩ =
    (.finished (.ok plan), w)

/-- **A rollback that has a plan** has one unit for each of its candidates, and no service of the
request stands in its way. -/
theorem rollsBack_of_prepare
    (prepared : (d.rollback requested resolved).prepare.run.run Fleet.respond ⟨f, []⟩ =
      (.finished (.ok plan), w)) :
    (∃ services, d.catalog.prioritized requested = .ok services ∧
        ∀ service ∈ services, Plan.LetsRollBack resolved.runtimeSettings f service) ∧
      plan.RollsBack (d.candidates requested resolved.runtimeSettings) := by
  rw [prepare_rollback] at prepared
  obtain ⟨services, w₁, found, planned, -⟩ := plan_of_preparation prepared
  obtain ⟨let_pass, rolls⟩ := Plan.rollsBack_of_forRollback (.refl f) planned
  rw [candidates, ← Catalog.prioritized_eq found]
  exact ⟨⟨services, found, let_pass⟩, rolls⟩

/-- **When a rollback has a plan**: the request is known, and none of its services stands in the
way. -/
theorem plansRollback_iff : d.PlansRollback requested resolved f ↔
    ∃ services, d.catalog.prioritized requested = .ok services ∧
      ∀ service ∈ services, Plan.LetsRollBack resolved.runtimeSettings f service := by
  constructor
  · rintro ⟨plan, w, prepared⟩
    exact (rollsBack_of_prepare prepared).1
  · rintro ⟨services, found, let_pass⟩
    obtain ⟨plan, w₁, planned⟩ := Plan.run_forRollback (w := World.record ⟨f, []⟩
      (.emitted (.stageStarted "Checking if it is safe to roll back all services"))) (.refl f)
      let_pass
    rw [PlansRollback, prepare_rollback, preparation, found]
    refine ⟨plan, ?_⟩
    rw [Procedure.run_bind_of_ok (Procedure.run_ofExcept _ _),
      Procedure.run_bind_of_ok (Procedure.run_emit _ _), Procedure.run_bind_of_ok planned,
      announce, bind_assoc, Procedure.run_bind_of_ok (Procedure.run_emit _ _), bind_assoc,
      Procedure.run_bind_of_ok (Procedure.run_forM_emit _ _ _)]
    exact ⟨_, rfl⟩

/-- **What a rollback asks for**: it looks, or it has a plan and submits the pipeline of a
candidate. -/
theorem asks_of_rollback
    (reached : (d.rollback requested resolved).Reaches Fleet.respond ⟨f, []⟩ m v)
    (asks : m.Asks c) :
    c.IsReading ∨ d.PlansRollback requested resolved f ∧
      ∃ service ∈ d.candidates requested resolved.runtimeSettings,
        c = .orchestrate (RedBlack.rollbackPipeline service) := by
  have allowed := reached.allows rollback_conduct asks
  cases m with
  | preparing rest =>
    obtain ⟨service, -, -, rfl⟩ := allowed
    exact Or.inl trivial
  | carryingOut plan strands arrivals =>
    obtain ⟨item, mem, works⟩ := allowed
    obtain ⟨w₁, since, prepared, -, -⟩ := reached.since_plan rollback_conduct
    obtain ⟨-, rolls⟩ := rollsBack_of_prepare prepared
    have mode := rolls.mode item mem
    have candidate : item.service ∈ d.candidates requested resolved.runtimeSettings := by
      rw [← rolls.services]
      exact List.mem_map_of_mem mem
    cases c with
    | executionStatus => exact Or.inl trivial
    | orchestrate pipeline =>
      rcases works with ⟨rollout, -⟩ | ⟨-, rfl⟩
      · rw [mode] at rollout
        cases rollout
      · exact Or.inr ⟨⟨plan, w₁, prepared⟩, item.service, candidate, rfl⟩
    | stage => exact absurd mode works.2
    | ensureRunning => cases mode.symm.trans works.2
    | submitTask => cases mode.symm.trans works.1
    | _ => exact works.elim
  | concluding plan outcome rest => exact allowed.elim
  | closed ending => exact allowed.elim

/-- Every call of a rollback has been asked for at some moment. -/
theorem asked_of_rollback
    (reached : (d.rollback requested resolved).Reaches Fleet.respond ⟨f, []⟩ m v)
    (mem : c ∈ callsOf v.journal) :
    c.IsReading ∨ d.PlansRollback requested resolved f ∧
      ∃ service ∈ d.candidates requested resolved.runtimeSettings,
        c = .orchestrate (RedBlack.rollbackPipeline service) := by
  obtain ⟨later, reply, earlier, made⟩ := exists_of_mem_callsOf mem
  obtain ⟨m', v', reached', asks, -⟩ := reached.asked made
  exact asks_of_rollback reached' asks

/-- A rollback that is over has handed over the pipelines of its candidates, if it had a plan. -/
theorem pipelines_of_runs {ending : Ending (Except DeployError RollbackReport)}
    (ran : (d.rollback requested resolved).Runs Fleet.respond ⟨f, []⟩ ending w)
    (plans : d.PlansRollback requested resolved f) :
    (pipelinesOf w.journal).Perm
      ((d.candidates requested resolved.runtimeSettings).map RedBlack.rollbackPipeline) := by
  obtain ⟨plan, w₁, prepared⟩ := plans
  cases ran with
  | crashed prepared' => cases prepared.symm.trans prepared'
  | refused prepared' => cases prepared.symm.trans prepared'
  | @carriedOut _ _ arrivals strands w₂ _ _ prepared' interleaved concluded =>
    obtain ⟨⟨⟩, rfl⟩ := Prod.mk.inj (prepared.symm.trans prepared')
    obtain ⟨-, rolls⟩ := rollsBack_of_prepare prepared
    have conduct : (d.rollback requested resolved).Conduct _ _ _ := rollback_conduct
    -- Nothing is handed over before the units begin, and nothing after they have ended.
    obtain ⟨looked, journal, inspects⟩ := conduct.prepare.run prepared
    have before : pipelinesOf looked = [] := pipelinesOf_eq_nil fun c mem => by
      obtain ⟨service, -, -, rfl⟩ := inspects c mem
      rfl
    obtain ⟨told, journal', silent⟩ := (conduct.conclude _ _).run concluded
    have after : pipelinesOf told = [] := pipelinesOf_eq_nil fun c mem => (silent c mem).elim
    have each : ∀ item ∈ plan.workItems,
        (item.dispatch d.dispatchConfig resolved).Yields fun steps _ =>
          (callsOf steps).filterMap pipelineOf? = [RedBlack.rollbackPipeline item.service] :=
      fun item mem => WorkItem.submits_once _ resolved (rolls.mode item mem)
    obtain ⟨between, journal'', submitted⟩ := interleaved.calls_perm each
    have whole : pipelinesOf w.journal = pipelinesOf between := by
      rw [journal', journal'', journal]
      simp [before, after]
    rw [whole, ← rolls.services, List.map_map, List.map_eq_flatMap]
    exact submitted

/-- **What a rollback has done** when it has come to some moment. Its calls look, or submit the
pipeline of a candidate; so nothing has been provisioned, deleted, staged or submitted as a task,
and what is running is as it was. Nothing has been submitted where some candidate lacks a second
version, or where there is no plan for another reason; and there is a plan if no service of the
request stands in its way. With a plan, a rollback that is over has submitted one pipeline for each
of its candidates, whatever became of any of them. -/
structure AllOrNone (d : Deployer) (requested : List ServiceName) (resolved : ResolvedConfiguration)
    (f : Fleet) (m : Moment RollbackReport) (v : World Fleet) : Prop where
  calls : ∀ c ∈ callsOf v.journal, c.IsReading ∨
    ∃ service ∈ d.candidates requested resolved.runtimeSettings,
      c = .orchestrate (RedBlack.rollbackPipeline service)
  running : ∀ service,
    v.state.infrastructure.running? service = f.infrastructure.running? service
  none : (∃ service ∈ d.candidates requested resolved.runtimeSettings,
      (f.infrastructure.details service.name).versionCount < 2) → pipelinesOf v.journal = []
  refused : ¬d.PlansRollback requested resolved f → pipelinesOf v.journal = []
  plans : d.PlansRollback requested resolved f ↔
    ∃ services, d.catalog.prioritized requested = .ok services ∧
      ∀ service ∈ services, Plan.LetsRollBack resolved.runtimeSettings f service
  all : ∀ ending, m = .closed ending → d.PlansRollback requested resolved f →
    (pipelinesOf v.journal).Perm
      ((d.candidates requested resolved.runtimeSettings).map RedBlack.rollbackPipeline)

/-- A rollback asks for no change of what is running. -/
theorem running?_of_rollback
    (reached : (d.rollback requested resolved).Reaches Fleet.respond ⟨f, []⟩ m v)
    (service : ServiceName) :
    v.state.infrastructure.running? service = f.infrastructure.running? service := by
  refine reached.state
    (fun g => g.infrastructure.running? service = f.infrastructure.running? service) ?_ rfl
  intro m v reached c asks same
  have unchanging : c.changed? = none := by
    rcases asks_of_rollback reached asks with reading | ⟨-, candidate, -, rfl⟩
    · cases c with
      | inspect => rfl
      | executionStatus => rfl
      | _ => exact reading.elim
    · rfl
  have spared := (v.state.affects service c).eq_of_ne (by rw [unchanging]; exact nofun)
  exact spared.trans same

/-- A rollback has no plan where some candidate lacks a second version. -/
theorem not_plansRollback {service : Service}
    (candidate : service ∈ d.candidates requested resolved.runtimeSettings)
    (few : (f.infrastructure.details service.name).versionCount < 2) :
    ¬d.PlansRollback requested resolved f := by
  intro plans
  obtain ⟨services, found, let_pass⟩ := plansRollback_iff.mp plans
  obtain ⟨asked, rolls⟩ := List.mem_filter.mp candidate
  rw [← Catalog.prioritized_eq found] at asked
  exact absurd ((let_pass service asked).enough rolls) (Nat.not_le.mpr few)

/-- A rollback that submits anything has a plan. -/
theorem pipelinesOf_of_rollback
    (reached : (d.rollback requested resolved).Reaches Fleet.respond ⟨f, []⟩ m v)
    (unplanned : ¬d.PlansRollback requested resolved f) : pipelinesOf v.journal = [] := by
  refine pipelinesOf_eq_nil fun c mem => ?_
  rcases asked_of_rollback reached mem with reading | ⟨plans, -⟩
  · cases c with
    | orchestrate => exact reading.elim
    | _ => rfl
  · exact absurd plans unplanned

/-- **A rollback is of all its candidates or of none**, and touches nothing but the engine: for
every catalog, request and configuration, for every fleet with whichever faults arranged, in every
interleaving of its units, and at every moment. -/
theorem rolls_back_all_or_none
    (reached : (d.rollback requested resolved).Reaches Fleet.respond ⟨f, []⟩ m v) :
    d.AllOrNone requested resolved f m v where
  calls c mem := (asked_of_rollback reached mem).imp_right And.right
  running service := running?_of_rollback reached service
  none := by
    rintro ⟨service, candidate, few⟩
    exact pipelinesOf_of_rollback reached (not_plansRollback candidate few)
  refused := pipelinesOf_of_rollback reached
  plans := plansRollback_iff
  all ending closed plans := by
    subst closed
    exact pipelines_of_runs (BatchOperation.runs_iff_reaches.mpr reached) plans

/-! ### A pipeline that is rejected, and one that is canceled -/

/-- A deployer of three services, the last of which the fleet needs to start. -/
def ofThree : Deployer :=
  { impatient with
    catalog := ⟨[{ name := "api" }, { name := "web" }, Service.bootstrap { name := "redis" }]⟩ }

/-- All three services are enabled. -/
def threeOn : ResolvedConfiguration :=
  ⟨bothOn.runtimeSettings.withService "redis" .on, ∅⟩

/-- A fleet with two versions of two of the services, the first of which the engine rejects. It
cancels the pipeline of the second. -/
def oneRejected : Fleet :=
  { twoAndTwo with
    engine := twoAndTwo.engine.rejectSubmissions "api" (.error "queue full") }

/-- The pipeline of the one candidate is rejected and that of the other is canceled, but both of
them have been submitted, and nothing for the third service. Where one candidate has only one
version nothing is submitted for the other. -/
theorem rolls_back_all_or_none_oneRejected :
    (∃ problems w, (ofThree.rollback [] threeOn).Runs Fleet.respond ⟨oneRejected, []⟩
        (.finished (.error (.aggregate .warning problems))) w ∧
      problems.problems.map (·.service) = [some "api", some "web"] ∧
      (pipelinesOf w.journal).Perm
        [RedBlack.rollbackPipeline { name := "api" },
          RedBlack.rollbackPipeline { name := "web" }]) ∧
    ∃ ending w, (ofTwo.rollback [] bothOn).Runs Fleet.respond ⟨twoAndOne, []⟩ ending w ∧
      pipelinesOf w.journal = [] := by
  constructor
  · have ran := (ofThree.rollback [] threeOn).runs_run Fleet.respond ⟨oneRejected, []⟩
    have plans : ofThree.PlansRollback [] threeOn oneRejected := ⟨_, _, rfl⟩
    have submitted := (rolls_back_all_or_none ran.reaches).all _ rfl plans
    exact ⟨_, _, ran, by decide +kernel, submitted⟩
  · have ran := (ofTwo.rollback [] bothOn).runs_run Fleet.respond ⟨twoAndOne, []⟩
    have few : ∃ service ∈ ofTwo.candidates [] bothOn.runtimeSettings,
        (twoAndOne.infrastructure.details service.name).versionCount < 2 :=
      ⟨{ name := "web" }, by decide +kernel, by decide +kernel⟩
    exact ⟨_, _, ran, (rolls_back_all_or_none ran.reaches).none few⟩

end Deployer

end FleetDeploy
