import FleetDeploy.Proofs.Plan.Planning
import FleetDeploy.Proofs.Plan.Rules

/-!
# The verdict on every service

These are the rules by which a deployment and a rollback are planned, and what comes of them.
A deployment passes over what is disabled and looks at everything else; there its rules leave the
decision to `FleetDeploy.classifyDeploy`, which would have decided the same for what is disabled. A
rollback looks at its candidates alone, and wants two versions of each of them. Both hold whatever
the inspector says; a fleet is one of the inspectors that there may be.

* `FleetDeploy.Plan.deploymentRules`, `FleetDeploy.Plan.rollbackRules` – the rules;
* `FleetDeploy.Plan.followed_deployEntry`, `FleetDeploy.Plan.followed_rollbackEntry` – they are
  followed;
* `FleetDeploy.Plan.plans_of_forDeploy`, `FleetDeploy.Plan.plans_of_forRollback` – what is planned,
  what is told of it, and who has been looked at;
* `FleetDeploy.Plan.error_of_forDeploy`, `FleetDeploy.Plan.error_of_forRollback` – why there is no
  plan for a fleet.
-/

namespace FleetDeploy

/-- **Whether a service may be rolled back**: it is enabled, the fleet does not need it to start,
and it is safe to update. -/
def RuntimeSettings.rollsBack (settings : RuntimeSettings) (service : Service) : Bool :=
  match settings.get? service.name with
  | some own => own.enabled && !service.requiredToBootstrap && own.safeToUpdate
  | none => false

/-- **A fleet as an inspector.** -/
def Fleet.inspector (f : Fleet) (service : Service) : Except DeployError RunningService :=
  match f.infrastructure.inspectionFailures.get? service.name with
  | some p => .error (.problem p)
  | none => .ok (f.infrastructure.details service.name)

/-- A fleet answers inspections by a function, whatever else has been inspected. -/
theorem Fleet.inspectsBy (f : Fleet) (settings : RuntimeSettings) :
    Handler.InspectsBy Fleet.respond settings f.inspector f.Inspected where
  answers service g inspected := by
    rw [inspector, ← inspected.inspectionFailures_eq, ← inspected.details_eq]
    rfl
  stays _ _ inspected := inspected.respond trivial

namespace Plan

variable {σ : Type} {h : Handler σ} {settings : RuntimeSettings} {states : σ → Prop}
  {inspector : Service → Except DeployError RunningService} {service : Service}

/-! ### Deployments -/

section Deployments

variable (settings inspector)

/-- **The entry of a service in a deployment.** -/
inductive EntersDeployment (service : Service) : PlanEntry → Prop
  | disabled {own : ServiceSettings} (configured : settings.get? service.name = some own)
      (off : own.enabled = false) :
      EntersDeployment service (.skipped service.name .disabled)
  | classified {own : ServiceSettings} {running : RunningService}
      (configured : settings.get? service.name = some own) (on : own.enabled = true)
      (snapshot : inspector service = .ok running) :
      EntersDeployment service (entryOf service own running (classifyDeploy service own running))

/-- **Why a service has no entry in a deployment.** -/
inductive RefusesDeployment (service : Service) : DeployError → Prop
  | unconfigured (missing : settings.get? service.name = none) :
      RefusesDeployment service (.missingSettings service.name)
  | uninspectable {own : ServiceSettings} {e : DeployError}
      (configured : settings.get? service.name = some own) (on : own.enabled = true)
      (fails : inspector service = .error e) :
      RefusesDeployment service e

/-- **The rules of a deployment**, in which the enabled services are inspected. -/
def deploymentRules : Rules where
  enters := EntersDeployment settings inspector
  refuses := RefusesDeployment settings inspector
  inspects service := settings.isEnabled service.name

/-- **A service is ready to be deployed** if it has settings and, where it is enabled, can be
inspected. -/
def Deployable (service : Service) : Prop :=
  ∃ own, settings.get? service.name = some own ∧
    (own.enabled = true → ∃ running, inspector service = .ok running)

variable {settings inspector}

theorem EntersDeployment.deployable {entry : PlanEntry}
    (enters : EntersDeployment settings inspector service entry) :
    Deployable settings inspector service := by
  cases enters with
  | @disabled own configured off => exact ⟨own, configured, fun on => by simp [off] at on⟩
  | @classified own running configured on snapshot =>
    exact ⟨own, configured, fun _ => ⟨running, snapshot⟩⟩

theorem RefusesDeployment.not_deployable {e : DeployError}
    (refuses : RefusesDeployment settings inspector service e) :
    ¬Deployable settings inspector service := by
  rintro ⟨own, configured, inspected⟩
  cases refuses with
  | unconfigured missing => simp [missing] at configured
  | uninspectable configured' on fails =>
    obtain rfl := Option.some.inj (configured.symm.trans configured')
    obtain ⟨running, snapshot⟩ := inspected on
    simp [fails] at snapshot

/-- The shortcut for what is disabled comes to the verdict that would be reached without it,
whatever is running. -/
theorem classifyDeploy_of_disabled {own : ServiceSettings} (off : own.enabled = false)
    (running : RunningService) : classifyDeploy service own running = .skip .disabled := by
  rw [classifyDeploy, off]
  rfl

/-- An entry tells of its classification. -/
theorem summary_entryOf (own : ServiceSettings) (running : RunningService) (c : Classification) :
    (entryOf service own running c).summary = ⟨service.name, c⟩ := by
  cases c <;> rfl

/-- **What a deployment tells of a service** is how it is classified, by any snapshot if it is
disabled and by its own if not. -/
def ToldOfDeployment (settings : RuntimeSettings)
    (inspector : Service → Except DeployError RunningService) (service : Service)
    (summary : PlanSummary) : Prop :=
  ∃ own, settings.get? service.name = some own ∧ ∀ running,
    (own.enabled = true → inspector service = .ok running) →
      summary = ⟨service.name, classifyDeploy service own running⟩

theorem EntersDeployment.told {entry : PlanEntry}
    (enters : EntersDeployment settings inspector service entry) :
    ToldOfDeployment settings inspector service entry.summary := by
  cases enters with
  | @disabled own configured off =>
    refine ⟨own, configured, fun running _ => ?_⟩
    rw [classifyDeploy_of_disabled off]
    rfl
  | @classified own running configured on snapshot =>
    refine ⟨own, configured, fun running' snapshot' => ?_⟩
    obtain rfl := Except.ok.inj (snapshot.symm.trans (snapshot' on))
    exact summary_entryOf own running _

/-- **The entries of a deployment** are made by its rules. -/
theorem followed_deployEntry (inspects : h.InspectsBy settings inspector states) :
    (deploymentRules settings inspector).Followed h settings states (deployEntry settings) := by
  intro service w start
  refine Rules.follows_of_settings start (fun missing => ?_) fun own configured => ?_
  · have passed_over : settings.isEnabled service.name = false := by
      rw [RuntimeSettings.isEnabled, missing]
    exact ⟨passed_over, .unconfigured missing⟩
  · have enabled : settings.isEnabled service.name = own.enabled := by
      rw [RuntimeSettings.isEnabled, configured]
    rcases on : own.enabled with _ | _
    · exact Rules.follows_of_passed_over start (enabled.trans on) rfl (.disabled configured on)
    · refine Rules.follows_of_inspects inspects start (enabled.trans on) (fun e fails => ?_)
        fun running w snapshot => ?_
      · exact .uninspectable configured on fails
      · exact ⟨.ok _, rfl, .classified configured on snapshot⟩

/-- **What a deployment plans**, for all services, settings and inspectors. Every service has its
entry, or the first one that is not ready ends the planning; its enabled services have been looked
at up to there, and nothing else has been asked for. What is told of a service is how it is
classified, and for one that is disabled this is so whatever is running. -/
theorem plans_of_forDeploy (inspects : h.InspectsBy settings inspector states)
    (services : List Service) {w : World σ} (start : states w.state) :
    ∃ result w' asked, (forDeploy services settings).run.run h w = (.finished result, w') ∧
      callsOf w'.trace = callsOf w.trace ++ asked ∧
      (deploymentRules settings inspector).Decides settings (Deployable settings inspector)
        (ToldOfDeployment settings inspector) services result asked := by
  obtain ⟨result, w', asked, made, calls, plans⟩ :=
    Rules.plans_of_plan (followed_deployEntry inspects) services start
  exact ⟨result, w', asked, made, calls, plans.decides EntersDeployment.deployable
    RefusesDeployment.not_deployable EntersDeployment.told⟩

end Deployments

/-- Settings of three services, the first of which is off. -/
def offOnOn : RuntimeSettings :=
  ((RuntimeSettings.withService {} "old" .off).withService "api" .on).withService "web" .on

/-- A fleet in which two of the services cannot be inspected, the one that is off among them. There
are two versions of the third. -/
def twoHidden : Fleet where
  infrastructure :=
    ((Infrastructure.setRunning {}
      (((RunningService.empty "api").withVersion 1 ["a"]).withVersion 2 ["b"])).failInspection "old"
        (.fatal "gone")).failInspection "web" (.warning "no route")

/-- A fleet in which two of the services are serving. The one that is off cannot be inspected here
either. -/
def twoServing : Fleet where
  infrastructure :=
    let api := ((RunningService.empty "api").withVersion 1 ["a"]).withLatestEnabled 1
    let web := ((RunningService.empty "web").withVersion 3 ["b"]).withLatestEnabled 3
    ((Infrastructure.setRunning {} api).setRunning web).failInspection "old" (.fatal "gone")

/-- The three services, of which the fleet needs one to start. -/
def oldWebApi : List Service :=
  [{ name := "old" }, { name := "web", requiredToBootstrap := true }, { name := "api" }]

/-- Where the services that are on can be seen there is a plan: the one that is off is skipped, the
one that the fleet needs to start is deployed by hand, and the other is rolled out. That a service
which is off is hidden does no harm, and where another one is hidden, too, neither does one without
settings that would come later: the service in between is the first that is not ready. -/
theorem plans_of_forDeploy_servingAndHidden :
    (∃ plan w', (forDeploy oldWebApi offOnOn).run.run Fleet.respond ⟨twoServing, []⟩ =
          (.finished (.ok plan), w') ∧
      plan.summary = [⟨"old", .skip .disabled⟩, ⟨"web", .dispatch .manual⟩,
        ⟨"api", .dispatch .stagedRollout⟩] ∧
      (deploymentRules offOnOn twoServing.inspector).Decides offOnOn
        (Deployable offOnOn twoServing.inspector) (ToldOfDeployment offOnOn twoServing.inspector)
        oldWebApi (.ok plan) [.inspect { name := "web", requiredToBootstrap := true } offOnOn,
          .inspect { name := "api" } offOnOn]) ∧
    ∃ w', (forDeploy [{ name := "old" }, { name := "api" }, { name := "web" }, { name := "new" }]
        offOnOn).run.run Fleet.respond ⟨twoHidden, []⟩ =
          (.finished (.error (.problem (.warning "no route"))), w') ∧
      (deploymentRules offOnOn twoHidden.inspector).Decides offOnOn
        (Deployable offOnOn twoHidden.inspector) (ToldOfDeployment offOnOn twoHidden.inspector)
        [{ name := "old" }, { name := "api" }, { name := "web" }, { name := "new" }]
        (.error (.problem (.warning "no route")))
        [.inspect { name := "api" } offOnOn, .inspect { name := "web" } offOnOn] := by
  have decides (f : Fleet) (services : List Service) {result : Except DeployError Plan}
      {w' : World Fleet} (ran : (forDeploy services offOnOn).run.run Fleet.respond ⟨f, []⟩ =
        (.finished result, w')) :
      (deploymentRules offOnOn f.inspector).Decides offOnOn (Deployable offOnOn f.inspector)
        (ToldOfDeployment offOnOn f.inspector) services result (callsOf w'.trace) := by
    obtain ⟨result', w'', asked, made, calls, decides⟩ :=
      plans_of_forDeploy (f.inspectsBy offOnOn) services (w := ⟨f, []⟩) (.refl f)
    obtain ⟨ended, rfl⟩ := Prod.mk.inj (made.symm.trans ran)
    obtain rfl := Ending.finished.inj ended
    rw [calls]
    exact decides
  constructor
  · have planned := decides twoServing oldWebApi rfl
    exact ⟨_, _, rfl, rfl, planned⟩
  · have refused := decides twoHidden
      [{ name := "old" }, { name := "api" }, { name := "web" }, { name := "new" }] rfl
    exact ⟨_, rfl, refused⟩

/-! ### Rollbacks -/

section Rollbacks

variable (settings inspector)

/-- **The entry of a service in a rollback**: it is skipped for the first reason that there is, or
it is a candidate and is rolled back with its snapshot. -/
inductive EntersRollback (service : Service) : PlanEntry → Prop
  | disabled {own : ServiceSettings} (configured : settings.get? service.name = some own)
      (off : own.enabled = false) :
      EntersRollback service (.skipped service.name .disabled)
  | requiredToBootstrap {own : ServiceSettings}
      (configured : settings.get? service.name = some own) (on : own.enabled = true)
      (required : service.requiredToBootstrap = true) :
      EntersRollback service (.skipped service.name .requiredToBootstrap)
  | notSafeToUpdate {own : ServiceSettings} (configured : settings.get? service.name = some own)
      (on : own.enabled = true) (dispensable : service.requiredToBootstrap = false)
      (risky : own.safeToUpdate = false) :
      EntersRollback service (.skipped service.name .notSafeToUpdate)
  | rolledBack {own : ServiceSettings} {running : RunningService}
      (configured : settings.get? service.name = some own)
      (candidate : settings.rollsBack service = true) (snapshot : inspector service = .ok running)
      (enough : 2 ≤ running.versionCount) :
      EntersRollback service (.dispatched ⟨service, own, .stagedRollback, running⟩)

/-- **Why a service has no entry in a rollback.** -/
inductive RefusesRollback (service : Service) : DeployError → Prop
  | unconfigured (missing : settings.get? service.name = none) :
      RefusesRollback service (.missingSettings service.name)
  | uninspectable {e : DeployError} (candidate : settings.rollsBack service = true)
      (fails : inspector service = .error e) :
      RefusesRollback service e
  | nothingToRollBack {running : RunningService} (candidate : settings.rollsBack service = true)
      (snapshot : inspector service = .ok running) (few : running.versionCount < 2) :
      RefusesRollback service (.precondition service.name
        ("has " ++ Text.natText running.versionCount ++
          " server group(s) - there is nothing to roll back to"))

/-- **The rules of a rollback**, in which the candidates are inspected. -/
def rollbackRules : Rules where
  enters := EntersRollback settings inspector
  refuses := RefusesRollback settings inspector
  inspects := settings.rollsBack

/-- **A service is ready for a rollback** if it has settings and, where it is a candidate, can be
inspected and has two versions. -/
structure Rollbackable (service : Service) : Prop where
  configured : (settings.get? service.name).isSome
  enough : settings.rollsBack service = true →
    ∃ running, inspector service = .ok running ∧ 2 ≤ running.versionCount

/-- **The work of rolling a service back.** -/
def RolledBack (service : Service) (item : WorkItem) : Prop :=
  ∃ own running, settings.get? service.name = some own ∧ inspector service = .ok running ∧
    item = ⟨service, own, .stagedRollback, running⟩

variable {settings inspector}

theorem rollsBack_eq {own : ServiceSettings} (configured : settings.get? service.name = some own) :
    settings.rollsBack service =
      (own.enabled && !service.requiredToBootstrap && own.safeToUpdate) := by
  rw [RuntimeSettings.rollsBack, configured]

/-- Precisely the candidates are dispatched. -/
theorem classifyRollback_eq {own : ServiceSettings}
    (configured : settings.get? service.name = some own) :
    (settings.rollsBack service = true ∧ classifyRollback service own = .dispatch .stagedRollback) ∨
      (settings.rollsBack service = false ∧
        ∃ reason, classifyRollback service own = .skip reason) := by
  rw [rollsBack_eq configured, classifyRollback]
  cases own.enabled with
  | false => exact Or.inr ⟨rfl, _, rfl⟩
  | true =>
    cases service.requiredToBootstrap with
    | true => exact Or.inr ⟨rfl, _, rfl⟩
    | false =>
      cases own.safeToUpdate with
      | false => exact Or.inr ⟨rfl, _, rfl⟩
      | true => exact Or.inl ⟨rfl, rfl⟩

/-- What is skipped has a reason, and it is the first one that there is. -/
theorem enters_of_skip {own : ServiceSettings} {reason : SkipReason}
    (configured : settings.get? service.name = some own)
    (skips : classifyRollback service own = .skip reason) :
    EntersRollback settings inspector service (.skipped service.name reason) := by
  rw [classifyRollback] at skips
  split at skips
  · next off =>
    obtain rfl := Classification.skip.inj skips
    exact .disabled configured (by simpa using off)
  · next on =>
    have on : own.enabled = true := by simpa using on
    split at skips
    · next required =>
      obtain rfl := Classification.skip.inj skips
      exact .requiredToBootstrap configured on required
    · next dispensable =>
      have dispensable : service.requiredToBootstrap = false := by simpa using dispensable
      split at skips
      · next risky =>
        obtain rfl := Classification.skip.inj skips
        exact .notSafeToUpdate configured on dispensable (by simpa using risky)
      · cases skips

/-- What is told of a service is how it is classified. -/
theorem EntersRollback.told {entry : PlanEntry}
    (enters : EntersRollback settings inspector service entry) :
    ∃ own, settings.get? service.name = some own ∧
      entry.summary = ⟨service.name, classifyRollback service own⟩ := by
  cases enters with
  | @disabled own configured off =>
    exact ⟨own, configured, by simp [PlanEntry.summary, classifyRollback, off]⟩
  | @requiredToBootstrap own configured on required =>
    exact ⟨own, configured, by simp [PlanEntry.summary, classifyRollback, on, required]⟩
  | @notSafeToUpdate own configured on dispensable risky =>
    exact ⟨own, configured, by simp [PlanEntry.summary, classifyRollback, on, dispensable, risky]⟩
  | @rolledBack own running configured candidate snapshot enough =>
    refine ⟨own, configured, ?_⟩
    rcases classifyRollback_eq configured with ⟨-, dispatched⟩ | ⟨none, -⟩
    · rw [dispatched]
      rfl
    · simp [candidate] at none

/-- A service that is skipped in a rollback is no candidate. -/
theorem EntersRollback.not_candidate {name : ServiceName} {reason : SkipReason}
    (enters : EntersRollback settings inspector service (.skipped name reason)) :
    settings.rollsBack service = false := by
  cases enters with
  | disabled configured off => simp [rollsBack_eq configured, off]
  | requiredToBootstrap configured on required => simp [rollsBack_eq configured, required]
  | notSafeToUpdate configured on dispensable risky => simp [rollsBack_eq configured, risky]

theorem EntersRollback.rollbackable {entry : PlanEntry}
    (enters : EntersRollback settings inspector service entry) :
    Rollbackable settings inspector service := by
  obtain ⟨own, configured, -⟩ := enters.told
  have some_settings : (settings.get? service.name).isSome := by rw [configured]; rfl
  refine ⟨some_settings, fun candidate => ?_⟩
  cases entry with
  | skipped => simp [enters.not_candidate] at candidate
  | dispatched item =>
    cases enters with
    | @rolledBack own running configured candidate snapshot enough =>
      exact ⟨running, snapshot, enough⟩

theorem RefusesRollback.not_rollbackable {e : DeployError}
    (refuses : RefusesRollback settings inspector service e) :
    ¬Rollbackable settings inspector service := by
  rintro ⟨configured, inspected⟩
  cases refuses with
  | unconfigured missing => simp [missing] at configured
  | uninspectable candidate fails =>
    obtain ⟨running, snapshot, -⟩ := inspected candidate
    simp [fails] at snapshot
  | nothingToRollBack candidate snapshot few =>
    obtain ⟨running, snapshot', enough⟩ := inspected candidate
    obtain rfl := Except.ok.inj (snapshot.symm.trans snapshot')
    exact absurd enough (Nat.not_le.mpr few)

/-- Whatever is not the inspector's own error is fatal. -/
theorem RefusesRollback.graded {e : DeployError}
    (refuses : RefusesRollback settings inspector service e) :
    inspector service = .error e ∨ e.severity = .fatal := by
  cases refuses with
  | unconfigured missing => exact Or.inr rfl
  | uninspectable candidate fails => exact Or.inl fails
  | nothingToRollBack candidate snapshot few => exact Or.inr rfl

/-- **The work of a rollback** is that of the candidates, in their order. -/
theorem rolledBack_of_enters {services : List Service} {entries : List PlanEntry}
    (entered : List.Forall₂ (EntersRollback settings inspector) services entries) :
    List.Forall₂ (RolledBack settings inspector) (services.filter settings.rollsBack)
      (entries.filterMap (·.workItem?)) := by
  induction entered with
  | nil => exact .nil
  | @cons service entry services entries enters _ ih =>
    cases entry with
    | skipped name reason =>
      rw [List.filter_cons_of_neg (by simp [enters.not_candidate])]
      exact ih
    | dispatched item =>
      cases enters with
      | @rolledBack own running configured candidate snapshot enough =>
        rw [List.filter_cons_of_pos candidate]
        exact .cons ⟨own, running, configured, snapshot, rfl⟩ ih

/-- **The entries of a rollback** are made by its rules. -/
theorem followed_rollbackEntry (inspects : h.InspectsBy settings inspector states) :
    (rollbackRules settings inspector).Followed h settings states (rollbackEntry settings) := by
  intro service w start
  refine Rules.follows_of_settings start (fun missing => ?_) fun own configured => ?_
  · have passed_over : settings.rollsBack service = false := by
      rw [RuntimeSettings.rollsBack, missing]
    exact ⟨passed_over, .unconfigured missing⟩
  · rcases classifyRollback_eq configured with ⟨candidate, dispatched⟩ | ⟨none, reason, skips⟩
    · rw [dispatched]
      refine Rules.follows_of_inspects inspects start candidate (fun e fails => ?_)
        fun running w snapshot => ?_
      · exact .uninspectable candidate fails
      · by_cases few : running.versionCount < 2
        · rw [if_pos few]
          exact ⟨.error _, rfl, .nothingToRollBack candidate snapshot few⟩
        · rw [if_neg few]
          exact ⟨.ok _, rfl, .rolledBack configured candidate snapshot (Nat.le_of_not_lt few)⟩
    · rw [skips]
      exact Rules.follows_of_passed_over start none rfl (enters_of_skip configured skips)

/-- **What a rollback plans**, for all services, settings and inspectors. Every service has its
entry, or the first one that is not ready ends the planning with its error, which is fatal if it is
not the inspector's; the candidates have been looked at up to there, and nothing else has been asked
for. What is told of a service is how it is classified, and there is work with a snapshot for each
of the candidates and for nothing else. -/
theorem plans_of_forRollback (inspects : h.InspectsBy settings inspector states)
    (services : List Service) {w : World σ} (start : states w.state) :
    ∃ result w' asked, (forRollback services settings).run.run h w = (.finished result, w') ∧
      callsOf w'.trace = callsOf w.trace ++ asked ∧
      (rollbackRules settings inspector).Decides settings (Rollbackable settings inspector)
        (fun service summary => ∃ own, settings.get? service.name = some own ∧
          summary = ⟨service.name, classifyRollback service own⟩) services result asked ∧
      (∀ plan, result = .ok plan → List.Forall₂ (RolledBack settings inspector)
        (services.filter settings.rollsBack) plan.workItems) ∧
      ∀ e, result = .error e →
        (∃ service ∈ services, inspector service = .error e) ∨ e.severity = .fatal := by
  obtain ⟨result, w', asked, made, calls, plans⟩ :=
    Rules.plans_of_plan (followed_rollbackEntry inspects) services start
  refine ⟨result, w', asked, made, calls, plans.decides EntersRollback.rollbackable
    RefusesRollback.not_rollbackable EntersRollback.told, ?_, ?_⟩
  · rintro plan rfl
    exact rolledBack_of_enters plans.entered
  · rintro e rfl
    obtain ⟨offender, mem, refuses⟩ := plans.refused_by
    exact refuses.graded.imp_left fun fails => ⟨offender, mem, fails⟩

end Rollbacks

/-- A service that is off need not be seen, and one with two versions is a candidate. The next
candidate has never been deployed, and it does not matter that the last one cannot be seen. -/
theorem plans_of_forRollback_twoHidden :
    ∃ w', (forRollback [{ name := "old" }, { name := "api" }, { name := "db" }, { name := "web" }]
        (offOnOn.withService "db" .on)).run.run Fleet.respond ⟨twoHidden, []⟩ =
          (.finished (.error (nothingToRollBack { name := "db" } 0)), w') ∧
      (rollbackRules (offOnOn.withService "db" .on) twoHidden.inspector).Plans
        (offOnOn.withService "db" .on)
        [{ name := "old" }, { name := "api" }, { name := "db" }, { name := "web" }]
        (.error (nothingToRollBack { name := "db" } 0))
        [.inspect { name := "api" } (offOnOn.withService "db" .on),
          .inspect { name := "db" } (offOnOn.withService "db" .on)] := by
  obtain ⟨result, w', asked, made, calls, decides, -⟩ :=
    plans_of_forRollback (twoHidden.inspectsBy (offOnOn.withService "db" .on))
      [{ name := "old" }, { name := "api" }, { name := "db" }, { name := "web" }]
      (w := ⟨twoHidden, []⟩) (.refl twoHidden)
  obtain ⟨ended, rfl⟩ := Prod.mk.inj made
  obtain rfl := Ending.finished.inj ended
  obtain rfl := calls
  exact ⟨_, rfl, decides.plans⟩

/-! ### Fleets -/

section Fleets

variable {services : List Service} {f : Fleet} {w w' : World Fleet} {e : DeployError}

theorem offence_of_inspector (fails : f.inspector service = .error e) :
    Offence settings f service e := by
  rw [Fleet.inspector] at fails
  split at fails
  · next arranged =>
    obtain rfl := Except.error.inj fails
    exact .uninspectable arranged
  · cases fails

/-- A fleet answers with its server groups, unless a failure is arranged. -/
theorem inspector_eq_ok {running : RunningService} : f.inspector service = .ok running ↔
    f.infrastructure.inspectionFailures.get? service.name = none ∧
      f.infrastructure.details service.name = running := by
  rw [Fleet.inspector]
  split
  · next fails => simp [fails]
  · next inspected => simp [inspected]

theorem RefusesDeployment.offence (refuses : RefusesDeployment settings f.inspector service e) :
    Offence settings f service e := by
  cases refuses with
  | unconfigured missing => exact .unconfigured missing
  | uninspectable configured on fails => exact offence_of_inspector fails

theorem RefusesRollback.offence (refuses : RefusesRollback settings f.inspector service e) :
    Offence settings f service e := by
  cases refuses with
  | unconfigured missing => exact .unconfigured missing
  | uninspectable candidate fails => exact offence_of_inspector fails
  | nothingToRollBack candidate snapshot few =>
    obtain ⟨-, rfl⟩ := inspector_eq_ok.mp snapshot
    exact .nothingToRollBack few

/-- **A deployment cannot be planned** only because of one of its services. -/
theorem error_of_forDeploy (so_far : f.Inspected w.state)
    (failed : (forDeploy services settings).run.run Fleet.respond w =
      (.finished (.error e), w')) : ∃ service ∈ services, Offence settings f service e := by
  obtain ⟨asked, plans⟩ :=
    Rules.plans_of_run (followed_deployEntry (f.inspectsBy settings)) so_far failed
  obtain ⟨offender, mem, refuses⟩ := plans.refused_by
  exact ⟨offender, mem, refuses.offence⟩

/-- **A rollback cannot be planned** only because of one of its services. -/
theorem error_of_forRollback (so_far : f.Inspected w.state)
    (failed : (forRollback services settings).run.run Fleet.respond w =
      (.finished (.error e), w')) : ∃ service ∈ services, Offence settings f service e := by
  obtain ⟨asked, plans⟩ :=
    Rules.plans_of_run (followed_rollbackEntry (f.inspectsBy settings)) so_far failed
  obtain ⟨offender, mem, refuses⟩ := plans.refused_by
  exact ⟨offender, mem, refuses.offence⟩

end Fleets

end Plan

end FleetDeploy
