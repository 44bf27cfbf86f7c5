import FleetDeploy.Plan.Planning
import FleetDeploy.Proofs.Program.Run
import Mathlib.Data.List.Forall2

/-!
# Planning by rules

A plan is made service by service. For each of them there are rules that say which entry it gets,
for which error there is none, and whether it has to be inspected for that; the rules are those of a
deployment or of a rollback, and what is made of them for a list of services is the same for both.
Either every service gets its entry, or the first one that gets none ends the planning with its
error. In any case the services that have been looked at are those up to that point, each of them
once and in order.

* `FleetDeploy.Plan.ViewsAgree` – what a plan tells in its summary, as work and as a number;
* `FleetDeploy.Handler.InspectsBy` – collaborators for which an inspection is a function of the
  service;
* `FleetDeploy.Plan.Rules` – the rules for one service, `FleetDeploy.Plan.Rules.Plans` – what comes
  of them for a list of services, and `FleetDeploy.Plan.Rules.Decides` – what is told of it;
* `FleetDeploy.Plan.Rules.Followed` – entries that are made by rules;
* `FleetDeploy.Plan.Rules.plans_of_plan` – a plan that is made of such entries is planned by the
  rules.
-/

namespace FleetDeploy

variable {σ : Type} {h : Handler σ} {settings : RuntimeSettings} {states : σ → Prop}

/-! ### Views of a plan -/

/-- Whether there is work for a service. -/
def PlanSummary.isDispatch (s : PlanSummary) : Bool :=
  match s.classification with
  | .skip _ => false
  | .dispatch _ => true

namespace Plan

/-- **The views of a plan agree**: its summary tells of each entry at the place of the entry, its
work is that of the entries that are not skipped, in their order, and its number of dispatched
services is the amount of work. -/
structure ViewsAgree (plan : Plan) : Prop where
  skipped : ∀ (i : Nat) service reason, plan.summary[i]? = some ⟨service, .skip reason⟩ ↔
    plan.entries[i]? = some (.skipped service reason)
  dispatched : ∀ (i : Nat) service mode, plan.summary[i]? = some ⟨service, .dispatch mode⟩ ↔
    ∃ item, plan.entries[i]? = some (.dispatched item) ∧ item.service.name = service ∧
      item.mode = mode
  work : plan.workItems.map .dispatched = plan.entries.filter fun e => e.workItem?.isSome
  work_summary : (plan.workItems.map fun item => ⟨item.service.name, .dispatch item.mode⟩) =
    plan.summary.filter (·.isDispatch)
  count : plan.dispatchCount = plan.workItems.length

theorem viewsAgree (plan : Plan) : plan.ViewsAgree where
  skipped i service reason := by
    rw [summary, List.getElem?_map, Option.map_eq_some_iff]
    constructor
    · rintro ⟨entry, at_i, told⟩
      cases entry with
      | skipped service' reason' => cases told; exact at_i
      | dispatched item => cases told
    · exact fun at_i => ⟨_, at_i, rfl⟩
  dispatched i service mode := by
    rw [summary, List.getElem?_map, Option.map_eq_some_iff]
    constructor
    · rintro ⟨entry, at_i, told⟩
      cases entry with
      | skipped service' reason => cases told
      | dispatched item => cases told; exact ⟨item, at_i, rfl, rfl⟩
    · rintro ⟨item, at_i, rfl, rfl⟩
      exact ⟨_, at_i, rfl⟩
  work := by
    obtain ⟨entries⟩ := plan
    induction entries with
    | nil => rfl
    | cons entry rest ih =>
      cases entry with
      | skipped service reason => exact ih
      | dispatched item => exact congrArg (PlanEntry.dispatched item :: ·) ih
  work_summary := by
    obtain ⟨entries⟩ := plan
    induction entries with
    | nil => rfl
    | cons entry rest ih =>
      cases entry with
      | skipped service reason => exact ih
      | dispatched item => exact congrArg (PlanEntry.summary (.dispatched item) :: ·) ih
  count := by
    rw [dispatchCount, workItems, List.length_filterMap_eq_countP]

end Plan

/-! ### Inspectors -/

/-- **Collaborators that inspect by a function**: in these states they answer for a service what the
function says, and an inspection does not lead out of them. -/
structure Handler.InspectsBy (h : Handler σ) (settings : RuntimeSettings)
    (inspector : Service → Except DeployError RunningService) (states : σ → Prop) : Prop where
  answers : ∀ service s, states s →
    (h (.inspect service settings) s).1 = .answered (inspector service)
  stays : ∀ service s, states s → states (h (.inspect service settings) s).2

namespace Plan

/-! ### Rules -/

/-- **Rules for the entries of a plan.** -/
structure Rules where
  /-- Which entry a service gets. -/
  enters : Service → PlanEntry → Prop
  /-- For which error a service gets no entry. -/
  refuses : Service → DeployError → Prop
  /-- Whether a service is inspected. -/
  inspects : Service → Bool

namespace Rules

variable (rules : Rules)

/-- What the rules say of one service. -/
def Judges (service : Service) : Except DeployError PlanEntry → Prop
  | .ok entry => rules.enters service entry
  | .error e => rules.refuses service e

/-- The inspections of some services, in their order. -/
def inspections (settings : RuntimeSettings) (services : List Service) : List Call :=
  (services.filter rules.inspects).map (.inspect · settings)

theorem inspections_append (services more : List Service) :
    rules.inspections settings (services ++ more) =
      rules.inspections settings services ++ rules.inspections settings more := by
  rw [inspections, List.filter_append, List.map_append]
  rfl

theorem inspections_of_inspects {service : Service} (looked_at : rules.inspects service = true) :
    rules.inspections settings [service] = [.inspect service settings] := by
  rw [inspections, List.filter_singleton, looked_at]
  rfl

theorem inspections_of_passed_over {service : Service}
    (passed_over : rules.inspects service = false) : rules.inspections settings [service] = [] := by
  rw [inspections, List.filter_singleton, passed_over]
  rfl

/-- **Planning by rules**: either every service gets an entry, or the first one that does not ends
the planning. Inspected are the services up to that one. -/
inductive Plans (settings : RuntimeSettings) :
    List Service → Except DeployError (List PlanEntry) → List Call → Prop
  | planned {services : List Service} {entries : List PlanEntry}
      (entered : List.Forall₂ rules.enters services entries) :
      Plans settings services (.ok entries) (rules.inspections settings services)
  | refused (before after : List Service) {offender : Service} {entries : List PlanEntry}
      {e : DeployError} (entered : List.Forall₂ rules.enters before entries)
      (refuses : rules.refuses offender e) :
      Plans settings (before ++ offender :: after) (.error e)
        (rules.inspections settings (before ++ [offender]))

variable {rules}

/-- One more service in front. -/
theorem Plans.cons {service : Service} {entry : PlanEntry} {services : List Service}
    {result : Except DeployError (List PlanEntry)} {asked : List Call}
    (enters : rules.enters service entry) (others : rules.Plans settings services result asked) :
    rules.Plans settings (service :: services) (result.map (entry :: ·))
      (rules.inspections settings [service] ++ asked) := by
  cases others with
  | planned entered =>
    rw [← inspections_append]
    exact .planned (.cons enters entered)
  | refused before after entered refuses =>
    rw [← inspections_append]
    exact .refused (service :: before) after (.cons enters entered) refuses

/-- The entries of a plan are those of its services. -/
theorem Plans.entered {services : List Service} {entries : List PlanEntry} {asked : List Call}
    (plans : rules.Plans settings services (.ok entries) asked) :
    List.Forall₂ rules.enters services entries := by
  cases plans with
  | planned entered => exact entered

/-- There is no plan only because of one of the services. -/
theorem Plans.refused_by {services : List Service} {e : DeployError} {asked : List Call}
    (plans : rules.Plans settings services (.error e) asked) :
    ∃ offender ∈ services, rules.refuses offender e := by
  cases plans with
  | refused before after entered refuses => exact ⟨_, by simp, refuses⟩

/-- There is a plan if every service is ready, where being ready is what the rules ask for. -/
theorem Plans.ok_iff {ready : Service → Prop} {services : List Service}
    {result : Except DeployError (List PlanEntry)} {asked : List Call}
    (plans : rules.Plans settings services result asked)
    (enters : ∀ {service entry}, rules.enters service entry → ready service)
    (refuses : ∀ {service e}, rules.refuses service e → ¬ready service) :
    (∃ entries, result = .ok entries) ↔ ∀ service ∈ services, ready service := by
  cases plans with
  | @planned _ entries entered =>
    refine iff_of_true ⟨entries, rfl⟩ fun service mem => ?_
    obtain ⟨i, at_i, rfl⟩ := List.getElem_of_mem mem
    exact enters (entered.get at_i (entered.length_eq ▸ at_i))
  | refused before after _ refused =>
    refine iff_of_false (fun ⟨entries, same⟩ => nomatch same) fun all_ready => ?_
    exact refuses refused (all_ready _ (by simp))

/-! ### What is told of a plan -/

/-- **A plan, or the lack of one, is decided by rules**, where `ready` is what they want of a
service and `tells` what the summary says of it. -/
structure Decides (rules : Rules) (settings : RuntimeSettings) (ready : Service → Prop)
    (tells : Service → PlanSummary → Prop) (services : List Service)
    (result : Except DeployError Plan) (asked : List Call) : Prop where
  plans : rules.Plans settings services (result.map (·.entries)) asked
  ready : (∃ plan, result = .ok plan) ↔ ∀ service ∈ services, ready service
  told : ∀ plan, result = .ok plan → List.Forall₂ tells services plan.summary
  views : ∀ plan, result = .ok plan → plan.ViewsAgree

/-- What is planned by rules is decided by them. -/
theorem Plans.decides {ready : Service → Prop} {tells : Service → PlanSummary → Prop}
    {services : List Service} {result : Except DeployError Plan} {asked : List Call}
    (plans : rules.Plans settings services (result.map (·.entries)) asked)
    (enters : ∀ {service entry}, rules.enters service entry → ready service)
    (refuses : ∀ {service e}, rules.refuses service e → ¬ready service)
    (tell : ∀ {service entry}, rules.enters service entry → tells service entry.summary) :
    rules.Decides settings ready tells services result asked where
  plans := plans
  ready := by
    rw [← plans.ok_iff enters refuses]
    cases result with
    | error e => exact iff_of_false nofun nofun
    | ok plan => exact iff_of_true ⟨plan, rfl⟩ ⟨plan.entries, rfl⟩
  told plan made := by
    subst made
    exact List.forall₂_map_right_iff.mpr (plans.entered.imp fun _ _ => tell)
  views plan _ := plan.viewsAgree

/-! ### Runs -/

/-- **The rules are followed** for one service, by what is run from here: what comes of it is what
they say, and nothing is asked for but the inspection that they ask for. -/
def Follows (rules : Rules) (h : Handler σ) (settings : RuntimeSettings) (states : σ → Prop)
    (service : Service) (p : Procedure PlanEntry) (w : World σ) : Prop :=
  ∃ result w', p.run.run h w = (.finished result, w') ∧ states w'.state ∧
    callsOf w'.trace = callsOf w.trace ++ rules.inspections settings [service] ∧
    rules.Judges service result

/-- **Entries are made by the rules**, in these states. -/
def Followed (rules : Rules) (h : Handler σ) (settings : RuntimeSettings) (states : σ → Prop)
    (entry : Service → Procedure PlanEntry) : Prop :=
  ∀ service (w : World σ), states w.state →
    rules.Follows h settings states service (entry service) w

section Follows

variable {service : Service} {w : World σ}

/-- A service that is not inspected is judged without asking. -/
theorem follows_of_passed_over (start : states w.state)
    (passed_over : rules.inspects service = false) {p : Procedure PlanEntry}
    {result : Except DeployError PlanEntry} (made : p.run.run h w = (.finished result, w))
    (judged : rules.Judges service result) : rules.Follows h settings states service p w := by
  refine ⟨result, w, made, start, ?_, judged⟩
  rw [rules.inspections_of_passed_over passed_over, List.append_nil]

/-- A service that is inspected is refused if that fails, and judged by its snapshot otherwise. -/
theorem follows_of_inspects {inspector : Service → Except DeployError RunningService}
    (inspects : h.InspectsBy settings inspector states) (start : states w.state)
    (looked_at : rules.inspects service = true) {rest : RunningService → Procedure PlanEntry}
    (refuses : ∀ e, inspector service = .error e → rules.refuses service e)
    (judged : ∀ running w, inspector service = .ok running →
      ∃ result, (rest running).run.run h w = (.finished result, w) ∧ rules.Judges service result) :
    rules.Follows h settings states service
      (do let running ← Procedure.ask (.inspect service settings); rest running) w := by
  have replied : h (.inspect service settings) w.state =
      (.answered (inspector service), (h (.inspect service settings) w.state).2) :=
    Prod.ext (inspects.answers service w.state start) rfl
  have seen := Procedure.run_ask (w := w) replied
  have start' := inspects.stays service w.state start
  rw [Follows, rules.inspections_of_inspects looked_at]
  rcases snapshot : inspector service with e | running
  · rw [snapshot] at seen
    refine ⟨.error e, _, Procedure.run_bind_of_error seen, start', ?_, refuses e snapshot⟩
    simp [World.trace]
  · rw [snapshot] at seen
    obtain ⟨result, made, judged⟩ := judged running _ snapshot
    refine ⟨result, _, (Procedure.run_bind_of_ok seen).trans made, start', ?_, judged⟩
    simp [World.trace]

/-- A service without settings is refused, and is not looked at. -/
theorem follows_of_settings (start : states w.state) {rest : ServiceSettings → Procedure PlanEntry}
    (unconfigured : settings.get? service.name = none →
      rules.inspects service = false ∧ rules.refuses service (.missingSettings service.name))
    (configured : ∀ own, settings.get? service.name = some own →
      rules.Follows h settings states service (rest own) w) :
    rules.Follows h settings states service
      (do let own ← Procedure.ofExcept (settingsFor settings service); rest own) w := by
  rcases found : settings.get? service.name with _ | own
  · obtain ⟨passed_over, refuses⟩ := unconfigured found
    have missing : settingsFor settings service = .error (.missingSettings service.name) := by
      rw [settingsFor, found]
    rw [missing]
    have failed := Procedure.run_ofExcept (h := h)
      (.error (.missingSettings service.name) : Except DeployError ServiceSettings) w
    exact follows_of_passed_over start passed_over (Procedure.run_bind_of_error failed) refuses
  · have there : settingsFor settings service = .ok own := by rw [settingsFor, found]
    rw [Follows, there, Procedure.run_bind_of_ok (Procedure.run_ofExcept _ w)]
    exact configured own found

end Follows

/-- **Entries that are made by the rules** make up what the rules plan. -/
theorem plans_of_entriesBy {entry : Service → Procedure PlanEntry}
    (followed : rules.Followed h settings states entry) (services : List Service) {w : World σ}
    (start : states w.state) :
    ∃ result w' asked, (entriesBy entry services).run.run h w = (.finished result, w') ∧
      states w'.state ∧ callsOf w'.trace = callsOf w.trace ++ asked ∧
      rules.Plans settings services result asked := by
  induction services generalizing w with
  | nil => exact ⟨.ok [], w, [], rfl, start, (List.append_nil _).symm, .planned .nil⟩
  | cons service rest ih =>
    obtain ⟨result, w₁, made, start₁, calls₁, judged⟩ := followed service w start
    cases result with
    | error e =>
      refine ⟨.error e, w₁, _, ?_, start₁, calls₁, .refused [] rest .nil judged⟩
      exact Procedure.run_bind_of_error made
    | ok first =>
      obtain ⟨result, w₂, asked, later, start₂, calls₂, plans⟩ := ih start₁
      refine ⟨result.map (first :: ·), w₂, _, ?_, start₂, ?_, .cons judged plans⟩
      · rw [entriesBy, Procedure.run_bind_of_ok made]
        cases result with
        | error e => exact Procedure.run_bind_of_error later
        | ok others => exact Procedure.run_bind_of_ok later
      · rw [calls₂, calls₁, List.append_assoc]

/-- **A plan that is made of such entries** is planned by the rules. -/
theorem plans_of_plan {entry : Service → Procedure PlanEntry}
    (followed : rules.Followed h settings states entry) (services : List Service) {w : World σ}
    (start : states w.state) :
    ∃ (result : Except DeployError Plan) (w' : World σ) (asked : List Call),
      (do let entries ← entriesBy entry services; pure (⟨entries⟩ : Plan) :
        Procedure Plan).run.run h w = (.finished result, w') ∧
      callsOf w'.trace = callsOf w.trace ++ asked ∧
      rules.Plans settings services (result.map (·.entries)) asked := by
  obtain ⟨result, w', asked, made, -, calls, plans⟩ := plans_of_entriesBy followed services start
  cases result with
  | error e => exact ⟨.error e, w', asked, Procedure.run_bind_of_error made, calls, plans⟩
  | ok entries => exact ⟨.ok ⟨entries⟩, w', asked, Procedure.run_bind_of_ok made, calls, plans⟩

/-- **A plan that has been made of such entries** has been planned by the rules. -/
theorem plans_of_run {entry : Service → Procedure PlanEntry}
    (followed : rules.Followed h settings states entry) {services : List Service} {w w' : World σ}
    (start : states w.state) {result : Except DeployError Plan}
    (ran : (do let entries ← entriesBy entry services; pure (⟨entries⟩ : Plan) :
      Procedure Plan).run.run h w = (.finished result, w')) :
    ∃ asked, rules.Plans settings services (result.map (·.entries)) asked := by
  obtain ⟨result', w₁, asked, made, -, plans⟩ := plans_of_plan followed services start
  obtain ⟨⟨⟩, -⟩ := Prod.mk.inj (made.symm.trans ran)
  exact ⟨asked, plans⟩

end Rules

end Plan

end FleetDeploy
