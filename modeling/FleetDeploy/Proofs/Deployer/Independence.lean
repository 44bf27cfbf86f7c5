import FleetDeploy.Proofs.Batch.Scheduling
import FleetDeploy.Proofs.Deployer.Events
import FleetDeploy.Proofs.Deployer.Running
import FleetDeploy.Proofs.Fleet.Usage
import FleetDeploy.Proofs.Reap.Deletions

/-!
# Deployments in fleets that are in use differently

A deployment reaps at its end, and reaping depends on what is in use. Nothing else does: nothing
that was done before can have seen it, and nothing comes after. So two deployments by one schedule,
in fleets that are in use differently, follow one plan with one outcome up to the moment at which
their batch is judged, and if it is too bad they fail there with one error. If it is not, both
succeed, whatever reaping meets with, and only the reports of the passes, what the passes tell and
the versions that they delete may differ.

* `FleetDeploy.World.DeletesNone`, `FleetDeploy.Reap.pass_of_unavailable` – a pass that cannot learn
  what is in use;
* `FleetDeploy.Deployer.Reaped` – what reaping does to a world;
* `FleetDeploy.Deployer.SameButReaping` – two deployments that differ in their reaping alone;
* `FleetDeploy.Deployer.no_deletion_of_unavailable` – where it cannot be learned what is in use,
  nothing is deleted;
* `FleetDeploy.Deployer.independent_of_usage` – both for every deployment.
-/

namespace FleetDeploy

/-! ### Stretches without deletions -/

section Undeleted

variable {σ : Type} {u v w : World σ}

/-- **Nothing is deleted** between two moments. -/
def World.DeletesNone (v w : World σ) : Prop :=
  ∃ steps, w.journal = steps ++ v.journal ∧ ∀ c ∈ callsOf steps, ¬c.IsDeletion

theorem World.DeletesNone.refl (v : World σ) : v.DeletesNone v := ⟨[], rfl, by simp⟩

theorem World.DeletesNone.trans (first : u.DeletesNone v) (second : v.DeletesNone w) :
    u.DeletesNone w := by
  obtain ⟨steps, journal, none_first⟩ := first
  obtain ⟨more, journal', none_second⟩ := second
  refine ⟨more ++ steps, by rw [journal', journal, List.append_assoc], fun c mem => ?_⟩
  rw [callsOf_append, List.mem_append] at mem
  exact mem.elim (none_second c) (none_first c)

theorem World.DeletesNone.call {c : Call} {reply : Reply c} (other : ¬c.IsDeletion) (s : σ) :
    v.DeletesNone ⟨s, .called c reply :: v.journal⟩ :=
  ⟨[.called c reply], rfl, by simpa using other⟩

end Undeleted

/-! ### Passes -/

namespace Reap

variable {retention : RetentionPolicy} {source : UsageSource} {service : Service}
  {settings : RuntimeSettings} {own : ServiceSettings} {running : RunningService}
  {w w' : World Fleet} {ending : Ending (Except DeployError ReapReport)}

/-- Sweeping asks for nothing but what is asked for the sake of reaping. -/
theorem sweep_asksOnly :
    (sweep retention source service own running).AsksOnly Call.ReapingAlone := by
  rw [sweep]
  split
  · exact .pure _
  · rw [source.query_eq]
    refine .bind (.bind (.ask ?_) fun _ => .pure _) fun usage => ?_
    · cases source <;> trivial
    · refine (deleteAll_asksOnly _ _ _ _).mono ?_
      rintro _ ⟨version, rfl⟩
      trivial

/-- Looking at a service in a fleet in memory. -/
theorem run_inspect (service : Service) (settings : RuntimeSettings) (w : World Fleet) :
    ∃ answer s,
      (Procedure.ask (.inspect service settings)).run.run Fleet.respond w =
        (.finished answer,
          ⟨s, .called (.inspect service settings) (.answered answer) :: w.journal⟩) ∧
      s.withoutReaping = w.state.withoutReaping.inspecting [service.name] ∧
      s.engine = w.state.engine :=
  ⟨_, _, Procedure.run_ask rfl, rfl, rfl⟩

/-- **A pass inspects its service**, and changes nothing besides that reaping leaves alone. -/
theorem withoutReaping_of_pass (configured : settings.get? service.name = some own)
    (ran : (pass retention source service settings).run.run Fleet.respond w = (ending, w')) :
    w'.state.withoutReaping = w.state.withoutReaping.inspecting [service.name] := by
  obtain ⟨answer, s, asked, inspected, -⟩ := run_inspect service settings w
  rw [pass_of_configured configured] at ran
  cases answer with
  | error e =>
    rw [Procedure.run_bind_of_error asked] at ran
    obtain ⟨-, rfl⟩ := Prod.mk.inj ran
    exact inspected
  | ok running =>
    rw [Procedure.run_bind_of_ok asked] at ran
    exact Program.AsksOnly.state sweep_asksOnly
      (fun f => f.withoutReaping = w.state.withoutReaping.inspecting [service.name])
      (fun c f alone before => (Fleet.withoutReaping_respond alone f).trans before) ran inspected

/-- Where it cannot be learned what is in use, nobody is told. -/
theorem run_query_of_unavailable (source : UsageSource)
    (unavailable : w.state.engine.usageUnavailable = true) :
    ∃ e, source.query.run.run Fleet.respond w =
      (.finished (.error e),
        ⟨w.state, .called source.call (.answered (.error e)) :: w.journal⟩) := by
  have refused : ∃ e, Fleet.respond source.call w.state = (.answered (.error e), w.state) := by
    cases source with
    | activeExecutions =>
      exact ⟨_, by simp only [UsageSource.call, Fleet.respond, Engine.activeExecutions,
        unavailable, if_true]; rfl⟩
    | bakes =>
      exact ⟨_, by simp only [UsageSource.call, Fleet.respond, Engine.bakeStatuses,
        unavailable, if_true]; rfl⟩
  obtain ⟨e, refused⟩ := refused
  exact ⟨e, by rw [source.query_eq, Procedure.run_bind_of_error (Procedure.run_ask refused)]⟩

/-- Sweeping deletes nothing where it cannot be learned what is in use. -/
theorem sweep_of_unavailable (unavailable : w.state.engine.usageUnavailable = true)
    (ran : (sweep retention source service own running).run.run Fleet.respond w = (ending, w')) :
    w.DeletesNone w' ∧ ∀ report, ending = .finished (.ok report) → report.deleted = [] := by
  rw [sweep] at ran
  split at ran
  · obtain ⟨rfl, rfl⟩ := Prod.mk.inj ran
    refine ⟨.refl w, ?_⟩
    rintro report ⟨⟩
    rfl
  · obtain ⟨e, refused⟩ := run_query_of_unavailable source unavailable
    rw [Procedure.run_bind_of_error refused] at ran
    obtain ⟨rfl, rfl⟩ := Prod.mk.inj ran
    refine ⟨.call ?_ w.state, by simp⟩
    cases source <;> simp [Call.IsDeletion, Call.deleted?, UsageSource.call]

/-- **Where it cannot be learned what is in use**, a pass deletes nothing. -/
theorem pass_of_unavailable (unavailable : w.state.engine.usageUnavailable = true)
    (ran : (pass retention source service settings).run.run Fleet.respond w = (ending, w')) :
    w.DeletesNone w' ∧ ∀ report, ending = .finished (.ok report) → report.deleted = [] := by
  rcases configured : settings.get? service.name with _ | own
  · rw [pass, configured] at ran
    obtain ⟨rfl, rfl⟩ := Prod.mk.inj ran
    exact ⟨.refl w, by simp⟩
  obtain ⟨answer, s, asked, -, engine⟩ := run_inspect service settings w
  have looked : w.DeletesNone
      ⟨s, .called (.inspect service settings) (.answered answer) :: w.journal⟩ :=
    .call (by simp [Call.IsDeletion, Call.deleted?]) s
  rw [pass_of_configured configured] at ran
  cases answer with
  | error e =>
    rw [Procedure.run_bind_of_error asked] at ran
    obtain ⟨rfl, rfl⟩ := Prod.mk.inj ran
    exact ⟨looked, by simp⟩
  | ok running =>
    rw [Procedure.run_bind_of_ok asked] at ran
    obtain ⟨deletes_none, lists_none⟩ :=
      sweep_of_unavailable (by rw [engine]; exact unavailable) ran
    exact ⟨looked.trans deletes_none, lists_none⟩

end Reap

/-! ### Reaping -/

namespace Deployer

variable {d : Deployer} {requested : List ServiceName} {resolved : ResolvedConfiguration}
  {settings : RuntimeSettings} {kinds : List (ServiceKind × UsageSource)} {f g : Fleet}
  {v v' w w' : World Fleet}

/-- A service that is enabled is configured. -/
theorem configured_of_isEnabled {service : ServiceName}
    (enabled : settings.isEnabled service = true) : ∃ own, settings.get? service = some own := by
  rw [RuntimeSettings.isEnabled] at enabled
  split at enabled
  · next own configured => exact ⟨own, configured⟩
  · cases enabled

/-- Reaping for one kind is a pass over a service that is configured, or nothing. -/
theorem pass_of_reapFirst {kind : ServiceKind} {source : UsageSource} {reports : List ReapReport}
    (ran : (d.reapFirst settings kind source).run.run Fleet.respond v =
      (.finished (.ok reports), w)) :
    (d.reapedNames settings [(kind, source)] = [] ∧ reports = [] ∧ w = v) ∨
      ∃ service own r, d.reapedNames settings [(kind, source)] = [service.name] ∧
        settings.get? service.name = some own ∧
        (Reap.pass d.config.retention source service settings).run.run Fleet.respond v =
          (.finished r, w) ∧
        ∀ report ∈ reports, r = .ok report := by
  rw [reapFirst] at ran
  split at ran
  · next none_enabled =>
    obtain ⟨⟨⟩, rfl⟩ := Prod.mk.inj ran
    refine Or.inl ⟨?_, rfl, rfl⟩
    rw [reapedNames_singleton, reaped?, none_enabled]
    rfl
  · next service first =>
    obtain ⟨own, configured⟩ := configured_of_isEnabled (Option.filter_eq_some_iff.mp first).2
    obtain ⟨r, w₁, passed, reported⟩ := Procedure.run_bind_eq_ok ran
    rw [Procedure.run_outcome] at passed
    rcases ended : (Reap.pass d.config.retention source service settings).run.run Fleet.respond v
      with ⟨r' | payload, w₂⟩
    · rw [ended] at passed
      obtain ⟨⟨⟩, rfl⟩ := Prod.mk.inj passed
      have named : d.reapedNames settings [(kind, source)] = [service.name] := by
        rw [reapedNames_singleton, reaped?, first]
        rfl
      cases r with
      | error e =>
        obtain ⟨⟨⟩, rfl⟩ := Prod.mk.inj reported
        exact Or.inr ⟨service, own, _, named, configured, ended, by simp⟩
      | ok report =>
        obtain ⟨⟨⟩, rfl⟩ := Prod.mk.inj reported
        exact Or.inr ⟨service, own, _, named, configured, ended, by simp⟩
    · rw [ended] at passed
      cases passed

/-- **Reaping inspects the services that are reaped**, and changes nothing besides that it leaves
alone. -/
theorem withoutReaping_of_reapAccumulating {reports : List ReapReport}
    (ran : (d.reapAccumulating settings kinds).run.run Fleet.respond v =
      (.finished (.ok reports), w)) :
    w.state.withoutReaping = v.state.withoutReaping.inspecting (d.reapedNames settings kinds) := by
  induction kinds generalizing v reports with
  | nil =>
    obtain ⟨-, rfl⟩ := Prod.mk.inj ran
    exact (Fleet.inspecting_nil _).symm
  | cons entry rest ih =>
    obtain ⟨first, u, passed, others⟩ := Procedure.run_bind_eq_ok ran
    obtain ⟨later, u', reaped, done⟩ := Procedure.run_bind_eq_ok others
    obtain ⟨-, rfl⟩ := Prod.mk.inj done
    rw [reapedNames_cons, ← Fleet.inspecting_append, ih reaped]
    congr 1
    rcases pass_of_reapFirst passed with
      ⟨none_reaped, -, rfl⟩ | ⟨s, own, r, named, configured, ran, -⟩
    · rw [none_reaped, Fleet.inspecting_nil]
    · rw [named]
      exact Reap.withoutReaping_of_pass configured ran

/-- Whatever is done, it does not become known what is in use. -/
theorem unavailable_respond (c : Call) (f : Fleet) :
    (Fleet.respond c f).2.engine.usageUnavailable = f.engine.usageUnavailable :=
  congrArg (·.engine.usageUnavailable) (Fleet.arrangement_respond c f)

/-- **Where it cannot be learned what is in use**, reaping deletes nothing. -/
theorem reapAccumulating_of_unavailable {reports : List ReapReport}
    (unavailable : v.state.engine.usageUnavailable = true)
    (ran : (d.reapAccumulating settings kinds).run.run Fleet.respond v =
      (.finished (.ok reports), w)) :
    v.DeletesNone w ∧ ∀ report ∈ reports, report.deleted = [] := by
  induction kinds generalizing v reports with
  | nil =>
    obtain ⟨⟨⟩, rfl⟩ := Prod.mk.inj ran
    exact ⟨.refl v, by simp⟩
  | cons entry rest ih =>
    obtain ⟨first, u, passed, others⟩ := Procedure.run_bind_eq_ok ran
    obtain ⟨later, u', reaped, done⟩ := Procedure.run_bind_eq_ok others
    obtain ⟨⟨⟩, rfl⟩ := Prod.mk.inj done
    have still : u.state.engine.usageUnavailable = true :=
      Program.KeepsTo.state (reapFirst_keepsTo settings entry.1 entry.2)
        (fun c f _ before => (unavailable_respond c f).trans before) passed unavailable
    obtain ⟨none_later, lists_later⟩ := ih still reaped
    -- The first pass deletes nothing, and neither do the others.
    have first_pass : v.DeletesNone u ∧ ∀ report ∈ first, report.deleted = [] := by
      rcases pass_of_reapFirst passed with ⟨-, rfl, rfl⟩ | ⟨s, own, r, -, -, ran, reported⟩
      · exact ⟨.refl _, by simp⟩
      · obtain ⟨deletes_none, lists_none⟩ := Reap.pass_of_unavailable unavailable ran
        exact ⟨deletes_none, fun report mem => lists_none report (by rw [reported report mem])⟩
    obtain ⟨none_first, lists_first⟩ := first_pass
    refine ⟨none_first.trans none_later, fun report mem => ?_⟩
    rw [List.mem_append] at mem
    exact mem.elim (lists_first report) (lists_later report)

/-- **What reaping does to a world**: it makes calls for its own sake and tells of them, of each
service it takes away what its reports list as deleted, and apart from that it has some services
inspected. -/
structure Reaped (d : Deployer) (settings : RuntimeSettings) (v : World Fleet)
    (reports : List ReapReport) (w : World Fleet) : Prop where
  services : (reports.map (·.service)).Sublist (d.reapedNames settings accumulating)
  journal : ∃ steps, w.journal = steps ++ v.journal ∧ (∀ c ∈ callsOf steps, c.Reaps) ∧
    ∀ event ∈ eventsOf steps, event.OfReaping
  running : ∀ service, w.state.infrastructure.running? service =
    (v.state.infrastructure.running? service).map (·.without (deletedOf service reports))
  rest : w.state.withoutReaping =
    v.state.withoutReaping.inspecting (d.reapedNames settings accumulating)

/-- **Reaping comes to its end**, with reports on what it has done. -/
theorem reaped_of_run {ending : Ending (Except DeployError (List ReapReport))}
    (ran : (d.reapAccumulating settings accumulating).run.run Fleet.respond v = (ending, w)) :
    ∃ reports, ending = .finished (.ok reports) ∧ d.Reaped settings v reports w := by
  have accounts (service : ServiceName) :
      d.Accounts settings accumulating service (v.state.infrastructure.running? service) ending
        (w.state.infrastructure.running? service) :=
    Program.Treats.run (reapAccumulating_treats accumulating) ran
  rcases ending with (e | reports) | payload
  · exact (accounts "").elim
  · obtain ⟨steps, journal, asked⟩ := (reapAccumulating_keepsTo _ _).asksOnly.run ran
    obtain ⟨steps', journal', told⟩ := Program.TellsOnly.run (reapAccumulating_tellsOnly _ _) ran
    obtain rfl : steps' = steps := List.append_cancel_right (journal'.symm.trans journal)
    exact ⟨reports, rfl,
      { services := (accounts "").1
        journal := ⟨steps', journal, asked, told⟩
        running := fun service => (accounts service).2
        rest := withoutReaping_of_reapAccumulating ran }⟩
  · exact (accounts "").elim

/-! ### Conclusions -/

/-- **How a deployment ends that has been judged** in some world: with its problems, or, whatever
reaping meets with, with a report. -/
inductive Judged (d : Deployer) (settings : RuntimeSettings) (plan : Plan) (outcome : BatchOutcome)
    (v : World Fleet) : Ending (Except DeployError DeployReport) → World Fleet → Prop
  | failed (exceeds : outcome.problems.exceeds d.config.failureThreshold = true) :
      Judged d settings plan outcome v
        (.finished (.error (.aggregate d.config.failureThreshold outcome.problems))) v
  | succeeded {reports w} (within : ¬outcome.problems.exceeds d.config.failureThreshold = true)
      (reaps : (d.reapAccumulating settings accumulating).run.run Fleet.respond v =
        (.finished (.ok reports), w)) :
      Judged d settings plan outcome v (.finished (.ok ⟨plan.summary, outcome, reports⟩)) w

/-- A deployment is judged in the world in which observers have been told how its units ended. -/
theorem judged_of_conclude {plan : Plan} {outcome : BatchOutcome}
    {ending : Ending (Except DeployError DeployReport)}
    (concluded : ((d.deploy requested resolved).conclude plan outcome).run.run Fleet.respond v =
      (ending, w)) :
    d.Judged resolved.runtimeSettings plan outcome
      ((d.settle outcome).run.run Fleet.respond v).2 ending w := by
  obtain ⟨steps, settled⟩ := run_settle (d := d) (h := Fleet.respond) outcome v
  rw [BatchOutcome.raiseIfExceeds] at settled
  split at settled
  · next exceeds =>
    obtain ⟨rfl, rfl⟩ := Prod.mk.inj
      ((Procedure.run_bind_of_error settled).symm.trans concluded)
    rw [settled]
    exact .failed exceeds
  · next within =>
    have follows := (Procedure.run_bind_of_ok settled).symm.trans concluded
    rcases reaps : (d.reapAccumulating resolved.runtimeSettings accumulating).run.run Fleet.respond
      ⟨v.state, steps ++ v.journal⟩ with ⟨ending', u⟩
    obtain ⟨reports, rfl, -⟩ := reaped_of_run reaps
    obtain ⟨rfl, rfl⟩ := Prod.mk.inj ((Procedure.run_bind_of_ok reaps).symm.trans follows)
    rw [settled]
    exact .succeeded within reaps

/-! ### Two deployments -/

/-- Up to its conclusion a deployment cannot tell what is in use. -/
theorem deploy_blindBefore :
    (d.deploy requested resolved).BlindBefore Fleet.respond Fleet.UsedDifferently where
  prepare := deploy_conduct.prepare.mono fun c inspects => by
    obtain ⟨service, -, -, rfl⟩ := inspects
    exact Fleet.blindTo_usage id
  body item := (item.dispatch_asksOnly d.dispatchConfig resolved).mono fun c asks => by
    refine Fleet.blindTo_usage fun alone => ?_
    cases c with
    | bakeStatuses => exact asks
    | activeExecutions => exact asks
    | deleteVersion => exact asks
    | _ => exact alone

/-- Neither can it tell when it is judged. -/
theorem settle_blind {outcome : BatchOutcome} :
    (d.settle outcome).AsksOnly (Handler.BlindTo Fleet.respond Fleet.UsedDifferently) :=
  settle_asksOnly.mono fun _ => False.elim

/-- **Two deployments that differ in their reaping alone**, by one schedule: both are refused for
the same reason, or both carry the same plan out with the same outcome; then both fail because of it,
or both report it, and from worlds that agree they have reaped, each in its own way. -/
inductive SameButReaping (d : Deployer) (requested : List ServiceName)
    (resolved : ResolvedConfiguration) (schedule : List Nat) (f g : Fleet) :
    Ending (Except DeployError DeployReport) → World Fleet →
      Ending (Except DeployError DeployReport) → World Fleet → Prop
  | refused {e w w'}
      (prepared : (d.deploy requested resolved).prepare.run.run Fleet.respond ⟨f, []⟩ =
        (.finished (.error e), w))
      (prepared' : (d.deploy requested resolved).prepare.run.run Fleet.respond ⟨g, []⟩ =
        (.finished (.error e), w'))
      (agree : w.Agrees Fleet.UsedDifferently w') :
      SameButReaping d requested resolved schedule f g (.finished (.error e)) w
        (.finished (.error e)) w'
  | failed {plan outcome v v' w w'}
      (carried : (d.deploy requested resolved).CarriesOutBy Fleet.respond schedule ⟨f, []⟩ plan
        outcome v)
      (carried' : (d.deploy requested resolved).CarriesOutBy Fleet.respond schedule ⟨g, []⟩ plan
        outcome v')
      (agree : w.Agrees Fleet.UsedDifferently w') :
      SameButReaping d requested resolved schedule f g
        (.finished (.error (.aggregate d.config.failureThreshold outcome.problems))) w
        (.finished (.error (.aggregate d.config.failureThreshold outcome.problems))) w'
  | succeeded {plan outcome v v' u u' reports reports' w w'}
      (carried : (d.deploy requested resolved).CarriesOutBy Fleet.respond schedule ⟨f, []⟩ plan
        outcome v)
      (carried' : (d.deploy requested resolved).CarriesOutBy Fleet.respond schedule ⟨g, []⟩ plan
        outcome v')
      (agree : u.Agrees Fleet.UsedDifferently u')
      (reaped : d.Reaped resolved.runtimeSettings u reports w)
      (reaped' : d.Reaped resolved.runtimeSettings u' reports' w')
      (rest : w.state.withoutReaping = w'.state.withoutReaping) :
      SameButReaping d requested resolved schedule f g
        (.finished (.ok ⟨plan.summary, outcome, reports⟩)) w
        (.finished (.ok ⟨plan.summary, outcome, reports'⟩)) w'

variable {schedule : List Nat} {ending ending' : Ending (Except DeployError DeployReport)}

/-- Deployments that are judged alike in worlds that agree differ in their reaping alone. -/
theorem sameButReaping_of_judged {plan : Plan} {outcome : BatchOutcome} {u u' : World Fleet}
    (carried : (d.deploy requested resolved).CarriesOutBy Fleet.respond schedule ⟨f, []⟩ plan
      outcome v)
    (carried' : (d.deploy requested resolved).CarriesOutBy Fleet.respond schedule ⟨g, []⟩ plan
      outcome v')
    (agree : u.Agrees Fleet.UsedDifferently u')
    (judged : d.Judged resolved.runtimeSettings plan outcome u ending w)
    (judged' : d.Judged resolved.runtimeSettings plan outcome u' ending' w') :
    d.SameButReaping requested resolved schedule f g ending w ending' w' := by
  cases judged with
  | failed exceeds =>
    cases judged' with
    | failed => exact .failed carried carried' agree
    | succeeded within => exact absurd exceeds within
  | succeeded within reaps =>
    cases judged' with
    | failed exceeds => exact absurd exceeds within
    | succeeded within' reaps' =>
      obtain ⟨reports, ⟨⟩, reaped⟩ := reaped_of_run reaps
      obtain ⟨reports', ⟨⟩, reaped'⟩ := reaped_of_run reaps'
      refine .succeeded carried carried' agree reaped reaped' ?_
      rw [reaped.rest, reaped'.rest, agree.state.withoutReaping_eq]

/-- A deployment over a fleet in memory does not crash while it is prepared. -/
theorem prepare_ne_crashed {payload : Option String} :
    (d.deploy requested resolved).prepare.run.run Fleet.respond ⟨f, []⟩ ≠
      (.crashed payload, w) := by
  intro prepared
  obtain ⟨r, ⟨⟩⟩ := (running?_of_prepare prepared "").1

/-- **Two deployments by one schedule**, in fleets that are in use differently. -/
theorem sameButReaping_of_runsBy (differ : f.UsedDifferently g)
    (ran : (d.deploy requested resolved).RunsBy Fleet.respond schedule ⟨f, []⟩ ending w)
    (ran' : (d.deploy requested resolved).RunsBy Fleet.respond schedule ⟨g, []⟩ ending' w') :
    d.SameButReaping requested resolved schedule f g ending w ending' w' := by
  have start : (⟨f, []⟩ : World Fleet).Agrees Fleet.UsedDifferently ⟨g, []⟩ := ⟨rfl, differ⟩
  cases ran with
  | crashed prepared => exact absurd prepared prepare_ne_crashed
  | refused prepared =>
    obtain ⟨u, prepared', agree⟩ := deploy_blindBefore.prepared start prepared
    cases ran' with
    | crashed prepared'' => exact absurd prepared'' prepare_ne_crashed
    | refused prepared'' =>
      obtain ⟨⟨⟩, rfl⟩ := Prod.mk.inj (prepared'.symm.trans prepared'')
      exact .refused prepared prepared' agree
    | carriedOut carried'' =>
      obtain ⟨prepared''⟩ := carried''
      cases prepared'.symm.trans prepared''
  | carriedOut carried concluded =>
    -- The first run foretells how the second one is carried out, and a schedule leaves no choice.
    obtain ⟨v', carried', agree⟩ := carried.congr deploy_blindBefore start
    cases ran' with
    | crashed prepared'' => exact absurd prepared'' prepare_ne_crashed
    | refused prepared'' =>
      obtain ⟨prepared'⟩ := carried'
      cases prepared'.symm.trans prepared''
    | carriedOut carried'' concluded' =>
      obtain ⟨rfl, rfl, rfl⟩ := carried'.unique carried''
      exact sameButReaping_of_judged carried carried' (settle_blind.run_congr agree).2
        (judged_of_conclude concluded) (judged_of_conclude concluded')

/-- What goes by a schedule in one of the fleets goes by it in the other one too. -/
theorem exists_runsBy (differ : f.UsedDifferently g)
    (ran : (d.deploy requested resolved).RunsBy Fleet.respond schedule ⟨f, []⟩ ending w) :
    ∃ ending' w',
      (d.deploy requested resolved).RunsBy Fleet.respond schedule ⟨g, []⟩ ending' w' := by
  have start : (⟨f, []⟩ : World Fleet).Agrees Fleet.UsedDifferently ⟨g, []⟩ := ⟨rfl, differ⟩
  cases ran with
  | crashed prepared => exact absurd prepared prepare_ne_crashed
  | refused prepared =>
    obtain ⟨u, prepared', -⟩ := deploy_blindBefore.prepared start prepared
    exact ⟨_, u, .refused prepared'⟩
  | carriedOut carried concluded =>
    obtain ⟨v', carried', -⟩ := carried.congr deploy_blindBefore start
    exact ⟨_, _, .carriedOut carried' rfl⟩

/-! ### Where it cannot be learned what is in use -/

/-- At no moment of a call does it become known what is in use. -/
theorem unavailable_of_reaches {ρ : Type} {op : BatchOperation ρ} {m : Moment ρ}
    (reached : op.Reaches Fleet.respond ⟨f, []⟩ m v) :
    v.state.engine.usageUnavailable = f.engine.usageUnavailable :=
  reached.state (fun g => g.engine.usageUnavailable = f.engine.usageUnavailable)
    (fun _ c _ same => (unavailable_respond c _).trans same) rfl

/-- **A deployment deletes nothing** where it cannot be learned what is in use. -/
theorem no_deletion_of_runs (unavailable : f.engine.usageUnavailable = true)
    (ran : (d.deploy requested resolved).Runs Fleet.respond ⟨f, []⟩ ending w) :
    (∀ c ∈ callsOf w.journal, ¬c.IsDeletion) ∧
      ∀ report, ending = .finished (.ok report) → ∀ r ∈ report.reaps, r.deleted = [] := by
  rcases ending with (e | report) | payload
  · exact ⟨no_deletion_of_failed ran, nofun⟩
  · cases ran with
    | @carriedOut plan _ _ _ v _ _ prepared interleaved concluded =>
      have carried := BatchOperation.Reaches.carried prepared interleaved
      have still := (unavailable_of_reaches carried).trans unavailable
      have judged := judged_of_conclude concluded
      rcases settled : (d.settle _).run.run Fleet.respond v with ⟨r, u⟩
      rw [settled] at judged
      -- What was done before the passes is no deletion, and neither is anything in them.
      obtain ⟨told, journal, asked⟩ := settle_asksOnly.run settled
      have judging : v.DeletesNone u := ⟨told, journal, fun c mem => (asked c mem).elim⟩
      have known := Program.AsksOnly.state settle_asksOnly
        (fun f => f.engine.usageUnavailable = true) (fun _ _ never => never.elim) settled still
      cases judged with
      | succeeded within reaps =>
        obtain ⟨reaping, lists_none⟩ := reapAccumulating_of_unavailable known reaps
        obtain ⟨steps, journal', deletes_none⟩ := judging.trans reaping
        refine ⟨fun c mem => ?_, ?_⟩
        · rw [journal', callsOf_append, List.mem_append] at mem
          exact mem.elim (deletes_none c) (calls_of_carried carried c)
        · rintro report ⟨⟩
          exact lists_none
  · cases ran with
    | crashed prepared => exact absurd prepared prepare_ne_crashed
    | carriedOut prepared interleaved concluded => cases judged_of_conclude concluded

/-- **At no moment** does a deployment delete anything where it cannot be learned what is in use. -/
theorem no_deletion_of_unavailable (unavailable : f.engine.usageUnavailable = true)
    {m : Moment DeployReport}
    (reached : (d.deploy requested resolved).Reaches Fleet.respond ⟨f, []⟩ m v) :
    ∀ c ∈ callsOf v.journal, ¬c.IsDeletion := by
  cases m with
  -- What is left of a phase can be carried out, and a deletion would still be there afterwards.
  | preparing rest =>
    have whole : rest.run Fleet.respond v = _ := reached.stands
    rw [Program.run_eq_append] at whole
    obtain ⟨steps, journal, asked⟩ := deploy_conduct.prepare.run whole.symm
    intro c mem
    refine (asked c ?_).not_isDeletion
    rw [List.append_nil] at journal
    rw [← journal, callsOf_append, List.mem_append]
    exact Or.inr mem
  | carryingOut plan strands arrivals => exact calls_of_carried reached
  | concluding plan outcome rest =>
    have closed : (d.deploy requested resolved).Runs Fleet.respond ⟨f, []⟩ _ _ := reached.stands
    rw [Program.run_eq_append] at closed
    intro c mem
    refine (no_deletion_of_runs unavailable closed).1 c ?_
    rw [callsOf_append, List.mem_append]
    exact Or.inr mem
  | closed ending => exact (no_deletion_of_runs unavailable reached.stands).1

/-- The three versions in a fleet in which it cannot be learned what is in use. -/
def threeInTheDark : Fleet :=
  { threeVersions 1 with engine := Engine.failUsage {} }

end Deployer

end FleetDeploy
