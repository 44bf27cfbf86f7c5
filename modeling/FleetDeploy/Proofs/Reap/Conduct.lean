import FleetDeploy.Proofs.Fleet.Collaborators
import FleetDeploy.Proofs.Program.Calls
import FleetDeploy.Reap.Pass

/-!
# What reaping depends on

A pass inspects a service, asks what is in use, and deletes. What comes of this depends on what runs
in the fleet and on what was arranged, and not on the executions of the deployer, so that fleets in
which the same runs are reaped alike.

* `FleetDeploy.Reap.pass_keepsTo` – the calls of a pass, and `FleetDeploy.Reap.pass_asksOnly` – whom
  they are about;
* `FleetDeploy.Fleet.RunsSame`, `FleetDeploy.Fleet.RunsSame.respond` – fleets in which the same runs
  answer those calls alike, and the same runs in them afterwards.
-/

namespace FleetDeploy

/-- Whether a call is one that reaping makes. -/
def Call.Reaps : Call → Prop
  | .inspect .. => True
  | .bakeStatuses => True
  | .activeExecutions => True
  | .deleteVersion .. => True
  | _ => False

/-! ### The calls of a pass -/

namespace Reap

variable {events : DeployEvent → Prop}

theorem query_keepsTo (source : UsageSource) : source.query.KeepsTo Call.Reaps events := by
  cases source with
  | bakes => exact .bind (.ask trivial) fun _ => .pure _
  | activeExecutions => exact .bind (.ask trivial) fun _ => .pure _

/-- Whatever is deleted, nothing else is asked for. -/
theorem deleteAll_keepsTo (service : Service) (own : ServiceSettings) (report : ReapReport)
    (versions : List Version) :
    (deleteAll service own report versions).KeepsTo Call.Reaps fun _ => True := by
  induction versions generalizing report with
  | nil => exact .pure _
  | cons version rest ih =>
    refine .bind (.emit trivial) fun _ => .bind (.outcome (.ask trivial)) fun answer => ?_
    split
    · exact .bind (.emit trivial) fun _ => ih _
    · exact ih _

/-- **The calls of a pass** are inspections, queries and deletions. -/
theorem pass_keepsTo (retention : RetentionPolicy) (source : UsageSource) (service : Service)
    (settings : RuntimeSettings) :
    (pass retention source service settings).KeepsTo Call.Reaps fun _ => True := by
  rw [pass]
  split
  · exact .throw _
  · refine .bind (.ask trivial) fun running => ?_
    split
    · exact .pure _
    · exact .bind (query_keepsTo source) fun usage => deleteAll_keepsTo _ _ _ _

/-- **What reaping asks for**: inspections and deletions of one service, and what is in use. -/
def Asks (service : Service) (settings : RuntimeSettings) : Call → Prop
  | .inspect s _ => s = service
  | .bakeStatuses => True
  | .activeExecutions => True
  | .deleteVersion s own _ => s = service ∧ settings.get? service.name = some own
  | _ => False

theorem deleteAll_asksOnly (service : Service) (own : ServiceSettings) (report : ReapReport)
    (versions : List Version) :
    (deleteAll service own report versions).AsksOnly fun c =>
      ∃ version, c = .deleteVersion service own version := by
  induction versions generalizing report with
  | nil => exact .pure _
  | cons version rest ih =>
    refine .bind (.emit _) fun _ => .bind (.outcome (.ask ⟨version, rfl⟩)) fun answer => ?_
    split
    · exact .bind (.emit _) fun _ => ih _
    · exact ih _

theorem query_asksOnly {source : UsageSource} {service : Service} {settings : RuntimeSettings} :
    source.query.AsksOnly (Asks service settings) := by
  cases source with
  | activeExecutions => exact .bind (.ask trivial) fun _ => .pure _
  | bakes => exact .bind (.ask trivial) fun _ => .pure _

/-- **A pass** inspects its service, asks what is in use, and deletes versions of its service. -/
theorem pass_asksOnly {retention : RetentionPolicy} {source : UsageSource} {service : Service}
    {settings : RuntimeSettings} :
    (pass retention source service settings).AsksOnly (Asks service settings) := by
  rw [pass]
  split
  · exact .throw _
  · next own configured =>
    refine .bind (.ask rfl) fun running => ?_
    split
    · exact .pure _
    · refine .bind query_asksOnly fun usage => (deleteAll_asksOnly _ _ _ _).mono ?_
      rintro _ ⟨version, rfl⟩
      exact ⟨rfl, configured⟩

end Reap

/-! ### Fleets in which the same runs -/

namespace Fleet

/-- **Fleets in which the same runs**, and in which the same was arranged. -/
structure RunsSame (F G : Fleet) : Prop where
  arrangement : F.arrangement = G.arrangement
  running : ∀ service, F.infrastructure.running? service = G.infrastructure.running? service

variable {F G : Fleet}

/-- An inspection shows the same. -/
theorem RunsSame.inspect_eq (same : F.RunsSame G) (service : ServiceName) :
    (F.infrastructure.inspect service).1 = (G.infrastructure.inspect service).1 := by
  have failures : F.infrastructure.inspectionFailures = G.infrastructure.inspectionFailures :=
    congrArg (·.infrastructure.inspectionFailures) same.arrangement
  simp only [Infrastructure.inspect, Infrastructure.details, failures, same.running]

theorem RunsSame.deleteFailure_eq (same : F.RunsSame G) (service : ServiceName)
    (version : Version) :
    F.infrastructure.deleteFailure? service version =
      G.infrastructure.deleteFailure? service version := by
  have failures : F.infrastructure.deleteFailures = G.infrastructure.deleteFailures :=
    congrArg (·.infrastructure.deleteFailures) same.arrangement
  rw [Infrastructure.deleteFailure?, Infrastructure.deleteFailure?, failures]

/-- A deletion answers the same. -/
theorem RunsSame.deleteVersion_eq (same : F.RunsSame G) (service : ServiceName)
    (version : Version) :
    (F.infrastructure.deleteVersion service version).1 =
      (G.infrastructure.deleteVersion service version).1 := by
  rw [Infrastructure.deleteVersion, Infrastructure.deleteVersion, same.deleteFailure_eq]
  split <;> rfl

/-- What the engine tells of executions that are not the deployer's. -/
theorem RunsSame.tables_eq (same : F.RunsSame G) :
    F.engine.bakeStatuses = G.engine.bakeStatuses ∧
      F.engine.activeExecutions = G.engine.activeExecutions := by
  have bakes : F.engine.bakes = G.engine.bakes := congrArg (·.engine.bakes) same.arrangement
  have active : F.engine.active = G.engine.active := congrArg (·.engine.active) same.arrangement
  have unavailable : F.engine.usageUnavailable = G.engine.usageUnavailable :=
    congrArg (·.engine.usageUnavailable) same.arrangement
  constructor
  · rw [Engine.bakeStatuses, Engine.bakeStatuses, bakes, unavailable]
  · rw [Engine.activeExecutions, Engine.activeExecutions, active, unavailable]

/-- **Fleets in which the same runs are reaped alike**, call by call. -/
theorem RunsSame.respond (c : Call) (F G : Fleet) (reaps : c.Reaps) (same : F.RunsSame G) :
    (respond c F).1 = (respond c G).1 ∧ (Fleet.respond c F).2.RunsSame (Fleet.respond c G).2 := by
  have arrangement : (Fleet.respond c F).2.arrangement = (Fleet.respond c G).2.arrangement := by
    rw [arrangement_respond, arrangement_respond, same.arrangement]
  cases c with
  | inspect service settings =>
    exact ⟨congrArg Reply.answered (same.inspect_eq service.name), arrangement, same.running⟩
  | bakeStatuses => exact ⟨congrArg Reply.answered same.tables_eq.1, arrangement, same.running⟩
  | activeExecutions =>
    exact ⟨congrArg Reply.answered same.tables_eq.2, arrangement, same.running⟩
  | deleteVersion service settings version =>
    refine ⟨congrArg Reply.answered (same.deleteVersion_eq service.name version), arrangement, ?_⟩
    intro s
    refine (Infrastructure.running?_deleteVersion _ _ _ _).trans ?_
    rw [same.deleteFailure_eq, same.running, same.running]
    exact (Infrastructure.running?_deleteVersion _ _ _ _).symm
  | _ => exact reaps.elim

end Fleet

end FleetDeploy
