import FleetDeploy.Proofs.Batch.Effects
import FleetDeploy.Proofs.Deployer.Serving
import FleetDeploy.Proofs.Reap.Effects

/-!
# What a deployment leaves running

Before and after a deployment over a fleet in memory, service by service. A deployment changes a
service in two ways and in no other: a unit of the batch that provisions it and succeeds puts one
version on top of its versions and has it serve, and when the batch has been judged, a pass takes
the versions away that its report lists. Units in every other mode change nothing, and neither does
a unit that fails, crashes or is rejected, nor a deployment that is refused. It makes no difference
how the units are interleaved, since each of them keeps to a service of its own.

* `FleetDeploy.Fleet.Becomes` – what becomes of one service;
* `FleetDeploy.WorkItem.dispatch_treats` – what a unit does to its service;
* `FleetDeploy.Deployer.conclude_treats` – what a deployment does to a service when it concludes;
* `FleetDeploy.Deployer.Settles`, `FleetDeploy.Deployer.settles_of_deploy` – what becomes of every
  service, in every deployment.
-/

namespace FleetDeploy

open Infrastructure (seen nextVersion? provisioned)

/-! ### What becomes of a service -/

/-- **What a provisioning makes of a service**: the next version, or nothing. -/
def Infrastructure.Made (service : ServiceName) (before : Option RunningService) :
    Option Version → Option RunningService → Prop
  | none, now => now = before
  | some version, now => nextVersion? (seen service before) = some version ∧
    now = some (provisioned (seen service before) service version)

/-- **What becomes of a service** of which a version may be made and of which some are deleted: it
has the version that was made, with the number after its newest one, with one instance, and serving;
it has lost what was deleted; and of what it has besides nothing has changed. -/
structure Fleet.Becomes (f : Fleet) (service : ServiceName) (made : Option Version)
    (gone : List Version) (g : Fleet) : Prop where
  number : ∀ v, made = some v → v.toNat = (f.infrastructure.details service).newest + 1
  deployed : (g.infrastructure.running? service).isSome ↔
    (f.infrastructure.running? service).isSome ∨ made.isSome
  name : (g.infrastructure.details service).service = (f.infrastructure.details service).service
  groups : ∀ v, (g.infrastructure.details service).instances.get? v =
    if v ∈ gone then none
    else if made = some v then some (.ofList [service ++ "-v" ++ Text.natText v.toNat])
    else (f.infrastructure.details service).instances.get? v
  serving : (g.infrastructure.details service).latestEnabled =
    made.or (f.infrastructure.details service).latestEnabled
  loadBalancer : (g.infrastructure.details service).loadBalancer =
    (f.infrastructure.details service).loadBalancer
  untouched : made = none → gone = [] →
    g.infrastructure.running? service = f.infrastructure.running? service

namespace Infrastructure.Made

variable {service : ServiceName} {before now : Option RunningService} {made : Option Version}

theorem isSome_iff (provisioning : Made service before made now) :
    now.isSome ↔ before.isSome ∨ made.isSome := by
  cases made with
  | none =>
    obtain rfl : now = before := provisioning
    simp
  | some version =>
    obtain ⟨-, rfl⟩ := provisioning
    simp

theorem toNat_eq {version : Version} (provisioning : Made service before (some version) now) :
    version.toNat = (seen service before).newest + 1 :=
  toNat_nextVersion provisioning.1

theorem service_eq (provisioning : Made service before made now) :
    (seen service now).service = (seen service before).service := by
  cases made with
  | none => rw [show now = before from provisioning]
  | some version =>
    obtain ⟨-, rfl⟩ := provisioning
    rfl

theorem get?_eq (provisioning : Made service before made now) (v : Version) :
    (seen service now).instances.get? v =
      if made = some v then some (.ofList [instanceName service v])
      else (seen service before).instances.get? v := by
  cases made with
  | none => rw [show now = before from provisioning, if_neg (Option.some_ne_none v).symm]
  | some version =>
    obtain ⟨-, rfl⟩ := provisioning
    rw [seen, Option.getD_some, get?_provisioned]
    by_cases same : v = version
    · rw [if_pos same, if_pos (congrArg some same.symm), same]
    · rw [if_neg same, if_neg fun eq => same (Option.some.inj eq).symm]

theorem latestEnabled_eq (provisioning : Made service before made now) :
    (seen service now).latestEnabled = made.or (seen service before).latestEnabled := by
  cases made with
  | none => rw [show now = before from provisioning, Option.none_or]
  | some version =>
    obtain ⟨-, rfl⟩ := provisioning
    rfl

theorem loadBalancer_eq (provisioning : Made service before made now) :
    (seen service now).loadBalancer = (seen service before).loadBalancer := by
  cases made with
  | none => rw [show now = before from provisioning]
  | some version =>
    obtain ⟨-, rfl⟩ := provisioning
    rfl

end Infrastructure.Made

/-- A provisioning and some deletions make of a service what it becomes. -/
theorem Fleet.becomes_of_made {f g : Fleet} {service : ServiceName} {made : Option Version}
    {gone : List Version} {between : Option RunningService}
    (provisioning : Infrastructure.Made service (f.infrastructure.running? service) made between)
    (deleting : g.infrastructure.running? service = between.map (·.without gone)) :
    f.Becomes service made gone g := by
  have details : g.infrastructure.details service = (seen service between).without gone := by
    rw [Infrastructure.details, deleting]
    cases between with
    | some r => rfl
    | none => exact (RunningService.without_empty service gone).symm
  exact
    { number := by
        rintro version rfl
        exact provisioning.toNat_eq
      deployed := by rw [deleting, Option.isSome_map, provisioning.isSome_iff]
      name := by rw [details, RunningService.service_without, provisioning.service_eq]; rfl
      groups := fun v => by
        rw [details, RunningService.get?_without, provisioning.get?_eq]
        rfl
      serving := by
        rw [details, RunningService.latestEnabled_without, provisioning.latestEnabled_eq]
        rfl
      loadBalancer := by
        rw [details, RunningService.loadBalancer_without, provisioning.loadBalancer_eq]
        rfl
      untouched := by
        rintro rfl rfl
        obtain rfl : between = f.infrastructure.running? service := provisioning
        simp [deleting] }

/-! ### Units -/

namespace WorkItem

variable {config : DispatchConfig} {resolved : ResolvedConfiguration} {item : WorkItem}
  {service : ServiceName} {now : Option RunningService}

/-- A unit asks for a change of its own service alone, and only where it provisions it. -/
theorem Asks.changed? {c : Call} (asks : item.Asks config c) :
    c.changed? = none ∨ c.changed? = some item.service.name ∧ item.mode = .manual := by
  cases c with
  | ensureRunning s resolved configs safe =>
    obtain ⟨rfl, mode⟩ := asks
    exact Or.inr ⟨rfl, mode⟩
  | deleteVersion => exact asks.elim
  | _ => exact Or.inl rfl

/-- A unit spares all other services, and its own one too if it does not provision it. -/
theorem dispatch_spares (apart : item.service.name ≠ service ∨ item.mode ≠ .manual) :
    (item.dispatch config resolved).AsksOnly fun c => c.changed? ≠ some service := by
  refine (item.dispatch_asksOnly config resolved).mono fun c asks => ?_
  rcases asks.changed? with unchanging | ⟨changing, mode⟩
  · rw [unchanging]
    exact nofun
  · rw [changing]
    rintro ⟨⟩
    exact apart.elim (absurd rfl) (absurd mode)

/-- **What a unit leaves of its service**: a new version if it provisions the service and succeeds,
and what was there before otherwise. -/
def Leaves (item : WorkItem) (before : Option RunningService) (ending : UnitEnding)
    (now : Option RunningService) : Prop :=
  ∃ made : Option Version, (made.isSome ↔ item.mode = .manual ∧ ending = .finished (.ok ())) ∧
    Infrastructure.Made item.service.name before made now

theorem leaves_same {ending : UnitEnding}
    (without : ¬(item.mode = .manual ∧ ending = .finished (.ok ()))) :
    item.Leaves now ending now :=
  ⟨none, iff_of_false nofun without, rfl⟩

/-- A unit that provisions stages the configuration, and then asks for the one change. -/
theorem manual_treats (mode : item.mode = .manual) :
    (item.manual resolved).Treats item.service.name (fun _ _ => True) (item.Leaves now) now := by
  refine .emit_bind (.bind (.of_none (.ask rfl) trivial fun staged => ?_))
  cases staged with
  | error e => exact leaves_same (by simp)
  | ok configs =>
    refine Procedure.Treats.ask (c := .ensureRunning item.service resolved configs
      item.settings.safeToUpdate) fun {reply now'} affects => ⟨trivial, ?_⟩
    rcases reply with (e | _) | payload
    · obtain rfl : now' = now := affects
      exact leaves_same (by simp)
    · rw [Call.Affects, if_pos rfl] at affects
      obtain ⟨version, next, rfl⟩ := affects
      exact ⟨some version, iff_of_true rfl ⟨mode, rfl⟩, next, rfl⟩
    · obtain rfl : now' = now := affects
      exact leaves_same (by simp)

/-- **What a unit does to its service.** -/
theorem dispatch_treats (item : WorkItem) :
    (item.dispatch config resolved).Treats item.service.name (fun _ _ => True) (item.Leaves now)
      now := by
  by_cases mode : item.mode = .manual
  · refine .emit_bind ?_
    rw [mode]
    exact manual_treats mode
  · exact Program.AsksOnly.treats_of_ne (dispatch_spares (Or.inr mode)) trivial fun ending =>
      leaves_same fun ⟨provisions, _⟩ => mode provisions

end WorkItem

/-! ### The conclusion -/

namespace Deployer

variable {d : Deployer} {settings : RuntimeSettings} {requested : List ServiceName}
  {resolved : ResolvedConfiguration} {service : ServiceName} {before now : Option RunningService}

/-- The names of the services that are reaped for some kinds. -/
def reapedNames (d : Deployer) (settings : RuntimeSettings)
    (kinds : List (ServiceKind × UsageSource)) : List ServiceName :=
  kinds.filterMap fun entry => (d.reaped? settings entry.1).map (·.name)

theorem reapedNames_singleton (entry : ServiceKind × UsageSource) :
    d.reapedNames settings [entry] = ((d.reaped? settings entry.1).map (·.name)).toList := by
  rw [reapedNames, List.filterMap_cons]
  cases d.reaped? settings entry.1 <;> rfl

theorem reapedNames_cons (entry : ServiceKind × UsageSource)
    (kinds : List (ServiceKind × UsageSource)) :
    d.reapedNames settings (entry :: kinds) =
      d.reapedNames settings [entry] ++ d.reapedNames settings kinds := by
  rw [reapedNames, reapedNames, reapedNames, ← List.filterMap_append]
  rfl

/-- What some reports say was deleted of a service. -/
def deletedOf (service : ServiceName) (reports : List ReapReport) : List Version :=
  reports.flatMap (·.gone service)

theorem deletedOf_append (reports later : List ReapReport) :
    deletedOf service (reports ++ later) = deletedOf service reports ++ deletedOf service later :=
  List.flatMap_append

/-- **Reports that account for what was done** since there was `before`: they are about services that
are reaped, and what they list as deleted is what is missing. -/
def Accounts (d : Deployer) (settings : RuntimeSettings) (kinds : List (ServiceKind × UsageSource))
    (service : ServiceName) (before : Option RunningService) :
    Ending (Except DeployError (List ReapReport)) → Option RunningService → Prop
  | .finished (.ok reports), now =>
    (reports.map (·.service)).Sublist (d.reapedNames settings kinds) ∧
      now = before.map (·.without (deletedOf service reports))
  | _, _ => False

/-- Reports of no service account for nothing done. -/
theorem accounts_nil (kinds : List (ServiceKind × UsageSource)) :
    d.Accounts settings kinds service now (.finished (.ok [])) now :=
  ⟨List.nil_sublist _, by simp [deletedOf]⟩

theorem reapFirst_treats (kind : ServiceKind) (source : UsageSource) :
    (d.reapFirst settings kind source).Treats service (Alters d.config.retention.keep service)
      (d.Accounts settings [(kind, source)] service now) now := by
  rw [reapFirst]
  split
  · exact accounts_nil _
  next first found =>
  refine .bind (.outcome ((Reap.pass_treats d.config.retention source first settings).mono id
    fun {ending now'} accounts => ?_))
  rcases ending with (e | report) | payload
  · obtain rfl : now' = now := accounts
    exact accounts_nil _
  · obtain ⟨own, accounts⟩ := accounts
    refine ⟨?_, ?_⟩
    · rw [reapedNames_singleton, reaped?, found, List.map_singleton, own]
      exact List.Sublist.refl _
    · rw [accounts, deletedOf, List.flatMap_singleton]
  · exact accounts.elim

/-- **Reaping accounts for what it does**, kind by kind. -/
theorem reapAccumulating_treats (kinds : List (ServiceKind × UsageSource)) :
    (d.reapAccumulating settings kinds).Treats service (Alters d.config.retention.keep service)
      (d.Accounts settings kinds service now) now := by
  induction kinds generalizing now with
  | nil => exact accounts_nil _
  | cons entry rest ih =>
    refine .bind ((reapFirst_treats entry.1 entry.2).mono id fun {ending now'} accounts => ?_)
    rcases ending with (e | reports) | payload
    · exact accounts.elim
    · obtain ⟨first, rfl⟩ := accounts
      refine .bind (ih.mono id fun {ending now''} accounts => ?_)
      rcases ending with (e | others) | payload
      · exact accounts.elim
      · obtain ⟨later, rfl⟩ := accounts
        refine ⟨?_, ?_⟩
        · rw [List.map_append, reapedNames_cons]
          exact first.append later
        · rw [Option.map_map, deletedOf_append]
          congr 1
          funext r
          exact (RunningService.without_append r _ _).symm
      · exact accounts.elim
    · exact accounts.elim

/-- What follows on a judgement is begun only if the batch is not too bad. -/
theorem settle_bind_treats {ρ : Type} {outcome : BatchOutcome} {next : BatchOutcome → Procedure ρ}
    {R : Option RunningService → Option RunningService → Prop}
    {Q : Ending (Except DeployError ρ) → Option RunningService → Prop}
    (too_bad : Q (.finished (.error (.aggregate d.config.failureThreshold outcome.problems))) now)
    (follows : (next outcome).Treats service R Q now) :
    (d.settle outcome >>= next).Treats service R Q now := by
  rw [settle, bind_assoc]
  refine .forM_emit_bind ?_
  rw [BatchOutcome.raiseIfExceeds]
  split
  · exact too_bad
  · exact follows

/-- **How a deployment concludes**: it reports what was done and what it has reaped, or it fails
because of its batch and does nothing more. -/
def Concludes (d : Deployer) (settings : RuntimeSettings) (plan : Plan) (outcome : BatchOutcome)
    (service : ServiceName) (before : Option RunningService) :
    Ending (Except DeployError DeployReport) → Option RunningService → Prop
  | .finished (.ok report), now => report.plan = plan.summary ∧ report.outcome = outcome ∧
    d.Accounts settings accumulating service before (.finished (.ok report.reaps)) now
  | .finished (.error e), now =>
    e = .aggregate d.config.failureThreshold outcome.problems ∧ now = before
  | .crashed _, _ => False

/-- **What a deployment does to a service when it concludes.** -/
theorem conclude_treats (plan : Plan) (outcome : BatchOutcome) :
    ((d.deploy requested resolved).conclude plan outcome).Treats service
      (Alters d.config.retention.keep service)
      (d.Concludes resolved.runtimeSettings plan outcome service now) now := by
  refine settle_bind_treats ⟨rfl, rfl⟩ (.bind ((reapAccumulating_treats accumulating).mono id
    fun {ending now'} accounts => ?_))
  rcases ending with (e | reaps) | payload
  · exact accounts.elim
  · exact ⟨rfl, rfl, accounts⟩
  · exact accounts.elim

/-! ### The batch -/

/-- The summary of a plan tells which services it dispatches, and how. -/
theorem mem_summary_iff {plan : Plan} {mode : DispatchMode} :
    ⟨service, .dispatch mode⟩ ∈ plan.summary ↔
      ∃ item ∈ plan.workItems, item.service.name = service ∧ item.mode = mode := by
  rw [Plan.summary, Plan.workItems]
  simp only [List.mem_map, List.mem_filterMap]
  constructor
  · rintro ⟨entry, mem, told⟩
    cases entry with
    | skipped => cases told
    | dispatched item =>
      cases told
      exact ⟨item, ⟨_, mem, rfl⟩, rfl, rfl⟩
  · rintro ⟨item, ⟨entry, mem, work⟩, rfl, rfl⟩
    cases entry with
    | skipped => cases work
    | dispatched item =>
      cases work
      exact ⟨_, mem, rfl⟩

/-- A report is that of a success if and only if the unit succeeded. -/
theorem ofReport_eq_success {name : ServiceName} {ending : Option UnitEnding} :
    UnitOutcome.ofReport name ending = ⟨service, none⟩ ↔
      name = service ∧ ending = some (.finished (.ok ())) := by
  rw [UnitOutcome.ofReport.eq_def, UnitOutcome.mk.injEq]
  refine and_congr_right fun _ => ?_
  rcases ending with _ | (e | _) | payload <;> simp [UnitOutcome.problemOf]

/-- A success is among the outcomes of a batch if and only if a unit for the service succeeded. -/
theorem mem_outcomes_iff {σ ρ : Type} {h : Handler σ} {op : BatchOperation ρ} {plan : Plan}
    {w w' : World σ} {arrivals : List (Nat × UnitEnding)} {strands : List Strand}
    (interleaved : Interleaved h ((op.units plan).map .ofUnit) w arrivals strands w')
    (service : ServiceName) :
    ⟨service, none⟩ ∈ (op.joined plan arrivals).outcomes ↔
      ∃ (i : Nat) (item : WorkItem), plan.workItems[i]? = some item ∧
        item.service.name = service ∧
        (Strand.fates strands)[i]? = some (some (.finished (.ok ()))) := by
  rw [BatchOperation.joined,
    BatchOutcome.collect_of_delivers interleaved.length_fates.symm interleaved.delivers]
  simp only [BatchOutcome.ofOutcomes, List.mem_iff_getElem?, List.getElem?_zipWith_eq_some,
    BatchOperation.units, List.map_map, List.getElem?_map, Option.map_eq_some_iff,
    Function.comp_apply, ofReport_eq_success]
  constructor
  · rintro ⟨i, -, fate, ⟨item, at_i, rfl⟩, ended, rfl, rfl⟩
    exact ⟨i, item, at_i, rfl, ended⟩
  · rintro ⟨i, item, at_i, rfl, ended⟩
    exact ⟨i, _, _, ⟨item, at_i, rfl⟩, ended, rfl, rfl⟩

section Batch

variable {f : Fleet} {plan : Plan} {outcome : BatchOutcome} {v : World Fleet}

/-- Preparing a deployment asks for no change. -/
theorem prepare_unchanging :
    (d.deploy requested resolved).prepare.AsksOnly fun c => c.changed? = none :=
  deploy_conduct.prepare.mono fun _ => by
    rintro ⟨s, -, -, rfl⟩
    rfl

/-- A preparation does not crash, and leaves every service as it is. -/
theorem running?_of_prepare {ending : Ending (Except DeployError Plan)}
    (prepared : (d.deploy requested resolved).prepare.run.run Fleet.respond ⟨f, []⟩ =
      (ending, v)) (service : ServiceName) :
    (∃ r, ending = .finished r) ∧
      v.state.infrastructure.running? service = f.infrastructure.running? service := by
  have treats : (d.deploy requested resolved).prepare.Treats service (fun _ _ => True)
      (fun ending now => (∃ r, ending = .finished r) ∧ now = f.infrastructure.running? service)
      (f.infrastructure.running? service) :=
    .of_none prepare_unchanging trivial fun r => ⟨⟨r, rfl⟩, rfl⟩
  exact Program.Treats.run (w := ⟨f, []⟩) treats prepared

/-- Where the services of a plan are distinct, no two items are for one service. -/
theorem place_unique (once : (plan.workItems.map (·.service.name)).Nodup) {i j : Nat}
    {item item' : WorkItem} (at_i : plan.workItems[i]? = some item)
    (at_j : plan.workItems[j]? = some item') (same : item'.service.name = item.service.name) :
    j = i := by
  have inside : j < (plan.workItems.map (·.service.name)).length := by
    rw [List.length_map]
    exact (List.getElem?_eq_some_iff.mp at_j).1
  refine (List.getElem?_inj inside once).mp ?_
  rw [List.getElem?_map, List.getElem?_map, at_i, at_j, Option.map_some, Option.map_some, same]

/-- Where the services of a plan are distinct, the unit of an item treats the service of the item,
and all others spare it. -/
theorem treats_of_item (once : (plan.workItems.map (·.service.name)).Nodup) {i : Nat}
    {item : WorkItem} (at_i : plan.workItems[i]? = some item) :
    Batch.Treats item.service.name (item.Leaves now) i
      (((d.deploy requested resolved).units plan).map .ofUnit) now where
  own := by
    refine ⟨.ofUnit ⟨item.service.name, item.dispatch d.dispatchConfig resolved⟩, ?_, ?_⟩
    · rw [BatchOperation.units, List.map_map, List.getElem?_map, at_i]
      rfl
    · exact item.dispatch_treats
  others j s other at_j := by
    rw [BatchOperation.units, List.map_map, List.getElem?_map, Option.map_eq_some_iff] at at_j
    obtain ⟨item', at_j, rfl⟩ := at_j
    rintro p ⟨⟩
    exact WorkItem.dispatch_spares (Or.inl fun same => other (place_unique once at_i at_j same))

/-- Where no item is for a service, all units spare it. -/
theorem spare_of_unplanned (unplanned : ∀ item ∈ plan.workItems, item.service.name ≠ service) :
    ∀ s ∈ ((d.deploy requested resolved).units plan).map Strand.ofUnit, s.Spares service := by
  rw [BatchOperation.units, List.map_map]
  intro s mem
  obtain ⟨item, planned, rfl⟩ := List.mem_map.mp mem
  rintro p ⟨⟩
  exact WorkItem.dispatch_spares (Or.inl (unplanned item planned))

/-- **What a batch makes of a service**, however its units are interleaved. -/
theorem made_of_carriesOut (distinct : (d.catalog.services.map (·.name)).Nodup)
    (carried : (d.deploy requested resolved).CarriesOut Fleet.respond ⟨f, []⟩ plan outcome v)
    (service : ServiceName) :
    ∃ made : Option Version,
      (made.isSome ↔ ⟨service, .dispatch .manual⟩ ∈ plan.summary ∧
        ⟨service, none⟩ ∈ outcome.outcomes) ∧
      Infrastructure.Made service (f.infrastructure.running? service) made
        (v.state.infrastructure.running? service) := by
  obtain ⟨prepared, interleaved⟩ := carried
  have unchanged := (running?_of_prepare prepared service).2
  have once := (deploy_plain distinct).distinct prepared
  have succeeded := mem_outcomes_iff interleaved service
  rw [BatchOperation.joined] at succeeded
  rw [mem_summary_iff, succeeded, ← unchanged]
  by_cases planned : ∃ (i : Nat) (item : WorkItem),
      plan.workItems[i]? = some item ∧ item.service.name = service
  · obtain ⟨i, item, at_i, rfl⟩ := planned
    obtain ⟨ending, fate, made, made_iff, provisioning⟩ :=
      interleaved.treated (treats_of_item once at_i)
    refine ⟨made, made_iff.trans ?_, provisioning⟩
    constructor
    · rintro ⟨mode, rfl⟩
      exact ⟨⟨item, List.mem_of_getElem? at_i, rfl, mode⟩, i, item, at_i, rfl, fate⟩
    · rintro ⟨⟨item', mem, same, mode⟩, j, item'', at_j, same', ended⟩
      obtain ⟨k, at_k⟩ := List.mem_iff_getElem?.mp mem
      -- The item is the only one of its service, so what is said of some item is said of it.
      obtain rfl := place_unique once at_i at_k same
      obtain rfl := place_unique once at_i at_j same'
      obtain rfl := Option.some.inj (at_i.symm.trans at_k)
      exact ⟨mode, Option.some.inj (Option.some.inj (fate.symm.trans ended))⟩
  · have unplanned : ∀ item ∈ plan.workItems, item.service.name ≠ service := by
      rintro item mem rfl
      obtain ⟨i, at_i⟩ := List.mem_iff_getElem?.mp mem
      exact planned ⟨i, item, at_i, rfl⟩
    refine ⟨none, iff_of_false Bool.false_ne_true ?_, interleaved.spared (spare_of_unplanned unplanned)⟩
    rintro ⟨⟨item, mem, same, -⟩, -⟩
    exact unplanned item mem same

end Batch

/-! ### Deployments -/

/-- **What a deployment makes of every service**: a version is made of the services that the plan has
provisioned directly and that have succeeded, and what the reports list is deleted. -/
def Makes (f : Fleet) (plan : Plan) (outcome : BatchOutcome) (reaps : List ReapReport)
    (g : Fleet) : Prop :=
  ∀ service, ∃ made : Option Version,
    (made.isSome ↔ ⟨service, .dispatch .manual⟩ ∈ plan.summary ∧
      ⟨service, none⟩ ∈ outcome.outcomes) ∧
    f.Becomes service made (deletedOf service reaps) g

/-- **How a deployment settles**, which it does in one of three ways: it is refused and nothing has
changed, it fails because of its batch and has reaped nothing, or it succeeds with a report on the
services that were reaped. -/
inductive Settles (d : Deployer) (requested : List ServiceName) (resolved : ResolvedConfiguration)
    (f : Fleet) : Ending (Except DeployError DeployReport) → World Fleet → Prop
  | refused {e w}
      (prepared : (d.deploy requested resolved).prepare.run.run Fleet.respond ⟨f, []⟩ =
        (.finished (.error e), w))
      (unchanged : ∀ service,
        w.state.infrastructure.running? service = f.infrastructure.running? service) :
      Settles d requested resolved f (.finished (.error e)) w
  | failed {plan outcome v w}
      (carried : (d.deploy requested resolved).CarriesOut Fleet.respond ⟨f, []⟩ plan outcome v)
      (makes : Makes f plan outcome [] w.state) :
      Settles d requested resolved f
        (.finished (.error (.aggregate d.config.failureThreshold outcome.problems))) w
  | succeeded {plan outcome v reaps w}
      (carried : (d.deploy requested resolved).CarriesOut Fleet.respond ⟨f, []⟩ plan outcome v)
      (reaped : (reaps.map (·.service)).Sublist
        (d.reapedNames resolved.runtimeSettings accumulating))
      (makes : Makes f plan outcome reaps w.state) :
      Settles d requested resolved f (.finished (.ok ⟨plan.summary, outcome, reaps⟩)) w

/-- **Every deployment settles**, in a catalog of distinct names, from whatever is running, whatever
faults are arranged, and however the units are interleaved. -/
theorem settles_of_deploy (distinct : (d.catalog.services.map (·.name)).Nodup) {f : Fleet}
    {ending : Ending (Except DeployError DeployReport)} {w : World Fleet}
    (ran : (d.deploy requested resolved).Runs Fleet.respond ⟨f, []⟩ ending w) :
    d.Settles requested resolved f ending w := by
  cases ran with
  | crashed prepared =>
    obtain ⟨r, ⟨⟩⟩ := (running?_of_prepare prepared "").1
  | refused prepared =>
    exact .refused prepared fun service => (running?_of_prepare prepared service).2
  | @carriedOut plan _ arrivals _ v _ _ prepared interleaved concluded =>
    have carried := BatchOperation.CarriesOut.intro prepared interleaved
    have concludes (service : ServiceName) :
        d.Concludes resolved.runtimeSettings plan
          ((d.deploy requested resolved).joined plan arrivals) service
          (v.state.infrastructure.running? service) ending
          (w.state.infrastructure.running? service) :=
      Program.Treats.run (conclude_treats plan _) concluded
    -- How a deployment ends is the same for every service, so that any name tells it.
    rcases ending with (e | report) | payload
    · obtain ⟨rfl, -⟩ := concludes ""
      refine .failed carried fun service => ?_
      obtain ⟨made, made_iff, provisioning⟩ := made_of_carriesOut distinct carried service
      refine ⟨made, made_iff, Fleet.becomes_of_made provisioning ?_⟩
      rw [(concludes service).2]
      simp [deletedOf]
    · obtain ⟨summary, outcome, reaps⟩ := report
      obtain ⟨rfl, rfl, reaped, -⟩ := concludes ""
      refine .succeeded carried reaped fun service => ?_
      obtain ⟨made, made_iff, provisioning⟩ := made_of_carriesOut distinct carried service
      exact ⟨made, made_iff, Fleet.becomes_of_made provisioning (concludes service).2.2.2⟩
    · exact (concludes "").elim

/-- One service is deployed while three versions of another one run: it has its first version, and
the oldest of the three is gone. -/
theorem settles_of_deploy_gateDeployed :
    (ofRunnerAndGate.catalog.services.map (·.name)).Nodup ∧
    ∃ plan outcome reaps,
      Makes (threeVersions 1) plan outcome reaps gateDeployed.2.state ∧
      plan.summary = [⟨"gate", .dispatch .manual⟩] ∧ outcome = .ofOutcomes [⟨"gate", none⟩] ∧
      deletedOf "orca" reaps = [1] ∧ deletedOf "gate" reaps = [] := by
  have distinct : (ofRunnerAndGate.catalog.services.map (·.name)).Nodup := by decide
  refine ⟨distinct, ?_⟩
  generalize ended : Ending.finished (Except.ok (⟨[⟨"gate", .dispatch .manual⟩],
    .ofOutcomes [⟨"gate", none⟩], [⟨"orca", [2, 3], [], [1], []⟩]⟩ : DeployReport)) = ending
  have settles := settles_of_deploy distinct (ended ▸ runs_gateDeployed)
  cases settles with
  | refused => cases ended
  | failed => cases ended
  | @succeeded plan outcome v reaps _ carried reaped makes =>
    obtain ⟨summary, rfl, rfl⟩ := DeployReport.mk.inj (Except.ok.inj (Ending.finished.inj ended))
    exact ⟨plan, _, _, makes, summary.symm, rfl, rfl, rfl⟩

end Deployer

end FleetDeploy
