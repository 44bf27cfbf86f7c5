import FleetDeploy.Proofs.Batch.Moments
import FleetDeploy.Proofs.Deployer.Running
import Mathlib.Logic.Relation

/-!
# Version numbers over time

The number of a new version is the one after the newest version that is there, and nothing remembers
the versions that are not there any more. So that a number is never given twice is no law of the
infrastructure. It is a law of the deployer: its passes leave the newest version alone, which in turn
needs that a valid configuration keeps at least one. The invariant is about one step at a time. Every
step of every call, and every rearrangement of what fails and of what is in use, changes a service in
one of the ways of `FleetDeploy.RunningService.Changes`, and none of these lets the newest number
fall.

* `FleetDeploy.RunningService.Changes.newest_le` and its companions – what a change keeps;
* `FleetDeploy.BatchOperation.Careful`, `FleetDeploy.BatchOperation.Moves.changes` – a call every
  step of which is such a change;
* `FleetDeploy.Activity`, `FleetDeploy.Deployer.Proceeds` – a deployer over time, one call after the
  other, each of them step by step;
* `FleetDeploy.Deployer.numbers_never_reused` – what holds of all times.
-/

namespace FleetDeploy

open Infrastructure (seen nextVersion? provisioned)

/-! ### What a change keeps -/

namespace RunningService

variable {keep : Nat} {r r' : RunningService} {u v : Version}

/-- The version that serves, if any is said to serve, is the newest one. -/
def ServesNewest (r : RunningService) : Prop :=
  ∀ v, r.latestEnabled = some v → v ∈ r.versions ∧ ∀ u ∈ r.versions, u ≤ v

theorem length_versions : r.versions.length = r.versionCount := r.instances.length_keys

namespace Changes

/-- The newest number does not fall. -/
theorem newest_le (some_kept : 0 < keep) (changes : r.Changes keep r') : r.newest ≤ r'.newest := by
  cases changes with
  | same => exact Nat.le_refl _
  | grown service next =>
    rw [Infrastructure.newest_provisioned next, Infrastructure.toNat_nextVersion next]
    exact Nat.le_succ _
  | @shrunk version newer =>
    -- Something newer than the version that goes is there, and stays.
    obtain ⟨x, there, above⟩ := List.countP_pos_iff.mp (Nat.lt_of_lt_of_le some_kept newer)
    have above : version < x := of_decide_eq_true above
    have stays {y : Version} (mem : y ∈ r.versions) (other : y ≠ version) :
        y.toNat ≤ (r.withoutVersion version).newest :=
      le_newest (Fleet.mem_versions_withoutVersion.mpr ⟨mem, other⟩)
    refine newest_le_iff.mpr fun y mem => ?_
    by_cases gone : y = version
    · have higher := stays there (by rintro rfl; exact absurd above (by grind))
      rw [gone]
      exact Nat.le_trans (Nat.le_of_lt (UInt32.lt_iff_toNat_lt.mp above)) higher
    · exact stays mem gone

/-- As many versions remain as are kept, or as there were. -/
theorem count (changes : r.Changes keep r') : min keep r.versionCount ≤ r'.versionCount := by
  cases changes with
  | same => exact Nat.min_le_right _ _
  | grown service next =>
    rw [← length_versions (r := provisioned _ _ _), Infrastructure.versions_provisioned next,
      List.length_append, length_versions]
    omega
  | @shrunk version newer =>
    refine Nat.le_trans (Nat.min_le_left _ _) (Nat.le_trans newer ?_)
    rw [← length_versions, versions_withoutVersion, ← List.countP_eq_length_filter]
    refine List.countP_mono_left fun u _ above => ?_
    have above : version < u := of_decide_eq_true above
    have other : u ≠ version := by grind
    simpa using other

/-- A version that comes into being is newer than all others. -/
theorem fresh (changes : r.Changes keep r') (there : v ∈ r'.versions) (absent : v ∉ r.versions) :
    r.newest < v.toNat := by
  cases changes with
  | same => exact absurd there absent
  | grown service next =>
    rw [Infrastructure.versions_provisioned next, List.mem_append, List.mem_singleton] at there
    obtain rfl := there.resolve_left absent
    rw [Infrastructure.toNat_nextVersion next]
    exact Nat.lt_succ_self _
  | shrunk newer => exact absurd (Fleet.mem_versions_withoutVersion.mp there).1 absent

theorem servesNewest (some_kept : 0 < keep) (changes : r.Changes keep r')
    (before : r.ServesNewest) : r'.ServesNewest := by
  cases changes with
  | same => exact before
  | @grown version service next =>
    rintro v ⟨⟩
    rw [Infrastructure.versions_provisioned next]
    refine ⟨by simp, fun u mem => ?_⟩
    rcases List.mem_append.mp mem with mem | mem
    · have := Infrastructure.lt_nextVersion next mem
      grind
    · rw [List.mem_singleton.mp mem]
      grind
  | @shrunk version newer =>
    intro v serving
    obtain ⟨there, newest⟩ := before v serving
    obtain ⟨x, mem, above⟩ := List.countP_pos_iff.mp (Nat.lt_of_lt_of_le some_kept newer)
    have above : version < x := of_decide_eq_true above
    have below := newest x mem
    refine ⟨Fleet.mem_versions_withoutVersion.mpr ⟨there, by grind⟩, fun u mem => ?_⟩
    exact newest u (Fleet.mem_versions_withoutVersion.mp mem).1

end Changes

end RunningService

/-- A call that deletes nothing changes a service as it may. -/
theorem Call.Affects.alters {keep : Nat} {service : ServiceName} {c : Call} {reply : Reply c}
    {now now' : Option RunningService} (deletes_nothing : ¬c.IsDeletion)
    (affects : c.Affects service reply now now') : Alters keep service now now' := by
  cases c with
  | ensureRunning s resolved configs safe =>
    rcases reply with (e | _) | payload
    · obtain rfl : now' = now := affects
      exact .same _
    · rw [Call.Affects] at affects
      split at affects
      · obtain ⟨version, next, rfl⟩ := affects
        exact .grown service next
      · subst affects
        exact .same _
    · obtain rfl : now' = now := affects
      exact .same _
  | deleteVersion => exact absurd rfl deletes_nothing
  | _ =>
    obtain rfl := affects.eq_of_ne (by simp [Call.changed?])
    exact .same _

/-! ### Calls, step by step -/

/-- **Fleets between which every service has changed** in one of the ways in which it may. -/
def Fleet.Changes (keep : Nat) (f g : Fleet) : Prop :=
  ∀ service, (f.infrastructure.details service).Changes keep (g.infrastructure.details service)

theorem Fleet.Changes.of_running {keep : Nat} {f g : Fleet}
    (same : g.infrastructure.running = f.infrastructure.running) : f.Changes keep g := by
  intro service
  have details : g.infrastructure.details service = f.infrastructure.details service := by
    rw [Infrastructure.details, Infrastructure.details, Infrastructure.running?,
      Infrastructure.running?, same]
  rw [details]
  exact .same _

/-- **What may still happen to a fleet**: a program that changes every service as it may, whatever
comes of it. -/
def Program.Careful {α : Type} (keep : Nat) (p : Program α) (f : Fleet) : Prop :=
  ∀ service, p.Treats service (Alters keep service) (fun _ _ => True)
    (f.infrastructure.running? service)

namespace Program

variable {α : Type} {keep : Nat} {p : Program α} {w w' : World Fleet}

/-- A program that asks for no deletion is careful with every fleet. -/
theorem AsksOnly.careful (asks : p.AsksOnly fun c => ¬c.IsDeletion) (f : Fleet) :
    p.Careful keep f :=
  fun _ => asks.treats Call.Affects.alters

/-- **A step of a careful program** is a change, and leaves a careful program. -/
theorem Careful.step {progress : Progress α} (careful : p.Careful keep w.state)
    (stepped : p.step Fleet.respond w = (progress, w')) :
    w.state.Changes keep w'.state ∧
      ∀ rest, progress = .going rest → rest.Careful keep w'.state := by
  refine ⟨fun service => ?_, ?_⟩
  · rcases ((careful service).step stepped).1 with altered | same
    · exact altered
    · rw [Infrastructure.details, Infrastructure.details, same]
      exact .same _
  · rintro rest rfl service
    exact ((careful service).step stepped).2

end Program

/-- **A careful call**: while it prepares and while its units work it deletes nothing, and when it
concludes it changes every service as it may. -/
structure BatchOperation.Careful {ρ : Type} (keep : Nat) (op : BatchOperation ρ) : Prop where
  prepare : op.prepare.AsksOnly fun c => ¬c.IsDeletion
  body : ∀ item, (op.body item).AsksOnly fun c => ¬c.IsDeletion
  conclude : ∀ plan outcome f, (op.conclude plan outcome).run.Careful keep f

/-- What may still happen at some moment of a careful call. -/
def Moment.Careful {ρ : Type} (keep : Nat) : Moment ρ → Fleet → Prop
  | .preparing rest, _ => rest.AsksOnly fun c => ¬c.IsDeletion
  | .carryingOut _ strands _, _ => ∀ s ∈ strands, ∀ p, s.progress = .going p →
    p.AsksOnly fun c => ¬c.IsDeletion
  | .concluding _ _ rest, f => rest.Careful keep f
  | .closed _, _ => True

namespace BatchOperation

variable {ρ : Type} {keep : Nat} {op : BatchOperation ρ} {m m' : Moment ρ} {v v' : World Fleet}

/-- **Every step of a careful call is a change**, and what is left is as careful. -/
theorem Moves.changes (careful : op.Careful keep) (moves : op.Moves Fleet.respond m v m' v')
    (before : m.Careful keep v.state) :
    v.state.Changes keep v'.state ∧ m'.Careful keep v'.state := by
  cases moves with
  | @prepare p _ progress _ stepped =>
    have asks : p.AsksOnly fun c => ¬c.IsDeletion := before
    refine ⟨((asks.careful v.state).step stepped).1, ?_⟩
    rcases progress with ((e | plan) | payload) | rest
    · trivial
    · -- The units that are begun delete nothing.
      intro s mem p going
      obtain ⟨unit, listed, rfl⟩ := List.mem_map.mp mem
      obtain ⟨item, planned, rfl⟩ := List.mem_map.mp listed
      obtain rfl := Program.Progress.going.inj going
      exact careful.body item
    · trivial
    · exact asks.step stepped
  | @work plan strands _ _ i own p progress steps state at_i stepped =>
    have asks : p.AsksOnly fun c => ¬c.IsDeletion := before _ (List.mem_of_getElem? at_i) p rfl
    refine ⟨((asks.careful v.state).step (w := ⟨v.state, []⟩) stepped).1, ?_⟩
    intro s mem p' going
    rcases List.mem_or_eq_of_mem_set mem with mem | rfl
    · exact before s mem p' going
    · cases going
      exact asks.step stepped
  | join all => exact ⟨.of_running rfl, careful.conclude _ _ _⟩
  | @conclude plan outcome p _ progress _ stepped =>
    have rest_careful : p.Careful keep v.state := before
    obtain ⟨changes, rest⟩ := rest_careful.step stepped
    refine ⟨changes, ?_⟩
    cases progress with
    | ended ending => trivial
    | going p' => exact rest p' rfl

/-- A step that makes a call does to a service what the call may do to it. -/
theorem Moves.affects (moves : op.Moves Fleet.respond m v m' v') {c : Call} {reply : Reply c}
    (made : v'.journal = .called c reply :: v.journal) (service : ServiceName) :
    c.Affects service reply (v.state.infrastructure.running? service)
      (v'.state.infrastructure.running? service) := by
  cases moves with
  | prepare stepped => exact Program.affects_of_step stepped made service
  | work at_i stepped =>
    have one := List.append_cancel_right (made.trans (List.singleton_append (l := v.journal)).symm)
    have affects := Program.affects_of_step (w := ⟨v.state, []⟩) stepped one service
    exact affects
  | join all => exact absurd made.symm (List.cons_ne_self _ _)
  | conclude stepped => exact Program.affects_of_step stepped made service

end BatchOperation

/-! ### A deployer over time -/

/-- What a deployer is about: nothing, or some moment of a call. -/
inductive Phase
  | idle
  | deploying (requested : List ServiceName) (resolved : ResolvedConfiguration)
      (moment : Moment DeployReport)
  | rollingBack (requested : List ServiceName) (resolved : ResolvedConfiguration)
      (moment : Moment RollbackReport)

/-- What a deployer is about, with the fleet and everything that has been done to it. -/
structure Activity where
  phase : Phase
  world : World Fleet

/-- What is running of a service. -/
def Activity.details (a : Activity) (service : ServiceName) : RunningService :=
  a.world.state.infrastructure.details service

namespace Deployer

variable {d : Deployer} {requested : List ServiceName} {resolved : ResolvedConfiguration}
  {a b c : Activity} {keep : Nat} {service : ServiceName}

/-- **One step of a deployer over time.** A deployment or a rollback is begun, a call that has been
begun takes a step, or it is left, be it over or not. In between the fleet may be rearranged in every
way in which the same versions keep running: what fails may change, and what is in use. -/
inductive Proceeds (d : Deployer) : Activity → Activity → Prop
  | deploy {w} (requested : List ServiceName) (resolved : ResolvedConfiguration) :
      Proceeds d ⟨.idle, w⟩
        ⟨.deploying requested resolved (.preparing (d.deploy requested resolved).prepare.run), w⟩
  | rollback {w} (requested : List ServiceName) (resolved : ResolvedConfiguration) :
      Proceeds d ⟨.idle, w⟩
        ⟨.rollingBack requested resolved (.preparing (d.rollback requested resolved).prepare.run),
          w⟩
  | deploying {requested resolved m w m' w'}
      (moves : (d.deploy requested resolved).Moves Fleet.respond m w m' w') :
      Proceeds d ⟨.deploying requested resolved m, w⟩ ⟨.deploying requested resolved m', w'⟩
  | rollingBack {requested resolved m w m' w'}
      (moves : (d.rollback requested resolved).Moves Fleet.respond m w m' w') :
      Proceeds d ⟨.rollingBack requested resolved m, w⟩ ⟨.rollingBack requested resolved m', w'⟩
  | leave {phase w} : Proceeds d ⟨phase, w⟩ ⟨.idle, w⟩
  | rearrange {phase w f} (same : f.infrastructure.running = w.state.infrastructure.running) :
      Proceeds d ⟨phase, w⟩ ⟨phase, { w with state := f }⟩

/-- A deployer that comes from one point to another one in some steps. -/
abbrev Leads (d : Deployer) : Activity → Activity → Prop := Relation.ReflTransGen d.Proceeds

theorem deploy_careful : (d.deploy requested resolved).Careful d.config.retention.keep where
  prepare := deploy_conduct.prepare.mono fun _ inspects => inspects.not_isDeletion
  body item := (item.dispatch_asksOnly d.dispatchConfig resolved).mono fun _ asks =>
    asks.not_isDeletion
  conclude plan outcome _ _ := (conclude_treats plan outcome).mono id fun _ => trivial

theorem rollback_careful (keep : Nat) : (d.rollback requested resolved).Careful keep where
  prepare := rollback_conduct.prepare.mono fun _ inspects => inspects.not_isDeletion
  body item := (item.dispatch_asksOnly d.dispatchConfig resolved).mono fun _ asks =>
    asks.not_isDeletion
  conclude plan outcome f :=
    (Program.AsksOnly.mono (fun _ => False.elim) (rollback_conduct.conclude plan outcome)).careful f

/-- **The invariant**: what is left of a call that has been begun is careful. -/
def Careful (keep : Nat) : Activity → Prop
  | ⟨.idle, _⟩ => True
  | ⟨.deploying _ _ m, w⟩ => m.Careful keep w.state
  | ⟨.rollingBack _ _ m, w⟩ => m.Careful keep w.state

/-- What may still happen does not depend on what fails and what is in use. -/
theorem careful_of_running {ρ : Type} {m : Moment ρ} {f g : Fleet}
    (same : g.infrastructure.running = f.infrastructure.running) (careful : m.Careful keep f) :
    m.Careful keep g := by
  cases m with
  | concluding plan outcome rest =>
    intro service
    rw [Infrastructure.running?, same]
    exact careful service
  | _ => exact careful

/-- **Every step of a deployer is a change**, and keeps the invariant. -/
theorem Proceeds.changes (proceeds : d.Proceeds a b) (careful : Careful d.config.retention.keep a) :
    a.world.state.Changes d.config.retention.keep b.world.state ∧
      Careful d.config.retention.keep b := by
  cases proceeds with
  | deploy requested resolved => exact ⟨.of_running rfl, deploy_careful.prepare⟩
  | rollback requested resolved =>
    exact ⟨.of_running rfl, (rollback_careful d.config.retention.keep).prepare⟩
  | deploying moves => exact moves.changes deploy_careful careful
  | rollingBack moves => exact moves.changes (rollback_careful _) careful
  | leave => exact ⟨.of_running rfl, trivial⟩
  | @rearrange phase w f same =>
    refine ⟨.of_running same, ?_⟩
    cases phase with
    | idle => trivial
    | deploying requested resolved m => exact careful_of_running same careful
    | rollingBack requested resolved m => exact careful_of_running same careful

/-- So all that is ever left is careful. -/
theorem Leads.careful (leads : d.Leads a b) (careful : Careful d.config.retention.keep a) :
    Careful d.config.retention.keep b := by
  induction leads with
  | refl => exact careful
  | tail _ proceeds ih => exact (proceeds.changes ih).2

/-- Over time the newest number does not fall, and as many versions remain as are kept, or as there
were. -/
theorem Leads.newest_count (some_kept : 0 < d.config.retention.keep) (leads : d.Leads a b)
    (careful : Careful d.config.retention.keep a) :
    (a.details service).newest ≤ (b.details service).newest ∧
      min d.config.retention.keep (a.details service).versionCount ≤
        (b.details service).versionCount := by
  induction leads with
  | refl => exact ⟨Nat.le_refl _, Nat.min_le_right _ _⟩
  | tail so_far proceeds ih =>
    have changes := (proceeds.changes (Leads.careful so_far careful)).1 service
    have newest := changes.newest_le some_kept
    -- A step that leaves fewer than are kept has taken none away.
    have count := changes.count
    exact ⟨Nat.le_trans ih.1 newest,
      Nat.le_trans (Nat.le_min.mpr ⟨Nat.min_le_left _ _, ih.2⟩) count⟩

/-- Over time the newest version keeps serving, if any is said to. -/
theorem Leads.servesNewest (some_kept : 0 < d.config.retention.keep) (leads : d.Leads a b)
    (careful : Careful d.config.retention.keep a) (before : (a.details service).ServesNewest) :
    (b.details service).ServesNewest := by
  induction leads with
  | refl => exact before
  | tail so_far proceeds ih =>
    exact ((proceeds.changes (Leads.careful so_far careful)).1 service).servesNewest some_kept ih

/-- A provisioning that succeeds makes the next version, whenever it is asked for. -/
theorem Proceeds.created {s : Service} {configs : List ConfigSource} {safe : Bool}
    (proceeds : d.Proceeds a b)
    (made : b.world.journal =
      .called (.ensureRunning s resolved configs safe) (.answered (.ok ())) :: a.world.journal) :
    ∃ version, nextVersion? (a.details s.name) = some version ∧
      b.details s.name = provisioned (a.details s.name) s.name version := by
  have affects : (Call.ensureRunning s resolved configs safe).Affects s.name (.answered (.ok ()))
      (a.world.state.infrastructure.running? s.name)
      (b.world.state.infrastructure.running? s.name) := by
    cases proceeds with
    | deploying moves => exact moves.affects made s.name
    | rollingBack moves => exact moves.affects made s.name
    | _ => exact absurd made.symm (List.cons_ne_self _ _)
  rw [Call.Affects, if_pos rfl] at affects
  obtain ⟨version, next, after⟩ := affects
  refine ⟨version, next, ?_⟩
  rw [Activity.details, Infrastructure.details, after]
  rfl

/-- **What has become of a service by a later time**: its newest number has not fallen, and as many
of its versions remain as are kept, or as there were; and whatever comes into being next, by a
provisioning or at all, is newer than all there was at the earlier time. -/
structure Later (d : Deployer) (service : ServiceName) (a b : Activity) : Prop where
  newest : (a.details service).newest ≤ (b.details service).newest
  count : min d.config.retention.keep (a.details service).versionCount ≤
    (b.details service).versionCount
  fresh : ∀ {c : Activity}, d.Proceeds b c → ∀ v ∈ (c.details service).versions,
    v ∉ (b.details service).versions → ∀ u ∈ (a.details service).versions, u < v
  created : ∀ {c : Activity} {s : Service} {resolved : ResolvedConfiguration}
      {configs : List ConfigSource} {safe : Bool}, d.Proceeds b c → s.name = service →
    c.world.journal =
        .called (.ensureRunning s resolved configs safe) (.answered (.ok ())) :: b.world.journal →
      ∃ v, (c.details service).versions = (b.details service).versions ++ [v] ∧
        (c.details service).latestEnabled = some v ∧ ∀ u ∈ (a.details service).versions, u < v

/-- **No version number is used twice.** Over all the time of a deployer that could be made, from
whatever was running at first, the numbers of a service only rise, and the calls leave as many
versions as are kept. If at first the newest version served, or none was said to, this is so at all
times. -/
theorem numbers_never_reused {catalog : Catalog} {config : DeployerConfig}
    {given : List Collaborator} (built : build catalog config given = .ok d) {f : Fleet}
    (begun : d.Leads ⟨.idle, ⟨f, []⟩⟩ a) (leads : d.Leads a b) (service : ServiceName) :
    d.Later service a b ∧
      ((f.infrastructure.details service).ServesNewest → (b.details service).ServesNewest) := by
  have some_kept := keep_pos_of_build built
  have careful_a : Careful d.config.retention.keep a := begun.careful trivial
  have careful_b := leads.careful careful_a
  obtain ⟨newest, count⟩ : (a.details service).newest ≤ (b.details service).newest ∧
      min d.config.retention.keep (a.details service).versionCount ≤
        (b.details service).versionCount :=
    leads.newest_count some_kept careful_a
  -- What is newer than the newest version of now is newer than everything there was.
  have above {v : Version} (newer : (b.details service).newest < v.toNat) :
      ∀ u ∈ (a.details service).versions, u < v := by
    intro u there
    have low := Nat.le_trans (RunningService.le_newest there) newest
    exact UInt32.lt_iff_toNat_lt.mpr (Nat.lt_of_le_of_lt low newer)
  refine ⟨⟨newest, count, fun proceeds v there absent => ?_, ?_⟩, fun before => ?_⟩
  · exact above (((proceeds.changes careful_b).1 service).fresh there absent)
  · rintro c s resolved configs safe proceeds rfl made
    obtain ⟨version, next, after⟩ := proceeds.created made
    refine ⟨version, ?_, ?_, above ?_⟩
    · rw [after, Infrastructure.versions_provisioned next]
    · rw [after]
      rfl
    · rw [Infrastructure.toNat_nextVersion next]
      exact Nat.lt_succ_self _
  · exact Leads.servesNewest some_kept (begun.trans leads) trivial before

/-! ### Whole calls -/

/-- A deployment is a stretch of the time of its deployer. -/
theorem leads_of_deploy {w w' : World Fleet} {ending : Ending (Except DeployError DeployReport)}
    (ran : (d.deploy requested resolved).Runs Fleet.respond w ending w') :
    d.Leads ⟨.idle, w⟩ ⟨.idle, w'⟩ := by
  have reached {m : Moment DeployReport} {v : World Fleet}
      (reaches : (d.deploy requested resolved).Reaches Fleet.respond w m v) :
      d.Leads ⟨.idle, w⟩ ⟨.deploying requested resolved m, v⟩ := by
    induction reaches with
    | start => exact .single (.deploy requested resolved)
    | move so_far moves ih => exact ih.tail (.deploying moves)
  exact (reached ran.reaches).tail .leave

/-- While one service is deployed, the oldest of three versions of another one is deleted. Two are
kept, and the version that is made is the first of its service, which serves. -/
theorem numbers_never_reused_gateDeployed :
    build ofRunnerAndGate.catalog {} Collaborator.all = .ok ofRunnerAndGate ∧
    ofRunnerAndGate.Leads ⟨.idle, ⟨threeVersions 1, []⟩⟩ ⟨.idle, gateDeployed.2⟩ ∧
    ofRunnerAndGate.Later "orca" ⟨.idle, ⟨threeVersions 1, []⟩⟩ ⟨.idle, gateDeployed.2⟩ ∧
    (gateDeployed.2.state.infrastructure.details "gate").ServesNewest := by
  have leads := leads_of_deploy runs_gateDeployed
  refine ⟨build_runnerAndGate, leads, ?_, ?_⟩
  · exact (numbers_never_reused build_runnerAndGate .refl leads "orca").1
  · exact (numbers_never_reused build_runnerAndGate .refl leads "gate").2 nofun

end Deployer

end FleetDeploy
