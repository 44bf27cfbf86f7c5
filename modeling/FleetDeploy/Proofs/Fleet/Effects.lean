import FleetDeploy.Proofs.Fleet.Collaborators
import FleetDeploy.Proofs.SortedMap

/-!
# What a call does to one service

Two calls change what is running, and each of them changes one service: a provisioning that succeeds
puts one version on top of those that are there, and a deletion that succeeds takes one away. This
file says both of them twice. For a service it is said what becomes of its versions, so that nobody
has to look into the map of its instances again. For a fleet in memory it is said what a call may do
to some service, told from what the call is answered.

* `FleetDeploy.RunningService.newest`, `FleetDeploy.RunningService.without` – the number of the
  newest version, and what is left without some versions;
* `FleetDeploy.Infrastructure.toNat_nextVersion`, `FleetDeploy.Infrastructure.versions_provisioned`
  – the version that a provisioning makes, and where it is put;
* `FleetDeploy.Call.Affects`, `FleetDeploy.Fleet.affects` – what a call may do to one service, and
  that a fleet in memory does nothing else.
-/

namespace FleetDeploy

/-! ### Versions that come and go -/

namespace RunningService

variable {r : RunningService} {u v : Version} {n : Nat} {gone : List Version}

theorem versions_ascending (r : RunningService) : r.versions.Pairwise (· < ·) :=
  r.instances.keys_ascending

/-- The number of the newest version, nought where there is none. -/
def newest (r : RunningService) : Nat := r.versions.foldr (fun v n => max v.toNat n) 0

theorem newest_le_iff : r.newest ≤ n ↔ ∀ v ∈ r.versions, v.toNat ≤ n := by
  rw [newest]
  induction r.versions with
  | nil => simp
  | cons v rest ih => rw [List.foldr_cons, Nat.max_le, ih, List.forall_mem_cons]

theorem le_newest (mem : v ∈ r.versions) : v.toNat ≤ r.newest :=
  newest_le_iff.mp (Nat.le_refl _) v mem

/-- What is left without some versions. -/
def without (r : RunningService) (gone : List Version) : RunningService :=
  gone.foldl withoutVersion r

@[simp] theorem without_nil : r.without [] = r := rfl

theorem without_append (r : RunningService) (gone later : List Version) :
    r.without (gone ++ later) = (r.without gone).without later :=
  List.foldl_append

/-- From a service that has never been deployed nothing can be taken away. -/
theorem without_empty (service : ServiceName) (gone : List Version) :
    (empty service).without gone = empty service := by
  induction gone with
  | nil => rfl
  | cons v rest ih => exact ih

theorem without_singleton : r.without [v] = r.withoutVersion v := rfl

theorem versions_withoutVersion :
    (r.withoutVersion v).versions = r.versions.filter fun u => !decide (u = v) :=
  r.instances.keys_erase v

/-- Taking versions away takes these versions away, and nothing else. -/
theorem get?_without :
    (r.without gone).instances.get? u = if u ∈ gone then none else r.instances.get? u := by
  induction gone generalizing r with
  | nil => simp
  | cons v rest ih =>
    rw [← List.singleton_append, without_append, ih, without_singleton]
    show (if u ∈ rest then none else (r.instances.erase v).get? u) = _
    rw [SortedMap.get?_erase]
    by_cases first : u = v
    · simp [first]
    · simp [first]

theorem service_without : (r.without gone).service = r.service := by
  induction gone generalizing r with
  | nil => rfl
  | cons v rest ih => exact ih

theorem latestEnabled_without : (r.without gone).latestEnabled = r.latestEnabled := by
  induction gone generalizing r with
  | nil => rfl
  | cons v rest ih => exact ih

theorem loadBalancer_without : (r.without gone).loadBalancer = r.loadBalancer := by
  induction gone generalizing r with
  | nil => rfl
  | cons v rest ih => exact ih

end RunningService

namespace Infrastructure

variable {r : RunningService} {service : ServiceName} {u v : Version}

/-- The number of the newest version is that of the last one. -/
theorem newest_of_getLast? (last : r.versions.getLast? = some v) : r.newest = v.toNat := by
  obtain ⟨before, split⟩ := List.getLast?_eq_some_iff.mp last
  -- The versions ascend, so that the last one is the newest.
  have ascending := r.versions_ascending
  rw [split, List.pairwise_append] at ascending
  refine Nat.le_antisymm (RunningService.newest_le_iff.mpr fun u mem => ?_)
    (RunningService.le_newest (by simp [split]))
  rw [split, List.mem_append, List.mem_singleton] at mem
  rcases mem with mem | rfl
  · exact Nat.le_of_lt (UInt32.lt_iff_toNat_lt.mp (ascending.2.2 u mem v (by simp)))
  · exact Nat.le_refl _

/-- **The version that a provisioning makes** has the number after the newest one, or the first. -/
theorem toNat_nextVersion (next : nextVersion? r = some v) : v.toNat = r.newest + 1 := by
  rw [nextVersion?] at next
  rcases last : r.versions.getLast? with _ | newest
  · rw [last] at next
    obtain rfl := Option.some.inj next
    rw [RunningService.newest, List.getLast?_eq_none_iff.mp last]
    rfl
  · rw [last] at next
    simp only [Version.next?] at next
    split at next
    · next fits =>
      obtain rfl := Option.some.inj next
      rw [newest_of_getLast? last, UInt32.toNat_add]
      exact Nat.mod_eq_of_lt fits
    · cases next

theorem lt_nextVersion (next : nextVersion? r = some v) (mem : u ∈ r.versions) : u < v := by
  rw [UInt32.lt_iff_toNat_lt, toNat_nextVersion next]
  exact Nat.lt_succ_of_le (RunningService.le_newest mem)

/-- **A provisioning puts its version on top** of those that are there. -/
theorem versions_provisioned (next : nextVersion? r = some v) :
    (provisioned r service v).versions = r.versions ++ [v] :=
  SortedMap.keys_insert_of_forall_lt fun _ mem => lt_nextVersion next mem

theorem newest_provisioned (next : nextVersion? r = some v) :
    (provisioned r service v).newest = v.toNat :=
  newest_of_getLast? (by rw [versions_provisioned next, List.getLast?_concat])

/-- The new version has its one instance, and the others have those that they had. -/
theorem get?_provisioned :
    (provisioned r service v).instances.get? u =
      if u = v then some (.ofList [instanceName service v]) else r.instances.get? u :=
  SortedMap.get?_insert _ _ _ _

/-- What a provisioning makes is the next version. -/
theorem next_of_made {i : Infrastructure} {made : RunningService}
    (provided : i.provision service = .made made) :
    ∃ version, nextVersion? (i.details service) = some version ∧
      made = provisioned (i.details service) service version := by
  rw [provision] at provided
  split at provided
  · cases provided
  split at provided
  · cases provided
  simp only at provided
  split at provided
  · next version next => exact ⟨version, next, (Provisioning.made.inj provided).symm⟩
  · cases provided

end Infrastructure

/-! ### Calls -/

/-- What is running of a service, seen through a lookup: nothing if it has never been deployed. -/
abbrev Infrastructure.seen (service : ServiceName) (now : Option RunningService) : RunningService :=
  now.getD (.empty service)

/-- The service that a call may change. -/
def Call.changed? : Call → Option ServiceName
  | .ensureRunning service _ _ _ => some service.name
  | .deleteVersion service _ _ => some service.name
  | _ => none

open Infrastructure (seen nextVersion? provisioned) in
/-- **What a call may do to one service**, told from the reply: an inspection shows what is running, a
provisioning of the service that succeeds makes the next version, a deletion of the service that
succeeds takes its version away, and nothing else has an effect. Only a provisioning crashes. -/
def Call.Affects (service : ServiceName) :
    (c : Call) → Reply c → Option RunningService → Option RunningService → Prop
  | .inspect s _, .answered (.ok running), now, now' =>
    now' = now ∧ (s.name = service → running = seen service now)
  | .ensureRunning s _ _ _, .answered (.ok ()), now, now' =>
    if s.name = service then
      ∃ version, nextVersion? (seen service now) = some version ∧
        now' = some (provisioned (seen service now) service version)
    else now' = now
  | .deleteVersion s _ version, .answered (.ok ()), now, now' =>
    now' = if s.name = service then now.map (·.withoutVersion version) else now
  | .ensureRunning .., _, now, now' => now' = now
  | _, .answered _, now, now' => now' = now
  | _, .crashed _, _, _ => False

namespace Call.Affects

variable {service : ServiceName} {c : Call} {reply : Reply c} {now now' : Option RunningService}

/-- A call that is not about a service leaves it alone. -/
theorem eq_of_ne (affects : c.Affects service reply now now') (other : c.changed? ≠ some service) :
    now' = now := by
  cases c with
  | inspect s settings =>
    rcases reply with (e | running) | payload
    · exact affects
    · exact affects.1
    · exact affects.elim
  | ensureRunning s resolved configs safe =>
    have other : s.name ≠ service := fun same => other (congrArg some same)
    rcases reply with (e | _) | payload
    · exact affects
    · rwa [Affects, if_neg other] at affects
    · exact affects
  | deleteVersion s own version =>
    have other : s.name ≠ service := fun same => other (congrArg some same)
    rcases reply with (e | _) | payload
    · exact affects
    · rwa [Affects, if_neg other] at affects
    · exact affects.elim
  | _ =>
    rcases reply with answer | payload
    · exact affects
    · exact affects.elim

/-- A call that changes nothing does not crash. -/
theorem not_crashed {payload : Option String} (unchanging : c.changed? = none) :
    ¬c.Affects service (.crashed payload) now now' := by
  cases c with
  | ensureRunning => cases unchanging
  | _ => exact id

end Call.Affects

namespace Fleet

variable (f : Fleet) (service : ServiceName)

theorem affects_ensureRunning (s : Service) (resolved : ResolvedConfiguration)
    (configs : List ConfigSource) (safe : Bool) :
    (Call.ensureRunning s resolved configs safe).Affects service
      (respond (.ensureRunning s resolved configs safe) f).1 (f.infrastructure.running? service)
      ((respond (.ensureRunning s resolved configs safe) f).2.infrastructure.running? service) := by
  simp only [respond, Infrastructure.ensureRunning]
  rcases provided : f.infrastructure.provision s.name with text | p | made
  · exact rfl
  · exact rfl
  · have after : (f.infrastructure.running.insert s.name made).get? service =
        if service = s.name then some made else f.infrastructure.running? service :=
      SortedMap.get?_insert _ _ _ _
    simp only [Call.Affects]
    split
    · next same =>
      subst same
      obtain ⟨version, next, rfl⟩ := Infrastructure.next_of_made provided
      exact ⟨version, next, after.trans (if_pos rfl)⟩
    · next other => exact after.trans (if_neg (Ne.symm other))

theorem affects_deleteVersion (s : Service) (own : ServiceSettings) (version : Version) :
    (Call.deleteVersion s own version).Affects service
      (respond (.deleteVersion s own version) f).1 (f.infrastructure.running? service)
      ((respond (.deleteVersion s own version) f).2.infrastructure.running? service) := by
  have after := f.infrastructure.running?_deleteVersion s.name version service
  simp only [respond, Infrastructure.deleteVersion] at after ⊢
  rcases arranged : f.infrastructure.deleteFailure? s.name version with _ | p
  · rw [arranged] at after
    refine after.trans ?_
    by_cases same : s.name = service
    · simp [same]
    · simp [same, Ne.symm same]
  · exact rfl

/-- **A fleet in memory does nothing else to a service.** -/
theorem affects (c : Call) :
    c.Affects service (respond c f).1 (f.infrastructure.running? service)
      ((respond c f).2.infrastructure.running? service) := by
  cases c with
  | inspect s settings =>
    simp only [respond, Infrastructure.inspect]
    rcases f.infrastructure.inspectionFailures.get? s.name with _ | p
    · refine ⟨rfl, ?_⟩
      rintro rfl
      rfl
    · exact rfl
  | ensureRunning s resolved configs safe =>
    exact affects_ensureRunning f service s resolved configs safe
  | deleteVersion s own version => exact affects_deleteVersion f service s own version
  | _ => exact rfl

end Fleet

end FleetDeploy
