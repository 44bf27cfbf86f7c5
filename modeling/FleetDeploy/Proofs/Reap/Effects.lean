import FleetDeploy.Proofs.Program.Effects
import FleetDeploy.Proofs.Reap.Selection
import FleetDeploy.Proofs.Reap.Usage
import FleetDeploy.Reap.Pass

/-!
# What a pass does to a service

A pass over a fleet in memory takes one version after the other away, and its report tells which.
Two things are said of it here. The report accounts for everything: what is left is what was there,
without the versions that the report lists as deleted, and a pass that fails has left everything as
it was. And at no moment is a version taken away that has fewer than the kept number of newer ones
above it: the versions are selected from a snapshot, but they go from the oldest to the newest, so
that those above are all still there when a version has its turn.

* `FleetDeploy.RunningService.Changes` – the changes that a service may undergo;
* `FleetDeploy.ReapReport.gone` – what a report says was deleted of a service;
* `FleetDeploy.Reap.pass_treats` – what a pass does to a service, its own or another one.
-/

namespace FleetDeploy

open Infrastructure (seen nextVersion? provisioned)

/-- **The changes that a service may undergo**: none, the next version on top of the others, or one
version less, of which at least `keep` newer ones remain. -/
inductive RunningService.Changes (keep : Nat) : RunningService → RunningService → Prop
  | same (r : RunningService) : Changes keep r r
  | grown {r version} (service : ServiceName) (next : nextVersion? r = some version) :
      Changes keep r (provisioned r service version)
  | shrunk {r version} (newer : keep ≤ r.versions.countP fun u => decide (version < u)) :
      Changes keep r (r.withoutVersion version)

/-- What may happen to a service that is looked up by its name. -/
abbrev Alters (keep : Nat) (service : ServiceName) (now now' : Option RunningService) : Prop :=
  (seen service now).Changes keep (seen service now')

/-- What a report says was deleted of a service. -/
def ReapReport.gone (service : ServiceName) (report : ReapReport) : List Version :=
  if report.service = service then report.deleted else []

namespace Reap

variable {keep : Nat} {service : Service} {s : ServiceName} {own : ServiceSettings}
  {settings : RuntimeSettings} {before now now' : Option RunningService}

/-- **A report accounts for what was done** since there was `before`: it is about the service of the
pass, and what it lists as deleted is what is missing. Where there is no report nothing is. -/
def Accounts (service : Service) (s : ServiceName) (before : Option RunningService) :
    Ending (Except DeployError ReapReport) → Option RunningService → Prop
  | .finished (.ok report), now =>
    report.service = service.name ∧ now = before.map (·.without (report.gone s))
  | .finished (.error _), now => now = before
  | .crashed _, _ => False

/-- A deletion that is answered takes its version away if and only if it is noted as deleted. -/
theorem eq_of_deletion {version : Version} {answer : Except DeployError Unit} {report : ReapReport}
    (own_service : report.service = service.name)
    (so_far : now = before.map (·.without (report.gone s)))
    (affects : (Call.deleteVersion service own version).Affects s (.answered answer) now now') :
    now' = before.map (·.without ((note report version answer).gone s)) := by
  rcases answer with e | _
  · obtain rfl : now' = now := affects
    rw [so_far]
    rfl
  · have after : now' = if service.name = s then now.map (·.withoutVersion version) else now :=
      affects
    rw [after, so_far]
    show _ = before.map fun r => r.without
      (if report.service = s then report.deleted ++ [version] else [])
    rw [ReapReport.gone, own_service]
    split
    · rw [Option.map_map]
      congr 1
      funext r
      exact (RunningService.without_append r report.deleted [version]).symm
    · rfl

/-- While the oldest version is taken away, the later ones keep the newer ones that they have. -/
theorem countP_withoutVersion {r : RunningService} {u v : Version} (older : u < v) :
    ((r.withoutVersion u).versions.countP fun x => decide (v < x)) =
      r.versions.countP fun x => decide (v < x) := by
  rw [RunningService.versions_withoutVersion, List.countP_filter]
  refine List.countP_congr fun x _ => ?_
  have other : v < x → x ≠ u := by
    rintro newer rfl
    grind
  simpa using other

/-- **A deletion that has enough newer versions above it** is a change, and the versions that are to
come after it have as many newer ones as before, whatever is answered. -/
theorem changes_of_deletion {v : Version} {rest : List Version} {answer : Except DeployError Unit}
    (oldest : ∀ u ∈ rest, v < u)
    (newer : service.name = s → ∀ u ∈ v :: rest,
      keep ≤ (seen s now).versions.countP fun x => decide (u < x))
    (affects : (Call.deleteVersion service own v).Affects s (.answered answer) now now') :
    Alters keep s now now' ∧ (service.name = s → ∀ u ∈ rest,
      keep ≤ (seen s now').versions.countP fun x => decide (u < x)) := by
  have later := fun same u mem => newer same u (List.mem_cons_of_mem v mem)
  rcases answer with e | _
  · obtain rfl : now' = now := affects
    exact ⟨.same _, later⟩
  · have after : now' = if service.name = s then now.map (·.withoutVersion v) else now := affects
    by_cases same : service.name = s
    · rw [if_pos same] at after
      subst after
      rcases now with _ | r
      · exact ⟨.same _, later⟩
      · -- The version that goes is older than those to come, and so none of their newer ones.
        refine ⟨.shrunk (newer same v List.mem_cons_self), fun _ u mem => ?_⟩
        rw [seen, Option.map_some, Option.getD_some, countP_withoutVersion (oldest u mem)]
        exact later same u mem
    · rw [if_neg same] at after
      subst after
      exact ⟨.same _, later⟩

/-- **Deletions, one after the other.** -/
theorem deleteAll_treats {versions : List Version} {report : ReapReport}
    (ascending : versions.Pairwise (· < ·)) (own_service : report.service = service.name)
    (newer : service.name = s → ∀ v ∈ versions,
      keep ≤ (seen s now).versions.countP fun u => decide (v < u))
    (so_far : now = before.map (·.without (report.gone s))) :
    (deleteAll service own report versions).Treats s (Alters keep s) (Accounts service s before)
      now := by
  induction versions generalizing report now with
  | nil => exact ⟨own_service, so_far⟩
  | cons v rest ih =>
    obtain ⟨oldest, ascending⟩ := List.pairwise_cons.mp ascending
    refine .emit_bind (.bind (.outcome (.ask fun {reply now'} affects => ?_)))
    rcases reply with answer | payload
    · have noted := eq_of_deletion own_service so_far affects
      obtain ⟨changes, still⟩ := changes_of_deletion oldest newer affects
      have continues : (deleteAll service own (note report v answer) rest).Treats s (Alters keep s)
          (Accounts service s before) now' :=
        ih ascending (by cases answer <;> exact own_service) still noted
      refine ⟨changes, ?_⟩
      cases answer with
      | ok _ => exact .emit_bind continues
      | error e => exact continues
    · exact affects.elim

/-- Asking what is in use changes nothing. -/
theorem query_treats (source : UsageSource) :
    source.query.Treats s (Alters keep s)
      (fun
        | .finished _, now' => now' = now
        | .crashed _, _ => False) now := by
  have asks : source.query.AsksOnly fun c => c.changed? = none := by
    cases source with
    | activeExecutions => exact .bind (.ask rfl) fun _ => .pure _
    | bakes => exact .bind (.ask rfl) fun _ => .pure _
  exact .of_none asks (.same _) fun _ => rfl

/-- A report that lists nothing as deleted accounts for nothing done. -/
theorem accounts_of_kept (kept : List Version) :
    Accounts service s now (.finished (.ok { service := service.name, kept })) now := by
  refine ⟨rfl, ?_⟩
  rw [ReapReport.gone]
  split <;> simp

/-- **What a pass does to a service.** -/
theorem pass_treats (retention : RetentionPolicy) (source : UsageSource) (service : Service)
    (settings : RuntimeSettings) :
    (pass retention source service settings).Treats s (Alters retention.keep s)
      (Accounts service s now) now := by
  rw [pass]
  split
  · exact rfl
  next own configured =>
  refine .bind (.ask fun {reply now'} affects => ?_)
  rcases reply with (e | running) | payload
  · obtain rfl : now' = now := affects
    exact ⟨.same _, rfl⟩
  · obtain ⟨rfl, shown⟩ : now' = now ∧ (service.name = s → running = seen s now) := affects
    refine ⟨.same _, ?_⟩
    show Procedure.Treats _ _ _ (ite _ _ _) _
    split
    · exact accounts_of_kept _
    refine .bind ((query_treats source).mono id fun {ending now''} unchanged => ?_)
    rcases ending with (e | usage) | payload
    · exact unchanged
    · obtain rfl : now'' = now' := unchanged
      refine deleteAll_treats ReapSelection.reapable_ascending rfl (fun same v mem => ?_) ?_
      · have selected := (ReapSelection.mem_reapable_iff.mp mem).2.1
        rwa [Usage.keys_byVersion, shown same] at selected
      · rw [ReapReport.gone]
        split <;> simp
    · exact unchanged.elim
  · exact affects.elim

end Reap

end FleetDeploy
