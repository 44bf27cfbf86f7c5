import FleetDeploy.Proofs.Program.Events
import FleetDeploy.Proofs.Reap.Deletions

/-!
# Attempts, one after the other

The loop of a pass goes through the versions that may go, and it is not known beforehand what comes
of each deletion: the collaborators may answer as they like, and change as they like meanwhile. So
what is followed through the loop is the list of the attempts made so far, each with its answer. An
invariant relates it to the state of the collaborators, and the report is read off it.

* `FleetDeploy.Reap.Attempt`, `FleetDeploy.Reap.tried` – deletions that were answered, and the
  report of them;
* `FleetDeploy.Reap.tried_eq` – what such a report lists as deleted and as failed;
* `FleetDeploy.Reap.run_deleteAll_of_answering` – every version has its turn, and what one attempt
  preserves is so after all of them.
-/

namespace FleetDeploy.Reap

/-! ### Attempts -/

/-- A deletion that was answered. -/
structure Attempt where
  version : Version
  answer : Except DeployError Unit

namespace Attempt

/-- Whether the version has gone. -/
def succeeded (a : Attempt) : Bool := a.answer.isOk

/-- What a report says of an attempt that has failed. -/
def failure? (a : Attempt) : Option ReapFailure :=
  match a.answer with
  | .ok () => none
  | .error e => some ⟨a.version, e.message⟩

-- These two are no `rfl` lemmas, so that they also discharge side conditions about `filter`.
@[simp] theorem succeeded_ok (v : Version) (u : Unit) : (mk v (.ok u)).succeeded = true := by
  simp [succeeded, Except.isOk, Except.toBool]

@[simp] theorem failure?_ok (v : Version) (u : Unit) : (mk v (.ok u)).failure? = none := by
  simp [failure?]

@[simp] theorem succeeded_error (v : Version) (e : DeployError) :
    (mk v (.error e)).succeeded = false := rfl

@[simp] theorem failure?_error (v : Version) (e : DeployError) :
    (mk v (.error e)).failure? = some ⟨v, e.message⟩ := rfl

/-- What observers hear of an attempt: that it is made, and that the version has gone if it has. -/
def events (service : Service) (a : Attempt) : List DeployEvent :=
  .message (announcement service a.version) ::
    if a.succeeded then [.versionReaped service.name a.version] else []

/-- The steps of an attempt. -/
def steps (service : Service) (own : ServiceSettings) (a : Attempt) : List Step :=
  deletionSteps service own a.version a.answer

theorem eventsOf_steps (service : Service) (own : ServiceSettings) (a : Attempt) :
    eventsOf (a.steps service own) = a.events service := by
  rw [steps, deletionSteps, events, succeeded]
  split <;> rfl

end Attempt

section Tried

variable (report : ReapReport) (attempts : List Attempt)

/-- The report with some attempts noted, one after the other. -/
def tried : ReapReport := attempts.foldl (fun r a => note r a.version a.answer) report

theorem tried_eq :
    tried report attempts =
      { report with
        deleted := report.deleted ++ (attempts.filter (·.succeeded)).map (·.version)
        failed := report.failed ++ attempts.filterMap (·.failure?) } := by
  induction attempts generalizing report with
  | nil => simp [tried]
  | cons a rest ih =>
    rw [tried, List.foldl_cons, ← tried, ih]
    rcases a with ⟨v, e | _⟩ <;> simp [note]

/-- The versions that are reported as failed are those that have not gone. -/
theorem map_filterMap_failure? :
    (attempts.filterMap (·.failure?)).map (·.version) =
      (attempts.filter fun a => !a.succeeded).map (·.version) := by
  induction attempts with
  | nil => rfl
  | cons a rest ih =>
    rcases a with ⟨v, e | _⟩ <;> simp [ih]

/-- Attempts that are answered by a table are told by their versions. -/
theorem eq_map_of_answer_eq {attempts : List Attempt} {answers : Version → Except DeployError Unit}
    (agree : ∀ a ∈ attempts, a.answer = answers a.version) :
    attempts = (attempts.map (·.version)).map fun v => ⟨v, answers v⟩ := by
  rw [List.map_map]
  refine (List.map_id' attempts).symm.trans (List.map_congr_left fun a mem => ?_)
  rw [Function.comp_apply, ← agree a mem]

end Tried

section Steps

variable (service : Service) (own : ServiceSettings) (attempts : List Attempt)

theorem callsOf_attempts :
    callsOf (attempts.flatMap (·.steps service own)) =
      (attempts.map (·.version)).map (.deleteVersion service own) := by
  induction attempts with
  | nil => rfl
  | cons a rest ih =>
    rw [List.flatMap_cons, callsOf_append, ih, Attempt.steps, callsOf_deletionSteps]
    rfl

theorem eventsOf_attempts :
    eventsOf (attempts.flatMap (·.steps service own)) = attempts.flatMap (·.events service) := by
  induction attempts with
  | nil => rfl
  | cons a rest ih =>
    rw [List.flatMap_cons, eventsOf_append, ih, Attempt.eventsOf_steps, List.flatMap_cons]

end Steps

/-! ### The loop -/

section Loop

variable {σ : Type} {h : Handler σ} {service : Service} {own : ServiceSettings}

/-- **Every version has its turn**, whatever was answered before. `Holds` relates the attempts that
have been made to the state of the collaborators; as long as it does, they answer, and it holds
again with one attempt more. -/
theorem run_deleteAll_of_answering (Holds : List Attempt → σ → Prop)
    (answering : ∀ v made s, Holds made s →
      ∃ answer s', h (.deleteVersion service own v) s = (.answered answer, s') ∧
        Holds (made ++ [⟨v, answer⟩]) s')
    (report : ReapReport) (versions : List Version) {made : List Attempt} {w : World σ}
    (holds : Holds made w.state) :
    ∃ attempts s, attempts.map (·.version) = versions ∧ Holds (made ++ attempts) s ∧
      (deleteAll service own report versions).run.run h w =
        (.finished (.ok (tried report attempts)),
          ⟨s, (attempts.flatMap (·.steps service own)).reverse ++ w.journal⟩) := by
  induction versions generalizing report made w with
  | nil => exact ⟨[], w.state, rfl, by rwa [List.append_nil], rfl⟩
  | cons v rest ih =>
    obtain ⟨answer, s, replied, still⟩ := answering v made w.state holds
    have next : Holds (made ++ [⟨v, answer⟩]) (World.state
        ⟨s, (deletionSteps service own v answer).reverse ++ w.journal⟩) := still
    obtain ⟨attempts, s', versions, holds', ran⟩ := ih (note report v answer) next
    refine ⟨⟨v, answer⟩ :: attempts, s', by rw [List.map_cons, versions], ?_, ?_⟩
    · rwa [List.append_assoc, List.singleton_append] at holds'
    · rw [run_deleteAll_of_answered replied, ran]
      simp [tried, Attempt.steps]

end Loop

end FleetDeploy.Reap
