import FleetDeploy.Deployer
import FleetDeploy.Fleet.Basic
import FleetDeploy.Proofs.Catalog.Prioritizing
import FleetDeploy.Proofs.Program.Events

/-!
# Collecting logs

Logs are collected from one service after the other, and services that have none are told about
instead. The first collection that fails ends the operation. What has been done by then is not
undone, so it has to be known how far the operation has come: through the services of the request in
the order of the catalog, up to and including the one that failed. The order in which they were
requested does not matter, nor how often.

What is said here holds for any collector that succeeds for some services and fails for the others,
the one in memory being an example.

* `FleetDeploy.Handler.CollectsBy`, `FleetDeploy.Fleet.collectsBy` – such collectors;
* `FleetDeploy.UpToFailure` – how far a collection comes, and how it ends;
* `FleetDeploy.Deployer.CollectsLogs` – what a collection does, and
  `FleetDeploy.Deployer.collects_up_to_failure`, which says that it does so.
-/

namespace FleetDeploy

variable {σ : Type} {h : Handler σ} {settings : RuntimeSettings}
  {outcome : Service → Except DeployError Unit} {states : σ → Prop}

/-! ### Collectors -/

/-- **A collector that succeeds for some services and fails for the others**, in states that it does
not leave. -/
structure Handler.CollectsBy (h : Handler σ) (settings : RuntimeSettings)
    (outcome : Service → Except DeployError Unit) (states : σ → Prop) : Prop where
  answers : ∀ s state, states state →
    (h (.collectLogs s settings) state).1 = .answered (outcome s)
  kept : ∀ s state, states state → states (h (.collectLogs s settings) state).2

/-- What collecting the logs of a service comes to if it fails for some services. -/
def collectionFailing (failures : SortedMap ServiceName Problem) (s : Service) :
    Except DeployError Unit :=
  match failures.get? s.name with
  | some p => .error (.problem p)
  | none => .ok ()

/-- The collector in memory fails where it is arranged. -/
theorem Fleet.collectsBy (failures : SortedMap ServiceName Problem) (settings : RuntimeSettings) :
    Handler.CollectsBy Fleet.respond settings (collectionFailing failures)
      fun f => f.logs.failures = failures where
  answers s f arranged := by
    subst arranged
    rfl
  kept s f arranged := arranged

/-! ### How far it comes -/

/-- Whether logs of a service are to be collected and cannot be. -/
def LogsFail (outcome : Service → Except DeployError Unit) (s : Service) : Prop :=
  s.logCapability = .collectable ∧ ∃ e, outcome s = .error e

/-- **How far a collection comes**: through all services if it fails for none, and otherwise up to
and including the first one for which it fails. -/
inductive UpToFailure (outcome : Service → Except DeployError Unit) :
    List Service → List Service → Except DeployError Unit → Prop
  | all {services : List Service} (sound : ∀ s ∈ services, ¬LogsFail outcome s) :
      UpToFailure outcome services services (.ok ())
  | failed {before after : List Service} {s : Service} {e : DeployError}
      (sound : ∀ t ∈ before, ¬LogsFail outcome t) (collectable : s.logCapability = .collectable)
      (fails : outcome s = .error e) :
      UpToFailure outcome (before ++ s :: after) (before ++ [s]) (.error e)

namespace UpToFailure

variable {services reached : List Service} {s : Service} {answer : Except DeployError Unit}

/-- A service for which it does not fail may come first. -/
theorem cons (sound : ¬LogsFail outcome s) (later : UpToFailure outcome services reached answer) :
    UpToFailure outcome (s :: services) (s :: reached) answer := by
  cases later with
  | all others => exact .all (List.forall_mem_cons.mpr ⟨sound, others⟩)
  | failed others collectable fails =>
    exact .failed (List.forall_mem_cons.mpr ⟨sound, others⟩) collectable fails

/-- It may fail for the first service. -/
theorem first {e : DeployError} (collectable : s.logCapability = .collectable)
    (fails : outcome s = .error e) : UpToFailure outcome (s :: services) [s] (.error e) :=
  failed (fun _ mem => absurd mem List.not_mem_nil) collectable fails

/-- **It succeeds if it does not fail for a service that is reached.** -/
theorem eq_ok_iff (upTo : UpToFailure outcome services reached answer) :
    answer = .ok () ↔ ∀ s ∈ reached, ¬LogsFail outcome s := by
  cases upTo with
  | all sound => exact iff_of_true rfl sound
  | @failed before after s e sound collectable fails =>
    refine iff_of_false (by simp) fun all => ?_
    exact all s (List.mem_append_right _ List.mem_cons_self) ⟨collectable, e, fails⟩

end UpToFailure

/-! ### What it does -/

/-- **What is done about one service**: the collector is called, or it is told that there are no
logs. -/
def logStep (settings : RuntimeSettings) (outcome : Service → Except DeployError Unit)
    (s : Service) : Step :=
  match s.logCapability with
  | .collectable => .called (.collectLogs s settings) (.answered (outcome s))
  | .unsupported => .emitted (.message (s.name ++ " cannot have logs collected"))

variable {services : List Service}

/-- The collector is called for the services that have logs. -/
theorem callsOf_logSteps (services : List Service) :
    callsOf (services.map (logStep settings outcome)) =
      (services.filter fun s => s.logCapability = .collectable).map
        fun s => .collectLogs s settings := by
  induction services with
  | nil => rfl
  | cons s rest ih => cases capability : s.logCapability <;> simp [logStep, capability, ih]

/-- The others are told about. -/
theorem eventsOf_logSteps (services : List Service) :
    eventsOf (services.map (logStep settings outcome)) =
      (services.filter fun s => s.logCapability = .unsupported).map
        fun s => .message (s.name ++ " cannot have logs collected") := by
  induction services with
  | nil => rfl
  | cons s rest ih => cases capability : s.logCapability <;> simp [logStep, capability, ih]

namespace Deployer

theorem collectLogsOf_cons_of_collectable {s : Service} (capability : s.logCapability = .collectable)
    (rest : List Service) : collectLogsOf settings (s :: rest) =
      Procedure.ask (.collectLogs s settings) >>= fun _ => collectLogsOf settings rest := by
  rw [collectLogsOf, List.forM, capability]
  rfl

theorem collectLogsOf_cons_of_unsupported {s : Service} (capability : s.logCapability = .unsupported)
    (rest : List Service) : collectLogsOf settings (s :: rest) =
      Procedure.say (s.name ++ " cannot have logs collected") >>= fun _ =>
        collectLogsOf settings rest := by
  rw [collectLogsOf, List.forM, capability]
  rfl

/-- **A collection goes through the services up to a failure.** -/
theorem run_collectLogsOf (collects : h.CollectsBy settings outcome states)
    (services : List Service) (w : World σ) (among : states w.state) :
    ∃ answer reached state, UpToFailure outcome services reached answer ∧
      (collectLogsOf settings services).run.run h w =
        (.finished answer,
          ⟨state, (reached.map (logStep settings outcome)).reverse ++ w.journal⟩) := by
  induction services generalizing w with
  | nil => exact ⟨_, [], w.state, .all (by simp), rfl⟩
  | cons s rest ih =>
    rcases capability : s.logCapability with _ | _
    · have replied : h (.collectLogs s settings) w.state =
          (.answered (outcome s), (h (.collectLogs s settings) w.state).2) :=
        Prod.ext (collects.answers s w.state among) rfl
      have asked := Procedure.run_ask replied
      have step : logStep settings outcome s =
          .called (.collectLogs s settings) (.answered (outcome s)) := by rw [logStep, capability]
      rw [collectLogsOf_cons_of_collectable capability]
      rcases came : outcome s with e | ⟨⟩
      · rw [came] at asked
        refine ⟨.error e, [s], (h (.collectLogs s settings) w.state).2,
          .first capability came, ?_⟩
        rw [Procedure.run_bind_of_error asked, List.map_singleton, step, came]
        rfl
      · rw [came] at asked
        obtain ⟨answer, reached, state, upTo, ran⟩ := ih
          ⟨(h (.collectLogs s settings) w.state).2,
            .called (.collectLogs s settings) (.answered (.ok ())) :: w.journal⟩
          (collects.kept s w.state among)
        refine ⟨answer, s :: reached, state, upTo.cons ?_, ?_⟩
        · rintro ⟨-, e, fails⟩
          rw [came] at fails
          cases fails
        · rw [Procedure.run_bind_of_ok asked, ran, List.map_cons, step, came]
          simp
    · have step : logStep settings outcome s =
          .emitted (.message (s.name ++ " cannot have logs collected")) := by
        rw [logStep, capability]
      rw [collectLogsOf_cons_of_unsupported capability,
        Procedure.run_bind_of_ok (Procedure.run_say _ w)]
      obtain ⟨answer, reached, state, upTo, ran⟩ := ih
        (w.record (.emitted (.message (s.name ++ " cannot have logs collected")))) among
      refine ⟨answer, s :: reached, state, upTo.cons ?_, ?_⟩
      · rintro ⟨collectable, -⟩
        rw [capability] at collectable
        cases collectable
      · rw [ran, List.map_cons, step]
        simp [World.record]

variable {d : Deployer} {requested : List ServiceName}

/-- The services that a request asks for, in the order of the catalog: all of them if it names
none. -/
def asked (d : Deployer) (requested : List ServiceName) : List Service :=
  d.catalog.services.filter fun s => requested.isEmpty || requested.contains s.name

/-- **What a collection of logs does.** If the request names a service that is not there, the first
such name is told, and nothing is done. Otherwise the services that it asks for are gone through in
the order of the catalog, up to and including the first one for which the collection fails, and its
error is what the operation fails with. Of the services that are reached, those with logs have them
collected and the others are told to have none. -/
structure CollectsLogs (d : Deployer) (requested : List ServiceName) (settings : RuntimeSettings)
    (outcome : Service → Except DeployError Unit) (steps : List Step)
    (answer : Except DeployError Unit) : Prop where
  unknown : ∀ name, d.catalog.FirstUnknown requested name →
    steps = [] ∧ answer = .error (.unknownService name)
  known : (∀ name ∈ requested, d.catalog.Has name) → ∃ reached,
    UpToFailure outcome (d.asked requested) reached answer ∧
      steps = reached.map (logStep settings outcome) ∧
      callsOf steps = (reached.filter fun s => s.logCapability = .collectable).map
        (fun s => .collectLogs s settings) ∧
      eventsOf steps = (reached.filter fun s => s.logCapability = .unsupported).map
        (fun s => .message (s.name ++ " cannot have logs collected")) ∧
      (answer = .ok () ↔ ∀ s ∈ reached, ¬LogsFail outcome s)

theorem run_collectLogs_of_unknown {name : ServiceName}
    (first : d.catalog.FirstUnknown requested name) (w : World σ) :
    (d.collectLogs requested settings).run.run h w =
      (.finished (.error (.unknownService name)), w) := by
  rw [collectLogs, Catalog.prioritized_eq_error_iff.mpr ⟨name, first, rfl⟩]
  rfl

theorem run_collectLogs_of_known (known : ∀ name ∈ requested, d.catalog.Has name) (w : World σ) :
    (d.collectLogs requested settings).run.run h w =
      (collectLogsOf settings (d.asked requested)).run.run h w := by
  rw [collectLogs, Catalog.prioritized_eq_ok_iff.mpr ⟨known, rfl⟩]
  rfl

/-- Requests with the same names ask for the same services. -/
theorem asked_congr {requested' : List ServiceName}
    (same : ∀ name, name ∈ requested' ↔ name ∈ requested)
    (known : ∀ name ∈ requested, d.catalog.Has name) : d.asked requested' = d.asked requested := by
  have found : d.catalog.prioritized requested = .ok (d.asked requested) :=
    Catalog.prioritized_eq_ok_iff.mpr ⟨known, rfl⟩
  have found' := ((d.catalog.prioritizes requested).names requested' same _).mpr found
  exact (Catalog.prioritized_eq found').symm

/-- **Logs are collected up to the first failure**, and which ones depends on the names in the request
alone. -/
theorem collects_up_to_failure (d : Deployer) (requested : List ServiceName)
    (collects : h.CollectsBy settings outcome states) (w : World σ) (among : states w.state) :
    ∃ answer w' steps, (d.collectLogs requested settings).run.run h w = (.finished answer, w') ∧
      w'.trace = w.trace ++ steps ∧ d.CollectsLogs requested settings outcome steps answer ∧
      ∀ requested', (∀ name, name ∈ requested' ↔ name ∈ requested) → ∃ answer',
        (d.collectLogs requested' settings).run.run h w = (.finished answer', w') ∧
          ((∀ name ∈ requested, d.catalog.Has name) → answer' = answer) := by
  by_cases known : ∀ name ∈ requested, d.catalog.Has name
  · obtain ⟨answer, reached, state, upTo, ran⟩ :=
      run_collectLogsOf collects (d.asked requested) w among
    refine ⟨answer, _, reached.map (logStep settings outcome),
      (run_collectLogs_of_known known w).trans ran, by simp [World.trace], ⟨?_, fun _ => ?_⟩, ?_⟩
    · exact fun name first => absurd (known name first.mem) first.unknown
    · exact ⟨reached, upTo, rfl, callsOf_logSteps reached, eventsOf_logSteps reached, upTo.eq_ok_iff⟩
    · intro requested' same
      have known' : ∀ name ∈ requested', d.catalog.Has name :=
        fun name mem => known name ((same name).mp mem)
      refine ⟨answer, ?_, fun _ => rfl⟩
      rw [run_collectLogs_of_known known', asked_congr same known, ran]
  · have some_unknown : ∃ name ∈ requested, ¬d.catalog.Has name := by simpa using known
    obtain ⟨name, first⟩ := Catalog.FirstUnknown.exists_iff.mpr some_unknown
    refine ⟨_, w, [], run_collectLogs_of_unknown first w, by simp, ⟨?_, ?_⟩, ?_⟩
    · exact fun name' first' => ⟨rfl, by rw [first.unique first']⟩
    · exact fun known' => absurd known' known
    · intro requested' same
      obtain ⟨name', first'⟩ : ∃ name', d.catalog.FirstUnknown requested' name' :=
        Catalog.FirstUnknown.exists_iff.mpr ⟨name, (same name).mpr first.mem, first.unknown⟩
      exact ⟨_, run_collectLogs_of_unknown first' w, fun known' => absurd known' known⟩

/-- A catalog in which every other service has logs. -/
def ofEveryOther : Deployer :=
  ⟨⟨[{ name := "orca", logCapability := .collectable }, { name := "deck" },
    { name := "gate", logCapability := .collectable }, { name := "echo" },
    { name := "igor", logCapability := .collectable }]⟩, {}⟩

/-- A fleet in which the logs of two services cannot be collected. -/
def diskFull : Fleet :=
  { logs := ((({} : Recorder).failFor "igor" (.error "no route")).failFor "gate"
      (.error "disk full")) }

/-- A service is requested twice, and the first failure is not that of the service named first. -/
theorem collects_up_to_failure_diskFull :
    Handler.CollectsBy Fleet.respond {} (collectionFailing diskFull.logs.failures)
      (fun f => f.logs.failures = diskFull.logs.failures) ∧
    ∃ w' steps,
      (ofEveryOther.collectLogs ["igor", "deck", "gate", "deck", "orca", "echo"] {}).run.run
        Fleet.respond ⟨diskFull, []⟩ = (.finished (.error (.problem (.error "disk full"))), w') ∧
      w'.trace = steps ∧ w'.state.logs.calls = ["orca", "gate"] ∧
      eventsOf steps = [.message "deck cannot have logs collected"] ∧
      ofEveryOther.CollectsLogs ["igor", "deck", "gate", "deck", "orca", "echo"] {}
        (collectionFailing diskFull.logs.failures) steps
        (.error (.problem (.error "disk full"))) := by
  have collects := Fleet.collectsBy diskFull.logs.failures {}
  refine ⟨collects, ?_⟩
  obtain ⟨answer, w', steps, ran, trace, does, -⟩ := collects_up_to_failure ofEveryOther
    ["igor", "deck", "gate", "deck", "orca", "echo"] collects ⟨diskFull, []⟩ rfl
  have ended : (ofEveryOther.collectLogs ["igor", "deck", "gate", "deck", "orca", "echo"] {}).run.run
      Fleet.respond ⟨diskFull, []⟩ = (.finished (.error (.problem (.error "disk full"))), _) := rfl
  obtain ⟨⟨⟩, rfl⟩ := Prod.mk.inj (ended.symm.trans ran)
  obtain rfl : _ = steps := trace
  exact ⟨_, _, ended, rfl, by decide, by decide, does⟩

end Deployer

end FleetDeploy
