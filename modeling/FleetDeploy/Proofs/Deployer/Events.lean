import FleetDeploy.Proofs.Batch.Shuffling
import FleetDeploy.Proofs.Deployer.Serving

/-!
# What observers are told of a call

Three places tell observers of a service: a loop over the plan tells which services are skipped,
each unit tells that it was dispatched, and a loop over the outcomes tells how the units ended. The
first loop is over before a unit is begun and the second one is begun when all units have ended, so
that what is told of a call has a shape that no schedule can change. Only in between is there a
choice, and there the events of the units are shuffled, each unit's own ones in their order.

The load-bearing fact is `FleetDeploy.WorkItem.Heard.step`: a unit tells first of all that it was
dispatched, and from then on it speaks in words.

* `FleetDeploy.Told` – the shape of what is told;
* `FleetDeploy.Courses`, `FleetDeploy.Told.courses` – what is told of each service in particular;
* `FleetDeploy.BatchOperation.Tells`, `FleetDeploy.Deployer.tells` – calls that tell their course
  so, and that deployments and rollbacks do.
-/

namespace FleetDeploy

/-! ### Kinds of events -/

/-- The event that tells of a skipped service. -/
def DeployEvent.ofSkip (skip : ServiceName × SkipReason) : DeployEvent :=
  .serviceSkipped skip.1 skip.2

/-- The event that tells of an item of work. -/
def WorkItem.dispatched (item : WorkItem) : DeployEvent :=
  .serviceDispatched item.service.name item.mode

/-- The event that tells how a unit ended. -/
def UnitOutcome.finished (o : UnitOutcome) : DeployEvent := .serviceFinished o.service o.severity

namespace DeployEvent

/-- Whether an event is something said in words. -/
def IsMessage (event : DeployEvent) : Prop := ∃ text, event = .message text

/-- **What reaping tells**: that a version is about to be deleted, and that it was. -/
inductive OfReaping : DeployEvent → Prop
  | announced (service : Service) (version : Version) :
      OfReaping (.message (Reap.announcement service version))
  | reaped (service : Service) (version : Version) : OfReaping (.versionReaped service.name version)

/-- The service of which an event tells that it is skipped, dispatched or finished. -/
def course? : DeployEvent → Option ServiceName
  | .serviceSkipped service _ => some service
  | .serviceDispatched service _ => some service
  | .serviceFinished service _ => some service
  | _ => none

theorem course?_of_ofReaping {event : DeployEvent} (reaping : event.OfReaping) :
    event.course? = none := by
  cases reaping <;> rfl

end DeployEvent

/-! ### The shape of what is told -/

/-- **What is told of a call** that carries out a plan: its stages, what is skipped, that it waits,
what its units tell, how they ended, and what is told `later`. What the units tell is shuffled, and
each of them tells first that it was dispatched. -/
structure Told (stages : List String) (waiting : String) (plan : Plan) (outcome : BatchOutcome)
    (units : List (List DeployEvent)) (working later events : List DeployEvent) : Prop where
  parts : events = stages.map .stageStarted ++ plan.skips.map DeployEvent.ofSkip ++
    [.message waiting] ++ working ++ outcome.outcomes.map (·.finished) ++ later
  shuffled : Shuffled units working
  own : List.Forall₂
    (fun item own => ∃ texts : List String, own = item.dispatched :: texts.map .message)
    plan.workItems units
  outcomes : outcome.outcomes.map (·.service) = plan.workItems.map (·.service.name)

/-- Whether an entry is the only one of a plan for its service. -/
def Plan.HasOnly (plan : Plan) (entry : PlanEntry) : Prop :=
  plan.entries.filter (fun e => e.service = entry.service) = [entry]

/-- **What is told of each service** in a call: all that are skipped are so once, in the order of
the plan, then each that is dispatched is so once, and then each of these finishes once, in the
order of the plan again. So of an entry that is the only one for its service it is told that it is
skipped, or that it is dispatched and later that it finished, and nothing else. -/
structure Courses (plan : Plan) (outcome : BatchOutcome) (events : List DeployEvent) : Prop where
  all : ∃ dispatches : List DeployEvent, dispatches.Perm (plan.workItems.map (·.dispatched)) ∧
    events.filter (·.course?.isSome) =
      plan.skips.map DeployEvent.ofSkip ++ dispatches ++ outcome.outcomes.map (·.finished)
  skipped : ∀ {service reason}, plan.HasOnly (.skipped service reason) →
    events.filter (fun event => event.course? = some service) = [.serviceSkipped service reason]
  dispatched : ∀ {item}, plan.HasOnly (.dispatched item) →
    ∃ o ∈ outcome.outcomes, o.service = item.service.name ∧
      events.filter (fun event => event.course? = some item.service.name) =
        [item.dispatched, o.finished]

section Courses

variable {stages : List String} {waiting : String} {plan : Plan} {outcome : BatchOutcome}
  {units : List (List DeployEvent)} {working later events : List DeployEvent}

namespace Told

/-- What is about no service in particular is not about the course of one. -/
theorem filter_silent (silent : ∀ event ∈ events, event.course? = none) :
    events.filter (·.course?.isSome) = [] := by
  rw [List.filter_eq_nil_iff]
  intro event mem
  rw [silent event mem]
  exact Bool.false_ne_true

/-- Apart from words, units tell that they were dispatched. -/
theorem filter_units {items : List WorkItem} (own : List.Forall₂
    (fun item own => ∃ texts : List String, own = item.dispatched :: texts.map .message)
    items units) :
    units.flatten.filter (·.course?.isSome) = items.map (·.dispatched) := by
  induction own with
  | nil => rfl
  | @cons item own items others first rest ih =>
    obtain ⟨texts, rfl⟩ := first
    have words : (texts.map DeployEvent.message).filter (·.course?.isSome) = [] := by
      refine filter_silent fun event mem => ?_
      obtain ⟨text, -, rfl⟩ := List.mem_map.mp mem
      rfl
    rw [List.flatten_cons, List.filter_append, ih, List.filter_cons_of_pos (by rfl), words,
      List.map_cons, List.singleton_append]

/-- In whichever order the units are carried out, each of them is dispatched once. -/
theorem dispatches (told : Told stages waiting plan outcome units working later events) :
    (working.filter (·.course?.isSome)).Perm (plan.workItems.map (·.dispatched)) := by
  rw [← filter_units told.own]
  exact told.shuffled.perm.filter _

/-- What is told of the course of services: skips, dispatches and finishes, in this order. -/
theorem filter_events (told : Told stages waiting plan outcome units working later events)
    (silent : ∀ event ∈ later, event.course? = none) :
    events.filter (·.course?.isSome) = plan.skips.map DeployEvent.ofSkip ++
      working.filter (·.course?.isSome) ++ outcome.outcomes.map (·.finished) := by
  have none_staged : (stages.map DeployEvent.stageStarted).filter (·.course?.isSome) = [] := by
    refine filter_silent fun event mem => ?_
    obtain ⟨stage, -, rfl⟩ := List.mem_map.mp mem
    rfl
  have none_waiting : [DeployEvent.message waiting].filter (·.course?.isSome) = [] := rfl
  have all_skips : (plan.skips.map DeployEvent.ofSkip).filter (·.course?.isSome) =
      plan.skips.map DeployEvent.ofSkip := by
    rw [List.filter_eq_self]
    intro event mem
    obtain ⟨skip, -, rfl⟩ := List.mem_map.mp mem
    rfl
  have all_finished : (outcome.outcomes.map (·.finished)).filter (·.course?.isSome) =
      outcome.outcomes.map (·.finished) := by
    rw [List.filter_eq_self]
    intro event mem
    obtain ⟨o, -, rfl⟩ := List.mem_map.mp mem
    rfl
  rw [told.parts]
  simp only [List.filter_append, none_staged, filter_silent silent, all_skips, all_finished,
    none_waiting, List.nil_append, List.append_nil]

/-- What is picked out of a plan for one service is picked out of the entries for it. -/
theorem filter_entries {α β : Type} {f : PlanEntry → Option α} {g : α → β} {p : β → Bool}
    {service : ServiceName} (entries : List PlanEntry)
    (own : ∀ entry a, f entry = some a → (p (g a) = true ↔ entry.service = service)) :
    ((entries.filterMap f).map g).filter p =
      ((entries.filter fun entry => entry.service = service).filterMap f).map g := by
  rw [List.filter_map, List.filter_filterMap, List.filterMap_filter]
  congr 1
  refine List.filterMap_congr fun entry _ => ?_
  rcases picked : f entry with _ | a
  · simp
  · simp only [Option.filter_some, Function.comp_apply, own entry a picked, decide_eq_true_eq]

/-- The skips of one service are those of its entries. -/
theorem filter_skips (plan : Plan) (service : ServiceName) :
    (plan.skips.map DeployEvent.ofSkip).filter (fun event => event.course? = some service) =
      ((plan.entries.filter fun e => e.service = service).filterMap (·.skip?)).map
        DeployEvent.ofSkip :=
  filter_entries plan.entries (by
    rintro (⟨_, _⟩ | _) _ ⟨⟩
    simp [DeployEvent.ofSkip, DeployEvent.course?, PlanEntry.service])

/-- The items of one service are dispatched as its entries say. -/
theorem filter_dispatched (plan : Plan) (service : ServiceName) :
    (plan.workItems.map (·.dispatched)).filter (fun event => event.course? = some service) =
      ((plan.entries.filter fun e => e.service = service).filterMap (·.workItem?)).map
        (·.dispatched) :=
  filter_entries plan.entries (by
    rintro (_ | item) _ ⟨⟩
    simp [WorkItem.dispatched, DeployEvent.course?, PlanEntry.service])

/-- The units of one service finish with its outcomes. -/
theorem filter_finished (outcomes : List UnitOutcome) (service : ServiceName) :
    (outcomes.map (·.finished)).filter (fun event => event.course? = some service) =
      (outcomes.filter fun o => o.service = service).map (·.finished) := by
  rw [List.filter_map]
  congr 1
  refine List.filter_congr fun o _ => ?_
  simp [UnitOutcome.finished, DeployEvent.course?]

/-- The outcomes of one service are those of the items that its entries hold. -/
theorem services_of_filter
    (outcomes : outcome.outcomes.map (·.service) = plan.workItems.map (·.service.name))
    (service : ServiceName) :
    (outcome.outcomes.filter fun o => o.service = service).map (·.service) =
      ((plan.entries.filter fun e => e.service = service).filterMap (·.workItem?)).map
        (·.service.name) := by
  have names : (outcome.outcomes.filter fun o => o.service = service).map (·.service) =
      (outcome.outcomes.map (·.service)).filter (· = service) := by
    rw [List.filter_map]
    rfl
  rw [names, outcomes]
  exact filter_entries plan.entries (by
    rintro (_ | item) _ ⟨⟩
    simp [PlanEntry.service])

/-- What is told of one service: its skips, its dispatches and its finishes, in this order. -/
theorem filter_service (told : Told stages waiting plan outcome units working later events)
    (silent : ∀ event ∈ later, event.course? = none) (service : ServiceName) :
    ∃ dispatches : List DeployEvent, ∃ finishes : List UnitOutcome,
      events.filter (fun event => event.course? = some service) =
        ((plan.entries.filter fun e => e.service = service).filterMap (·.skip?)).map
            DeployEvent.ofSkip ++
          dispatches ++ finishes.map (·.finished) ∧
      dispatches.Perm
        (((plan.entries.filter fun e => e.service = service).filterMap (·.workItem?)).map
          (·.dispatched)) ∧
      finishes ⊆ outcome.outcomes ∧
      finishes.map (·.service) =
        ((plan.entries.filter fun e => e.service = service).filterMap (·.workItem?)).map
          (·.service.name) := by
  refine ⟨(working.filter (·.course?.isSome)).filter (fun event => event.course? = some service),
    outcome.outcomes.filter (fun o => o.service = service), ?_, ?_, List.filter_subset_self _,
    services_of_filter told.outcomes service⟩
  · -- Whatever is told of the service is told of the course of some service.
    have narrowed : events.filter (fun event => event.course? = some service) =
        (events.filter (·.course?.isSome)).filter (fun event => event.course? = some service) := by
      rw [List.filter_filter]
      refine List.filter_congr fun event _ => ?_
      cases event.course? <;> simp
    rw [narrowed, told.filter_events silent, List.filter_append, List.filter_append,
      filter_finished, filter_skips]
  · rw [← filter_dispatched]
    exact told.dispatches.filter _

/-- **The course of each service is told**, if reaping and whatever else comes later is silent of
it. -/
theorem courses (told : Told stages waiting plan outcome units working later events)
    (silent : ∀ event ∈ later, event.course? = none) : Courses plan outcome events where
  all := ⟨_, told.dispatches, told.filter_events silent⟩
  skipped {service reason} only := by
    obtain ⟨dispatches, finishes, told_of, none_dispatched, -, none_finished⟩ :=
      told.filter_service silent service
    rw [show plan.entries.filter (fun e => e.service = service) = [.skipped service reason]
      from only] at told_of none_dispatched none_finished
    obtain rfl : dispatches = [] := none_dispatched.eq_nil
    obtain rfl : finishes = [] := List.map_eq_nil_iff.mp none_finished
    exact told_of
  dispatched {item} only := by
    obtain ⟨dispatches, finishes, told_of, one_dispatched, among, one_finished⟩ :=
      told.filter_service silent item.service.name
    rw [show plan.entries.filter (fun e => e.service = item.service.name) = [.dispatched item]
      from only] at told_of one_dispatched one_finished
    obtain rfl : dispatches = [item.dispatched] := List.perm_singleton.mp one_dispatched
    obtain ⟨o, rfl, own⟩ := List.map_eq_singleton_iff.mp one_finished
    exact ⟨o, among List.mem_cons_self, own, told_of⟩

end Told

end Courses

/-! ### Units -/

namespace Monitor

variable {kind : ExecutionKind} {reference : ExecutionRef} {events : DeployEvent → Prop}

/-- Whoever waits for an execution tells nothing. -/
theorem poll_tellsOnly (interval rest remaining : Nat) :
    (poll interval rest kind reference remaining).TellsOnly events := by
  have concludes (status : ExecutionStatus) : (conclude reference status).TellsOnly events := by
    rw [conclude]
    split
    · exact .pure _
    · exact .throw _
  induction remaining with
  | zero =>
    refine .bind (.ask _) fun status => ?_
    split
    · exact concludes status
    · exact .bind (.pause rest) fun _ => .throw _
  | succ remaining ih =>
    refine .bind (.ask _) fun status => ?_
    split
    · exact concludes status
    · exact .bind (.pause interval) fun _ => ih

theorem await_tellsOnly (config : MonitorConfig) :
    (await config kind reference).TellsOnly events :=
  poll_tellsOnly _ _ _

end Monitor

namespace WorkItem

variable {config : DispatchConfig} {resolved : ResolvedConfiguration} {item : WorkItem}

theorem say_tellsOnly (text : String) : (Procedure.say text).TellsOnly DeployEvent.IsMessage :=
  .emit ⟨text, rfl⟩

theorem upsertLoadBalancer_tellsOnly :
    (item.upsertLoadBalancer config).TellsOnly DeployEvent.IsMessage :=
  .bind (say_tellsOnly _) fun _ => .bind (.ask _) fun _ => Monitor.await_tellsOnly _

theorem stagedRollout_tellsOnly :
    (item.stagedRollout config resolved).TellsOnly DeployEvent.IsMessage := by
  rw [stagedRollout]
  split
  on_goal 1 => refine .bind upsertLoadBalancer_tellsOnly fun _ => ?_
  all_goals
    refine .bind (say_tellsOnly _) fun _ => .bind (.ask _) fun configs => ?_
    exact .bind (.ask _) fun _ => Monitor.await_tellsOnly _

theorem manual_tellsOnly : (item.manual resolved).TellsOnly DeployEvent.IsMessage :=
  .bind (say_tellsOnly _) fun _ => .bind (.ask _) fun _ => .ask _

theorem stagedRollback_tellsOnly :
    (item.stagedRollback config).TellsOnly DeployEvent.IsMessage :=
  .bind (say_tellsOnly _) fun _ => .bind (.ask _) fun _ => Monitor.await_tellsOnly _

/-- **A unit begins by telling that it is dispatched**, and speaks in words from then on. -/
theorem dispatch_begins (item : WorkItem) :
    ∃ rest, (item.dispatch config resolved).run = .emit item.dispatched rest ∧
      rest.TellsOnly DeployEvent.IsMessage := by
  cases mode : item.mode with
  | manual => exact ⟨_, by rw [dispatch, dispatched, mode]; rfl, manual_tellsOnly⟩
  | stagedRollout => exact ⟨_, by rw [dispatch, dispatched, mode]; rfl, stagedRollout_tellsOnly⟩
  | stagedRollback => exact ⟨_, by rw [dispatch, dispatched, mode]; rfl, stagedRollback_tellsOnly⟩

/-- **What has been heard of a unit**: nothing yet, if it is about to begin, or else that it was
dispatched and then only words, with more of these to come if it has not ended. -/
inductive Heard (item : WorkItem) : Strand → Prop
  | waiting {rest : Program (Except DeployError Unit)}
      (speaks : rest.TellsOnly DeployEvent.IsMessage) :
      Heard item ⟨[], .going (.emit item.dispatched rest)⟩
  | begun {own progress} (texts : List String)
      (told : eventsOf own.reverse = item.dispatched :: texts.map .message)
      (speaks : ∀ rest, progress = .going rest → rest.TellsOnly DeployEvent.IsMessage) :
      Heard item ⟨own, progress⟩

/-- Some messages are some texts. -/
theorem exists_texts {events : List DeployEvent} (messages : ∀ event ∈ events, event.IsMessage) :
    ∃ texts : List String, events = texts.map .message := by
  induction events with
  | nil => exact ⟨[], rfl⟩
  | cons event rest ih =>
    obtain ⟨⟨text, rfl⟩, others⟩ := List.forall_mem_cons.mp messages
    obtain ⟨texts, rfl⟩ := ih others
    exact ⟨text :: texts, rfl⟩

/-- **What is heard of a unit** when it takes a step. -/
theorem Heard.step {σ : Type} {h : Handler σ} {own steps : List Step} {state state' : σ}
    {p : Program (Except DeployError Unit)}
    {progress : Program.Progress (Except DeployError Unit)} (heard : item.Heard ⟨own, .going p⟩)
    (stepped : p.step h ⟨state, []⟩ = (progress, ⟨state', steps⟩)) :
    item.Heard ⟨steps ++ own, progress⟩ := by
  cases heard with
  | @waiting rest speaks =>
    obtain ⟨rfl, world⟩ := Prod.mk.inj stepped
    obtain ⟨-, rfl⟩ := World.mk.inj world
    refine .begun [] rfl fun rest' going => ?_
    obtain rfl := Program.Progress.going.inj going
    exact speaks
  | begun texts told speaks =>
    obtain ⟨⟨steps', journal, messages⟩, goes_on⟩ := (speaks p rfl).step stepped
    obtain rfl : steps = steps' := by simpa using journal
    have words : ∀ event ∈ eventsOf steps.reverse, event.IsMessage := fun event mem =>
      messages event (by simpa using mem)
    obtain ⟨more, said⟩ := exists_texts words
    refine .begun (texts ++ more) ?_ goes_on
    rw [List.reverse_append, eventsOf_append, told, said, List.cons_append, List.map_append]

/-- Of a unit that has ended it was heard that it was dispatched. -/
theorem Heard.of_ended {s : Strand} (heard : item.Heard s) (ended : s.HasEnded) :
    ∃ texts : List String, eventsOf s.journal.reverse = item.dispatched :: texts.map .message := by
  cases heard with
  | waiting speaks =>
    obtain ⟨ending, ⟨⟩⟩ := ended
  | begun texts told speaks => exact ⟨texts, told⟩

end WorkItem

/-! ### Calls -/

section Calls

variable {σ ρ : Type} {h : Handler σ} {op : BatchOperation ρ} {plan : Plan} {w w' : World σ}
  {arrivals : List (Nat × UnitEnding)} {strands : List Strand}

/-- **What is told by the units of a plan**, however they are interleaved. -/
theorem told_of_interleaved
    (begins : ∀ item, ∃ rest, (op.body item).run = .emit item.dispatched rest ∧
      rest.TellsOnly DeployEvent.IsMessage)
    (interleaved : Interleaved h ((op.units plan).map .ofUnit) w arrivals strands w') :
    ∃ steps units, w'.journal = steps ++ w.journal ∧
      Shuffled units (eventsOf steps.reverse) ∧
      List.Forall₂
        (fun item own => ∃ texts : List String, own = item.dispatched :: texts.map .message)
        plan.workItems units := by
  -- The units are those of the plan, and each of them is heard as its item says.
  have heard := interleaved.keeps
    (P := fun i s => ∀ item, plan.workItems[i]? = some item → item.Heard s)
    (fun heard stepped item at_i => (heard item at_i).step stepped) (by
      intro i s at_i item item_at
      rw [BatchOperation.units, List.map_map, List.getElem?_map, item_at] at at_i
      obtain ⟨rest, begun, speaks⟩ := begins item
      obtain rfl := Option.some.inj at_i
      change item.Heard ⟨[], .going (op.body item).run⟩
      rw [begun]
      exact .waiting speaks)
  have size : strands.length = plan.workItems.length := by
    rw [interleaved.length_eq, BatchOperation.units, List.length_map, List.length_map]
  obtain ⟨steps, journal, shuffled⟩ := interleaved.shuffled
  refine ⟨steps, (Interleaved.tracesOf strands).map eventsOf, journal, shuffled.filterMap _, ?_⟩
  rw [Interleaved.tracesOf, List.map_map, List.forall₂_map_right_iff, List.forall₂_iff_get]
  refine ⟨size.symm, fun i in_plan in_strands => ?_⟩
  have ended := interleaved.all_ended _ (List.get_mem strands ⟨i, in_strands⟩)
  exact (heard i _ (List.getElem?_eq_getElem in_strands) _
    (List.getElem?_eq_getElem in_plan)).of_ended ended

/-- The outcomes of some units are for the services of the units. -/
theorem services_of_zipWith {services : List ServiceName} {fates : List (Option UnitEnding)}
    (size : services.length = fates.length) :
    (BatchOutcome.ofOutcomes (services.zipWith UnitOutcome.ofReport fates)).outcomes.map
      (·.service) = services := by
  rw [BatchOutcome.ofOutcomes, List.map_zipWith]
  exact List.ext_getElem (by simp [size]) (by simp [UnitOutcome.ofReport])

/-- **A call that tells its course**: whatever its collaborators answer and however its units are
interleaved, what is told of it has the shape of `Told`, with these stages and this text. What comes
last is of the kind `later`, and does not come if the call fails. -/
structure BatchOperation.Tells (op : BatchOperation ρ) (h : Handler σ) (s : σ)
    (stages : List String) (waiting : String) (later : DeployEvent → Prop) : Prop where
  told : ∀ {plan w₁ ending w}, op.prepare.run.run h ⟨s, []⟩ = (.finished (.ok plan), w₁) →
    op.Runs h ⟨s, []⟩ ending w →
      ∃ outcome v units working reaping,
        op.CarriesOut h ⟨s, []⟩ plan outcome v ∧
        Told stages waiting plan outcome units working reaping (eventsOf w.trace) ∧
        Courses plan outcome (eventsOf w.trace) ∧
        (∀ event ∈ reaping, later event) ∧
        ((∃ e, ending = .finished (.error e)) → reaping = [])

/-- **A call tells its course** if it announces its plan, if its units begin by telling that they
are dispatched, and if its conclusion begins by telling how they ended. -/
theorem BatchOperation.Tells.of_phases {s : σ} {stages : List String} {waiting : String}
    {later : DeployEvent → Prop}
    (announces : ∀ {plan w₁}, op.prepare.run.run h ⟨s, []⟩ = (.finished (.ok plan), w₁) →
      eventsOf w₁.journal.reverse =
        stages.map .stageStarted ++ plan.skips.map DeployEvent.ofSkip ++ [.message waiting])
    (begins : ∀ item, ∃ rest, (op.body item).run = .emit item.dispatched rest ∧
      rest.TellsOnly DeployEvent.IsMessage)
    (finishes : ∀ {plan outcome v ending w},
      (op.conclude plan outcome).run.run h v = (ending, w) →
        ∃ steps, w.journal = steps ++ v.journal ∧ ∃ reaping,
          eventsOf steps.reverse = outcome.outcomes.map (·.finished) ++ reaping ∧
          (∀ event ∈ reaping, later event) ∧
          ((∃ e, ending = .finished (.error e)) → reaping = []))
    (silent : ∀ event, later event → event.course? = none) :
    op.Tells h s stages waiting later where
  told {plan w₁ ending w} prepared ran := by
    cases ran with
    | crashed prepared' => cases prepared.symm.trans prepared'
    | refused prepared' => cases prepared.symm.trans prepared'
    | @carriedOut _ _ arrivals strands w₂ _ _ prepared' interleaved concluded =>
      obtain ⟨⟨⟩, rfl⟩ := Prod.mk.inj (prepared.symm.trans prepared')
      -- One stretch of the journal for each phase, in the order of the phases.
      obtain ⟨working, units, journal, shuffled, own⟩ := told_of_interleaved begins interleaved
      obtain ⟨ended, journal', reaping, told, about, unless_failed⟩ := finishes concluded
      have outcomes := BatchOutcome.collect_of_delivers interleaved.length_fates.symm
        interleaved.delivers
      have whole : Told stages waiting plan
          (.collect ((op.units plan).map (·.service)) arrivals) units (eventsOf working.reverse)
          reaping (eventsOf w.trace) :=
        { parts := by
            rw [World.trace, journal', journal, List.reverse_append, List.reverse_append,
              eventsOf_append, eventsOf_append, announces prepared, told]
            simp only [List.append_assoc]
          shuffled := shuffled
          own := own
          outcomes := by
            rw [outcomes, services_of_zipWith interleaved.length_fates.symm, BatchOperation.units,
              List.map_map]
            rfl }
      exact ⟨_, w₂, units, _, reaping, .intro prepared interleaved, whole,
        whole.courses fun event mem => silent event (about event mem), about, unless_failed⟩

end Calls

/-! ### Reaping -/

namespace Reap

theorem deleteAll_tellsOnly (service : Service) (own : ServiceSettings) (report : ReapReport)
    (versions : List Version) :
    (deleteAll service own report versions).TellsOnly DeployEvent.OfReaping := by
  induction versions generalizing report with
  | nil => exact .pure _
  | cons version rest ih =>
    refine .bind (.emit (.announced service version)) fun _ => ?_
    refine .bind (.outcome (.ask _)) fun answer => ?_
    split
    · exact .bind (.emit (.reaped service version)) fun _ => ih _
    · exact ih _

/-- **A pass tells of its deletions** and of nothing else. -/
theorem pass_tellsOnly (retention : RetentionPolicy) (source : UsageSource) (service : Service)
    (settings : RuntimeSettings) :
    (pass retention source service settings).TellsOnly DeployEvent.OfReaping := by
  rw [pass]
  split
  · exact .throw _
  · refine .bind (.ask _) fun running => ?_
    split
    · exact .pure _
    · refine .bind (Program.KeepsTo.tellsOnly (query_keepsTo source)) fun usage => ?_
      exact deleteAll_tellsOnly _ _ _ _

end Reap

/-! ### Deployments and rollbacks -/

namespace Deployer

variable {σ : Type} {h : Handler σ} {d : Deployer} {requested : List ServiceName}
  {resolved : ResolvedConfiguration} {s : σ} {v w : World σ}

theorem reapAccumulating_tellsOnly (settings : RuntimeSettings)
    (kinds : List (ServiceKind × UsageSource)) :
    (d.reapAccumulating settings kinds).TellsOnly DeployEvent.OfReaping := by
  induction kinds with
  | nil => exact .pure _
  | cons entry rest ih =>
    refine .bind ?_ fun reports => .bind ih fun others => .pure _
    rw [reapFirst]
    split
    · exact .pure _
    · refine .bind (.outcome (Reap.pass_tellsOnly _ _ _ _)) fun report => ?_
      split
      · exact .pure _
      · exact .pure _

/-- **What is announced of a plan**: what it skips, and that the call waits. -/
theorem events_of_announce {plan : Plan} {waiting : String} {r : Except DeployError Unit}
    (announced : (announce plan waiting).run.run h v = (.finished r, w)) :
    ∃ steps, w.journal = steps ++ v.journal ∧
      eventsOf steps.reverse = plan.skips.map DeployEvent.ofSkip ++ [.message waiting] := by
  rw [announce, Procedure.run_bind_of_ok (Procedure.run_forM_emit _ _ v),
    Procedure.run_say] at announced
  obtain ⟨-, rfl⟩ := Prod.mk.inj announced
  refine ⟨.emitted (.message waiting) :: (plan.skips.map fun a => Step.emitted (.ofSkip a)).reverse,
    rfl, ?_⟩
  rw [List.reverse_cons, List.reverse_reverse, eventsOf_append, eventsOf_map_emitted]
  rfl

/-- **What is told of a batch** that is judged: how its units ended. -/
theorem events_of_settle {outcome : BatchOutcome} {r : Except DeployError BatchOutcome}
    (settled : (d.settle outcome).run.run h v = (.finished r, w)) :
    ∃ steps, w.journal = steps ++ v.journal ∧
      eventsOf steps.reverse = outcome.outcomes.map (·.finished) := by
  rw [settle, Procedure.run_bind_of_ok (Procedure.run_forM_emit _ _ v),
    Procedure.run_ofExcept] at settled
  obtain ⟨-, rfl⟩ := Prod.mk.inj settled
  refine ⟨(outcome.outcomes.map fun o => Step.emitted o.finished).reverse, rfl, ?_⟩
  rw [List.reverse_reverse, eventsOf_map_emitted]

/-- **What is told of a preparation** that comes to a plan: its stage, and what there is to tell of
the plan. Planning is silent. -/
theorem events_of_preparation {stage : String} {planning : List Service → Procedure Plan}
    {tell : Plan → Procedure Unit} {plan : Plan} {events : List DeployEvent}
    (silent : ∀ services, (planning services).TellsOnly fun _ => False)
    (tells : ∀ {v v' : World σ}, (tell plan).run.run h v = (.finished (.ok ()), v') →
      ∃ steps, v'.journal = steps ++ v.journal ∧ eventsOf steps.reverse = events)
    (prepared : (d.preparation requested stage planning tell).run.run h ⟨s, []⟩ =
      (.finished (.ok plan), w)) :
    eventsOf w.journal.reverse = .stageStarted stage :: events := by
  obtain ⟨services, w₁, -, planned, told⟩ := plan_of_preparation prepared
  obtain ⟨steps, journal, none_told⟩ := (silent services).run planned
  obtain ⟨more, journal', events_eq⟩ := tells told
  have nothing : eventsOf steps = [] := List.eq_nil_iff_forall_not_mem.mpr none_told
  rw [journal', journal, List.reverse_append, eventsOf_append, events_eq, List.reverse_append,
    eventsOf_append, eventsOf_reverse steps, nothing]
  rfl

/-- **What is told when a call concludes**: how the units ended, and then what is told by whatever
follows on a judgement that is not too bad. -/
theorem events_of_settle_bind {ρ : Type} {next : BatchOutcome → Procedure ρ}
    {later : DeployEvent → Prop} {outcome : BatchOutcome} {ending : Ending (Except DeployError ρ)}
    (tells : (next outcome).TellsOnly later)
    (succeeds : ∀ {v w : World σ} {e : DeployError},
      (next outcome).run.run h v ≠ (.finished (.error e), w))
    (concluded : (d.settle outcome >>= next).run.run h v = (ending, w)) :
    ∃ steps, w.journal = steps ++ v.journal ∧ ∃ reaping,
      eventsOf steps.reverse = outcome.outcomes.map (·.finished) ++ reaping ∧
      (∀ event ∈ reaping, later event) ∧
      ((∃ e, ending = .finished (.error e)) → reaping = []) := by
  obtain ⟨steps, settled⟩ := run_settle (d := d) (h := h) outcome v
  obtain ⟨told, journal, finished⟩ := events_of_settle settled
  rcases judged : outcome.raiseIfExceeds d.config.failureThreshold with e | outcome'
  · rw [judged] at settled
    rw [Procedure.run_bind_of_error settled] at concluded
    obtain ⟨rfl, rfl⟩ := Prod.mk.inj concluded
    exact ⟨told, journal, [], by rw [finished, List.append_nil], by simp, fun _ => rfl⟩
  · obtain ⟨-, rfl⟩ := BatchOutcome.raiseIfExceeds_eq_ok.mp judged
    rw [judged] at settled
    rw [Procedure.run_bind_of_ok settled] at concluded
    obtain ⟨more, journal', allowed⟩ := Program.TellsOnly.run tells concluded
    refine ⟨more ++ told, by rw [journal', journal, List.append_assoc], eventsOf more.reverse, ?_,
      fun event mem => allowed event (by simpa using mem), ?_⟩
    · rw [List.reverse_append, eventsOf_append, finished]
    · rintro ⟨e, rfl⟩
      exact absurd concluded succeeds

theorem tells_deploy : (d.deploy requested resolved).Tells h s ["Deploying services"]
    "Waiting on deployments to complete" DeployEvent.OfReaping := by
  refine .of_phases (fun {plan w} prepared => ?_) (fun item => item.dispatch_begins)
    (fun {plan outcome v ending w} concluded => ?_)
    fun event reaping => DeployEvent.course?_of_ofReaping reaping
  · rw [prepare_deploy] at prepared
    exact events_of_preparation
      (fun services => Program.KeepsTo.tellsOnly (Plan.forDeploy_keepsTo _ services))
      events_of_announce prepared
  · refine events_of_settle_bind ?_ (fun {v w e} failed => ?_) concluded
    · exact .bind (reapAccumulating_tellsOnly _ _) fun reaps => .pure _
    · rcases Procedure.run_bind_eq_error failed with failed | ⟨reaps, w₁, -, failed⟩
      · exact reapAccumulating_ne_error failed
      · cases failed

theorem tells_rollback : (d.rollback requested resolved).Tells h s
    ["Checking if it is safe to roll back all services", "Rolling back all updatable services"]
    "Waiting on rollbacks to complete" fun _ => False := by
  refine .of_phases (fun {plan w} prepared => ?_) (fun item => item.dispatch_begins)
    (fun {plan outcome v ending w} concluded => ?_) fun event never => never.elim
  · rw [prepare_rollback] at prepared
    refine events_of_preparation
      (fun services => Program.KeepsTo.tellsOnly (Plan.forRollback_keepsTo _ services))
      (fun {v v'} told => ?_) prepared
    -- The second stage begins when there is a plan.
    rw [Procedure.run_bind_of_ok (Procedure.run_emit _ _)] at told
    obtain ⟨steps, journal, events⟩ := events_of_announce told
    refine ⟨steps ++ [.emitted (.stageStarted "Rolling back all updatable services")],
      by rw [journal, World.record, List.append_assoc]; rfl, ?_⟩
    rw [List.reverse_append, eventsOf_append, events]
    rfl
  · exact events_of_settle_bind (.pure _) (fun {_ _ e} failed => by cases failed) concluded

/-- **Deployments and rollbacks tell their course**, whatever the collaborators answer and however
the units are interleaved. A rollback has two stages and tells nothing when its units have finished;
a deployment has one stage and tells what it reaps, unless it fails. -/
theorem tells :
    (d.deploy requested resolved).Tells h s ["Deploying services"]
      "Waiting on deployments to complete" DeployEvent.OfReaping ∧
    (d.rollback requested resolved).Tells h s
      ["Checking if it is safe to roll back all services", "Rolling back all updatable services"]
      "Waiting on rollbacks to complete" fun _ => False :=
  ⟨tells_deploy, tells_rollback⟩

/-- The one service that is asked for has never been deployed. -/
def gateItem : WorkItem :=
  ⟨{ name := "gate" }, .on, .manual, .empty "gate"⟩

/-- One service is deployed and another one is reaped: of the first one it is told that it was
dispatched and that it finished with nothing amiss, and nothing else. -/
theorem tells_gateDeployed :
    ∃ plan w₁, (ofRunnerAndGate.deploy ["gate"] runnerAndGateOn).prepare.run.run Fleet.respond
        ⟨threeVersions 1, []⟩ = (.finished (.ok plan), w₁) ∧
      plan.HasOnly (.dispatched gateItem) ∧
      ∃ outcome units working reaping,
        Told ["Deploying services"] "Waiting on deployments to complete" plan outcome units working
          reaping (eventsOf gateDeployed.2.trace) ∧
        Courses plan outcome (eventsOf gateDeployed.2.trace) ∧
        (eventsOf gateDeployed.2.trace).filter (fun event => event.course? = some "gate") =
          [.serviceDispatched "gate" .manual, .serviceFinished "gate" .none] := by
  have prepared : (ofRunnerAndGate.deploy ["gate"] runnerAndGateOn).prepare.run.run Fleet.respond
      ⟨threeVersions 1, []⟩ = (.finished (.ok ⟨[.dispatched gateItem]⟩), _) :=
    Prod.ext (by decide +kernel) rfl
  obtain ⟨outcome, v, units, working, reaping, -, told, courses, -, -⟩ :=
    tells.1.told prepared runs_gateDeployed
  exact ⟨_, _, prepared, rfl, outcome, units, working, reaping, told, courses, by decide +kernel⟩

end Deployer

end FleetDeploy
