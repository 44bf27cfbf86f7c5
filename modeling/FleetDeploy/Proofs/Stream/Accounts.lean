import FleetDeploy.Proofs.Stream.Rules

/-!
# What a reader of a stream gets

Observers rely on a stream to tell them everything, in order, and to own up to what it does not tell
them. A stream may forget events, since its channel holds so many of them only, but then it says how
many. So every event that was put on it since a reader subscribed has been got by that reader, or
counted as missed, or is still to come, and the reader can know which.

That other readers come and go, and get their events, makes no difference to a reader, and neither
does anything that happened before it subscribed. What it gets is what a reader would get who is
alone and keeps a list of what it has not got (`FleetDeploy.EventStream.alone`): it is a matter of
the events since then and of the moments at which the reader asks.

Histories are lists of what happened, the latest first. They are those of any channel that keeps the
rules of `FleetDeploy.Channel.Lawful`.

* `FleetDeploy.EventStream.Covers` – answers that account for events;
* `FleetDeploy.EventStream.Happening`, `FleetDeploy.Channel.Runs` – histories of a stream;
* `FleetDeploy.EventStream.since` – what happened since a reader subscribed, if it is still there;
* `FleetDeploy.Channel.Runs.standing` – a reader in any company gets what it would get alone;
* `FleetDeploy.Channel.Accounts`, `FleetDeploy.Channel.accounts_for_every_event` – the account of
  every reader at every moment.
-/

namespace FleetDeploy

open Broadcast (Received)

namespace EventStream

/-! ### A reader alone -/

section Alone

variable {ε : Type}

/-- What a reader gets, and what it has not got afterwards, if these are the events that it has not
got and so many of the latest are held. -/
def next (size : Nat) (unread : List ε) : Received ε × List ε :=
  if size < unread.length then
    (.lagged (unread.length - size), unread.rtake size)
  else match unread with
    | [] => (.empty, [])
    | e :: rest => (.event e, rest)

/-- **What a reader gets that is alone**, and what it has not got by then. Of what happened, the
latest first, only events matter, and the moments at which it asks (`none`). -/
def alone (size : Nat) : List (Option ε) → List (Received ε) × List ε
  | [] => ([], [])
  | some e :: past => ((alone size past).1, (alone size past).2 ++ [e])
  | none :: past =>
    ((alone size past).1 ++ [(next size (alone size past).2).1], (next size (alone size past).2).2)

/-- **Answers that account for events**: each event in its place, and in place of some events their
number. -/
inductive Covers : List (Received ε) → List ε → Prop
  | nil : Covers [] []
  | empty {answers events} (before : Covers answers events) : Covers (answers ++ [.empty]) events
  | event {answers events} (before : Covers answers events) (e : ε) :
      Covers (answers ++ [.event e]) (events ++ [e])
  | lagged {answers events} (before : Covers answers events) (missed : List ε) :
      Covers (answers ++ [.lagged missed.length]) (events ++ missed)

/-- How many events were got. -/
def delivered (answers : List (Received ε)) : Nat :=
  answers.foldl (fun count answer => match answer with | .event _ => count + 1 | _ => count) 0

/-- How many events were told to be missed. -/
def missed (answers : List (Received ε)) : Nat :=
  answers.foldl (fun count answer => match answer with | .lagged n => count + n | _ => count) 0

/-- Answers account for as many events as were got and missed. -/
theorem Covers.count {answers : List (Received ε)} {events : List ε} (covers : Covers answers events) :
    delivered answers + missed answers = events.length := by
  induction covers with
  | nil => rfl
  | empty before ih => simpa [delivered, missed] using ih
  | event before e ih =>
    simp only [delivered, missed, List.foldl_append, List.length_append] at ih ⊢
    rw [← ih]
    exact Nat.add_right_comm _ 1 _
  | lagged before gone ih =>
    simp only [delivered, missed, List.foldl_append, List.length_append] at ih ⊢
    rw [← ih]
    exact (Nat.add_assoc _ _ _).symm

variable {size : Nat} {unread : List ε}

theorem next_of_lt (behind : size < unread.length) :
    next size unread = (.lagged (unread.length - size), unread.rtake size) :=
  if_pos behind

theorem next_nil : next size ([] : List ε) = (.empty, []) := rfl

theorem next_cons {e : ε} {rest : List ε} (held : rest.length + 1 ≤ size) :
    next size (e :: rest) = (.event e, rest) :=
  if_neg (Nat.not_lt.mpr held)

/-- **A reader alone accounts for every event.** -/
theorem exists_covers_alone (size : Nat) (past : List (Option ε)) :
    ∃ passed, past.reverse.filterMap id = passed ++ (alone size past).2 ∧
      Covers (alone size past).1 passed := by
  induction past with
  | nil => exact ⟨[], rfl, .nil⟩
  | cons turn past ih =>
    obtain ⟨passed, split, covers⟩ := ih
    cases turn with
    | some e =>
      refine ⟨passed, ?_, covers⟩
      rw [List.reverse_cons, List.filterMap_append, split, List.append_assoc]
      rfl
    | none =>
      simp only [List.reverse_cons, List.filterMap_append, split, alone]
      rcases Nat.lt_or_ge size (alone size past).2.length with behind | held
      · rw [next_of_lt behind]
        -- what is not held any more is missed
        have count : ((alone size past).2.take ((alone size past).2.length - size)).length =
            (alone size past).2.length - size := by
          rw [List.length_take]
          omega
        have lagged := covers.lagged ((alone size past).2.take ((alone size past).2.length - size))
        rw [count] at lagged
        exact ⟨_, by simp [List.rtake], lagged⟩
      · rcases left : (alone size past).2 with _ | ⟨e, rest⟩
        · exact ⟨passed, by simp [next_nil], covers.empty⟩
        · rw [left, List.length_cons] at held
          rw [next_cons held]
          exact ⟨passed ++ [e], by simp, covers.event e⟩

/-! What is answered next is told by what has not been got. -/

theorem next_eq_empty_iff : (next size unread).1 = .empty ↔ unread = [] := by
  unfold next
  split
  · next behind => exact ⟨nofun, fun nothing => by simp [nothing] at behind⟩
  · cases unread <;> simp

theorem next_eq_lagged_iff {n : Nat} :
    (next size unread).1 = .lagged n ↔ size < unread.length ∧ n = unread.length - size := by
  unfold next
  split
  · next behind => simp [behind, eq_comm]
  · next held =>
    refine ⟨?_, fun behind => absurd behind.1 held⟩
    cases unread <;> nofun

theorem next_eq_event_iff {e : ε} :
    (next size unread).1 = .event e ↔ unread.length ≤ size ∧ unread.head? = some e := by
  unfold next
  split
  · next behind => simp [Nat.not_le.mpr behind]
  · next held =>
    rw [and_iff_right (Nat.not_lt.mp held)]
    cases unread <;> simp

end Alone

/-! ### Histories -/

/-- What may happen on a stream. -/
inductive Happening
  | subscribed (reader : Nat)
  | left (reader : Nat)
  | told (event : DeployEvent)
  | got (reader : Nat) (answer : Received DeployEvent)

/-- What is done by a reader. -/
def Happening.IsBy (r : Nat) : Happening → Prop
  | .subscribed r' | .left r' | .got r' _ => r' = r
  | .told _ => False

/-- What happened since a reader subscribed, if it is there. -/
def since (r : Nat) : List Happening → Option (List Happening)
  | [] => none
  | .subscribed r' :: past =>
    if r' = r then some [] else (since r past).map (.subscribed r' :: ·)
  | .left r' :: past => if r' = r then none else (since r past).map (.left r' :: ·)
  | .told event :: past => (since r past).map (.told event :: ·)
  | .got r' answer :: past => (since r past).map (.got r' answer :: ·)

/-- The events that were put on a stream, in order. -/
def told : List Happening → List DeployEvent
  | [] => []
  | .told event :: past => told past ++ [event]
  | _ :: past => told past

/-- What a reader got, in order. -/
def got (r : Nat) : List Happening → List (Received DeployEvent)
  | [] => []
  | .got r' answer :: past => if r' = r then got r past ++ [answer] else got r past
  | _ :: past => got r past

/-- What matters to a reader of what happened, the latest first: the events, and the moments at
which it asked. -/
def turns (r : Nat) : List Happening → List (Option DeployEvent)
  | [] => []
  | .told event :: past => some event :: turns r past
  | .got r' _ :: past => if r' = r then none :: turns r past else turns r past
  | _ :: past => turns r past

/-- What a reader has not got that has got what it would get alone. -/
def unreadBy (size r : Nat) (later : List Happening) : List DeployEvent :=
  (alone size (turns r later)).2

variable {r r' : Nat} {happened : Happening}

/-! What another reader does does not matter to a reader. -/

theorem since_cons_of_other (other : happened.IsBy r') (another : r' ≠ r) (past : List Happening) :
    since r (happened :: past) = (since r past).map (happened :: ·) := by
  cases happened with
  | told event => exact other.elim
  | subscribed | left =>
    obtain rfl := other
    exact if_neg another
  | got => rfl

theorem turns_cons_of_other (other : happened.IsBy r') (another : r' ≠ r) (past : List Happening) :
    turns r (happened :: past) = turns r past := by
  cases happened with
  | told event => exact other.elim
  | subscribed | left => rfl
  | got =>
    obtain rfl := other
    exact if_neg another

theorem got_cons_of_other (other : happened.IsBy r') (another : r' ≠ r) (past : List Happening) :
    got r (happened :: past) = got r past := by
  cases happened with
  | told event => exact other.elim
  | subscribed | left => rfl
  | got =>
    obtain rfl := other
    exact if_neg another

/-- The events are among what matters to a reader, whichever it is. -/
theorem told_eq_turns (r : Nat) (past : List Happening) :
    told past = (turns r past).reverse.filterMap id := by
  induction past with
  | nil => rfl
  | cons happened past ih =>
    cases happened with
    | subscribed | left => exact ih
    | told event => simp [told, turns, ih]
    | got r' answer =>
      simp only [told, turns]
      split <;> simp [ih]

end EventStream

namespace Channel

open EventStream

/-- **How a stream may be used**: readers come, and leave and ask while they are there, and events
are put on it in one way or another. -/
inductive Runs (C : Channel DeployEvent) (capacity : Nat) : List Happening → C.State → Prop
  | start : Runs C capacity [] (C.ofCapacity capacity)
  | subscribe {past s} (before : Runs C capacity past s) :
      Runs C capacity (.subscribed (C.subscribe s).1 :: past) (C.subscribe s).2
  | drop {past s r} (before : Runs C capacity past s) (there : (since r past).isSome) :
      Runs C capacity (.left r :: past) (C.drop s r)
  | emit {past s} (before : Runs C capacity past s) (event : DeployEvent) :
      Runs C capacity (.told event :: past) (C.emit s event)
  | stage {past s} (before : Runs C capacity past s) (name : String) :
      Runs C capacity (.told (.stageStarted name) :: past) (C.stage s name)
  | message {past s} (before : Runs C capacity past s) (text : String) :
      Runs C capacity (.told (.message text) :: past) (C.message s text)
  | receive {past s r} (before : Runs C capacity past s) (there : (since r past).isSome) :
      Runs C capacity (.got r (C.receive s r).1 :: past) (C.receive s r).2

/-! ### One step -/

variable {C : Channel DeployEvent} {capacity size : Nat} {s s' : C.State} {r r' : Nat}
  {past later : List Happening}

/-- **A reader stands where it would stand alone**: it has got the same answers, has as many events
to get, and of these the latest are held. -/
structure Standing (C : Channel DeployEvent) (size : Nat) (s : C.State) (r : Nat)
    (later : List Happening) : Prop where
  got : got r later = (alone size (turns r later)).1
  pending : C.pending? s r = some (unreadBy size r later).length
  held : (unreadBy size r later).rtake size <:+ C.held s

/-- What another reader does is nothing to a reader. -/
theorem Standing.other {happened : Happening} {p : Option Nat}
    (standing : C.Standing size s r later) (moves : C.Moves s r' p s') (by_other : happened.IsBy r')
    (another : r' ≠ r) : C.Standing size s' r (happened :: later) where
  got := by
    rw [got_cons_of_other by_other another, turns_cons_of_other by_other another, standing.got]
  pending := by
    rw [unreadBy, turns_cons_of_other by_other another, moves.readers, if_neg another.symm]
    exact standing.pending
  held := by
    rw [unreadBy, turns_cons_of_other by_other another, moves.held]
    exact standing.held

/-- Who has just come has nothing to get. -/
theorem Standing.new (there : C.pending? s r = some 0) : C.Standing size s r [] where
  got := rfl
  pending := there
  held := by simp [unreadBy, turns, alone]

/-- One more event is one more to get, and the latest of these are still held. -/
theorem Standing.emit (lawful : C.Lawful) (reachable : C.Reachable s) (holds : C.size s = size)
    (standing : C.Standing size s r later) (event : DeployEvent) :
    C.Standing size (C.emit s event) r (.told event :: later) := by
  have more : unreadBy size r (.told event :: later) = unreadBy size r later ++ [event] := rfl
  refine ⟨standing.got, ?_, ?_⟩
  · rw [Channel.emit, lawful.send s event r reachable, standing.pending, more, List.length_append]
    rfl
  · have there : (C.pending? s r).isSome := by rw [standing.pending]; rfl
    rw [Channel.emit, lawful.overwrite s event r reachable there, holds, more, ← rtake_concat_rtake]
    have ending : (unreadBy size r later).rtake size ++ [event] <:+ C.held s ++ [event] :=
      List.suffix_append_self_iff.mpr standing.held
    refine suffix_rtake ((rtake_suffix _ size).trans ending) ?_
    rw [length_rtake]
    exact Nat.min_le_right _ _

/-- **A channel answers as if the reader were alone.** -/
theorem Lawful.receive {unread : List DeployEvent} (lawful : C.Lawful) (reachable : C.Reachable s)
    (holds : C.size s = size) (pending : C.pending? s r = some unread.length)
    (held : unread.rtake size <:+ C.held s) :
    (C.receive s r).1 = (next size unread).1 ∧
      C.Moves s r (some (next size unread).2.length) (C.receive s r).2 ∧
      (next size unread).2.rtake size <:+ C.held s := by
  have bounded := lawful.bounded s reachable
  rw [holds] at bounded
  rcases Nat.lt_or_ge size unread.length with behind | near
  · -- as many are held as there is room for, and they are the latest
    have many : (unread.rtake size).length = size := by
      rw [length_rtake]
      exact Nat.min_eq_right (Nat.le_of_lt behind)
    have full : (C.held s).length = size := Nat.le_antisymm bounded (many ▸ held.length_le)
    obtain ⟨answered, moves⟩ := lawful.lag s r _ reachable pending (by omega)
    rw [full] at answered moves
    rw [next_of_lt behind, many, rtake_of_length_le (Nat.le_of_eq many)]
    exact ⟨answered, moves, held⟩
  · rw [rtake_of_length_le near] at held
    cases unread with
    | nil =>
      obtain ⟨answered, moves⟩ := lawful.empty s r reachable pending
      rw [next_nil]
      exact ⟨answered, moves, by simp⟩
    | cons e rest =>
      obtain ⟨older, split⟩ := held
      have there : rest.length + 1 ≤ (C.held s).length := by simp [← split]
      have oldest : (C.held s)[(C.held s).length - (rest.length + 1)]? = some e := by
        simp [← split]
      obtain ⟨answered, moves⟩ := lawful.event s r _ e reachable pending there oldest
      rw [next_cons near, rtake_of_length_le (Nat.le_of_succ_le near)]
      exact ⟨answered, moves, older ++ [e], by rw [List.append_assoc, ← split]; rfl⟩

/-- Who asks gets what it would get alone, and goes on as it would. -/
theorem Standing.receive (lawful : C.Lawful) (reachable : C.Reachable s) (holds : C.size s = size)
    (standing : C.Standing size s r later) :
    C.Standing size (C.receive s r).2 r (.got r (C.receive s r).1 :: later) := by
  obtain ⟨answered, moves, held⟩ :=
    lawful.receive reachable holds standing.pending standing.held
  have turned : turns r (.got r (C.receive s r).1 :: later) = none :: turns r later := if_pos rfl
  have all : EventStream.got r (.got r (C.receive s r).1 :: later) =
    EventStream.got r later ++ [(C.receive s r).1] := if_pos rfl
  refine ⟨?_, ?_, ?_⟩
  · rw [all, turned, answered, standing.got]
    rfl
  · rw [unreadBy, turned, moves.readers, if_pos rfl]
    rfl
  · rw [unreadBy, turned, moves.held]
    exact held

/-! ### All steps -/

/-- What holds of a stream after a history of it: it is as large as it was made, nobody is there who
has not subscribed, and every reader stands where it would stand alone. -/
structure Follows (C : Channel DeployEvent) (size : Nat) (past : List Happening) (s : C.State) :
    Prop where
  reachable : C.Reachable s
  holds : C.size s = size
  nobody : ∀ r, since r past = none → C.pending? s r = none
  standing : ∀ r later, since r past = some later → C.Standing size s r later

/-- Who is there, is there for the channel. -/
theorem Follows.isSome (follows : C.Follows size past s) (there : (since r past).isSome) :
    (C.pending? s r).isSome := by
  obtain ⟨later, live⟩ := Option.isSome_iff_exists.mp there
  rw [(follows.standing r later live).pending]
  rfl

/-- What one reader does matters to this one only. -/
theorem Follows.moves {happened : Happening} {p : Option Nat} (follows : C.Follows size past s)
    (reachable : C.Reachable s') (moves : C.Moves s r p s') (by_reader : happened.IsBy r)
    (gone : since r (happened :: past) = none → p = none)
    (there : ∀ later, since r (happened :: past) = some later → C.Standing size s' r later) :
    C.Follows size (happened :: past) s' := by
  refine ⟨reachable, moves.size.trans follows.holds, fun r' nobody => ?_, fun r' later live => ?_⟩
  · rw [moves.readers]
    split
    · next same => exact gone (same ▸ nobody)
    · next another =>
      rw [since_cons_of_other by_reader (Ne.symm another)] at nobody
      exact follows.nobody r' (Option.map_eq_none_iff.mp nobody)
  · by_cases same : r = r'
    · subst same
      exact there later live
    · rw [since_cons_of_other by_reader same] at live
      obtain ⟨later, was, rfl⟩ := Option.map_eq_some_iff.mp live
      exact (follows.standing r' later was).other moves by_reader same

theorem Follows.subscribe (lawful : C.Lawful) (follows : C.Follows size past s) :
    C.Follows size (.subscribed (C.subscribe s).1 :: past) (C.subscribe s).2 := by
  obtain ⟨-, moves⟩ := lawful.subscribe s follows.reachable
  have fresh : since (C.subscribe s).1 (.subscribed (C.subscribe s).1 :: past) = some [] :=
    if_pos rfl
  refine follows.moves (.subscribed follows.reachable) moves rfl (by simp [fresh])
    fun later live => ?_
  obtain rfl := Option.some.inj (fresh.symm.trans live)
  exact .new (by rw [moves.readers, if_pos rfl])

theorem Follows.drop (lawful : C.Lawful) (follows : C.Follows size past s)
    (there : (since r past).isSome) : C.Follows size (.left r :: past) (C.drop s r) := by
  have gone : since r (.left r :: past) = none := if_pos rfl
  exact follows.moves (.left follows.reachable (follows.isSome there))
    (lawful.drop s r follows.reachable (follows.isSome there)) rfl (fun _ => rfl) (by simp [gone])

theorem Follows.receive (lawful : C.Lawful) (follows : C.Follows size past s)
    (there : (since r past).isSome) :
    C.Follows size (.got r (C.receive s r).1 :: past) (C.receive s r).2 := by
  obtain ⟨later, live⟩ := Option.isSome_iff_exists.mp there
  have standing := follows.standing r later live
  have still : since r (.got r (C.receive s r).1 :: past) =
      some (.got r (C.receive s r).1 :: later) := by rw [since, live]; rfl
  obtain ⟨-, moves, -⟩ :=
    lawful.receive follows.reachable follows.holds standing.pending standing.held
  refine follows.moves (.asked follows.reachable (follows.isSome there)) moves rfl
    (by simp [still]) fun later' live' => ?_
  obtain rfl := Option.some.inj (still.symm.trans live')
  exact standing.receive lawful follows.reachable follows.holds

theorem Follows.emit (lawful : C.Lawful) (follows : C.Follows size past s) (event : DeployEvent) :
    C.Follows size (.told event :: past) (C.emit s event) := by
  refine ⟨.told follows.reachable event, ?_, fun r gone => ?_, fun r later live => ?_⟩
  · exact (lawful.size_send s event follows.reachable).trans follows.holds
  · rw [Channel.emit, lawful.send s event r follows.reachable,
      follows.nobody r (Option.map_eq_none_iff.mp gone)]
    rfl
  · obtain ⟨later, was, rfl⟩ := Option.map_eq_some_iff.mp live
    exact (follows.standing r later was).emit lawful follows.reachable follows.holds event

/-- This holds whatever happens on a stream. -/
theorem Runs.follows (lawful : C.Lawful) (positive : 1 ≤ capacity) (runs : C.Runs capacity past s) :
    C.Follows capacity.nextPowerOfTwo past s := by
  induction runs with
  | start =>
    exact ⟨.made positive, lawful.size_ofCapacity capacity positive,
      fun r _ => lawful.nobody capacity r, nofun⟩
  | subscribe _ ih => exact ih.subscribe lawful
  | drop _ there ih => exact ih.drop lawful there
  | emit _ event ih => exact ih.emit lawful event
  | stage _ name ih => exact ih.emit lawful (.stageStarted name)
  | message _ text ih => exact ih.emit lawful (.message text)
  | receive _ there ih => exact ih.receive lawful there

/-- **Every reader of a stream stands where it would stand alone**, and is answered as it would be. -/
theorem Runs.standing (lawful : C.Lawful) (positive : 1 ≤ capacity) (runs : C.Runs capacity past s)
    (live : since r past = some later) : C.Standing capacity.nextPowerOfTwo s r later ∧
      (C.receive s r).1 =
        (next capacity.nextPowerOfTwo (unreadBy capacity.nextPowerOfTwo r later)).1 := by
  have follows := runs.follows lawful positive
  have standing := follows.standing r later live
  exact ⟨standing,
    (lawful.receive follows.reachable follows.holds standing.pending standing.held).1⟩

/-! ### The account -/

/-- **The account of a reader.** What was put on the stream since it subscribed are the events that
its answers account for, each in its place, and after them those that it has not got. -/
structure Accounts (C : Channel DeployEvent) (size : Nat) (s : C.State) (r : Nat)
    (later : List Happening) (passed rest : List DeployEvent) : Prop where
  split : told later = passed ++ rest
  covers : Covers (got r later) passed
  pending : C.pending? s r = some rest.length
  count : delivered (got r later) + missed (got r later) + rest.length = (told later).length
  /-- The next event comes if it is still held. -/
  event_iff : ∀ e, (C.receive s r).1 = .event e ↔ rest.length ≤ size ∧ rest.head? = some e
  /-- Events are only missed if there are more of them than are held, and then no more than that. -/
  lagged_iff : ∀ n, (C.receive s r).1 = .lagged n ↔ size < rest.length ∧ n = rest.length - size
  empty_iff : (C.receive s r).1 = .empty ↔ rest = []

/-- **A stream accounts to every reader for every event**, at every moment, and nothing else makes a
difference to what a reader gets: two readers, on one stream or on two, that have seen the same
events come since they subscribed and have asked at the same moments among these have got the same
answers, and will get the same. It does not matter to them who else was there and asked, nor what
had happened before they subscribed, such as that events were put on the stream which nobody read. -/
theorem accounts_for_every_event (lawful : C.Lawful) (positive : 1 ≤ capacity)
    (runs : C.Runs capacity past s) (live : since r past = some later) :
    (∃ passed rest, C.Accounts capacity.nextPowerOfTwo s r later passed rest) ∧
      ∀ {past' s' r' later'}, C.Runs capacity past' s' → since r' past' = some later' →
        turns r' later' = turns r later →
        got r' later' = got r later ∧ C.pending? s' r' = C.pending? s r ∧
          (C.receive s' r').1 = (C.receive s r).1 := by
  obtain ⟨standing, answered⟩ := runs.standing lawful positive live
  constructor
  · obtain ⟨passed, split, covers⟩ :=
      exists_covers_alone capacity.nextPowerOfTwo (turns r later)
    rw [← told_eq_turns] at split
    rw [← standing.got] at covers
    refine ⟨passed, unreadBy capacity.nextPowerOfTwo r later, split, covers, standing.pending, ?_,
      fun e => ?_, fun n => ?_, ?_⟩
    · rw [covers.count, split, List.length_append]
      rfl
    · rw [answered, next_eq_event_iff]
    · rw [answered, next_eq_lagged_iff]
    · rw [answered, next_eq_empty_iff]
  · intro past' s' r' later' runs' live' turned
    obtain ⟨standing', answered'⟩ := runs'.standing lawful positive live'
    refine ⟨?_, ?_, ?_⟩
    · rw [standing'.got, standing.got, turned]
    · rw [standing'.pending, standing.pending, unreadBy, unreadBy, turned]
    · rw [answered', answered, unreadBy, unreadBy, turned]

/-- Five events for a reader of a channel that holds four, while another one comes and leaves. -/
def overrun : List Happening :=
  [.left 1, .got 0 (.event (.message "2")), .got 0 (.lagged 1), .told (.message "5"),
    .told (.message "4"), .subscribed 1, .told (.message "3"), .told (.message "2"),
    .told (.stageStarted "1")]

theorem accounts_for_every_event_overrun :
    (Broadcast.channel DeployEvent).Lawful ∧ 1 ≤ 3 ∧
      ∃ s, (Broadcast.channel DeployEvent).Runs 3
          (overrun ++ [.subscribed 0, .told (.message "nobody listening")]) s ∧
        since 0 (overrun ++ [.subscribed 0, .told (.message "nobody listening")]) = some overrun ∧
        (∃ passed rest, (Broadcast.channel DeployEvent).Accounts (Nat.nextPowerOfTwo 3) s 0 overrun
          passed rest) ∧
        (Broadcast.receive s 0).1 = .event (.message "3") := by
  have four : Nat.nextPowerOfTwo 3 = 4 := by decide +kernel
  have made : (Broadcast.channel DeployEvent).Runs 3 [] ⟨4, [], []⟩ := by
    rw [← four]
    exact .start
  have told := ((made.message "nobody listening").subscribe.stage "1").message "2" |>.message "3"
  have lagging := ((told.subscribe.message "4").message "5").receive (r := 0) rfl
  have runs := (lagging.receive (r := 0) rfl).drop (r := 1) rfl
  have live : since 0 (overrun ++ [.subscribed 0, .told (.message "nobody listening")]) =
    some overrun := rfl
  exact ⟨Broadcast.lawful _, by decide, _, runs, live,
    (accounts_for_every_event (Broadcast.lawful _) (by decide) runs live).1, rfl⟩

end Channel

end FleetDeploy
