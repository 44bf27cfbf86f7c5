import FleetDeploy.EventStream
import Mathlib.Data.List.DropRight

/-!
# The rules of a channel

What a stream relies on is not how its channel is made but the rules that the channel keeps. They
are few. It holds so many events at most, a power of two; an event that is sent while it is full
takes the place of the oldest one. Every reader has a place of its own in what was sent, and gets
what comes next there while this is still held; when it is not, the reader is told how many events
are gone and is moved to the oldest event that is held. Nothing is said of what is held while nobody
reads, since nobody can ever get it.

* `FleetDeploy.Channel.Reachable` – what a channel can come to when it is used;
* `FleetDeploy.Channel.Moves` – a step that moves one reader and does nothing else;
* `FleetDeploy.Channel.Lawful` – the rules;
* `FleetDeploy.Broadcast.lawful` – the channel in memory keeps them.
-/

namespace FleetDeploy

open Broadcast (Received)

/-! ### The last of some events -/

section Last

variable {ε : Type} {l l' : List ε} {n : Nat}

theorem length_rtake (l : List ε) (n : Nat) : (l.rtake n).length = min l.length n := by
  rw [List.rtake, List.length_drop]
  omega

theorem rtake_of_length_le (short : l.length ≤ n) : l.rtake n = l := by
  rw [List.rtake, Nat.sub_eq_zero_of_le short, List.drop_zero]

theorem rtake_suffix (l : List ε) (n : Nat) : l.rtake n <:+ l := List.drop_suffix _ l

/-- What a list ends with is among its last elements if there is room for it. -/
theorem suffix_rtake (ending : l <:+ l') (short : l.length ≤ n) : l <:+ l'.rtake n := by
  refine List.suffix_of_suffix_length_le ending (rtake_suffix l' n) ?_
  rw [length_rtake]
  exact Nat.le_min.mpr ⟨ending.length_le, short⟩

/-- Of one more element and what was before it, only the last of the latter matter. -/
theorem rtake_concat_rtake (l : List ε) (e : ε) (n : Nat) :
    (l.rtake n ++ [e]).rtake n = (l ++ [e]).rtake n := by
  have ending : l.rtake n ++ [e] <:+ l ++ [e] :=
    List.suffix_append_self_iff.mpr (rtake_suffix l n)
  have short : ((l.rtake n ++ [e]).rtake n).length ≤ n := by
    rw [length_rtake]
    exact Nat.min_le_right _ _
  refine (suffix_rtake ((rtake_suffix _ n).trans ending) short).eq_of_length ?_
  simp only [length_rtake, List.length_append, List.length_singleton]
  omega

end Last

namespace Channel

variable {ε : Type}

/-- **What a channel can come to** when it is used by readers that are there. -/
inductive Reachable (C : Channel ε) : C.State → Prop
  | made {capacity : Nat} (positive : 1 ≤ capacity) : Reachable C (C.ofCapacity capacity)
  | subscribed {s} (before : Reachable C s) : Reachable C (C.subscribe s).2
  | left {s r} (before : Reachable C s) (there : (C.pending? s r).isSome) : Reachable C (C.drop s r)
  | told {s} (before : Reachable C s) (event : ε) : Reachable C (C.send s event)
  | asked {s r} (before : Reachable C s) (there : (C.pending? s r).isSome) :
      Reachable C (C.receive s r).2

/-- **One reader is moved**, or comes or goes, and nothing else happens. -/
structure Moves (C : Channel ε) (s : C.State) (r : Nat) (pending : Option Nat) (s' : C.State) :
    Prop where
  size : C.size s' = C.size s
  held : C.held s' = C.held s
  readers : ∀ r', C.pending? s' r' = if r' = r then pending else C.pending? s r'

/-- **The rules of a channel.** -/
structure Lawful (C : Channel ε) : Prop where
  /-- It holds as many events as it was asked to, up to the next power of two. -/
  size_ofCapacity : ∀ capacity, 1 ≤ capacity →
    C.size (C.ofCapacity capacity) = capacity.nextPowerOfTwo
  /-- In the beginning nobody reads. -/
  nobody : ∀ capacity r, C.pending? (C.ofCapacity capacity) r = none
  bounded : ∀ s, C.Reachable s → (C.held s).length ≤ C.size s
  /-- Who subscribes is somebody new, and has got everything so far. -/
  subscribe : ∀ s, C.Reachable s → C.pending? s (C.subscribe s).1 = none ∧
    C.Moves s (C.subscribe s).1 (some 0) (C.subscribe s).2
  drop : ∀ s r, C.Reachable s → (C.pending? s r).isSome → C.Moves s r none (C.drop s r)
  size_send : ∀ s event, C.Reachable s → C.size (C.send s event) = C.size s
  /-- What is sent is there to be got by everybody. -/
  send : ∀ s event r, C.Reachable s → C.pending? (C.send s event) r = (C.pending? s r).map (· + 1)
  /-- While somebody reads, what is sent is held, in the place of the oldest event if need be. -/
  overwrite : ∀ s event r, C.Reachable s → (C.pending? s r).isSome →
    C.held (C.send s event) = (C.held s ++ [event]).rtake (C.size s)
  empty : ∀ s r, C.Reachable s → C.pending? s r = some 0 →
    (C.receive s r).1 = .empty ∧ C.Moves s r (some 0) (C.receive s r).2
  /-- Who has not got an event that is held gets it. -/
  event : ∀ s r n e, C.Reachable s → C.pending? s r = some (n + 1) → n + 1 ≤ (C.held s).length →
    (C.held s)[(C.held s).length - (n + 1)]? = some e →
    (C.receive s r).1 = .event e ∧ C.Moves s r (some n) (C.receive s r).2
  /-- Who has fallen behind what is held is moved to the oldest event that is. -/
  lag : ∀ s r n, C.Reachable s → C.pending? s r = some n → (C.held s).length < n →
    (C.receive s r).1 = .lagged (n - (C.held s).length) ∧
      C.Moves s r (some (C.held s).length) (C.receive s r).2

end Channel

/-! ### The channel in memory -/

namespace Broadcast

variable {ε : Type} {b : Broadcast ε} {r position : Nat}

/-- Where a reader stands, if it is there. -/
def position? (b : Broadcast ε) (r : Nat) : Option Nat := b.readers[r]?.join

theorem position?_subscribe (b : Broadcast ε) (r : Nat) :
    b.subscribe.2.position? r =
      if r = b.subscribe.1 then some b.sent.length else b.position? r := by
  simp only [position?, subscribe, List.getElem?_append, List.getElem?_singleton]
  split <;> grind

theorem position?_drop (b : Broadcast ε) (r r' : Nat) :
    (b.drop r).position? r' = if r' = r then none else b.position? r' := by
  simp only [position?, drop, List.getElem?_set]
  grind

theorem position?_moveTo (there : (b.position? r).isSome) (r' : Nat) :
    (b.moveTo r position).position? r' = if r' = r then some position else b.position? r' := by
  simp only [position?, moveTo, List.getElem?_set]
  grind [position?]

/-! Of what was sent a reader has some behind it, and what it gets is told by how much comes after. -/

theorem receive_of_behind (there : b.position? r = some position)
    (behind : b.capacity < b.sent.length - position) :
    b.receive r = (.lagged (b.sent.length - position - b.capacity),
      b.moveTo r (b.sent.length - b.capacity)) := by
  rw [position?] at there
  rw [receive, there]
  exact if_pos behind

theorem receive_of_held {e : ε} (there : b.position? r = some position)
    (held : b.sent.length - position ≤ b.capacity) (next : b.sent[position]? = some e) :
    b.receive r = (.event e, b.moveTo r (position + 1)) := by
  rw [position?] at there
  rw [receive, there]
  simp only [if_neg (Nat.not_lt.mpr held), next]

theorem receive_of_read (there : b.position? r = some position)
    (read : b.sent.length ≤ position) : b.receive r = (.empty, b) := by
  rw [position?] at there
  have nothing : ¬b.capacity < b.sent.length - position := by omega
  rw [receive, there]
  simp only [if_neg nothing, List.getElem?_eq_none read]

/-- What a reader gets changes nothing but where it stands. -/
theorem receive_cases (there : b.position? r = some position) :
    (b.receive r).2 = b ∨ ∃ p ≤ b.sent.length, (b.receive r).2 = b.moveTo r p := by
  by_cases behind : b.capacity < b.sent.length - position
  · exact Or.inr ⟨_, Nat.sub_le _ _, by rw [receive_of_behind there behind]⟩
  · by_cases read : b.sent.length ≤ position
    · exact Or.inl (by rw [receive_of_read there read])
    · have next : b.sent[position]? = some _ := List.getElem?_eq_getElem (by omega)
      refine Or.inr ⟨position + 1, by omega, ?_⟩
      rw [receive_of_held there (by omega) next]

/-- A reader has nothing behind it that was not sent. -/
theorem position_le {b : (channel ε).State} (reachable : (channel ε).Reachable b)
    (there : position? b r = some position) : position ≤ (sent b).length := by
  induction reachable generalizing r position with
  | made positive => cases there
  | @subscribed b before ih =>
    change b.subscribe.2.position? r = some position at there
    rw [position?_subscribe] at there
    split at there
    · exact Nat.le_of_eq (Option.some.inj there).symm
    · exact ih there
  | @left b gone before _ ih =>
    change (b.drop gone).position? r = some position at there
    rw [position?_drop] at there
    split at there
    · cases there
    · exact ih there
  | @told b before event ih =>
    have kept : position ≤ b.sent.length := ih there
    exact Nat.le_trans kept (by simp [send])
  | @asked b asking before was_there ih =>
    have standing : (b.position? asking).isSome := by simpa [channel, position?] using was_there
    obtain ⟨stood, was⟩ := Option.isSome_iff_exists.mp standing
    change (b.receive asking).2.position? r = some position at there
    show position ≤ (b.receive asking).2.sent.length
    rcases receive_cases was with same | ⟨p, inside, moved⟩
    · rw [same] at there ⊢
      exact ih there
    · rw [moved, position?_moveTo standing] at there
      rw [moved]
      split at there
      · obtain rfl := Option.some.inj there
        exact inside
      · exact ih there

/-- What a reader has not got is what was sent from where it stands. -/
theorem pending?_eq_some_iff {n : Nat} : (channel ε).pending? b r = some n ↔
    ∃ position, b.position? r = some position ∧ b.sent.length - position = n :=
  Option.map_eq_some_iff

theorem length_held (b : Broadcast ε) :
    ((channel ε).held b).length = min b.sent.length b.capacity :=
  length_rtake b.sent b.capacity

theorem moves_moveTo (there : (b.position? r).isSome) (position : Nat) :
    (channel ε).Moves b r (some (b.sent.length - position)) (b.moveTo r position) where
  size := rfl
  held := rfl
  readers r' := by
    show ((b.moveTo r position).position? r').map _ = _
    rw [position?_moveTo there]
    split <;> rfl

/-- **The channel in memory keeps the rules.** -/
theorem lawful (ε : Type) : (channel ε).Lawful where
  size_ofCapacity capacity positive := rfl
  nobody capacity r := rfl
  bounded b _ := by
    rw [length_held]
    exact Nat.min_le_right _ _
  subscribe b _ := by
    refine ⟨?_, rfl, rfl, fun r' => ?_⟩
    · show (b.position? b.readers.length).map _ = none
      simp [position?]
    · show (b.subscribe.2.position? r').map _ = _
      rw [position?_subscribe]
      split
      · exact congrArg some (Nat.sub_self _)
      · rfl
  drop b r _ there := by
    refine ⟨rfl, rfl, fun r' => ?_⟩
    show ((b.drop r).position? r').map _ = _
    rw [position?_drop]
    split <;> rfl
  size_send b event _ := rfl
  send b event r reachable := by
    show (b.position? r).map _ = ((b.position? r).map _).map _
    rcases there : b.position? r with _ | position
    · rfl
    · have behind := position_le reachable there
      simp only [Option.map_some, Broadcast.send, List.length_append, List.length_singleton]
      rw [Nat.sub_add_comm behind]
  overwrite b event r _ _ := (rtake_concat_rtake b.sent event b.capacity).symm
  empty b r reachable read := by
    obtain ⟨position, there, nothing⟩ := pending?_eq_some_iff.mp read
    have received : (channel ε).receive b r = (.empty, b) := receive_of_read there (by omega)
    refine ⟨by rw [received], ?_⟩
    rw [received]
    refine ⟨rfl, rfl, fun r' => ?_⟩
    split
    · next same => rw [same, read]
    · rfl
  event b r n e reachable pending held next := by
    obtain ⟨position, there, left⟩ := pending?_eq_some_iff.mp pending
    rw [length_held] at held next
    have next : b.sent[position]? = some e := by
      rw [List.getElem?_drop] at next
      rw [← next]
      congr 1
      omega
    have received : (channel ε).receive b r = (.event e, b.moveTo r (position + 1)) :=
      receive_of_held there (by omega) next
    refine ⟨by rw [received], ?_⟩
    have fewer : n = b.sent.length - (position + 1) := by omega
    rw [received, fewer]
    exact moves_moveTo (by rw [there]; rfl) (position + 1)
  lag b r n reachable pending behind := by
    obtain ⟨position, there, left⟩ := pending?_eq_some_iff.mp pending
    rw [length_held] at behind ⊢
    have full : min b.sent.length b.capacity = b.capacity := by omega
    have received : (channel ε).receive b r = (.lagged (n - b.capacity),
        b.moveTo r (b.sent.length - b.capacity)) := by
      rw [← left]
      exact receive_of_behind there (by omega)
    rw [full]
    refine ⟨by rw [received], ?_⟩
    have oldest : b.sent.length - (b.sent.length - b.capacity) = b.capacity := by omega
    have moved := moves_moveTo (by rw [there]; rfl) (b.sent.length - b.capacity)
    rw [oldest] at moved
    rw [received]
    exact moved

end Broadcast

end FleetDeploy
