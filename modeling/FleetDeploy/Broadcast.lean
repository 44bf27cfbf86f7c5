/-!
# A channel with many readers

Events are published on a channel that any number of readers may follow. The channel holds the last
so many events, a power of two; a reader that falls further behind is told how many it has missed
and goes on with the oldest event still held. Readers do not disturb one another, and nobody has to
be reading for events to be published.

The channel is described by everything that was ever sent and by one position for each reader, which
is all that its answers depend on: what is held is the end of what was sent.
-/

namespace FleetDeploy

/-- A channel, from its making on. -/
structure Broadcast (ε : Type) where
  /-- How many events are held. -/
  capacity : Nat
  /-- Everything sent, in order. -/
  sent : List ε := []
  /-- For each reader, how much of what was sent it has behind it; `none` once it has left. -/
  readers : List (Option Nat) := []

namespace Broadcast

/-- What a reader gets. -/
inductive Received (ε : Type)
  /-- Everything sent has been read. -/
  | empty
  /-- So many events are gone. -/
  | lagged (missed : Nat)
  | event (e : ε)

variable {ε : Type}

/-- How many events a channel has unless it is told otherwise. -/
def defaultCapacity : Nat := 1024

/-- A channel that holds at least `capacity` events. -/
def ofCapacity (capacity : Nat) : Broadcast ε := { capacity := capacity.nextPowerOfTwo }

/-- One more reader, which will see what is sent from now on, with its number. -/
def subscribe (b : Broadcast ε) : Nat × Broadcast ε :=
  (b.readers.length, { b with readers := b.readers ++ [some b.sent.length] })

/-- The channel after a reader has left. -/
def drop (b : Broadcast ε) (reader : Nat) : Broadcast ε :=
  { b with readers := b.readers.set reader none }

/-- The channel after one more event. -/
def send (b : Broadcast ε) (e : ε) : Broadcast ε := { b with sent := b.sent ++ [e] }

/-- How many readers there are. -/
def readerCount (b : Broadcast ε) : Nat := b.readers.countP (·.isSome)

/-- The channel with one reader at another position. -/
def moveTo (b : Broadcast ε) (reader position : Nat) : Broadcast ε :=
  { b with readers := b.readers.set reader (some position) }

/-- What a reader gets when it asks without waiting. A reader that has left gets nothing. -/
def receive (b : Broadcast ε) (reader : Nat) : Received ε × Broadcast ε :=
  match b.readers[reader]?.join with
  | none => (.empty, b)
  | some position =>
    let pending := b.sent.length - position
    if b.capacity < pending then
      (.lagged (pending - b.capacity), b.moveTo reader (b.sent.length - b.capacity))
    else match b.sent[position]? with
      | some e => (.event e, b.moveTo reader (position + 1))
      | none => (.empty, b)

end Broadcast

end FleetDeploy
