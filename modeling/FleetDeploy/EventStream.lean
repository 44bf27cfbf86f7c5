import FleetDeploy.Broadcast
import FleetDeploy.Event

/-!
# The stream of events

Observers follow the events of a deployer on a stream, which is a channel with many readers and the
few ways in which something is put on it. Which channel it is does not matter to the stream, so it
is a parameter: a `Channel` is what can be done with one, and `Broadcast.channel` is the one in
memory.
-/

namespace FleetDeploy

/-- What can be done with a channel, and what there is to see of it. Readers have numbers. -/
structure Channel (ε : Type) where
  State : Type
  /-- A channel that holds at least so many events. -/
  ofCapacity : Nat → State
  /-- One more reader, with its number. -/
  subscribe : State → Nat × State
  /-- The channel after a reader has left. -/
  drop : State → Nat → State
  /-- The channel after one more event. -/
  send : State → ε → State
  /-- What a reader gets when it asks without waiting. -/
  receive : State → Nat → Broadcast.Received ε × State
  /-- How many events are held at most. -/
  size : State → Nat
  /-- The events that are held, the oldest one first. -/
  held : State → List ε
  /-- How many events a reader has not got yet, if it is there. -/
  pending? : State → Nat → Option Nat

/-- The channel in memory. -/
@[reducible] def Broadcast.channel (ε : Type) : Channel ε where
  State := Broadcast ε
  ofCapacity := Broadcast.ofCapacity
  subscribe := Broadcast.subscribe
  drop := Broadcast.drop
  send := Broadcast.send
  receive := Broadcast.receive
  size b := b.capacity
  held b := b.sent.drop (b.sent.length - b.capacity)
  pending? b reader := b.readers[reader]?.join.map fun position => b.sent.length - position

namespace Channel

variable (C : Channel DeployEvent)

/-- Puts an event on the stream. That nobody reads it is not an error. -/
def emit (s : C.State) (event : DeployEvent) : C.State := C.send s event

/-- Tells that a stage has begun. -/
def stage (s : C.State) (name : String) : C.State := C.emit s (.stageStarted name)

/-- Tells something in words. -/
def message (s : C.State) (text : String) : C.State := C.emit s (.message text)

end Channel

end FleetDeploy
