import BuildWatch.Error

/-!
# Transports

A transport moves whole messages through a world that it shares with its
peer.  An operation of a transport changes the world and gives a result, or
it has to wait; then it is tried again, as the same operation, once the world
has changed.
-/

namespace BuildWatch

/-- Whether an operation is tried for the first time. -/
inductive Attempt where
  | first
  | again
deriving DecidableEq

/-- How messages are exchanged with a peer. -/
structure Channel (World : Type) where
  send : Message → World → Except TransportError Unit × World
  /-- Receives a message, or has to wait. -/
  receive : Attempt → World →
    Option (Except TransportError Message) × World
  close : World → Except TransportError Unit × World
  /-- A bound on the messages that can be received without waiting. -/
  backlog : World → Nat

/-- How a server gets a peer. -/
structure Listener (World : Type) extends Channel World where
  bind : String → World → Except TransportError Unit × World
  /-- Accepts a peer, or has to wait. -/
  accept : Attempt → World →
    Option (Except TransportError Unit) × World
  abandon : World → World
  hasConnection : World → Bool

namespace Channel

variable {World Part : Type}

/-- The same channel in a world of which its own world is a part. -/
def within (channel : Channel Part) (part : World → Part)
    (replace : Part → World → World) : Channel World where
  send := fun message world =>
    let (result, after) := channel.send message (part world)
    (result, replace after world)
  receive := fun attempt world =>
    let (result, after) := channel.receive attempt (part world)
    (result, replace after world)
  close := fun world =>
    let (result, after) := channel.close (part world)
    (result, replace after world)
  backlog := fun world => channel.backlog (part world)

end Channel

end BuildWatch
