import BuildWatch.CycleStream

/-!
# Sequences of cycles

A sequence owns a stream and hands out its items one by one.  Behind the
last item the stream is dropped at once, and a sequence that is dropped
earlier drops its stream.
-/

namespace BuildWatch

/-- A sequence of items, over as soon as there are no more. -/
inductive CycleSequence where
  /-- The stream that the items come from. -/
  | live (stream : CycleStream)
  /-- There are no more items from a connection. -/
  | ended (connection : ConnectionId)
deriving DecidableEq

namespace CycleSequence

/-- The connection that the items come from. -/
def connection : CycleSequence → ConnectionId
  | .live stream => stream.connection
  | .ended connection => connection

/-- A call of the consumer, or what the transport did for the one under way. -/
inductive Event where
  /-- A call for the next item. -/
  | pull
  /-- The consumer drops the sequence, where messages can be sent or not. -/
  | drop (orphaned : Bool)
  /-- The transport sent a message, or did not. -/
  | sent (result : Except TransportError Unit)
  /-- The transport received a message, or did not. -/
  | received (result : Except TransportError Message)

/-- The event of the stream that an event of the sequence amounts to. -/
def Event.onStream : Event → CycleStream.Event
  | .pull => .next
  | .drop orphaned => .drop orphaned
  | .sent result => .sent result
  | .received result => .received result

/-- Whether an effect says that there are no more items. -/
def isLast : CycleStream.Effect → Bool
  | .yield none => true
  | _ => false

/-- The sequence behind a step, and the effects of the step. -/
abbrev Reaction := CycleSequence × List CycleStream.Effect

/-- Reacts to an event, if it can happen. -/
def step (sequence : CycleSequence) (event : Event) : Option Reaction :=
  match sequence, event with
  | .ended connection, .drop _ => some (.ended connection, [.dropped])
  | .ended _, _ => none
  | .live stream, _ => do
      let (next, effects) ← stream.step event.onStream
      if effects.any isLast then
        let (_, more) := next.drop false
        some (.ended stream.connection, effects ++ more)
      else some (.live next, effects)

end CycleSequence

end BuildWatch
