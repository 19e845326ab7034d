import BuildWatch.Client
import BuildWatch.CycleStream.Sequence

/-!
# A client with its streams

Streams outlive the connection that they come from, and a consumer may keep
several.  A consumer is a client together with all streams that it ever
handed out and all sequences made of them.  `Consumer.step` interleaves their
calls in any way.
-/

namespace BuildWatch

/-- A client with its streams. -/
structure Consumer where
  client : Client
  /-- The streams, in the order in which they were handed out. -/
  streams : List CycleStream
  /-- The sequences, in the order in which they were made. -/
  sequences : List CycleSequence
deriving DecidableEq

namespace Consumer

/-- A consumer that was handed nothing yet. -/
def new (options : ClientOptions) : Consumer :=
  ⟨Client.new options, [], []⟩

/-- An event of the client, of a stream, or of a sequence. -/
inductive Event where
  | client (event : Client.Event)
  | stream (index : Nat) (event : CycleStream.Event)
  | gather (index : Nat)
  | sequence (index : Nat) (event : CycleSequence.Event)

/-- The effects of the client, of a stream, or of a sequence. -/
inductive Effect where
  | client (effect : Client.Effect)
  | stream (index : Nat) (connection : ConnectionId)
      (effect : CycleStream.Effect)
  | sequence (index : Nat) (connection : ConnectionId)
      (effect : CycleStream.Effect)

/-- The stream that an effect of the client hands out. -/
def handedOut? : Client.Effect → Option CycleStream
  | .finish (.awaited (.ok stream)) => some stream
  | _ => none

/-- Reacts to an event, if it can happen. -/
def step (consumer : Consumer) :
    Event → Option (Consumer × List Effect)
  | .client event => do
      let (client, effects) ← consumer.client.step event
      some
        ({ consumer with
            client
            streams := consumer.streams ++ effects.filterMap handedOut? },
          effects.map .client)
  | .stream index event => do
      let stream ← consumer.streams[index]?
      let (next, effects) ← stream.step event
      some ({ consumer with streams := consumer.streams.set index next },
        effects.map (.stream index stream.connection))
  | .gather index => do
      let stream ← consumer.streams[index]?
      if stream.activity = .idle then
        some
          ({ consumer with
              streams :=
                consumer.streams.set index { stream with activity := .gone }
              sequences := consumer.sequences ++ [.live stream] },
            [])
      else none
  | .sequence index event => do
      let sequence ← consumer.sequences[index]?
      let (next, effects) ← sequence.step event
      some ({ consumer with sequences := consumer.sequences.set index next },
        effects.map (.sequence index sequence.connection))

end Consumer

end BuildWatch
