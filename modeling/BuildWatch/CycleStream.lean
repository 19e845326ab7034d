import BuildWatch.Error
import BuildWatch.Log

/-!
# Streams of cycles

A stream hands out the cycles of one connection.  It answers every cycle
twice: that it is started, before it is handed out, and that it is completed,
once the consumer asks for the next one, stops the stream or drops it.
Messages that are no cycles are skipped.  Any other failure to receive, or to
say that a cycle is started, ends the stream.

The calls of a consumer follow one another, and each goes through the steps
of the transport that it asks for.  `CycleStream.step` is undefined for an
event that cannot happen.
-/

namespace BuildWatch

/-- The number that a connection of a client is known by. -/
abbrev ConnectionId := Nat

/-- A cycle as a consumer gets it. -/
structure CycleEvent where
  number : CycleId
  /-- The scope of the changes, if the server says and it is known. -/
  scope : Option Scope
  sources : Changes
  trace : TraceFields
deriving DecidableEq

/-- The cycle that a message is about to hand out. -/
def Message.cycleEvent? (message : Message) : Option CycleEvent :=
  match message.body with
  | .cycle number scope sources => some ⟨number, scope, sources, message.trace⟩
  | _ => none

/-- What the call that is under way waits for. -/
inductive StreamActivity where
  | idle
  /-- The cycle before the next one is to be completed. -/
  | completing
  | receiving
  | starting (event : CycleEvent)
  /-- The last cycle is to be completed because the stream is stopped. -/
  | stopping
  /-- The last cycle is to be completed because the stream is dropped. -/
  | dropping
  | gone
deriving DecidableEq

/-- A stream between two steps of its calls. -/
structure CycleStream where
  connection : ConnectionId
  /-- The cycle that was handed out last and is not completed. -/
  pending : Option CycleId
  ended : Bool
  activity : StreamActivity
deriving DecidableEq

namespace CycleStream

/-- A stream that has handed nothing out yet. -/
def new (connection : ConnectionId) : CycleStream :=
  ⟨connection, none, false, .idle⟩

/-- What a consumer gets when it asks for the next cycle. -/
abbrev Item := Except ProtocolError CycleEvent

/-- A call of the consumer, or what the transport did for the one under way. -/
inductive Event where
  | next
  | stop
  /-- The consumer drops the stream, where messages can be sent or not. -/
  | drop (orphaned : Bool)
  | sent (result : Except TransportError Unit)
  | received (result : Except TransportError Message)

/-- What a stream asks its transport for, and what it gives its consumer. -/
inductive Effect where
  | send (message : Message)
  | receive
  | log (entry : LogEntry)
  /-- Ends a call for the next cycle; there is none behind the last. -/
  | yield (item : Option Item)
  | stopped (result : Except ProtocolError Unit)
  | dropped

/-- The stream behind a step, and the effects of the step. -/
abbrev Reaction := CycleStream × List Effect

/-- The answer that a cycle is started. -/
def startedMessage (number : CycleId) : Message :=
  Message.plain (.acknowledgment .started number)

/-- The answer that a cycle is completed. -/
def completedMessage (number : CycleId) : Message :=
  Message.plain (.acknowledgment .completed number)

/-- Waits for a message. -/
def await (stream : CycleStream) : Reaction :=
  ({ stream with activity := .receiving }, [.receive])

/-- Skips a message, with an entry in the log. -/
def skip (stream : CycleStream) (entry : LogEntry) : Reaction :=
  (stream, [.log entry, .receive])

/-- Ends the stream with an error, which the consumer gets. -/
def fail (stream : CycleStream) (error : TransportError) : Reaction :=
  ({ stream with ended := true, activity := .idle },
    [.yield (some (.error (ProtocolError.ofTransport error)))])

/-- Completes the cycle before the next one, and then waits for that. -/
def next (stream : CycleStream) : Reaction :=
  if stream.ended then (stream, [.yield none])
  else
    match stream.pending with
    | none => await stream
    | some number =>
        ({ stream with pending := none, activity := .completing },
          [.send (completedMessage number)])

/-- Completes the last cycle and ends the stream. -/
def stop (stream : CycleStream) : Reaction :=
  match stream.pending with
  | none => ({ stream with ended := true }, [.stopped (.ok ())])
  | some number =>
      ({ stream with ended := true, pending := none, activity := .stopping },
        [.send (completedMessage number)])

/-- Completes the last cycle, if something can still be sent. -/
def drop (stream : CycleStream) (orphaned : Bool) : Reaction :=
  match stream.pending with
  | none => ({ stream with activity := .gone }, [.dropped])
  | some number =>
      if orphaned then
        ({ stream with pending := none, activity := .gone },
          [.log .completionOrphaned, .dropped])
      else
        ({ stream with pending := none, activity := .dropping },
          [.dropped, .send (completedMessage number)])

/-- Reacts to what receiving a message came to. -/
def receive (stream : CycleStream) :
    Except TransportError Message → Reaction
  | .error (.decode _) => skip stream .undecodableIgnored
  | .error error => fail stream error
  | .ok message =>
      match message.cycleEvent? with
      | none => skip stream .messageIgnored
      | some event =>
          ({ stream with activity := .starting event },
            [.send (startedMessage event.number)])

/-- The log entry of a completion that could not be sent. -/
def completionLog : Except TransportError Unit → List Effect
  | .ok () => []
  | .error _ => [.log .completionUnsent]

/-- Reacts to what sending an answer came to. -/
def sent (stream : CycleStream) (result : Except TransportError Unit) :
    Option Reaction :=
  match stream.activity with
  | .completing =>
      let reaction := await stream
      some (reaction.1, completionLog result ++ reaction.2)
  | .starting event =>
      match result with
      | .error error => some (fail stream error)
      | .ok () =>
          some
            ({ stream with pending := some event.number, activity := .idle },
              [.yield (some (.ok event))])
  | .stopping =>
      some ({ stream with activity := .idle },
        [.stopped (result.mapError ProtocolError.ofTransport)])
  | .dropping =>
      some ({ stream with activity := .gone }, completionLog result)
  | _ => none

/-- Reacts to an event, if it can happen. -/
def step (stream : CycleStream) : Event → Option Reaction
  | .next => if stream.activity = .idle then some (next stream) else none
  | .stop => if stream.activity = .idle then some (stop stream) else none
  | .drop orphaned =>
      if stream.activity = .idle then some (drop stream orphaned) else none
  | .sent result => sent stream result
  | .received result =>
      if stream.activity = .receiving then some (receive stream result)
      else none

end CycleStream

end BuildWatch
