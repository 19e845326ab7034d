import BuildWatch.Consumer
import BuildWatch.Host

/-!
# A client on its transports

A watcher is a client with its streams, hosted on one transport for each of
its connections.
-/

namespace BuildWatch

namespace Watcher

/-- Who asks a transport for something. -/
inductive Party where
  | client
  | stream (index : Nat)
  | sequence (index : Nat)

/-- What a transport is asked for. -/
inductive Demand where
  | send (message : Message)
  | receive
  | close

/-- What a client or one of its streams asks the transport of a connection. -/
structure Operation where
  party : Party
  connection : ConnectionId
  demand : Demand

/-- What an effect of a stream asks for. -/
def streamDemand? : CycleStream.Effect → Option Demand
  | .send message => some (.send message)
  | .receive => some .receive
  | _ => none

/-- The operation that an effect asks for. -/
def operation? : Consumer.Effect → Option Operation
  | .client (.send connection message) =>
      some ⟨.client, connection, .send message⟩
  | .client (.receive connection) => some ⟨.client, connection, .receive⟩
  | .client (.close connection) => some ⟨.client, connection, .close⟩
  | .client _ => none
  | .stream index connection effect =>
      (streamDemand? effect).map (⟨.stream index, connection, ·⟩)
  | .sequence index connection effect =>
      (streamDemand? effect).map (⟨.sequence index, connection, ·⟩)

/-- The event that a message is sent, or is not. -/
def sentEvent (result : Except TransportError Unit) :
    Party → Consumer.Event
  | .client => .client (.sent result)
  | .stream index => .stream index (.sent result)
  | .sequence index => .sequence index (.sent result)

/-- The event that a message is received, or is not. -/
def receivedEvent (party : Party)
    (result : Except TransportError Message) : Consumer.Event :=
  match party with
  | .client => .client (.received result)
  | .stream index => .stream index (.received result)
  | .sequence index => .sequence index (.received result)

end Watcher

/-- A client with its streams and what they have asked their transports for. -/
abbrev Watcher := Hosted Consumer Consumer.Effect Watcher.Operation

namespace Watcher

variable {World : Type}

/-- A watcher whose client was not called yet. -/
def new (options : ClientOptions) : Watcher :=
  Hosted.new (Consumer.new options)

/-- Tries an operation on the transport of its connection. -/
def attempt (channels : ConnectionId → Channel World)
    (operation : Operation) (attempt : Attempt) (world : World) :
    Option Consumer.Event × World :=
  let channel := channels operation.connection
  match operation.demand with
  | .send message =>
      let (result, after) := channel.send message world
      (some (sentEvent result operation.party), after)
  | .receive =>
      let (result, after) := channel.receive attempt world
      (result.map (receivedEvent operation.party), after)
  | .close =>
      let (result, after) := channel.close world
      (some (.client (.closed result)), after)

/-- How a client with its streams is hosted. -/
def host (channels : ConnectionId → Channel World) :
    Host World Consumer Consumer.Event Consumer.Effect Operation where
  step := Consumer.step
  operation? := operation?
  attempt := fun _ => attempt channels
  internal? := fun _ => none

/-- More steps than a watcher can take before it has to wait. -/
def stepsLeft (channels : ConnectionId → Channel World) (watcher : Watcher)
    (world : World) : Nat :=
  16 + 4 * (watcher.pending.length
    + (watcher.pending.map fun pending =>
        (channels pending.operation.connection).backlog world).foldl
          (· + ·) 0)

/-- Goes on until every transport has to wait. -/
def settle (channels : ConnectionId → Channel World) (watcher : Watcher)
    (world : World) : Watcher × World :=
  Hosted.settle (host channels) (stepsLeft channels watcher world) watcher
    world

/-- Starts a call and goes on until every transport has to wait. -/
def call (channels : ConnectionId → Channel World) (watcher : Watcher)
    (event : Consumer.Event) (world : World) : Watcher × World :=
  settle channels (watcher.react (host channels) event) world

/-- Results of the calls of the client. -/
def outcomes (watcher : Watcher) : List Client.Outcome :=
  watcher.emitted.filterMap fun
    | .client (.finish outcome) => some outcome
    | _ => none

/-- Results of the calls for the next cycle, `none` behind the last. -/
def items (watcher : Watcher) : List (Option CycleStream.Item) :=
  watcher.emitted.filterMap fun
    | .stream _ _ (.yield item) => some item
    | .sequence _ _ (.yield item) => some item
    | _ => none

/-- Results of the calls to stop. -/
def stops (watcher : Watcher) : List (Except ProtocolError Unit) :=
  watcher.emitted.filterMap fun
    | .stream _ _ (.stopped result) => some result
    | _ => none

/-- The entries that the streams wrote to the log. -/
def log (watcher : Watcher) : List LogEntry :=
  watcher.emitted.filterMap fun
    | .stream _ _ (.log entry) => some entry
    | .sequence _ _ (.log entry) => some entry
    | _ => none

/-- Takes at most so many items of a sequence. -/
def pull (channels : ConnectionId → Channel World) (index : Nat) :
    (count : Nat) → Watcher → World → Watcher × World
  | 0, watcher, world => (watcher, world)
  | count + 1, watcher, world =>
      let (next, after) :=
        call channels watcher (.sequence index .pull) world
      match next.machine.sequences[index]? with
      | some (.live _) => pull channels index count next after
      | _ => (next, after)

/-- Makes a stream into a sequence, takes at most so many items, drops it. -/
def collect (channels : ConnectionId → Channel World) (stream count : Nat)
    (watcher : Watcher) (world : World) : Watcher × World :=
  let index := watcher.machine.sequences.length
  let (gathered, before) := call channels watcher (.gather stream) world
  let (pulled, after) := pull channels index count gathered before
  call channels pulled (.sequence index (.drop false)) after

end Watcher

end BuildWatch
