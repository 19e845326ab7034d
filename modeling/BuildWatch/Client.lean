import BuildWatch.CycleStream
import BuildWatch.Handshake.Client
import BuildWatch.Run

/-!
# The client of a build

A client has at most one connection at a time.  It attaches to one by a
handshake, hands out one stream of cycles on it, and disconnects.  Its calls
follow one another, and each call goes through the steps of the transport
that it asks for.  `Client.step` is undefined for an event that cannot happen:
a call during another one, or an answer of the transport that nobody asked
for.

An attempt to attach that fails hangs up and leaves nothing behind.
-/

namespace BuildWatch

/-- What a client is made with. -/
structure ClientOptions where
  supported : List Version
  /-- What it subscribes to, on versions that have subscriptions. -/
  watchType : String
deriving DecidableEq

/-- The versions spoken by default, and a subscription to the sources. -/
def ClientOptions.default : ClientOptions := ⟨Version.defaults, "sources"⟩

/-- How far a client is with its server. -/
inductive ClientState where
  | disconnected
  | negotiating
  | capabilityNegotiating
  | connected (version : Version)
deriving DecidableEq

/-- The steps of a subscription. -/
inductive Subscription where
  | sending
  | awaiting
deriving DecidableEq

/-- What the call that is under way waits for. -/
inductive ClientActivity where
  | idle
  | shaking (connection : ConnectionId) (request : CapabilityRequest)
      (stage : ClientHandshake.Stage)
  /-- The connection is to be closed because the handshake failed. -/
  | abandoning (error : ProtocolError)
  /-- The connection is to be closed because the caller is done with it. -/
  | disconnecting
  | subscribing (connection : ConnectionId) (subscription : Subscription)
deriving DecidableEq

/-- A client between two steps of its calls. -/
structure Client where
  options : ClientOptions
  state : ClientState
  connection : Option ConnectionId
  version : Option Version
  capabilities : Option Capabilities
  /-- Whether the cycles of the connection were asked for. -/
  awaiting : Bool
  activity : ClientActivity
  nextConnection : ConnectionId
deriving DecidableEq

namespace Client

/-- A client that has not attached to anything yet. -/
def new (options : ClientOptions) : Client where
  options
  state := .disconnected
  connection := none
  version := none
  capabilities := none
  awaiting := false
  activity := .idle
  nextConnection := 0

/-- Whether the handshake is done. -/
def isConnected (client : Client) : Bool :=
  match client.state with
  | .connected _ => true
  | _ => false

/-- A call of the client, or what the transport did for the one under way. -/
inductive Event where
  | attach (request : CapabilityRequest)
  | disconnect
  | awaitCycles
  | sent (result : Except TransportError Unit)
  | received (result : Except TransportError Message)
  | closed (result : Except TransportError Unit)

/-- What a call of the client returns. -/
inductive Outcome where
  | attached (result : Except ProtocolError Unit)
  | disconnected (result : Except ProtocolError Unit)
  | awaited (result : Except ProtocolError CycleStream)

/-- What a client asks its transport for, and what it tells its caller. -/
inductive Effect where
  | send (connection : ConnectionId) (message : Message)
  | receive (connection : ConnectionId)
  | close (connection : ConnectionId)
  | finish (outcome : Outcome)

/-- The client behind a step, and the effects of the step. -/
abbrev Reaction := Client × List Effect

/-- The client without its connection and all that was agreed on there. -/
def forget (client : Client) : Client :=
  { client with
    state := .disconnected
    connection := none
    version := none
    capabilities := none
    awaiting := false }

/-- Ends the call that is under way. -/
def finish (client : Client) (outcome : Outcome) : Reaction :=
  ({ client with activity := .idle }, [.finish outcome])

/-! ## Attaching -/

/-- Goes on with a stage of the handshake and asks for what it needs. -/
def enterStage (client : Client) (connection : ConnectionId)
    (request : CapabilityRequest) (stage : ClientHandshake.Stage) :
    Reaction :=
  ({ client with activity := .shaking connection request stage },
    match stage with
    | .sending sending => [.send connection (sending.message request)]
    | .receiving _ => [.receive connection])

/-- Starts a handshake on a new connection, unless there is one. -/
def attach (client : Client) (request : CapabilityRequest) : Reaction :=
  match client.connection with
  | some _ => finish client (.attached (.error .alreadyConnected))
  | none =>
      let connection := client.nextConnection
      enterStage
        { client with
          state := .negotiating
          connection := some connection
          nextConnection := connection + 1 }
        connection request ClientHandshake.start

/-- Gives the handshake up and hangs up. -/
def abandon (client : Client) (connection : ConnectionId)
    (error : ProtocolError) : Reaction :=
  ({ forget client with activity := .abandoning error }, [.close connection])

/-- Ends the handshake with what was agreed on. -/
def agree (client : Client) (agreement : ClientHandshake.Agreement) :
    Reaction :=
  finish
    { client with
      state := .connected agreement.version
      version := some agreement.version
      capabilities := agreement.capabilities }
    (.attached (.ok ()))

/-- The client as it shows a stage that the handshake gets to. -/
def reach (client : Client) : ClientHandshake.Stage → Client
  | .sending (.request version) =>
      { client with
        state := .capabilityNegotiating, version := some version }
  | _ => client

/-- Goes on behind a stage of the handshake, or gives it up. -/
def proceed (client : Client) (connection : ConnectionId)
    (request : CapabilityRequest) :
    Except ProtocolError
        (Progress ClientHandshake.Stage ClientHandshake.Agreement) →
      Reaction
  | .error error => abandon client connection error
  | .ok (.next stage) =>
      enterStage (client.reach stage) connection request stage
  | .ok (.agreed agreement) => agree client agreement

/-! ## The stream of cycles -/

/-- Ends a call for cycles with a stream of those of the connection. -/
def handOut (client : Client) (connection : ConnectionId) : Reaction :=
  finish client (.awaited (.ok (CycleStream.new connection)))

/-- Asks for the cycles of the connection, which is done once for each. -/
def awaitCycles (client : Client) : Reaction :=
  match client.connection, client.state with
  | some connection, .connected version =>
      if client.awaiting then
        finish client (.awaited (.error .alreadyAwaitingCycles))
      else
        let asked := { client with awaiting := true }
        if version.hasSubscription then
          ({ asked with activity := .subscribing connection .sending },
            [.send connection
              (Message.plain (.subscribe client.options.watchType))])
        else handOut asked connection
  | _, _ => finish client (.awaited (.error .notConnected))

/-- Hangs up, and forgets the connection before that is done. -/
def disconnect (client : Client) : Reaction :=
  match client.connection with
  | none => finish client (.disconnected (.error .notConnected))
  | some connection =>
      ({ forget client with activity := .disconnecting }, [.close connection])

/-! ## Answers of the transport -/

/-- Reacts to what sending a message came to. -/
def sent (client : Client) (result : Except TransportError Unit) :
    Option Reaction :=
  match client.activity with
  | .shaking connection request (.sending stage) =>
      some (proceed client connection request (do
        result.mapError ProtocolError.ofTransport
        stage.sent request))
  | .subscribing connection .sending =>
      match result with
      | .error error =>
          some (finish client
            (.awaited (.error (ProtocolError.ofTransport error))))
      | .ok () =>
          some
            ({ client with activity := .subscribing connection .awaiting },
              [.receive connection])
  | _ => none

/-- Reacts to what receiving a message came to. -/
def received (client : Client) (result : Except TransportError Message) :
    Option Reaction :=
  match client.activity with
  | .shaking connection request (.receiving stage) =>
      some (proceed client connection request (do
        let message ← result.mapError ProtocolError.ofTransport
        stage.received client.options.supported message))
  | .subscribing connection .awaiting =>
      match result with
      | .error error =>
          some (finish client
            (.awaited (.error (ProtocolError.ofTransport error))))
      | .ok message =>
          if message.kind = .subscribeResponse then
            some (handOut client connection)
          else
            some (finish client
              (.awaited (.error (.unexpected .subscribeResponse message))))
  | _ => none

/-- Reacts to what closing the connection came to. -/
def closed (client : Client) (result : Except TransportError Unit) :
    Option Reaction :=
  match client.activity with
  | .abandoning error => some (finish client (.attached (.error error)))
  | .disconnecting =>
      some (finish client
        (.disconnected (result.mapError ProtocolError.ofTransport)))
  | _ => none

/-- Reacts to an event, if it can happen. -/
def step (client : Client) : Event → Option Reaction
  | .attach request =>
      if client.activity = .idle then some (attach client request) else none
  | .disconnect =>
      if client.activity = .idle then some (disconnect client) else none
  | .awaitCycles =>
      if client.activity = .idle then some (awaitCycles client) else none
  | .sent result => sent client result
  | .received result => received client result
  | .closed result => closed client result

end Client

end BuildWatch
