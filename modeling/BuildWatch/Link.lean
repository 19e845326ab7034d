import BuildWatch.Builder
import BuildWatch.Follower
import BuildWatch.Socket.Server

/-!
# A build and its follower on one machine

A link joins a server and a follower by a socket.  The two take turns: each
goes on until its transport has to wait for the other.
-/

namespace BuildWatch

/-- A server and a follower on one machine. -/
structure Link where
  builder : Builder
  transport : SocketServer
  watcher : Watcher
  channels : List LineChannel
  follower : Follower
  network : Network

namespace Link

/-- A server and a follower that have not met. -/
def new (server : ServerOptions) (client : ClientOptions)
    (follower : Follower) (network : Network) : Link where
  builder := Builder.new server
  transport := SocketServer.new
  watcher := Watcher.new client
  channels := []
  follower
  network

/-- The transport of each connection of the client. -/
def channel (connection : ConnectionId) :
    Channel (List LineChannel × Network) :=
  LineChannel.transport.within
    (fun (channels, network) =>
      (channels.getD connection LineChannel.detached, network))
    (fun (channel, network) (channels, _) =>
      (channels.set connection channel, network))

/-- Lets the server go on. -/
def settleBuilder (link : Link) : Link :=
  let (builder, transport, network) :=
    Builder.settle SocketServer.transport link.builder
      (link.transport, link.network)
  { link with builder, transport, network }

/-- Lets the client go on. -/
def settleWatcher (link : Link) : Link :=
  let (watcher, channels, network) :=
    Watcher.settle channel link.watcher (link.channels, link.network)
  { link with watcher, channels, network }

/-- Lets the follower go on. -/
def settleFollower (link : Link) : Link :=
  let (follower, watcher, channels, network) :=
    link.follower.advance channel link.watcher (link.channels, link.network)
  { link with follower, watcher, channels, network }

/-- Lets everybody go on in turn, for so many rounds. -/
def rounds : Nat → Link → Link
  | 0, link => link
  | count + 1, link =>
      rounds count link.settleBuilder.settleWatcher.settleFollower

/--
Lets everybody go on until they wait: a handshake takes at most seven
messages, and a cycle takes three.
-/
def settle (link : Link) : Link := rounds 16 link

/-- Starts a call of the server, and lets everybody go on. -/
def call (link : Link) (event : Server.Event) : Ticket × Link :=
  let (ticket, builder) :=
    Builder.call SocketServer.transport link.builder event
  (ticket, { link with builder }.settle)

/-- What a call of the server comes to, if it ends. -/
def outcome? (link : Link) (event : Server.Event) :
    Option Server.Outcome × Link :=
  let (ticket, after) := link.call event
  (after.builder.outcome? ticket, after)

/-- What a call of the server comes to that can only succeed or fail. -/
def result? (link : Link) (event : Server.Event) :
    Option (Except ProtocolError Unit) × Link :=
  match link.outcome? event with
  | (some (.result result), after) => (some result, after)
  | (_, after) => (none, after)

/-- Starts a call to serve, and lets everybody go on. -/
def serve (link : Link) (trace : TraceContext) :
    Option Server.Outcome × Link :=
  let ((ticket, builder), transport, network) :=
    Builder.serve SocketServer.transport trace link.builder
      (link.transport, link.network)
  let after := { link with builder, transport, network }.settle
  (after.builder.outcome? ticket, after)

/-- Connects to the server; an address that nobody listens at is an error. -/
def connect (link : Link) (request : CapabilityRequest) :
    Except ProtocolError Link :=
  let path := link.builder.machine.options.socketPath
  match link.network.connect path with
  | (.error kind, _) => .error (.transport (.io kind))
  | (.ok endpoint, network) =>
      let channels := link.channels ++ [LineChannel.ofEndpoint endpoint]
      let watcher :=
        link.watcher.react (Watcher.host channel) (.client (.attach request))
      .ok { link with watcher, channels, network }.settle

/-- The version of the client that a server waits for. -/
def awaitConnection (link : Link) : Option Version × Link :=
  match link.outcome? .awaitConnection with
  | (some (.connection version), after) => (version, after)
  | (_, after) => (none, after)

/-- What attaching the client came to. -/
def attached? (link : Link) : Option (Except ProtocolError Unit) :=
  link.watcher.outcomes.findSome? fun
    | .attached result => some result
    | _ => none

/-- What the call for cycles came to. -/
def awaited? (link : Link) : Option (Except ProtocolError CycleStream) :=
  link.watcher.outcomes.findSome? fun
    | .awaited result => some result
    | _ => none

/-- What disconnecting the client came to. -/
def disconnected? (link : Link) : Option (Except ProtocolError Unit) :=
  link.watcher.outcomes.findSome? fun
    | .disconnected result => some result
    | _ => none

/-- The entries that server and client wrote to the log. -/
def log (link : Link) : List LogEntry :=
  link.builder.log ++ link.watcher.log

end Link

end BuildWatch
