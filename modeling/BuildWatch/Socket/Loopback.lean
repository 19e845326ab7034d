import BuildWatch.Socket.Tasks

/-!
# A transport and a bare peer

A loopback is a machine with one transport and, at the other end of its
connection, a peer that reads and writes bytes.  Either the transport binds
the path and the peer connects to it, or the peer listens there and the
transport connects.

Tasks share the transport that binds the path.  Which of them goes on, and
with which of two things that it waits for, is the choice of whoever runs the
loopback: every turn of a task is a step of its own.
-/

namespace BuildWatch

/-- A transport and a bare peer on one machine. -/
structure Loopback where
  /-- The path of the socket. -/
  path : String
  /-- The transport that binds the path, on the machine of the peer. -/
  shared : SharedSocket
  /-- The transport that connects, once it did. -/
  client : Option LineChannel
  /-- The peer, while it is connected. -/
  peer : Option LineChannel.Reader

namespace Loopback

/-- The socket of the peer, where it listens. -/
def peerListener : Nat := 0

/-- A machine where the peer listens at the path or does not. -/
def new (path : String) (listens : Bool) (network : Network) : Loopback where
  path
  shared := SharedSocket.new (if listens then (network.bind path).2 else network)
  client := none
  peer := none

/-- The machine. -/
def network (loopback : Loopback) : Network := loopback.shared.network

/-- The loopback with another state of the machine. -/
def withNetwork (loopback : Loopback) (network : Network) : Loopback :=
  { loopback with shared := { loopback.shared with network } }

/-! ## The transport that binds the path -/

/-- Calls the transport, or lets one of its tasks go on. -/
def step (loopback : Loopback) (event : SharedSocket.Event) :
    Option (Loopback × List SharedSocket.Effect) :=
  (loopback.shared.step event).map fun (shared, effects) =>
    ({ loopback with shared }, effects)

/-! ## The peer -/

/-- Lets the peer close its end of the connection. -/
def dropPeer (loopback : Loopback) : Loopback :=
  match loopback.peer with
  | none => loopback
  | some peer =>
      { loopback with peer := none }.withNetwork
        (loopback.network.hangUp peer.endpoint false)

/-- Connects the peer to the path, in place of the peer before. -/
def connectPeer (loopback : Loopback) : Except IoKind Unit × Loopback :=
  match loopback.network.connect loopback.path with
  | (.error kind, _) => (.error kind, loopback)
  | (.ok endpoint, network) =>
      (.ok (),
        { (loopback.withNetwork network).dropPeer with
          peer := some ⟨endpoint, []⟩ })

/-- Connects the transport to the peer, in place of the one before. -/
def connectClient (loopback : Loopback) :
    Except TransportError Unit × Loopback :=
  match loopback.network.connect loopback.path with
  | (.error kind, _) => (.error (.io kind), loopback)
  | (.ok endpoint, connected) =>
      let network := match loopback.client with
        | none => connected
        | some before => (before.shutdown connected).2
      let alone := (loopback.withNetwork network).dropPeer
      let (peer, accepted) := alone.network.takePeer peerListener
      (.ok (),
        { alone with
          client := some (LineChannel.ofEndpoint endpoint)
          peer := peer.map (⟨·, []⟩) }.withNetwork accepted)

/-- Lets the peer send bytes. -/
def writePeer (bytes : List UInt8) (peer : LineChannel.Reader)
    (loopback : Loopback) : Except IoKind Unit × Loopback :=
  let (result, network) := loopback.network.write peer.endpoint bytes
  (result, loopback.withNetwork network)

/-- Lets the peer read the next line, if it does not have to wait. -/
def readPeer (peer : LineChannel.Reader) (loopback : Loopback) :
    Option (Except IoKind (Option LineChannel.Line)) × Loopback :=
  let (line, next, network) :=
    peer.nextLine (peer.available loopback.network + 2) loopback.network
  (line, { loopback with peer := some next }.withNetwork network)

end Loopback

end BuildWatch
