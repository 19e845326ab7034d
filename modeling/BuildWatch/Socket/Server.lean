import BuildWatch.Socket.LineChannel

/-!
# The transport of a server

A server binds a socket to a path, after removing what was there, and accepts
one peer, after which nobody listens any more.  Closing it ends all waiting,
hangs up, and removes what is at the path.
-/

namespace BuildWatch

/-- The transport of a server. -/
structure SocketServer where
  /-- The path that it bound and has not removed. -/
  path : Option String
  /-- The socket that listens, until a peer is waited for. -/
  listener : Option Nat
  /-- The socket on which a peer is waited for. -/
  accepting : Option Nat
  /-- The connection to the peer. -/
  channel : LineChannel
deriving DecidableEq

namespace SocketServer

/-- A transport that nobody used yet. -/
def new : SocketServer := ⟨none, none, none, LineChannel.detached⟩

/-- Stops listening on a socket, if there is one. -/
def stopListening (listener : Option Nat) (network : Network) : Network :=
  match listener with
  | none => network
  | some listener => network.stopListening listener

/-- Removes what is at a path, if there is something. -/
def clearPath (path : String) (network : Network) :
    Except IoKind Unit × Network :=
  if network.pathExists path then network.removeFile path
  else (.ok (), network)

/-- Binds a path in place of what is there. -/
def bind (path : String) (server : SocketServer) (network : Network) :
    Except TransportError Unit × SocketServer × Network :=
  match clearPath path network with
  | (.error kind, after) => (.error (.io kind), server, after)
  | (.ok (), cleared) =>
      match cleared.bind path with
      | (.error kind, after) => (.error (.io kind), server, after)
      | (.ok listener, after) =>
          (.ok (),
            { server with path := some path, listener := some listener },
            stopListening server.listener after)

/-- Takes the socket that listens, to wait for a peer on it. -/
def startAccepting (server : SocketServer) : SocketServer :=
  { server with accepting := server.listener, listener := none }

/-- Gives up waiting for a peer. -/
def stopAccepting (server : SocketServer) (network : Network) :
    SocketServer × Network :=
  ({ server with accepting := none },
    stopListening server.accepting network)

/-- Exchanges messages with the peer at the other end of a connection. -/
def attach (endpoint : Endpoint) (server : SocketServer)
    (network : Network) : SocketServer × Network :=
  let (reading, before) := server.channel.attachReader endpoint network
  let (channel, after) := reading.attachWriter endpoint before
  ({ server with channel }, after)

/-- Exchanges messages with the peer that was waited for. -/
def welcome (endpoint : Endpoint) (server : SocketServer)
    (network : Network) : SocketServer × Network :=
  let (attached, after) := server.attach endpoint network
  attached.stopAccepting after

/-- Waits for a peer on the socket that was taken. -/
def acceptPeer (server : SocketServer) (network : Network) :
    Option (Except TransportError Unit) × SocketServer × Network :=
  match server.accepting with
  | none => (some (.error .notAccepted), server, network)
  | some listener =>
      if server.channel.closed then
        let (stopped, after) := server.stopAccepting network
        (some (.error .notAccepted), stopped, after)
      else
        match network.takePeer listener with
        | (none, after) => (none, server, after)
        | (some endpoint, after) =>
            let (attached, final) := server.welcome endpoint after
            (some (.ok ()), attached, final)

/-- Accepts a peer, or has to wait. -/
def accept (attempt : Attempt) (server : SocketServer) (network : Network) :
    Option (Except TransportError Unit) × SocketServer × Network :=
  match attempt, server.listener with
  | .again, _ => acceptPeer server network
  | .first, none => (some (.error .notAccepted), server, network)
  | .first, some _ => acceptPeer server.startAccepting network

/-- Removes what is at the path that was bound, and forgets the path. -/
def removePath (server : SocketServer) (network : Network) :
    Except TransportError Unit × SocketServer × Network :=
  let forgotten := { server with path := none }
  match server.path with
  | none => (.ok (), forgotten, network)
  | some path =>
      match network.removeFile path with
      | (.ok (), after) => (.ok (), forgotten, after)
      | (.error .notFound, after) => (.ok (), forgotten, after)
      | (.error kind, after) => (.error (.io kind), forgotten, after)

/-- Stops listening, unless a peer is waited for. -/
def dropListener (server : SocketServer) (network : Network) :
    SocketServer × Network :=
  ({ server with listener := none }, stopListening server.listener network)

/-- Marks the transport as closed and gives the writing half up. -/
def startClosing (server : SocketServer) (network : Network) :
    SocketServer × Network :=
  let (channel, after) := server.channel.markClosed.dropWriter network
  ({ server with channel }, after)

/-- Gives up what a transport has that is marked as closed. -/
def finishClosing (server : SocketServer) (network : Network) :
    Except TransportError Unit × SocketServer × Network :=
  let (channel, hungUp) := server.channel.dropReader network
  let (deaf, silent) := dropListener { server with channel } hungUp
  deaf.removePath silent

/-- Closes the transport for ever. -/
def close (server : SocketServer) (network : Network) :
    Except TransportError Unit × SocketServer × Network :=
  let (half, ended) := server.startClosing network
  half.finishClosing ended

/-- A server's transport and the machine that it is on. -/
abbrev World := SocketServer × Network

/-- The operations of the transport. -/
def transport : Listener World where
  send := fun message (server, network) =>
    let (result, channel, after) := server.channel.send message network
    (result, { server with channel }, after)
  receive := fun attempt (server, network) =>
    let (result, channel, after) := server.channel.receive attempt network
    (result, { server with channel }, after)
  close := fun (server, network) => server.close network
  backlog := fun (server, network) => server.channel.backlog network
  bind := fun path (server, network) => server.bind path network
  accept := fun attempt (server, network) => server.accept attempt network
  abandon := fun (server, network) => server.stopAccepting network
  hasConnection := fun (server, _) => server.channel.isConnected

end SocketServer

/-- The operations of an end of a connection that connected. -/
def LineChannel.transport : Channel (LineChannel × Network) where
  send := fun message (channel, network) => channel.send message network
  receive := fun attempt (channel, network) =>
    channel.receive attempt network
  close := fun (channel, network) => (.ok (), channel.shutdown network)
  backlog := fun (channel, network) => channel.backlog network

end BuildWatch
