import BuildWatch.Run
import BuildWatch.Socket.Server

/-!
# Servers that share a machine

Several servers may bind sockets on one machine, to different paths or to the
same.  Each of them goes by the path alone.  Whoever binds a path removes what
is there, whoever put it there, and remembers the path, to remove what is
there when it is closed.  Their calls follow one another.
-/

namespace BuildWatch

/-- The transports of the servers on one machine. -/
structure SharedMachine where
  servers : List SocketServer
  network : Network
deriving DecidableEq

namespace SharedMachine

/-- A call of one of the transports. -/
inductive Event where
  | serve (number : Nat) (path : String)
  | close (number : Nat)

/-- What became of a call. -/
inductive Effect where
  /-- A transport bound a new socket to a path. -/
  | bound (number : Nat) (path : String) (socket : Nat)
  /-- A transport could not bind a path. -/
  | refused (number : Nat) (path : String) (error : TransportError)
  | closed (number : Nat) (result : Except TransportError Unit)

/-- A machine with some transports that nobody uses yet. -/
def new (count : Nat) (network : Network) : SharedMachine :=
  ⟨List.replicate count SocketServer.new, network⟩

/-- What a path names. -/
def node? (path : String) (machine : SharedMachine) : Option FileNode :=
  machine.network.nodes.get? path

/-- The machine with one of its transports changed. -/
def replace (number : Nat) (server : SocketServer) (network : Network)
    (machine : SharedMachine) : SharedMachine :=
  ⟨machine.servers.set number server, network⟩

/-- Lets a transport bind a path or be closed. -/
def step (machine : SharedMachine) :
    Event → Option (SharedMachine × List Effect)
  | .serve number path => do
      let server ← machine.servers[number]?
      match server.bind path machine.network with
      | (.ok (), bound, network) =>
          some (machine.replace number bound network,
            bound.listener.toList.map (.bound number path))
      | (.error error, same, network) =>
          some (machine.replace number same network,
            [.refused number path error])
  | .close number => do
      let server ← machine.servers[number]?
      let (result, closed, network) := server.close machine.network
      some (machine.replace number closed network, [.closed number result])

end SharedMachine

end BuildWatch
