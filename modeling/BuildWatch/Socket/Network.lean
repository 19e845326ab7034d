import BuildWatch.Error
import BuildWatch.KeyMap

/-!
# Sockets of one machine

Sockets are bound to paths of a file system.  A bound socket listens: peers
that connect to it stand in line until they are accepted.  A connection has
two ends, and each end keeps the bytes that were sent to it until they are
read.

An end that is closed with unread bytes, or before it was accepted, resets
the connection: the other end is told so once, behind the bytes that it can
still read.
-/

namespace BuildWatch

/-- The two ends of a connection. -/
inductive Side where
  | server
  | client
deriving DecidableEq

/-- The side across. -/
def Side.other : Side → Side
  | .server => .client
  | .client => .server

/-- An end of a connection. -/
structure Endpoint where
  connection : Nat
  side : Side
deriving DecidableEq

/-- The other end of the connection. -/
def Endpoint.peer (endpoint : Endpoint) : Endpoint :=
  { endpoint with side := endpoint.side.other }

/-- What an end of a connection knows. -/
structure Terminal where
  /-- The bytes that were sent to it and are not read. -/
  inbox : List UInt8
  /-- Whether no more bytes will be sent to it. -/
  inputEnded : Bool
  /-- Whether it is to be told that the connection was reset. -/
  reset : Bool
  /-- Whether it said that it sends no more bytes. -/
  outputEnded : Bool
  closed : Bool
deriving DecidableEq, Inhabited

/-- An end of a new connection. -/
def Terminal.fresh : Terminal := ⟨[], false, false, false, false⟩

/-- A connection, by what each of its ends knows. -/
structure Connection where
  server : Terminal
  client : Terminal
deriving DecidableEq, Inhabited

/-- What the end on a side knows. -/
def Connection.terminal (connection : Connection) : Side → Terminal
  | .server => connection.server
  | .client => connection.client

/-- The connection with one end changed. -/
def Connection.change (connection : Connection) (side : Side)
    (edit : Terminal → Terminal) : Connection :=
  match side with
  | .server => { connection with server := edit connection.server }
  | .client => { connection with client := edit connection.client }

/-- Those that connected to a socket. -/
structure ListenQueue where
  /-- The connections that are not accepted yet. -/
  backlog : List Nat
  /-- Whether it still listens. -/
  listening : Bool
deriving DecidableEq, Inhabited

/-- What a path can name. -/
inductive FileNode where
  | file
  | directory
  /-- A socket, by the number of the queue behind it. -/
  | socket (listener : Nat)
deriving DecidableEq

/-- The sockets of one machine and the paths that they are bound to. -/
structure Network where
  /-- What the paths name. -/
  nodes : KeyMap FileNode
  /-- The queues of the sockets that were ever bound. -/
  listeners : List ListenQueue
  /-- The connections that were ever made. -/
  connections : List Connection
deriving DecidableEq

namespace Network

/-- A machine without files and sockets. -/
def empty : Network := ⟨KeyMap.empty, [], []⟩

/-! ## Connections -/

/-- What an end of a connection knows. -/
def terminal (network : Network) (endpoint : Endpoint) : Terminal :=
  (network.connections[endpoint.connection]?.getD default).terminal
    endpoint.side

/-- The network with one end of a connection changed. -/
def change (network : Network) (endpoint : Endpoint)
    (edit : Terminal → Terminal) : Network :=
  { network with
    connections :=
      network.connections.modify endpoint.connection
        (·.change endpoint.side edit) }

/-- Sends bytes from an end to the other. -/
def write (network : Network) (endpoint : Endpoint) (bytes : List UInt8) :
    Except IoKind Unit × Network :=
  if bytes.isEmpty then (.ok (), network)
  else if (network.terminal endpoint).outputEnded
      || (network.terminal endpoint.peer).closed then
    (.error .brokenPipe, network)
  else
    (.ok (),
      network.change endpoint.peer fun terminal =>
        { terminal with inbox := terminal.inbox ++ bytes })

/-- How many bytes are read at once. -/
def chunk : Nat := 8192

/-- Reads bytes that were sent to an end; none at the end of input. -/
def read (network : Network) (endpoint : Endpoint) :
    Option (Except IoKind (List UInt8)) × Network :=
  let terminal := network.terminal endpoint
  if !terminal.inbox.isEmpty then
    (some (.ok (terminal.inbox.take chunk)),
      network.change endpoint fun known =>
        { known with inbox := known.inbox.drop chunk })
  else if terminal.reset then
    (some (.error .connectionReset),
      network.change endpoint fun known => { known with reset := false })
  else if terminal.inputEnded then (some (.ok []), network)
  else (none, network)

/-- Says that an end sends no more bytes. -/
def endOutput (network : Network) (endpoint : Endpoint) : Network :=
  (network.change endpoint fun terminal =>
      { terminal with outputEnded := true }).change endpoint.peer
    fun terminal => { terminal with inputEnded := true }

/-- Closes an end; the other is told of a reset if bytes stay unread. -/
def hangUp (network : Network) (endpoint : Endpoint) (reset : Bool) :
    Network :=
  let unread := !(network.terminal endpoint).inbox.isEmpty
  (network.change endpoint fun terminal =>
      { terminal with inbox := [], closed := true }).change endpoint.peer
    fun terminal =>
      { terminal with
        inputEnded := true, reset := terminal.reset || unread || reset }

/-! ## Files -/

/-- The longest path that a socket can be bound to, in bytes. -/
def longestAddress : Nat := 107

/-- Whether a socket can have a path. -/
def isAddress (path : String) : Bool :=
  path.utf8ByteSize ≤ longestAddress && !path.contains (Char.ofNat 0)

theorem isAddress_iff {path : String} :
    isAddress path = true ↔
      path.utf8ByteSize ≤ longestAddress ∧ Char.ofNat 0 ∉ path.toList := by
  simp [isAddress]

/-- Whether a path names something. -/
def pathExists (network : Network) (path : String) : Bool :=
  (network.nodes.get? path).isSome

/-- Removes the file or the socket at a path. -/
def removeFile (network : Network) (path : String) :
    Except IoKind Unit × Network :=
  match network.nodes.get? path with
  | none => (.error .notFound, network)
  | some .directory => (.error .isADirectory, network)
  | some _ =>
      (.ok (), { network with nodes := network.nodes.erase path })

/-- Lets a path name a file or a directory. -/
def place (network : Network) (path : String) (node : FileNode) : Network :=
  { network with nodes := network.nodes.insert path node }

/-! ## Listening -/

/-- Binds a new socket to a path, where nothing may be. -/
def bind (network : Network) (path : String) :
    Except IoKind Nat × Network :=
  if !isAddress path then (.error .invalidInput, network)
  else if network.pathExists path then (.error .addressInUse, network)
  else
    let listener := network.listeners.length
    (.ok listener,
      { network.place path (.socket listener) with
        listeners := network.listeners ++ [⟨[], true⟩] })

/-- Connects to the socket at a path. -/
def connect (network : Network) (path : String) :
    Except IoKind Endpoint × Network :=
  if !isAddress path then (.error .invalidInput, network)
  else
    match network.nodes.get? path with
    | none => (.error .notFound, network)
    | some (.socket listener) =>
        if network.listeners[listener]?.any (·.listening) then
          let connection := network.connections.length
          (.ok ⟨connection, .client⟩,
            { network with
              connections := network.connections ++ [⟨.fresh, .fresh⟩]
              listeners :=
                network.listeners.modify listener fun queue =>
                  { queue with backlog := queue.backlog ++ [connection] } })
        else (.error .connectionRefused, network)
    | some _ => (.error .connectionRefused, network)

/-- Accepts the connection that is first in line, if there is one. -/
def takePeer (network : Network) (listener : Nat) :
    Option Endpoint × Network :=
  match network.listeners[listener]? with
  | some ⟨connection :: rest, listening⟩ =>
      (some ⟨connection, .server⟩,
        { network with
          listeners :=
            network.listeners.set listener ⟨rest, listening⟩ })
  | _ => (none, network)

/-- Stops listening; the connections in line are reset. -/
def stopListening (network : Network) (listener : Nat) : Network :=
  let queue := network.listeners[listener]?.getD default
  queue.backlog.foldl
    (fun rest connection => rest.hangUp ⟨connection, .server⟩ true)
    { network with
      listeners := network.listeners.set listener ⟨[], false⟩ }

end Network

end BuildWatch
