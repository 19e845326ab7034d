import BuildWatch.Handshake.Server
import BuildWatch.Log

/-!
# The server of a build

A server binds an address, accepts one client, agrees with it on a session
and then tells it about changes, one cycle at a time.  Several calls may be
under way at once, next to the reception of the client.  A server is
therefore described by its state between any two steps of these tasks: what
each task waits for, and which calls stand in line for the exchange with the
client.

This module holds the state and what can be seen of it.  `Server.step` says
how it changes.
-/

namespace BuildWatch

/-- What a server is made with. -/
structure ServerOptions where
  socketPath : String
  /-- The versions to offer, most preferred first. -/
  supported : List Version
deriving DecidableEq

/-- How far a server is with its client. -/
inductive ConnectionState where
  | idle
  | listening
  | negotiating
  | capabilityNegotiating
  | connected (version : Version)
  | closed
deriving DecidableEq

/-- Whether a state says if there will be a client. -/
def ConnectionState.settled : ConnectionState → Bool
  | .connected _ => true
  | .closed => true
  | _ => false

/-- The version of the client, in a state that says there is one. -/
def ConnectionState.version? : ConnectionState → Option Version
  | .connected version => some version
  | _ => none

/-- The number that a call is known by; calls are numbered as they start. -/
abbrev Ticket := Nat

/-- What a call tells the client. -/
inductive Errand where
  | cycle (trace : TraceContext) (scope : Scope) (changes : Changes)
  | exit (trace : TraceContext) (description : String)
deriving DecidableEq

/-- A call on its way to the client. -/
structure Request where
  ticket : Ticket
  /-- The session that it found when it started. -/
  session : Session
  errand : Errand
deriving DecidableEq

/-- What the task that receives a client waits for. -/
inductive Reception where
  | absent
  | accepting (trace : TraceContext)
  | shaking (trace : TraceContext) (stage : ServerHandshake.Stage)
  | finished
deriving DecidableEq

/-- What the call that has the exchange to itself waits for. -/
inductive Transfer where
  | sendingCycle (number : CycleId)
  | awaiting (number : CycleId)
  | sendingExit
deriving DecidableEq

/-- The call that has the exchange to itself. -/
structure Holder where
  ticket : Ticket
  transfer : Transfer
deriving DecidableEq

/-- A server between two steps of its tasks. -/
structure Server where
  options : ServerOptions
  state : ConnectionState
  session : Option Session
  lastCycle : CycleId
  serving : Bool
  /-- Whether it was told to stop waiting for a client. -/
  cancelled : Bool
  reception : Reception
  /-- The call that has the exchange to itself. -/
  holder : Option Holder
  /-- The calls in line for the exchange, first come first served. -/
  waiting : List Request
  /-- The calls that wait until the state is settled. -/
  watchers : List Ticket
  /-- The calls that close the transport. -/
  closers : List Ticket
  nextTicket : Ticket
deriving DecidableEq

namespace Server

/-- A server that was not called yet. -/
def new (options : ServerOptions) : Server where
  options
  state := .idle
  session := none
  lastCycle := 0
  serving := false
  cancelled := false
  reception := .absent
  holder := none
  waiting := []
  watchers := []
  closers := []
  nextTicket := 0

/-- The version of the session. -/
def version? (server : Server) : Option Version :=
  server.session.map (·.version)

/-- The capabilities of the session. -/
def capabilities? (server : Server) : Option Capabilities :=
  server.session.bind (·.capabilities)

/-- What the client of the session subscribed to. -/
def watchType? (server : Server) : Option String :=
  server.session.bind (·.watchType)

/-- Whether the client watches a scope; without capabilities only runfiles. -/
def watching (server : Server) (scope : Scope) : Bool :=
  (server.capabilities?.getD Capabilities.default).watches scope

/-- The name of the variable that tells clients where the server listens. -/
def socketVariable : String := "ABAZEL_WATCH_SOCKET_FILE"

/-- The environment that tells clients where the server listens. -/
def environment (server : Server) : List (String × String) :=
  [(socketVariable, server.options.socketPath)]

end Server

end BuildWatch
