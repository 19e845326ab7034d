import BuildWatch.Host
import BuildWatch.Server.Step

/-!
# A server on its transport

A builder is a server hosted on a transport that accepts its client.  When
the transport has to wait, the call that is first in line gets the exchange,
and the calls that wait for the client look at the state.
-/

namespace BuildWatch

namespace Builder

/-- What a server asks its transport for. -/
inductive Operation where
  | accept
  | send (party : Server.Party) (message : Message)
  | receive (party : Server.Party)
  | close (ticket : Ticket)

/-- The operation that an effect asks for. -/
def operation? : Server.Effect → Option Operation
  | .accept => some .accept
  | .send party message => some (.send party message)
  | .receive party => some (.receive party)
  | .close ticket => some (.close ticket)
  | _ => none

/-- The event that a message is sent, or is not. -/
def sentEvent (result : Except TransportError Unit) :
    Server.Party → Server.Event
  | .reception => .handshakeSent result
  | .exchange => .callSent result

/-- The event that a message is received, or is not. -/
def receivedEvent (party : Server.Party)
    (result : Except TransportError Message) : Server.Event :=
  match party with
  | .reception => .handshakeReceived result
  | .exchange => .callReceived result

end Builder

/-- A server and what it has asked its transport for. -/
abbrev Builder := Hosted Server Server.Effect Builder.Operation

namespace Builder

variable {World : Type}

/-- A builder whose server was not called yet. -/
def new (options : ServerOptions) : Builder :=
  Hosted.new (Server.new options)

/-- Tries an operation; a reception that is cancelled asks for nobody. -/
def attempt (listener : Listener World) (server : Server) :
    Operation → Attempt → World → Option Server.Event × World
  | .accept, attempt, world =>
      if server.cancelled then (some .abandon, listener.abandon world)
      else
        let (result, after) := listener.accept attempt world
        (result.map .accepted, after)
  | .send party message, _, world =>
      let (result, after) := listener.send message world
      (some (sentEvent result party), after)
  | .receive party, attempt, world =>
      let (result, after) := listener.receive attempt world
      (result.map (receivedEvent party), after)
  | .close ticket, _, world =>
      let (result, after) := listener.close world
      (some (.closed ticket result), after)

/-- The event that is next when the transport has to wait. -/
def internal? (server : Server) : Option Server.Event :=
  if server.holder.isNone && !server.waiting.isEmpty then some .turn
  else if server.state.settled then server.watchers.head?.map .notice
  else none

/-- How a server is hosted. -/
def host (listener : Listener World) :
    Host World Server Server.Event Server.Effect Operation where
  step := Server.step
  operation? := operation?
  attempt := attempt listener
  internal? := internal?

/-- More steps than a builder can take before it has to wait. -/
def stepsLeft (listener : Listener World) (builder : Builder)
    (world : World) : Nat :=
  16 + 4 * (builder.machine.waiting.length + builder.machine.watchers.length
    + builder.pending.length + listener.backlog world)

/-- Goes on until the transport has to wait. -/
def settle (listener : Listener World) (builder : Builder) (world : World) :
    Builder × World :=
  Hosted.settle (host listener) (stepsLeft listener builder world) builder
    world

/-- Starts a call and gives the number that it is known by. -/
def call (listener : Listener World) (builder : Builder)
    (event : Server.Event) : Ticket × Builder :=
  (builder.machine.nextTicket, builder.react (host listener) event)

/-- Starts a call to serve; the address is bound only if it has to be. -/
def serve (listener : Listener World) (trace : TraceContext)
    (builder : Builder) (world : World) : (Ticket × Builder) × World :=
  if builder.machine.serving then
    (call listener builder (.serve trace (.ok ())), world)
  else
    let (bound, after) :=
      listener.bind builder.machine.options.socketPath world
    (call listener builder (.serve trace bound), after)

/-- What a call came to, if it returned. -/
def outcome? (builder : Builder) (ticket : Ticket) : Option Server.Outcome :=
  builder.emitted.findSome? fun
    | .finish ended outcome => if ended = ticket then some outcome else none
    | _ => none

/-- The entries that the server wrote to the log. -/
def log (builder : Builder) : List LogEntry :=
  builder.emitted.filterMap fun
    | .log entry => some entry
    | _ => none

end Builder

end BuildWatch
