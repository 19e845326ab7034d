import BuildWatch.Run
import BuildWatch.Server

/-!
# The steps of a server

A step is a call that starts, or a task that goes on because the transport
did what the task had asked it for.  What the transport did is part of the
event, so that every behaviour of a transport and every order of the tasks
is a list of events.  `Server.step` is undefined for an event that cannot
happen: an answer of the transport that nobody asked for, or a turn that is
nobody's.

A call to serve comes with what binding the address comes to; it counts only
if the server is not serving yet.
-/

namespace BuildWatch

namespace Server

/-- A call of the server, or how one of its tasks goes on. -/
inductive Event where
  | serve (trace : TraceContext) (bound : Except TransportError Unit)
  /-- The waiting for a client is to end. -/
  | cancel
  | call (errand : Errand)
  | awaitConnection
  | close
  /-- The reception sees that the waiting is to end. -/
  | abandon
  | accepted (result : Except TransportError Unit)
  | handshakeSent (result : Except TransportError Unit)
  | handshakeReceived (result : Except TransportError Message)
  /-- The first call in line gets the exchange. -/
  | turn
  | callSent (result : Except TransportError Unit)
  | callReceived (result : Except TransportError Message)
  /-- A call that waits for the client sees that the state is settled. -/
  | notice (ticket : Ticket)
  | closed (ticket : Ticket) (result : Except TransportError Unit)

/-- Who asks the transport for something. -/
inductive Party where
  | reception
  | exchange
deriving DecidableEq

/-- What a call of the server returns. -/
inductive Outcome where
  /-- The result of any other call. -/
  | result (result : Except ProtocolError Unit)
  /-- The client that a call waited for. -/
  | connection (version : Option Version)

/-- What a server asks its transport for, and what it tells its callers. -/
inductive Effect where
  | accept
  | send (party : Party) (message : Message)
  | receive (party : Party)
  | close (ticket : Ticket)
  | publish (state : ConnectionState)
  | log (entry : LogEntry)
  | finish (ticket : Ticket) (outcome : Outcome)

/-- The server behind a step, and the effects of the step. -/
abbrev Reaction := Server × List Effect

/-- The server with another state to show. -/
def publish (server : Server) (state : ConnectionState) : Reaction :=
  ({ server with state }, [.publish state])

/-- One reaction, and another of the server that the first led to. -/
def Reaction.followedBy (first : Reaction) (second : Server → Reaction) :
    Reaction :=
  let next := second first.1
  (next.1, first.2 ++ next.2)

/-! ## Reception of the client -/

/-- Ends the reception; nobody comes any more. -/
def endReception (server : Server) : Reaction :=
  publish { server with reception := .finished } .closed

/-- Ends the reception after an error, which is logged unless cancelled. -/
def failHandshake (server : Server) : Reaction :=
  let logged := if server.cancelled then [] else [Effect.log .handshakeFailed]
  Reaction.followedBy (server, logged) endReception

/-- Goes on with a stage of the handshake and asks for what it needs. -/
def enterStage (server : Server) (trace : TraceContext)
    (stage : ServerHandshake.Stage) : Reaction :=
  let entered := { server with reception := .shaking trace stage }
  match stage with
  | .sending sending =>
      (entered,
        [.send .reception (sending.message server.options.supported trace)])
  | .receiving (.request _) =>
      Reaction.followedBy (publish entered .capabilityNegotiating)
        fun published => (published, [.receive .reception])
  | .receiving _ => (entered, [.receive .reception])

/-- Keeps what was agreed on; a session is never replaced. -/
def agree (server : Server) (session : Session) : Reaction :=
  match server.session with
  | some _ => failHandshake server
  | none =>
      publish
        { server with session := some session, reception := .finished }
        (.connected session.version)

/-- Goes on behind a stage of the handshake. -/
def proceed (server : Server) (trace : TraceContext) :
    Progress ServerHandshake.Stage Session → Reaction
  | .next stage => enterStage server trace stage
  | .agreed session => agree server session

/-- Reacts to what accepting a client came to. -/
def receive (server : Server) (trace : TraceContext) :
    Except TransportError Unit → Reaction
  | .ok () =>
      Reaction.followedBy (publish server .negotiating)
        fun published => enterStage published trace ServerHandshake.start
  | .error .notAccepted => endReception server
  | .error _ =>
      Reaction.followedBy (server, [.log .acceptFailed]) endReception

/-! ## The exchange with the client -/

/-- Gives the exchange to a call, which sends its message. -/
def begin (server : Server) (request : Request) : Reaction :=
  match request.errand with
  | .cycle trace scope changes =>
      let number := server.lastCycle + 1
      let holder := Holder.mk request.ticket (.sendingCycle number)
      ({ server with lastCycle := number, holder := some holder },
        [.send .exchange
          (request.session.cycleMessage trace number scope changes)])
  | .exit trace description =>
      let holder := Holder.mk request.ticket .sendingExit
      ({ server with holder := some holder },
        [.send .exchange (request.session.exitMessage trace description)])

/-- Takes the exchange from the call that has it, which returns. -/
def release (server : Server) (ticket : Ticket)
    (result : Except ProtocolError Unit) : Reaction :=
  ({ server with holder := none }, [.finish ticket (.result result)])

/-- What an answer of the client means for the call that waits for it. -/
inductive Verdict where
  | wait
  | done
  /-- The client is done with the cycle but did not complete it. -/
  | givenUp
  | refused (error : ProtocolError)
deriving DecidableEq

/-- What a message means for a call that waits on a cycle. -/
def judge (number : CycleId) (message : Message) : Verdict :=
  match message.cycleId? with
  | none => .refused (.unexpectedCycleResponse number message.kind)
  | some received =>
      if received ≠ number then
        .refused (.cycleMismatch number received message.kind)
      else
        match message.kind with
        | .acknowledgment .started => .wait
        | .acknowledgment .completed => .done
        | .acknowledgment .aborted => .givenUp
        | .acknowledgment .failed => .givenUp
        | kind => .refused (.unexpectedCycleResponse number kind)

/-- Starts a call that tells the client something. -/
def start (server : Server) (errand : Errand) : Reaction :=
  let ticket := server.nextTicket
  let numbered := { server with nextTicket := ticket + 1 }
  match server.session with
  | none => (numbered, [.finish ticket (.result (.error .notConnected))])
  | some session =>
      let request := Request.mk ticket session errand
      if server.holder.isNone && server.waiting.isEmpty then
        begin numbered request
      else
        ({ numbered with waiting := server.waiting ++ [request] }, [])

/-- Reacts to what sending the message of a call came to. -/
def transferSent (server : Server) (holder : Holder) :
    Except TransportError Unit → Option Reaction
  | .error error =>
      match holder.transfer with
      | .awaiting _ => none
      | _ =>
          some (release server holder.ticket
            (.error (ProtocolError.ofTransport error)))
  | .ok () =>
      match holder.transfer with
      | .awaiting _ => none
      | .sendingCycle number =>
          let waiting := { holder with transfer := .awaiting number }
          some ({ server with holder := some waiting }, [.receive .exchange])
      | .sendingExit => some (release server holder.ticket (.ok ()))

/-- Reacts to what receiving an answer came to. -/
def answerReceived (server : Server) (ticket : Ticket) (number : CycleId) :
    Except TransportError Message → Reaction
  | .error error =>
      release server ticket (.error (ProtocolError.ofTransport error))
  | .ok message =>
      match judge number message with
      | .wait => (server, [.receive .exchange])
      | .done => release server ticket (.ok ())
      | .givenUp =>
          Reaction.followedBy (server, [.log .cycleNotCompleted])
            fun logged => release logged ticket (.ok ())
      | .refused error => release server ticket (.error error)

/-! ## Calls about the connection -/

/-- Claims the server and waits for a client, if the address is bound. -/
def serve (server : Server) (trace : TraceContext)
    (bound : Except TransportError Unit) : Reaction :=
  let ticket := server.nextTicket
  let numbered := { server with nextTicket := ticket + 1 }
  if server.serving then
    (numbered, [.finish ticket (.result (.error .alreadyServing))])
  else
    let claimed := { numbered with serving := true }
    match bound with
    | .error error =>
        (claimed,
          [.finish ticket
            (.result (.error (ProtocolError.ofTransport error)))])
    | .ok () =>
        Reaction.followedBy
          (publish { claimed with reception := .accepting trace } .listening)
          fun published =>
            (published, [.accept, .finish ticket (.result (.ok ()))])

/-- Waits until there is a client, or will be none. -/
def awaitConnection (server : Server) : Reaction :=
  let ticket := server.nextTicket
  let numbered := { server with nextTicket := ticket + 1 }
  if server.state.settled then
    (numbered, [.finish ticket (.connection server.state.version?)])
  else ({ numbered with watchers := server.watchers ++ [ticket] }, [])

/-- Asks the transport to close. -/
def close (server : Server) : Reaction :=
  let ticket := server.nextTicket
  ({ server with
      nextTicket := ticket + 1, closers := server.closers ++ [ticket] },
    [.close ticket])

/-- Reacts to what closing the transport for a call came to. -/
def transportClosed (server : Server) (ticket : Ticket) :
    Except TransportError Unit → Reaction
  | .error error =>
      ({ server with closers := server.closers.erase ticket },
        [.finish ticket (.result (.error (ProtocolError.ofTransport error)))])
  | .ok () =>
      Reaction.followedBy
        (publish { server with closers := server.closers.erase ticket }
          .closed)
        fun published => (published, [.finish ticket (.result (.ok ()))])

/-! ## All steps -/

/-- Reacts to an event, if it can happen. -/
def step (server : Server) : Event → Option Reaction
  | .serve trace bound => some (serve server trace bound)
  | .cancel => some ({ server with cancelled := true }, [])
  | .call errand => some (start server errand)
  | .awaitConnection => some (awaitConnection server)
  | .close => some (close server)
  | .abandon =>
      match server.reception, server.cancelled with
      | .accepting _, true => some (endReception server)
      | _, _ => none
  | .accepted result =>
      match server.reception, server.cancelled with
      | .accepting trace, false => some (receive server trace result)
      | _, _ => none
  | .handshakeSent result =>
      match server.reception with
      | .shaking trace (.sending stage) =>
          match result with
          | .ok () => some (proceed server trace stage.sent)
          | .error _ => some (failHandshake server)
      | _ => none
  | .handshakeReceived result =>
      match server.reception with
      | .shaking trace (.receiving stage) =>
          match result with
          | .error _ => some (failHandshake server)
          | .ok message =>
              match stage.received server.options.supported message with
              | .ok progress => some (proceed server trace progress)
              | .error _ => some (failHandshake server)
      | _ => none
  | .turn =>
      match server.holder, server.waiting with
      | none, request :: rest =>
          some (begin { server with waiting := rest } request)
      | _, _ => none
  | .callSent result =>
      match server.holder with
      | some holder => transferSent server holder result
      | none => none
  | .callReceived result =>
      match server.holder with
      | some ⟨ticket, .awaiting number⟩ =>
          some (answerReceived server ticket number result)
      | _ => none
  | .notice ticket =>
      if server.watchers.contains ticket && server.state.settled then
        some ({ server with watchers := server.watchers.erase ticket },
          [.finish ticket (.connection server.state.version?)])
      else none
  | .closed ticket result =>
      if server.closers.contains ticket then
        some (transportClosed server ticket result)
      else none

end Server

end BuildWatch
