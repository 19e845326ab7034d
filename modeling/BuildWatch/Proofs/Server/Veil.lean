import BuildWatch.Proofs.Runs
import BuildWatch.Server.Step

/-!
# Servers behind a veil

A veil hides which spans are active where a server is called, and it may hide
something of the scopes as well.  It covers the calls, what the server keeps
of them and what it sends.  A server cannot tell what is hidden: behind the
veil it takes the same steps.  So two runs that look the same behind the veil
as far as their calls go look the same behind it in everything.
-/

namespace BuildWatch

section Veils

variable (hide : Scope → Scope)

def Errand.veil : Errand → Errand
  | .cycle _ scope changes => .cycle .none (hide scope) changes
  | .exit _ description => .exit .none description

def Request.veil (request : Request) : Request :=
  { request with errand := request.errand.veil hide }

def Reception.veil : Reception → Reception
  | .absent => .absent
  | .accepting _ => .accepting .none
  | .shaking _ stage => .shaking .none stage
  | .finished => .finished

def MessageBody.veil : MessageBody → MessageBody
  | .cycle number scope sources => .cycle number (scope.map hide) sources
  | body => body

def Message.veil (message : Message) : Message where
  trace := .none
  body := message.body.veil hide

/-! ## Messages -/

/-- A message that carries no trace identifiers shows none. -/
theorem withTrace_fields_none (body : MessageBody) :
    (Message.plain body).withTrace TraceContext.none.fields =
      Message.plain body :=
  rfl

theorem veil_message
    (supported : List Version) (trace : TraceContext)
    (stage : ServerHandshake.Sending) :
    (stage.message supported trace).veil hide =
      stage.message supported .none := by
  cases stage with
  | offer => rfl
  | grant version capabilities =>
      simp only [ServerHandshake.Sending.message]
      split <;> rfl
  | confirm version capabilities watchType => rfl

theorem veil_attach
    (session : Session) (trace : TraceContext) (body : MessageBody) :
    (session.attach trace (Message.plain body)).veil hide =
      session.attach .none (Message.plain (body.veil hide)) := by
  simp only [Session.attach, withTrace_fields_none]
  split <;> rfl

theorem veil_cycleMessage
    (session : Session) (trace : TraceContext) (number : CycleId)
    (scope : Scope) (changes : Changes) :
    (session.cycleMessage trace number scope changes).veil hide =
      session.cycleMessage .none number (hide scope) changes := by
  simp only [Session.cycleMessage, veil_attach, MessageBody.veil]
  split <;> rfl

theorem veil_exitMessage
    (session : Session) (trace : TraceContext) (description : String) :
    (session.exitMessage trace description).veil hide =
      session.exitMessage .none description :=
  veil_attach hide session trace (.exit description)

namespace Server

/-- A server behind a veil. -/
def veil (server : Server) : Server :=
  { server with
    reception := server.reception.veil
    waiting := server.waiting.map (Request.veil hide) }

/-- An event behind a veil, which hides something of calls only. -/
def Event.veil : Event → Event
  | .serve _ bound => .serve .none bound
  | .call errand => .call (errand.veil hide)
  | event => event

/-- An effect behind a veil, which hides something of messages only. -/
def Effect.veil : Effect → Effect
  | .send party message => .send party (message.veil hide)
  | effect => effect

/-- A reaction behind a veil. -/
def Reaction.veil (reaction : Reaction) : Reaction :=
  (reaction.1.veil hide, reaction.2.map (Effect.veil hide))

/-! ## The parts of a step -/

section Parts

variable (server : Server)

theorem veil_failHandshake :
    (failHandshake server).veil hide = failHandshake (server.veil hide) := by
  cases live : server.cancelled <;>
    simp [failHandshake, Reaction.followedBy, endReception, publish,
      Reaction.veil, veil, Reception.veil, Effect.veil, live]

theorem veil_enterStage
    (trace : TraceContext) (stage : ServerHandshake.Stage) :
    (enterStage server trace stage).veil hide =
      enterStage (server.veil hide) .none stage := by
  rcases stage with sending | (_ | _ | _)
  · simp [enterStage, Reaction.veil, veil, Reception.veil, Effect.veil,
      veil_message]
  · rfl
  · rfl
  · rfl

theorem veil_agree (session : Session) :
    (agree server session).veil hide = agree (server.veil hide) session := by
  have same : (server.veil hide).session = server.session := rfl
  cases known : server.session with
  | none =>
      simp only [agree, same, known]
      rfl
  | some other =>
      simp only [agree, same, known]
      exact veil_failHandshake hide server

theorem veil_proceed
    (trace : TraceContext)
    (progress : Progress ServerHandshake.Stage Session) :
    (proceed server trace progress).veil hide =
      proceed (server.veil hide) .none progress := by
  cases progress with
  | next stage => exact veil_enterStage hide server trace stage
  | agreed session => exact veil_agree hide server session

theorem veil_receive
    (trace : TraceContext) (result : Except TransportError Unit) :
    (receive server trace result).veil hide =
      receive (server.veil hide) .none result := by
  cases result with
  | ok done => rfl
  | error error =>
      cases error <;> rfl

theorem veil_begin (request : Request) :
    (begin server request).veil hide =
      begin (server.veil hide) (request.veil hide) := by
  obtain ⟨ticket, session, errand⟩ := request
  cases errand <;>
    simp [begin, Request.veil, Errand.veil, Reaction.veil, veil, Effect.veil,
      veil_cycleMessage, veil_exitMessage]

theorem veil_start (errand : Errand) :
    (start server errand).veil hide =
      start (server.veil hide) (errand.veil hide) := by
  rcases server with ⟨options, state, session, lastCycle, serving, cancelled,
    reception, holder, waiting, watchers, closers, nextTicket⟩
  cases session with
  | none => rfl
  | some session =>
      simp only [start, veil, List.isEmpty_map]
      split
      · exact veil_begin hide _ _
      · simp [Reaction.veil, veil, Request.veil]

theorem veil_transferSent
    (holder : Holder) (result : Except TransportError Unit) :
    (transferSent server holder result).map (Reaction.veil hide) =
      transferSent (server.veil hide) holder result := by
  obtain ⟨ticket, transfer⟩ := holder
  cases result <;> cases transfer <;> rfl

theorem veil_answerReceived
    (ticket : Ticket) (number : CycleId)
    (result : Except TransportError Message) :
    (answerReceived server ticket number result).veil hide =
      answerReceived (server.veil hide) ticket number result := by
  cases result with
  | error error => rfl
  | ok message =>
      simp only [answerReceived]
      cases judge number message <;> rfl

theorem veil_serve
    (trace : TraceContext) (bound : Except TransportError Unit) :
    (serve server trace bound).veil hide =
      serve (server.veil hide) .none bound := by
  have claimed : (server.veil hide).serving = server.serving := rfl
  simp only [serve, claimed]
  split
  · rfl
  · cases bound <;> rfl

theorem veil_awaitConnection :
    (awaitConnection server).veil hide =
      awaitConnection (server.veil hide) := by
  have shown : (server.veil hide).state = server.state := rfl
  simp only [awaitConnection, shown]
  split <;> rfl

theorem veil_transportClosed
    (ticket : Ticket) (result : Except TransportError Unit) :
    (transportClosed server ticket result).veil hide =
      transportClosed (server.veil hide) ticket result := by
  cases result <;> rfl

end Parts

/-! ## Steps and runs -/

/-- Behind the veil a server takes the same step. -/
theorem veil_step (server : Server) (event : Event) :
    (step server event).map (Reaction.veil hide) =
      step (server.veil hide) (event.veil hide) := by
  cases event with
  | serve trace bound =>
      exact congrArg some (veil_serve hide server trace bound)
  | cancel => rfl
  | call errand => exact congrArg some (veil_start hide server errand)
  | awaitConnection => exact congrArg some (veil_awaitConnection hide server)
  | close => rfl
  | abandon =>
      rcases server with ⟨_, _, _, _, _, cancelled, reception, _, _, _, _, _⟩
      cases reception <;> cases cancelled <;> rfl
  | accepted result =>
      rcases server with ⟨_, _, _, _, _, cancelled, reception, _, _, _, _, _⟩
      cases reception <;> cases cancelled <;> try rfl
      exact congrArg some (veil_receive hide _ _ result)
  | handshakeSent result =>
      rcases server with ⟨_, _, _, _, _, _, reception, _, _, _, _, _⟩
      cases reception with
      | shaking trace stage =>
          cases stage with
          | sending stage =>
              cases result with
              | ok done => exact congrArg some (veil_proceed hide _ _ _)
              | error error => exact congrArg some (veil_failHandshake hide _)
          | receiving stage => rfl
      | _ => rfl
  | handshakeReceived result =>
      rcases server with ⟨options, _, _, _, _, _, reception, _, _, _, _, _⟩
      cases reception with
      | shaking trace stage =>
          cases stage with
          | sending stage => rfl
          | receiving stage =>
              cases result with
              | error error => exact congrArg some (veil_failHandshake hide _)
              | ok message =>
                  simp only [step, veil, Reception.veil, Event.veil]
                  cases stage.received options.supported message with
                  | error error =>
                      exact congrArg some (veil_failHandshake hide _)
                  | ok progress => exact congrArg some (veil_proceed hide _ _ _)
      | _ => rfl
  | turn =>
      rcases server with ⟨_, _, _, _, _, _, _, holder, waiting, _, _, _⟩
      cases holder <;> cases waiting <;> try rfl
      exact congrArg some (veil_begin hide _ _)
  | callSent result =>
      rcases server with ⟨_, _, _, _, _, _, _, holder, _, _, _, _⟩
      cases holder with
      | none => rfl
      | some holder => exact veil_transferSent hide _ holder result
  | callReceived result =>
      rcases server with ⟨_, _, _, _, _, _, _, holder, _, _, _, _⟩
      match holder with
      | some ⟨ticket, .awaiting number⟩ =>
          exact congrArg some (veil_answerReceived hide _ ticket number result)
      | some ⟨ticket, .sendingCycle number⟩ => rfl
      | some ⟨ticket, .sendingExit⟩ => rfl
      | none => rfl
  | notice ticket =>
      simp only [step, Event.veil]
      split
      next settled =>
        rw [if_pos (by exact settled)]
        rfl
      next unsettled =>
        rw [if_neg (by exact unsettled)]
        rfl
  | closed ticket result =>
      simp only [step, Event.veil]
      split
      next closing =>
        rw [if_pos (by exact closing)]
        exact congrArg some (veil_transportClosed hide server ticket result)
      next open_ =>
        rw [if_neg (by exact open_)]
        rfl

/-- Behind the veil a server takes the same steps. -/
theorem veil_run (server : Server) (events : List Event) :
    (run step server events).map (Reaction.veil hide) =
      run step (server.veil hide) (events.map (Event.veil hide)) := by
  induction events generalizing server with
  | nil => rfl
  | cons event rest ih =>
      rw [List.map_cons]
      simp only [run, ← veil_step]
      cases step server event with
      | none => rfl
      | some reaction =>
          simp only [Option.map_some, Reaction.veil, Option.bind_eq_bind,
            Option.bind_some, ← ih]
          cases run step reaction.1 rest <;> simp [Reaction.veil]

/--
Two runs whose events look the same behind a veil look the same behind it.
-/
theorem veil_eq_of_run
    {server final : Server} {events others : List Event}
    {effects : List Effect}
    (ran : run step server events = some (final, effects))
    (alike : others.map (Event.veil hide) = events.map (Event.veil hide)) :
    ∃ reached said,
      run step server others = some (reached, said) ∧
        reached.veil hide = final.veil hide ∧
        said.map (Effect.veil hide) = effects.map (Effect.veil hide) := by
  have same := veil_run hide server others
  rw [alike, ← veil_run, ran, Option.map_some, Option.map_eq_some_iff] at same
  obtain ⟨⟨reached, said⟩, alsoRan, equal⟩ := same
  obtain ⟨states, spoken⟩ := Prod.mk.inj equal
  exact ⟨reached, said, alsoRan, states, spoken⟩

end Server

end Veils

end BuildWatch
