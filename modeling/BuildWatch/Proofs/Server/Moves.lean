import BuildWatch.Server.Step

/-!
# What the steps of a server come to

Every step of a server is one of a few moves: the handshake advances, the
reception ends without a client, a call joins the line, a call gets the
exchange, its message is sent, an answer is received, a call returns, or
neither the reception nor the exchange is touched.  A property of all steps
is proved by one case for each move.
-/

namespace BuildWatch

namespace Server

/-! ## Traffic -/

/-- What an effect asks the transport to send. -/
def Effect.message? : Effect → Option Message
  | .send _ message => some message
  | _ => none

/-- Whether an effect asks the transport for a message. -/
def Effect.asksMessage : Effect → Bool
  | .receive _ => true
  | _ => false

/-- The messages that effects ask the transport to send, in order. -/
def messages (effects : List Effect) : List Message :=
  effects.filterMap Effect.message?

/-- How often effects ask the transport for a message. -/
def requests (effects : List Effect) : Nat :=
  effects.countP Effect.asksMessage

/-- Whether an event tells what sending came to. -/
@[simp]
def Event.answersSend : Event → Bool
  | .handshakeSent _ => true
  | .callSent _ => true
  | _ => false

/-- Whether an event tells what receiving came to. -/
@[simp]
def Event.answersReceive : Event → Bool
  | .handshakeReceived _ => true
  | .callReceived _ => true
  | _ => false

@[simp]
theorem messages_append (first second : List Effect) :
    messages (first ++ second) = messages first ++ messages second := by
  simp [messages]

@[simp]
theorem requests_append (first second : List Effect) :
    requests (first ++ second) = requests first + requests second := by
  simp [requests]

section Traffic

variable (rest : List Effect)

@[simp]
theorem messages_nil : messages [] = [] :=
  rfl

@[simp]
theorem messages_send (party : Party) (message : Message) :
    messages (.send party message :: rest) = message :: messages rest :=
  rfl

@[simp]
theorem messages_receive (party : Party) :
    messages (.receive party :: rest) = messages rest :=
  rfl

@[simp]
theorem messages_accept : messages (.accept :: rest) = messages rest :=
  rfl

@[simp]
theorem messages_publish (state : ConnectionState) :
    messages (.publish state :: rest) = messages rest :=
  rfl

@[simp]
theorem messages_finish (ticket : Ticket) (outcome : Outcome) :
    messages (.finish ticket outcome :: rest) = messages rest :=
  rfl

@[simp]
theorem requests_nil : requests [] = 0 :=
  rfl

@[simp]
theorem requests_send (party : Party) (message : Message) :
    requests (.send party message :: rest) = requests rest :=
  rfl

@[simp]
theorem requests_receive (party : Party) :
    requests (.receive party :: rest) = requests rest + 1 :=
  List.countP_cons_of_pos rfl

@[simp]
theorem requests_accept : requests (.accept :: rest) = requests rest :=
  rfl

@[simp]
theorem requests_publish (state : ConnectionState) :
    requests (.publish state :: rest) = requests rest :=
  rfl

@[simp]
theorem requests_finish (ticket : Ticket) (outcome : Outcome) :
    requests (.finish ticket outcome :: rest) = requests rest :=
  rfl

end Traffic

/-- Effects that leave the transport alone. -/
def Silent (effects : List Effect) : Prop :=
  messages effects = [] ∧ requests effects = 0

theorem silent_of_logs
    {effects : List Effect}
    (logged : ∀ effect ∈ effects, ∃ entry, effect = .log entry) :
    Silent effects := by
  constructor
  · apply List.filterMap_eq_nil_iff.mpr
    intro effect member
    obtain ⟨entry, rfl⟩ := logged effect member
    rfl
  · apply List.countP_eq_zero.mpr
    intro effect member
    obtain ⟨entry, rfl⟩ := logged effect member
    simp [Effect.asksMessage]

/-! ## Calls -/

/-- What a call that starts tells the client, if it tells it anything. -/
@[simp]
def Event.started? : Event → Option (Option Errand)
  | .serve _ _ => some none
  | .call errand => some (some errand)
  | .awaitConnection => some none
  | .close => some none
  | _ => none

/-- The calls that wait for anything but the exchange. -/
def bystanders (server : Server) : List Ticket :=
  server.watchers ++ server.closers

/-- Whether a call waits for anything but the exchange, or starts and ends. -/
def Stands (server : Server) (event : Event) (ticket : Ticket) : Prop :=
  ticket ∈ server.bystanders ∨
    ticket = server.nextTicket ∧ event.started? = some none

theorem stands_of_mem
    {server : Server} (event : Event) :
    ∀ ticket ∈ server.watchers ++ server.closers,
      server.Stands event ticket :=
  fun _ member => .inl member

/-- A call that is not over waited before. -/
theorem mem_of_mem_erased
    {server : Server} {ended ticket : Ticket}
    (member :
      ticket ∈ server.watchers.erase ended ++ server.closers ∨
        ticket ∈ server.watchers ++ server.closers.erase ended) :
    ticket ∈ server.bystanders := by
  simp only [bystanders, List.mem_append] at member ⊢
  rcases member with (watching | closing) | (watching | closing)
  · exact .inl (List.mem_of_mem_erase watching)
  · exact .inr closing
  · exact .inl watching
  · exact .inr (List.mem_of_mem_erase closing)

/-! ## Parts of a move -/

/-- How an event takes the reception of a client on. -/
inductive Advance (server : Server) :
    Event → TraceContext → Progress ServerHandshake.Stage Session → Prop where
  | accepted {trace : TraceContext}
      (waiting : server.reception = .accepting trace) :
      Advance server (.accepted (.ok ())) trace
        (.next (.sending .offer))
  | sent {trace : TraceContext} {stage : ServerHandshake.Sending}
      {progress : Progress ServerHandshake.Stage Session}
      (waiting : server.reception = .shaking trace (.sending stage))
      (follows : stage.sent = progress) :
      Advance server (.handshakeSent (.ok ())) trace progress
  | received {trace : TraceContext} {stage : ServerHandshake.Receiving}
      {message : Message} {progress : Progress ServerHandshake.Stage Session}
      (waiting : server.reception = .shaking trace (.receiving stage))
      (follows :
        stage.received server.options.supported message = .ok progress) :
      Advance server (.handshakeReceived (.ok message)) trace progress

/-- How an event ends the reception of a client without one. -/
inductive Failure (server : Server) : Event → Prop where
  | abandoned {trace : TraceContext}
      (waiting : server.reception = .accepting trace) :
      Failure server .abandon
  | unaccepted {trace : TraceContext} {error : TransportError}
      (waiting : server.reception = .accepting trace) :
      Failure server (.accepted (.error error))
  | unsent {trace : TraceContext} {stage : ServerHandshake.Sending}
      {error : TransportError}
      (waiting : server.reception = .shaking trace (.sending stage)) :
      Failure server (.handshakeSent (.error error))
  | unreceived {trace : TraceContext} {stage : ServerHandshake.Receiving}
      {error : TransportError}
      (waiting : server.reception = .shaking trace (.receiving stage)) :
      Failure server (.handshakeReceived (.error error))
  | refused {trace : TraceContext} {stage : ServerHandshake.Receiving}
      {message : Message} {error : ProtocolError}
      (waiting : server.reception = .shaking trace (.receiving stage))
      (refusal :
        stage.received server.options.supported message = .error error) :
      Failure server (.handshakeReceived (.ok message))
  | agreedBefore {event : Event} {trace : TraceContext} {session : Session}
      (again : server.session.isSome)
      (advance : Advance server event trace (.agreed session)) :
      Failure server event

/-- What a stage of the handshake asks the transport to send. -/
def stageMessages (supported : List Version) (trace : TraceContext) :
    ServerHandshake.Stage → List Message
  | .sending stage => [stage.message supported trace]
  | .receiving _ => []

/-- How often a stage of the handshake asks the transport for a message. -/
def stageRequests : ServerHandshake.Stage → Nat
  | .sending _ => 0
  | .receiving _ => 1

/-- How an event ends the call that has the exchange. -/
inductive Return (server : Server) :
    Event → Ticket → Except ProtocolError Unit → Prop where
  | cycleUnsent {ticket : Ticket} {number : CycleId} {error : TransportError}
      (held : server.holder = some ⟨ticket, .sendingCycle number⟩) :
      Return server (.callSent (.error error)) ticket
        (.error (ProtocolError.ofTransport error))
  | exitUnsent {ticket : Ticket} {error : TransportError}
      (held : server.holder = some ⟨ticket, .sendingExit⟩) :
      Return server (.callSent (.error error)) ticket
        (.error (ProtocolError.ofTransport error))
  | exitSent {ticket : Ticket}
      (held : server.holder = some ⟨ticket, .sendingExit⟩) :
      Return server (.callSent (.ok ())) ticket (.ok ())
  | unreceived {ticket : Ticket} {number : CycleId} {error : TransportError}
      (held : server.holder = some ⟨ticket, .awaiting number⟩) :
      Return server (.callReceived (.error error)) ticket
        (.error (ProtocolError.ofTransport error))
  | answered {ticket : Ticket} {number : CycleId} {message : Message}
      (held : server.holder = some ⟨ticket, .awaiting number⟩)
      (verdict : judge number message = .done ∨
        judge number message = .givenUp) :
      Return server (.callReceived (.ok message)) ticket (.ok ())
  | refused {ticket : Ticket} {number : CycleId} {message : Message}
      {error : ProtocolError}
      (held : server.holder = some ⟨ticket, .awaiting number⟩)
      (verdict : judge number message = .refused error) :
      Return server (.callReceived (.ok message)) ticket (.error error)

/-! ## Moves -/

/-- What a step of a server comes to. -/
inductive Move (server : Server) : Event → Server → List Effect → Prop where
  /-- Neither the reception nor the exchange is touched. -/
  | aside {event : Event} {effects : List Effect} {state : ConnectionState}
      {serving cancelled : Bool} {watchers closers : List Ticket}
      {nextTicket : Ticket}
      (uncalled : ∀ errand, event ≠ .call errand)
      (unanswering : event.answersSend = false ∧ event.answersReceive = false)
      (shown : state = server.state ∨ state = .closed)
      (claimed : server.serving = true → serving = true)
      (numbered :
        nextTicket = server.nextTicket + event.started?.toList.length)
      (silent : Silent effects)
      (stood : ∀ ticket ∈ watchers ++ closers, server.Stands event ticket)
      (ended : ∀ ticket outcome, .finish ticket outcome ∈ effects →
        server.Stands event ticket) :
      Move server event
        { server with
          state, serving, cancelled, watchers, closers, nextTicket }
        effects
  /-- The server starts to wait for a client. -/
  | listening {trace : TraceContext}
      (unserved : server.serving = false) :
      Move server (.serve trace (.ok ()))
        { server with
          state := .listening
          serving := true
          reception := .accepting trace
          nextTicket := server.nextTicket + 1 }
        [.publish .listening, .accept,
          .finish server.nextTicket (.result (.ok ()))]
  /-- The reception ends without a client. -/
  | failed {event : Event} (log : List Effect)
      (failure : Failure server event)
      (logged : ∀ effect ∈ log, ∃ entry, effect = .log entry) :
      Move server event
        { server with state := .closed, reception := .finished }
        (log ++ [.publish .closed])
  /-- The handshake gets to a stage. -/
  | entered {event : Event} {trace : TraceContext}
      {stage : ServerHandshake.Stage} {effects : List Effect}
      (state : ConnectionState)
      (shown : state = server.state ∨ state.version? = none)
      (advance : Advance server event trace (.next stage))
      (said : messages effects =
        stageMessages server.options.supported trace stage)
      (asked : requests effects = stageRequests stage)
      (unended : ∀ ticket outcome, .finish ticket outcome ∉ effects) :
      Move server event
        { server with state, reception := .shaking trace stage } effects
  /-- The handshake comes to an agreement. -/
  | agreed {event : Event} {trace : TraceContext} {session : Session}
      (unset : server.session = none)
      (advance : Advance server event trace (.agreed session)) :
      Move server event
        { server with
          state := .connected session.version
          session := some session
          reception := .finished }
        [.publish (.connected session.version)]
  /-- A call finds no client. -/
  | turnedAway {errand : Errand} (unset : server.session = none) :
      Move server (.call errand)
        { server with nextTicket := server.nextTicket + 1 }
        [.finish server.nextTicket (.result (.error .notConnected))]
  /-- A call joins the line for the exchange. -/
  | queued {errand : Errand} {session : Session}
      (found : server.session = some session) :
      Move server (.call errand)
        { server with
          nextTicket := server.nextTicket + 1
          waiting := server.waiting ++
            [⟨server.nextTicket, session, errand⟩] }
        []
  /-- A call finds the exchange free. -/
  | started {errand : Errand} {session : Session} {next : Server}
      {effects : List Effect}
      (found : server.session = some session)
      (free : server.holder = none) (unlined : server.waiting = [])
      (begins : (next, effects) =
        begin { server with nextTicket := server.nextTicket + 1 }
          ⟨server.nextTicket, session, errand⟩) :
      Move server (.call errand) next effects
  /-- The first call in line gets the exchange. -/
  | turned {request : Request} {rest : List Request} {next : Server}
      {effects : List Effect}
      (free : server.holder = none)
      (lined : server.waiting = request :: rest)
      (begins : (next, effects) =
        begin { server with waiting := rest } request) :
      Move server .turn next effects
  /-- The message of a cycle is sent. -/
  | cycleSent {ticket : Ticket} {number : CycleId}
      (held : server.holder = some ⟨ticket, .sendingCycle number⟩) :
      Move server (.callSent (.ok ()))
        { server with holder := some ⟨ticket, .awaiting number⟩ }
        [.receive .exchange]
  /-- The client has started a cycle. -/
  | waited {ticket : Ticket} {number : CycleId} {message : Message}
      (held : server.holder = some ⟨ticket, .awaiting number⟩)
      (verdict : judge number message = .wait) :
      Move server (.callReceived (.ok message)) server [.receive .exchange]
  /-- The call that has the exchange ends. -/
  | returned {event : Event} {ticket : Ticket}
      {result : Except ProtocolError Unit} (log : List Effect)
      (ending : Return server event ticket result)
      (logged : ∀ effect ∈ log, ∃ entry, effect = .log entry) :
      Move server event { server with holder := none }
        (log ++ [.finish ticket (.result result)])

/-! ## Every step is a move -/

variable {server next : Server} {effects : List Effect}

theorem move_of_endReception
    {event : Event} (failure : Failure server event)
    (reaction : endReception server = (next, effects)) :
    Move server event next effects := by
  simp only [endReception, publish, Prod.mk.injEq] at reaction
  obtain ⟨rfl, rfl⟩ := reaction
  exact .failed [] failure (by simp)

theorem move_of_failHandshake
    {event : Event} (failure : Failure server event)
    (reaction : failHandshake server = (next, effects)) :
    Move server event next effects := by
  simp only [failHandshake, endReception, publish, Reaction.followedBy,
    Prod.mk.injEq] at reaction
  obtain ⟨rfl, rfl⟩ := reaction
  refine .failed _ failure ?_
  intro effect logged
  split at logged
  · simp at logged
  · exact ⟨_, List.mem_singleton.mp logged⟩

/-- Where the reception goes on, it enters a stage or agrees. -/
theorem move_of_proceed
    {event : Event} {trace : TraceContext}
    {progress : Progress ServerHandshake.Stage Session}
    (advance : Advance server event trace progress)
    (reaction : proceed server trace progress = (next, effects)) :
    Move server event next effects := by
  cases progress with
  | next stage =>
      rcases stage with sending | receiving
      · simp only [proceed, enterStage, Prod.mk.injEq] at reaction
        obtain ⟨rfl, rfl⟩ := reaction
        exact .entered server.state (.inl rfl) advance rfl rfl (by simp)
      · cases receiving with
        | choice =>
            simp only [proceed, enterStage, Prod.mk.injEq] at reaction
            obtain ⟨rfl, rfl⟩ := reaction
            exact .entered server.state (.inl rfl) advance rfl rfl (by simp)
        | request version =>
            simp only [proceed, enterStage, Reaction.followedBy, publish,
              Prod.mk.injEq] at reaction
            obtain ⟨rfl, rfl⟩ := reaction
            exact .entered _ (.inr rfl) advance rfl rfl (by simp)
        | subscription version capabilities =>
            simp only [proceed, enterStage, Prod.mk.injEq] at reaction
            obtain ⟨rfl, rfl⟩ := reaction
            exact .entered server.state (.inl rfl) advance rfl rfl (by simp)
  | agreed session =>
      simp only [proceed, agree] at reaction
      split at reaction
      next known found =>
        exact move_of_failHandshake
          (.agreedBefore (by simp [found]) advance) reaction
      next unset =>
        simp only [publish, Prod.mk.injEq] at reaction
        obtain ⟨rfl, rfl⟩ := reaction
        exact .agreed unset advance

theorem receive_error
    {trace : TraceContext} {error : TransportError}
    (other : error ≠ .notAccepted) :
    receive server trace (.error error) =
      Reaction.followedBy (server, [.log .acceptFailed]) endReception := by
  cases error <;> first | rfl | exact absurd rfl other

theorem move_of_accepted
    {trace : TraceContext} {result : Except TransportError Unit}
    (waiting : server.reception = .accepting trace)
    (reaction : receive server trace result = (next, effects)) :
    Move server (.accepted result) next effects := by
  match result with
  | .ok () =>
      simp only [receive, publish, enterStage, Reaction.followedBy,
        ServerHandshake.start, Prod.mk.injEq] at reaction
      obtain ⟨rfl, rfl⟩ := reaction
      exact .entered _ (.inr rfl) (.accepted waiting) rfl rfl (by simp)
  | .error error =>
      have failure : Failure server (.accepted (.error error)) :=
        .unaccepted waiting
      by_cases refused : error = .notAccepted
      · subst refused
        exact move_of_endReception failure reaction
      · rw [receive_error refused] at reaction
        simp only [Reaction.followedBy, endReception, publish,
          Prod.mk.injEq] at reaction
        obtain ⟨rfl, rfl⟩ := reaction
        exact .failed _ failure (by simp)

/-- A call that starts is turned away, joins the line or gets the exchange. -/
theorem move_of_start
    {errand : Errand} (reaction : start server errand = (next, effects)) :
    Move server (.call errand) next effects := by
  simp only [start] at reaction
  split at reaction
  next unset =>
    simp only [Prod.mk.injEq] at reaction
    obtain ⟨rfl, rfl⟩ := reaction
    exact .turnedAway unset
  next session found =>
    split at reaction
    next free =>
      simp only [Bool.and_eq_true, Option.isNone_iff_eq_none,
        List.isEmpty_iff] at free
      exact .started found free.1 free.2 reaction.symm
    next busy =>
      simp only [Prod.mk.injEq] at reaction
      obtain ⟨rfl, rfl⟩ := reaction
      exact .queued found

theorem move_of_transferSent
    {holder : Holder} {result : Except TransportError Unit}
    (held : server.holder = some holder)
    (reaction :
      transferSent server holder result = some (next, effects)) :
    Move server (.callSent result) next effects := by
  obtain ⟨ticket, transfer⟩ := holder
  cases transfer with
  | awaiting number =>
      cases result <;> simp [transferSent] at reaction
  | sendingCycle number =>
      match result with
      | .ok () =>
          simp only [transferSent, Option.some.injEq,
            Prod.mk.injEq] at reaction
          obtain ⟨rfl, rfl⟩ := reaction
          exact .cycleSent held
      | .error error =>
          simp only [transferSent, release, Option.some.injEq,
            Prod.mk.injEq] at reaction
          obtain ⟨rfl, rfl⟩ := reaction
          exact .returned [] (.cycleUnsent held) (by simp)
  | sendingExit =>
      match result with
      | .ok () =>
          simp only [transferSent, release, Option.some.injEq,
            Prod.mk.injEq] at reaction
          obtain ⟨rfl, rfl⟩ := reaction
          exact .returned [] (.exitSent held) (by simp)
      | .error error =>
          simp only [transferSent, release, Option.some.injEq,
            Prod.mk.injEq] at reaction
          obtain ⟨rfl, rfl⟩ := reaction
          exact .returned [] (.exitUnsent held) (by simp)

theorem move_of_answerReceived
    {ticket : Ticket} {number : CycleId}
    {result : Except TransportError Message}
    (held : server.holder = some ⟨ticket, .awaiting number⟩)
    (reaction :
      answerReceived server ticket number result = (next, effects)) :
    Move server (.callReceived result) next effects := by
  cases result with
  | error error =>
      simp only [answerReceived, release, Prod.mk.injEq] at reaction
      obtain ⟨rfl, rfl⟩ := reaction
      exact .returned [] (.unreceived held) (by simp)
  | ok message =>
      simp only [answerReceived] at reaction
      split at reaction
      next verdict =>
        simp only [Prod.mk.injEq] at reaction
        obtain ⟨rfl, rfl⟩ := reaction
        exact .waited held verdict
      next verdict =>
        simp only [release, Prod.mk.injEq] at reaction
        obtain ⟨rfl, rfl⟩ := reaction
        exact .returned [] (.answered held (.inl verdict)) (by simp)
      next verdict =>
        simp only [Reaction.followedBy, release, Prod.mk.injEq] at reaction
        obtain ⟨rfl, rfl⟩ := reaction
        exact .returned _ (.answered held (.inr verdict)) (by simp)
      next error verdict =>
        simp only [release, Prod.mk.injEq] at reaction
        obtain ⟨rfl, rfl⟩ := reaction
        exact .returned [] (.refused held verdict) (by simp)

theorem move_of_serve
    {trace : TraceContext} {bound : Except TransportError Unit}
    (reaction : serve server trace bound = (next, effects)) :
    Move server (.serve trace bound) next effects := by
  simp only [serve] at reaction
  split at reaction
  next served =>
    simp only [Prod.mk.injEq] at reaction
    obtain ⟨rfl, rfl⟩ := reaction
    exact .aside (by simp) ⟨rfl, rfl⟩ (.inl rfl) id rfl ⟨rfl, rfl⟩
      (stands_of_mem _) (by simp [Stands])
  next unserved =>
    match bound with
    | .ok () =>
        simp only [publish, Reaction.followedBy, Prod.mk.injEq] at reaction
        obtain ⟨rfl, rfl⟩ := reaction
        exact .listening (by simpa using unserved)
    | .error error =>
        simp only [Prod.mk.injEq] at reaction
        obtain ⟨rfl, rfl⟩ := reaction
        exact .aside (by simp) ⟨rfl, rfl⟩ (.inl rfl) (by simp) rfl ⟨rfl, rfl⟩
          (stands_of_mem _) (by simp [Stands])

theorem move_of_awaitConnection
    (reaction : awaitConnection server = (next, effects)) :
    Move server .awaitConnection next effects := by
  simp only [awaitConnection] at reaction
  split at reaction
  next settled =>
    obtain ⟨rfl, rfl⟩ := Prod.mk.inj reaction
    exact .aside (by simp) ⟨rfl, rfl⟩ (.inl rfl) id rfl ⟨rfl, rfl⟩
      (stands_of_mem _) (by simp [Stands])
  next unsettled =>
    obtain ⟨rfl, rfl⟩ := Prod.mk.inj reaction
    refine .aside (by simp) ⟨rfl, rfl⟩ (.inl rfl) id rfl ⟨rfl, rfl⟩ ?_
      (by simp)
    intro ticket member
    simp only [List.mem_append, List.mem_singleton] at member
    rcases member with (watching | rfl) | closing
    · exact stands_of_mem _ _ (List.mem_append_left _ watching)
    · exact .inr ⟨rfl, rfl⟩
    · exact stands_of_mem _ _ (List.mem_append_right _ closing)

theorem move_of_close
    (reaction : close server = (next, effects)) :
    Move server .close next effects := by
  obtain ⟨rfl, rfl⟩ := Prod.mk.inj reaction
  refine .aside (by simp) ⟨rfl, rfl⟩ (.inl rfl) id rfl ⟨rfl, rfl⟩ ?_ (by simp)
  intro ticket member
  simp only [List.mem_append, List.mem_singleton] at member
  rcases member with watching | closing | rfl
  · exact stands_of_mem _ _ (List.mem_append_left _ watching)
  · exact stands_of_mem _ _ (List.mem_append_right _ closing)
  · exact .inr ⟨rfl, rfl⟩

theorem move_of_transportClosed
    {ticket : Ticket} {result : Except TransportError Unit}
    (member : ticket ∈ server.closers)
    (reaction : transportClosed server ticket result = (next, effects)) :
    Move server (.closed ticket result) next effects := by
  have ended : server.Stands (.closed ticket result) ticket :=
    .inl (List.mem_append_right _ member)
  cases result with
  | ok done =>
      simp only [transportClosed, publish, Reaction.followedBy,
        Prod.mk.injEq] at reaction
      obtain ⟨rfl, rfl⟩ := reaction
      refine .aside (by simp) ⟨rfl, rfl⟩ (.inr rfl) id rfl ⟨rfl, rfl⟩ ?_
        (by simp [ended])
      intro other stands
      exact .inl (mem_of_mem_erased (.inr stands))
  | error error =>
      simp only [transportClosed, Prod.mk.injEq] at reaction
      obtain ⟨rfl, rfl⟩ := reaction
      refine .aside (by simp) ⟨rfl, rfl⟩ (.inl rfl) id rfl ⟨rfl, rfl⟩ ?_
        (by simp [ended])
      intro other stands
      exact .inl (mem_of_mem_erased (.inr stands))

/-- Every step of a server is a move. -/
theorem move_of_step
    {event : Event} (stepped : step server event = some (next, effects)) :
    Move server event next effects := by
  cases event with
  | serve trace bound => exact move_of_serve (Option.some.inj stepped)
  | cancel =>
      simp only [step, Option.some.injEq, Prod.mk.injEq] at stepped
      obtain ⟨rfl, rfl⟩ := stepped
      exact .aside (by simp) ⟨rfl, rfl⟩ (.inl rfl) id rfl ⟨rfl, rfl⟩
        (stands_of_mem _) (by simp)
  | call errand => exact move_of_start (Option.some.inj stepped)
  | awaitConnection =>
      exact move_of_awaitConnection (Option.some.inj stepped)
  | close => exact move_of_close (Option.some.inj stepped)
  | abandon =>
      simp only [step] at stepped
      split at stepped
      next trace waiting cancelled =>
        exact move_of_endReception (.abandoned waiting)
          (Option.some.inj stepped)
      next => simp at stepped
  | accepted result =>
      simp only [step] at stepped
      split at stepped
      next trace waiting live =>
        exact move_of_accepted waiting (Option.some.inj stepped)
      next => simp at stepped
  | handshakeSent result =>
      simp only [step] at stepped
      split at stepped
      next trace stage waiting =>
        match result with
        | .ok () =>
            exact move_of_proceed (.sent waiting rfl) (Option.some.inj stepped)
        | .error error =>
            exact move_of_failHandshake (.unsent waiting)
              (Option.some.inj stepped)
      next => simp at stepped
  | handshakeReceived result =>
      simp only [step] at stepped
      split at stepped
      next trace stage waiting =>
        match result with
        | .error error =>
            exact move_of_failHandshake (.unreceived waiting)
              (Option.some.inj stepped)
        | .ok message =>
            simp only at stepped
            split at stepped
            next progress follows =>
              exact move_of_proceed (.received waiting follows)
                (Option.some.inj stepped)
            next error refusal =>
              exact move_of_failHandshake (.refused waiting refusal)
                (Option.some.inj stepped)
      next => simp at stepped
  | turn =>
      simp only [step] at stepped
      split at stepped
      next request rest free lined =>
        exact .turned free lined (Option.some.inj stepped).symm
      next => simp at stepped
  | callSent result =>
      simp only [step] at stepped
      split at stepped
      next holder held => exact move_of_transferSent held stepped
      next => simp at stepped
  | callReceived result =>
      simp only [step] at stepped
      split at stepped
      next ticket number held =>
        exact move_of_answerReceived held (Option.some.inj stepped)
      next => simp at stepped
  | notice ticket =>
      simp only [step] at stepped
      split at stepped
      next settled =>
        simp only [Option.some.injEq, Prod.mk.injEq] at stepped
        obtain ⟨rfl, rfl⟩ := stepped
        simp only [Bool.and_eq_true, List.contains_iff_mem] at settled
        refine .aside (by simp) ⟨rfl, rfl⟩ (.inl rfl) id rfl ⟨rfl, rfl⟩ ?_
          (by simp [Stands, bystanders, settled.1])
        intro other member
        exact .inl (mem_of_mem_erased (.inl member))
      next => simp at stepped
  | closed ticket result =>
      simp only [step] at stepped
      split at stepped
      next member =>
        simp only [List.contains_iff_mem] at member
        exact move_of_transportClosed member (Option.some.inj stepped)
      next => simp at stepped

end Server

end BuildWatch
