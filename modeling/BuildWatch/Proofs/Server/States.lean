import BuildWatch.Proofs.Server.Gates

/-!
# Who shows which state

The state that a server shows is written by its tasks and calls without a
look at what it was before.  Here every step is traced back to the one place
that wrote the state behind it: most steps leave it alone, the reception
writes how far it is and that it gave up, a call to serve writes that the
server listens, and a call to close that it is closed.
-/

namespace BuildWatch.Server

variable {server : Server} {event : Event} {reaction : Reaction}

/-- What no step does but a call to serve: to ask for a client. -/
structure Discreet (server : Server) (reaction : Reaction) : Prop where
  unasking : .accept ∉ reaction.2
  /-- Who was told to stop waiting for a client is never told otherwise. -/
  cancelled : server.cancelled = true → reaction.1.cancelled = true

/-- A reaction that shows the same state as before. -/
structure Keeps (server : Server) (reaction : Reaction) : Prop
    extends Discreet server reaction where
  state : reaction.1.state = server.state

/-- A reaction that gives up on a client. -/
structure GivesUp (server : Server) (reaction : Reaction) : Prop
    extends Discreet server reaction where
  state : reaction.1.state = .closed
  reception : reaction.1.reception = .finished
  session : reaction.1.session = server.session

/-- Where the state behind a step comes from. -/
inductive Shown (server : Server) : Event → Reaction → Prop where
  | kept {event : Event} {reaction : Reaction}
      (keeps : Keeps server reaction) : Shown server event reaction
  | gaveUp {event : Event} {reaction : Reaction}
      (active : server.reception.active = true)
      (givesUp : GivesUp server reaction) : Shown server event reaction
  | hungUp {ticket : Ticket} {reaction : Reaction}
      (discreet : Discreet server reaction)
      (state : reaction.1.state = .closed) :
      Shown server (.closed ticket (.ok ())) reaction
  | listening {trace : TraceContext} {reaction : Reaction}
      (unserved : server.serving = false)
      (state : reaction.1.state = .listening)
      (cancelled : reaction.1.cancelled = server.cancelled)
      (asked : reaction.2 =
        [.publish .listening, .accept,
          .finish server.nextTicket (.result (.ok ()))]) :
      Shown server (.serve trace (.ok ())) reaction
  | negotiating {trace : TraceContext} {reaction : Reaction}
      (waiting : server.reception = .accepting trace)
      (live : server.cancelled = false)
      (discreet : Discreet server reaction)
      (state : reaction.1.state = .negotiating)
      (published : .publish .negotiating ∈ reaction.2) :
      Shown server (.accepted (.ok ())) reaction
  | asking {event : Event} {trace : TraceContext} {version : Version}
      {reaction : Reaction}
      (advance :
        Advance server event trace (.next (.receiving (.request version))))
      (discreet : Discreet server reaction)
      (state : reaction.1.state = .capabilityNegotiating) :
      Shown server event reaction
  | connected {event : Event} {trace : TraceContext} {session : Session}
      {reaction : Reaction}
      (advance : Advance server event trace (.agreed session))
      (discreet : Discreet server reaction)
      (state : reaction.1.state = .connected session.version) :
      Shown server event reaction

/-! ## The parts of the steps -/

theorem givesUp_endReception : GivesUp server (endReception server) where
  unasking := by simp [endReception, publish]
  cancelled := id
  state := rfl
  reception := rfl
  session := rfl

theorem givesUp_failHandshake : GivesUp server (failHandshake server) where
  unasking := by
    simp only [failHandshake, endReception, publish, Reaction.followedBy]
    split <;> simp
  cancelled := id
  state := rfl
  reception := rfl
  session := rfl

theorem givesUp_receive
    (trace : TraceContext) (error : TransportError) :
    GivesUp server (receive server trace (.error error)) := by
  by_cases refused : error = .notAccepted
  · subst refused
    exact givesUp_endReception
  · rw [receive_error refused]
    constructor
    · constructor
      · simp [Reaction.followedBy, endReception, publish]
      · exact id
    · rfl
    · rfl
    · rfl

/-- Only to wait for capabilities is a stage that the state tells of. -/
theorem keeps_enterStage
    {trace : TraceContext} {stage : ServerHandshake.Stage}
    (other : ∀ version, stage ≠ .receiving (.request version)) :
    Keeps server (enterStage server trace stage) := by
  rcases stage with sending | (_ | version | _)
  · exact ⟨⟨by simp [enterStage], id⟩, rfl⟩
  · exact ⟨⟨by simp [enterStage], id⟩, rfl⟩
  · exact absurd rfl (other version)
  · exact ⟨⟨by simp [enterStage], id⟩, rfl⟩

theorem keeps_begin (request : Request) :
    Keeps server (begin server request) := by
  unfold begin
  split <;> exact ⟨⟨by simp, id⟩, rfl⟩

theorem keeps_start (errand : Errand) :
    Keeps server (start server errand) := by
  simp only [start]
  split
  · exact ⟨⟨by simp, id⟩, rfl⟩
  · split
    · obtain ⟨⟨unasking, cancelled⟩, state⟩ :=
        @keeps_begin { server with nextTicket := server.nextTicket + 1 }
          ⟨server.nextTicket, _, errand⟩
      exact ⟨⟨unasking, cancelled⟩, state⟩
    · exact ⟨⟨by simp, id⟩, rfl⟩

theorem keeps_transferSent
    {holder : Holder} {result : Except TransportError Unit}
    (reacted : transferSent server holder result = some reaction) :
    Keeps server reaction := by
  obtain ⟨ticket, transfer⟩ := holder
  cases result <;> cases transfer <;>
    simp only [transferSent, release, Option.some.injEq,
      reduceCtorEq] at reacted <;>
    subst reacted <;> exact ⟨⟨by simp, id⟩, rfl⟩

theorem keeps_answerReceived
    (ticket : Ticket) (number : CycleId)
    (result : Except TransportError Message) :
    Keeps server (answerReceived server ticket number result) := by
  cases result with
  | error error => exact ⟨⟨by simp [answerReceived, release], id⟩, rfl⟩
  | ok message =>
      simp only [answerReceived]
      split <;>
        exact ⟨⟨by simp [release, Reaction.followedBy], id⟩, rfl⟩

theorem keeps_awaitConnection :
    Keeps server (awaitConnection server) := by
  simp only [awaitConnection]
  split <;> exact ⟨⟨by simp, id⟩, rfl⟩

theorem shown_proceed
    {trace : TraceContext}
    {progress : Progress ServerHandshake.Stage Session}
    (advance : Advance server event trace progress) :
    Shown server event (proceed server trace progress) := by
  cases progress with
  | next stage =>
      rw [proceed]
      by_cases asks : ∃ version, stage = .receiving (.request version)
      · obtain ⟨version, rfl⟩ := asks
        refine .asking advance ⟨?_, id⟩ rfl
        simp [enterStage, Reaction.followedBy, publish]
      · refine .kept (keeps_enterStage ?_)
        intro version same
        exact asks ⟨version, same⟩
  | agreed session =>
      simp only [proceed, agree]
      split
      · exact .gaveUp advance.active givesUp_failHandshake
      · exact .connected advance ⟨by simp [publish], id⟩ rfl

theorem shown_serve
    (trace : TraceContext) (bound : Except TransportError Unit) :
    Shown server (.serve trace bound) (serve server trace bound) := by
  simp only [serve]
  split
  next served => exact .kept ⟨⟨by simp, id⟩, rfl⟩
  next unserved =>
    rcases bound with error | ⟨⟩
    · exact .kept ⟨⟨by simp, id⟩, rfl⟩
    · exact .listening (by simpa using unserved) rfl rfl rfl

/-! ## Every step -/

theorem shown_of_step (stepped : step server event = some reaction) :
    Shown server event reaction := by
  cases event with
  | serve trace bound =>
      cases Option.some.inj stepped
      exact shown_serve trace bound
  | cancel =>
      cases Option.some.inj stepped
      exact .kept ⟨⟨by simp, fun _ => rfl⟩, rfl⟩
  | call errand =>
      cases Option.some.inj stepped
      exact .kept (keeps_start errand)
  | awaitConnection =>
      cases Option.some.inj stepped
      exact .kept keeps_awaitConnection
  | close =>
      cases Option.some.inj stepped
      exact .kept ⟨⟨by simp [close], id⟩, rfl⟩
  | abandon =>
      simp only [step] at stepped
      split at stepped
      next trace waiting cancelled =>
        cases Option.some.inj stepped
        exact .gaveUp (by rw [waiting]; rfl) givesUp_endReception
      next => simp at stepped
  | accepted result =>
      simp only [step] at stepped
      split at stepped
      next trace waiting live =>
        cases Option.some.inj stepped
        rcases result with error | ⟨⟩
        · exact .gaveUp (by rw [waiting]; rfl) (givesUp_receive trace error)
        · refine .negotiating waiting live ⟨?_, id⟩ rfl ?_
          · simp [receive, publish, enterStage, Reaction.followedBy,
              ServerHandshake.start]
          · simp [receive, publish, enterStage, Reaction.followedBy,
              ServerHandshake.start]
      next => simp at stepped
  | handshakeSent result =>
      simp only [step] at stepped
      split at stepped
      next trace stage waiting =>
        rcases result with error | ⟨⟩
        · cases Option.some.inj stepped
          exact .gaveUp (by rw [waiting]; rfl) givesUp_failHandshake
        · cases Option.some.inj stepped
          exact shown_proceed (.sent waiting rfl)
      next => simp at stepped
  | handshakeReceived result =>
      simp only [step] at stepped
      split at stepped
      next trace stage waiting =>
        cases result with
        | error error =>
            cases Option.some.inj stepped
            exact .gaveUp (by rw [waiting]; rfl) givesUp_failHandshake
        | ok message =>
            simp only at stepped
            split at stepped
            next progress follows =>
              cases Option.some.inj stepped
              exact shown_proceed (.received waiting follows)
            next error refusal =>
              cases Option.some.inj stepped
              exact .gaveUp (by rw [waiting]; rfl) givesUp_failHandshake
      next => simp at stepped
  | turn =>
      simp only [step] at stepped
      split at stepped
      next request rest free lined =>
        cases Option.some.inj stepped
        obtain ⟨⟨unasking, cancelled⟩, state⟩ :=
          @keeps_begin { server with waiting := rest } request
        exact .kept ⟨⟨unasking, cancelled⟩, state⟩
      next => simp at stepped
  | callSent result =>
      simp only [step] at stepped
      split at stepped
      next holder held => exact .kept (keeps_transferSent stepped)
      next => simp at stepped
  | callReceived result =>
      simp only [step] at stepped
      split at stepped
      next ticket number held =>
        cases Option.some.inj stepped
        exact .kept (keeps_answerReceived ticket number result)
      next => simp at stepped
  | notice ticket =>
      simp only [step] at stepped
      split at stepped
      next settled =>
        cases Option.some.inj stepped
        exact .kept ⟨⟨by simp, id⟩, rfl⟩
      next => simp at stepped
  | closed ticket result =>
      simp only [step] at stepped
      split at stepped
      next member =>
        cases Option.some.inj stepped
        rcases result with error | ⟨⟩
        · exact .kept ⟨⟨by simp [transportClosed], id⟩, rfl⟩
        · refine .hungUp ⟨?_, id⟩ rfl
          simp [transportClosed, publish, Reaction.followedBy]
      next => simp at stepped

/-- A step asks for a client only if the server starts to listen. -/
theorem Shown.accept_mem
    (shown : Shown server event reaction) (asked : .accept ∈ reaction.2) :
    server.serving = false ∧ ∃ trace, event = .serve trace (.ok ()) := by
  cases shown with
  | kept keeps => exact absurd asked keeps.unasking
  | gaveUp active givesUp => exact absurd asked givesUp.unasking
  | hungUp discreet state => exact absurd asked discreet.unasking
  | listening unserved state cancelled effects => exact ⟨unserved, _, rfl⟩
  | negotiating waiting live discreet state published =>
      exact absurd asked discreet.unasking
  | asking advance discreet state => exact absurd asked discreet.unasking
  | connected advance discreet state => exact absurd asked discreet.unasking

/-- A server that is told to stop waiting for a client is told for good. -/
theorem Shown.cancelled
    (shown : Shown server event reaction)
    (cancelled : server.cancelled = true) : reaction.1.cancelled = true := by
  cases shown with
  | kept keeps => exact keeps.cancelled cancelled
  | gaveUp active givesUp => exact givesUp.cancelled cancelled
  | hungUp discreet state => exact discreet.cancelled cancelled
  | listening unserved state same effects => exact same.trans cancelled
  | negotiating waiting live discreet state published =>
      exact discreet.cancelled cancelled
  | asking advance discreet state => exact discreet.cancelled cancelled
  | connected advance discreet state => exact discreet.cancelled cancelled

/-- What makes a server closed. -/
theorem Shown.closed
    (shown : Shown server event reaction) (orderly : Orderly server)
    (closed : reaction.1.state = .closed) :
    server.state = .closed ∨
      (∃ ticket, event = .closed ticket (.ok ())) ∨
      reaction.1.reception = .finished ∧ reaction.1.session = none := by
  cases shown with
  | kept keeps => exact .inl (keeps.state.symm.trans closed)
  | gaveUp active givesUp =>
      refine .inr (.inr ⟨givesUp.reception, ?_⟩)
      exact givesUp.session.trans (orderly.session_eq_none active)
  | hungUp discreet state => exact .inr (.inl ⟨_, rfl⟩)
  | listening unserved state cancelled effects => simp [state] at closed
  | negotiating waiting live discreet state published =>
      simp [state] at closed
  | asking advance discreet state => simp [state] at closed
  | connected advance discreet state => simp [state] at closed

end BuildWatch.Server
