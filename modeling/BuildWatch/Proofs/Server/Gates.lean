import BuildWatch.Proofs.Server.Moves

/-!
# The gates of a server

Two gates keep the tasks of a server apart: the session, which the reception
of the client sets last of all, and the exchange, which one call has at a
time.  `Server.Orderly` is what the gates come to in every state.
-/

namespace BuildWatch

@[simp]
theorem Message.body_withTrace (message : Message) (trace : TraceFields) :
    (message.withTrace trace).body = message.body :=
  rfl

@[simp]
theorem Session.body_attach
    (session : Session) (trace : TraceContext) (message : Message) :
    (session.attach trace message).body = message.body := by
  unfold Session.attach
  split <;> rfl

@[simp]
theorem Session.body_cycleMessage
    (session : Session) (trace : TraceContext) (number : CycleId)
    (scope : Scope) (changes : Changes) :
    (session.cycleMessage trace number scope changes).body =
      .cycle number (if session.version.hasScope then some scope else none)
        changes := by
  simp [Session.cycleMessage, Message.plain]

@[simp]
theorem Session.body_exitMessage
    (session : Session) (trace : TraceContext) (description : String) :
    (session.exitMessage trace description).body = .exit description := by
  simp [Session.exitMessage, Message.plain]

/-- Whether the task that receives a client is under way. -/
def Reception.active : Reception → Bool
  | .accepting _ => true
  | .shaking _ _ => true
  | _ => false

namespace Server

variable {server next : Server} {event : Event} {effects : List Effect}

/-! ## The gates -/

/-- What holds of a server between any two steps of its tasks. -/
structure Orderly (server : Server) : Prop where
  /-- Only a server that was told to serve receives a client. -/
  unserved : server.serving = false → server.reception = .absent
  /-- The session is set by the last step of the reception. -/
  received : server.session.isSome → server.reception = .finished
  /-- Only a call that found the session has the exchange. -/
  held : server.holder.isSome → server.session.isSome
  /-- Only calls that found the session are in line. -/
  lined : ∀ request ∈ server.waiting, server.session = some request.session

theorem orderly_new (options : ServerOptions) : Orderly (new options) where
  unserved := fun _ => rfl
  received := by simp [new]
  held := by simp [new]
  lined := by simp [new]

theorem Advance.active
    {trace : TraceContext}
    {progress : Progress ServerHandshake.Stage Session}
    (advance : Advance server event trace progress) :
    server.reception.active = true := by
  cases advance with
  | accepted waiting => rw [waiting]; rfl
  | sent waiting _ => rw [waiting]; rfl
  | received waiting _ => rw [waiting]; rfl

theorem Failure.active (failure : Failure server event) :
    server.reception.active = true := by
  cases failure with
  | abandoned waiting => rw [waiting]; rfl
  | unaccepted waiting => rw [waiting]; rfl
  | unsent waiting => rw [waiting]; rfl
  | unreceived waiting => rw [waiting]; rfl
  | refused waiting _ => rw [waiting]; rfl
  | agreedBefore _ advance => exact advance.active

theorem Return.holds
    {ticket : Ticket} {result : Except ProtocolError Unit}
    (ending : Return server event ticket result) :
    ∃ transfer, server.holder = some ⟨ticket, transfer⟩ := by
  cases ending with
  | cycleUnsent held => exact ⟨_, held⟩
  | exitUnsent held => exact ⟨_, held⟩
  | exitSent held => exact ⟨_, held⟩
  | unreceived held => exact ⟨_, held⟩
  | answered held _ => exact ⟨_, held⟩
  | refused held _ => exact ⟨_, held⟩

namespace Orderly

theorem session_eq_none_of_unfinished
    (orderly : Orderly server) (unfinished : server.reception ≠ .finished) :
    server.session = none := by
  cases found : server.session with
  | none => rfl
  | some session =>
      exact absurd (orderly.received (by simp [found])) unfinished

/-- There is no session as long as the reception is under way. -/
theorem session_eq_none
    (orderly : Orderly server) (active : server.reception.active = true) :
    server.session = none := by
  apply orderly.session_eq_none_of_unfinished
  intro finished
  simp [finished, Reception.active] at active

theorem serving_of_ne_absent
    (orderly : Orderly server) (present : server.reception ≠ .absent) :
    server.serving = true := by
  cases served : server.serving with
  | true => rfl
  | false => exact absurd (orderly.unserved served) present

theorem serving
    (orderly : Orderly server) (active : server.reception.active = true) :
    server.serving = true := by
  apply orderly.serving_of_ne_absent
  intro absent
  simp [absent, Reception.active] at active

theorem waiting_eq_nil
    (orderly : Orderly server) (unset : server.session = none) :
    server.waiting = [] := by
  cases lined : server.waiting with
  | nil => rfl
  | cons request rest =>
      have found := orderly.lined request (by simp [lined])
      simp [unset] at found

end Orderly

/-- What giving the exchange to a call comes to, and the message it sends. -/
inductive Begun (server : Server) (request : Request) :
    Server → Message → Prop where
  | cycle {trace : TraceContext} {scope : Scope} {changes : Changes}
      (errand : request.errand = .cycle trace scope changes) :
      Begun server request
        { server with
          lastCycle := server.lastCycle + 1
          holder :=
            some ⟨request.ticket, .sendingCycle (server.lastCycle + 1)⟩ }
        (request.session.cycleMessage trace (server.lastCycle + 1) scope
          changes)
  | exit {trace : TraceContext} {description : String}
      (errand : request.errand = .exit trace description) :
      Begun server request
        { server with holder := some ⟨request.ticket, .sendingExit⟩ }
        (request.session.exitMessage trace description)

theorem begun_of_begin
    {request : Request} (begins : (next, effects) = begin server request) :
    ∃ message,
      effects = [.send .exchange message] ∧
        Begun server request next message := by
  cases errand : request.errand with
  | cycle trace scope changes =>
      simp only [begin, errand] at begins
      obtain ⟨rfl, rfl⟩ := Prod.mk.inj begins
      exact ⟨_, rfl, .cycle errand⟩
  | exit trace description =>
      simp only [begin, errand] at begins
      obtain ⟨rfl, rfl⟩ := Prod.mk.inj begins
      exact ⟨_, rfl, .exit errand⟩

theorem orderly_begun
    {request : Request} {message : Message}
    (orderly : Orderly server) (found : server.session.isSome)
    (begun : Begun server request next message) : Orderly next := by
  cases begun with
  | cycle errand =>
      exact ⟨orderly.unserved, orderly.received, fun _ => found,
        orderly.lined⟩
  | exit errand =>
      exact ⟨orderly.unserved, orderly.received, fun _ => found,
        orderly.lined⟩

/-- Every move keeps the gates. -/
theorem orderly_move
    (orderly : Orderly server) (move : Move server event next effects) :
    Orderly next := by
  cases move with
  | aside uncalled unanswering shown claimed numbered silent stood ended =>
      refine ⟨?_, orderly.received, orderly.held, orderly.lined⟩
      intro unserved
      apply orderly.unserved
      cases served : server.serving with
      | false => rfl
      | true => simp [claimed served] at unserved
  | listening unserved =>
      have absent : server.reception = .absent := orderly.unserved unserved
      have unset := orderly.session_eq_none_of_unfinished (by simp [absent])
      exact ⟨by simp, by simp [unset], orderly.held, orderly.lined⟩
  | failed log failure logged =>
      have serving := orderly.serving failure.active
      exact ⟨by simp [serving], fun _ => rfl, orderly.held, orderly.lined⟩
  | entered state shown advance said asked unended =>
      have serving := orderly.serving advance.active
      have unset := orderly.session_eq_none advance.active
      exact ⟨by simp [serving], by simp [unset], orderly.held,
        orderly.lined⟩
  | agreed unset advance =>
      have serving := orderly.serving advance.active
      have unlined := orderly.waiting_eq_nil unset
      exact ⟨by simp [serving], fun _ => rfl, fun _ => rfl,
        by simp [unlined]⟩
  | turnedAway unset =>
      exact ⟨orderly.unserved, orderly.received, orderly.held,
        orderly.lined⟩
  | queued found =>
      refine ⟨orderly.unserved, orderly.received, orderly.held, ?_⟩
      intro request member
      rcases List.mem_append.mp member with earlier | last
      · exact orderly.lined request earlier
      · rw [List.mem_singleton.mp last]
        exact found
  | started found free unlined begins =>
      obtain ⟨message, rfl, begun⟩ := begun_of_begin begins
      have numbered : Orderly { server with
          nextTicket := server.nextTicket + 1 } :=
        ⟨orderly.unserved, orderly.received, orderly.held, orderly.lined⟩
      exact orderly_begun numbered (by simp [found]) begun
  | @turned request rest _ _ free lined begins =>
      obtain ⟨message, rfl, begun⟩ := begun_of_begin begins
      have found := orderly.lined request (by simp [lined])
      have shorter : Orderly { server with waiting := rest } := by
        refine ⟨orderly.unserved, orderly.received, orderly.held, ?_⟩
        intro other member
        exact orderly.lined other (by simp [lined, member])
      exact orderly_begun shorter (by simp [found]) begun
  | cycleSent held =>
      have found := orderly.held (by simp [held])
      exact ⟨orderly.unserved, orderly.received, fun _ => found,
        orderly.lined⟩
  | waited held verdict => exact orderly
  | returned log ending logged =>
      exact ⟨orderly.unserved, orderly.received, by simp, orderly.lined⟩

end Server

end BuildWatch
