import BuildWatch.Proofs.Handshake
import BuildWatch.Proofs.Runs
import BuildWatch.Proofs.Server.Gates

/-!
# One task at a time

The transport of a server must never be asked for two messages, or to send
two, at the same time.  This module counts what is asked for and what is
answered along a run, and finds that the difference is what the tasks of the
server wait for, which is one operation in either direction at most.

The same runs show which messages a server sends in which order, and that a
cycle is never disturbed before the call that sent it returns.
-/

namespace BuildWatch

/-- The two ways of a message. -/
inductive Direction where
  /-- To the client. -/
  | outward
  /-- From the client. -/
  | inward
deriving DecidableEq

/-- Which way the message of a stage goes. -/
def ServerHandshake.Stage.direction : ServerHandshake.Stage → Direction
  | .sending _ => .outward
  | .receiving _ => .inward

/-- Which way the message goes that a call waits for. -/
def Transfer.direction : Transfer → Direction
  | .sendingCycle _ => .outward
  | .awaiting _ => .inward
  | .sendingExit => .outward

/-- How many messages of one way a reception waits for. -/
def Reception.underWay (direction : Direction) : Reception → Nat
  | .shaking _ stage => if stage.direction = direction then 1 else 0
  | _ => 0

@[simp]
theorem Reception.underWay_absent (direction : Direction) :
    Reception.absent.underWay direction = 0 :=
  rfl

@[simp]
theorem Reception.underWay_accepting
    (direction : Direction) (trace : TraceContext) :
    (Reception.accepting trace).underWay direction = 0 :=
  rfl

@[simp]
theorem Reception.underWay_finished (direction : Direction) :
    Reception.finished.underWay direction = 0 :=
  rfl

/-- How many messages of one way a call waits for. -/
def Holder.underWay (direction : Direction) (holder : Holder) : Nat :=
  if holder.transfer.direction = direction then 1 else 0

namespace Server

variable {server next : Server} {event : Event} {effects : List Effect}

/-! ## Operations under way -/

/-- How many messages of one way effects ask the transport for. -/
def asked : Direction → List Effect → Nat
  | .outward, effects => (messages effects).length
  | .inward, effects => requests effects

/-- Whether an event is the answer of the transport for one way. -/
def Event.answers : Direction → Event → Bool
  | .outward, event => event.answersSend
  | .inward, event => event.answersReceive

/-- How many messages of one way events are answers for. -/
def answered (direction : Direction) (events : List Event) : Nat :=
  events.countP (Event.answers direction)

/-- How many messages of one way the tasks of a server wait for. -/
def underWay (direction : Direction) (server : Server) : Nat :=
  server.reception.underWay direction +
    (server.holder.map (Holder.underWay direction)).getD 0

theorem asked_append (direction : Direction) (first second : List Effect) :
    asked direction (first ++ second) =
      asked direction first + asked direction second := by
  cases direction <;> simp [asked]

theorem asked_eq_zero_of_silent
    (direction : Direction) (silent : Silent effects) :
    asked direction effects = 0 := by
  cases direction <;> simp [asked, silent.1, silent.2]

/-- Two things are not waited for at once. -/
theorem Orderly.underWay_le_one
    (orderly : Orderly server) (direction : Direction) :
    server.underWay direction ≤ 1 := by
  cases held : server.holder with
  | none =>
      simp only [underWay, held, Option.map_none, Option.getD_none,
        Nat.add_zero]
      unfold Reception.underWay
      split
      · split <;> omega
      · omega
  | some holder =>
      have finished := orderly.received (orderly.held (by simp [held]))
      simp only [underWay, held, finished, Reception.underWay, Holder.underWay,
        Option.map_some, Option.getD_some, Nat.zero_add]
      split <;> omega

theorem Advance.underWay
    {trace : TraceContext}
    {progress : Progress ServerHandshake.Stage Session}
    (advance : Advance server event trace progress) (direction : Direction) :
    server.reception.underWay direction =
      if event.answers direction then 1 else 0 := by
  cases advance with
  | accepted waiting =>
      cases direction <;> rw [waiting] <;> rfl
  | sent waiting _ =>
      cases direction <;> rw [waiting] <;> rfl
  | received waiting _ =>
      cases direction <;> rw [waiting] <;> rfl

theorem Failure.underWay
    (failure : Failure server event) (direction : Direction) :
    server.reception.underWay direction =
      if event.answers direction then 1 else 0 := by
  cases failure with
  | abandoned waiting => cases direction <;> rw [waiting] <;> rfl
  | unaccepted waiting => cases direction <;> rw [waiting] <;> rfl
  | unsent waiting => cases direction <;> rw [waiting] <;> rfl
  | unreceived waiting => cases direction <;> rw [waiting] <;> rfl
  | refused waiting _ => cases direction <;> rw [waiting] <;> rfl
  | agreedBefore _ advance => exact advance.underWay direction

theorem Return.underWay
    {ticket : Ticket} {result : Except ProtocolError Unit}
    (ending : Return server event ticket result) (direction : Direction) :
    (server.holder.map (Holder.underWay direction)).getD 0 =
      if event.answers direction then 1 else 0 := by
  cases ending with
  | cycleUnsent held => cases direction <;> rw [held] <;> rfl
  | exitUnsent held => cases direction <;> rw [held] <;> rfl
  | exitSent held => cases direction <;> rw [held] <;> rfl
  | unreceived held => cases direction <;> rw [held] <;> rfl
  | answered held _ => cases direction <;> rw [held] <;> rfl
  | refused held _ => cases direction <;> rw [held] <;> rfl

/-- A stage waits for what it asks for. -/
theorem asked_stage
    {stage : ServerHandshake.Stage} {supported : List Version}
    {trace : TraceContext}
    (said : messages effects = stageMessages supported trace stage)
    (wanted : requests effects = stageRequests stage)
    (direction : Direction) :
    asked direction effects =
      (Reception.shaking trace stage).underWay direction := by
  cases stage <;> cases direction <;>
    simp [asked, said, wanted, stageMessages, stageRequests,
      Reception.underWay, ServerHandshake.Stage.direction]

/-- A call that gets the exchange waits for its message to be sent. -/
theorem underWay_begin
    {request : Request} (free : server.holder = none)
    (begins : (next, effects) = begin server request)
    (direction : Direction) :
    server.underWay direction + asked direction effects =
      next.underWay direction := by
  obtain ⟨message, rfl, begun⟩ := begun_of_begin begins
  cases begun <;>
    cases direction <;>
      simp [underWay, free, asked, Holder.underWay, Transfer.direction]

/--
What is waited for before a step or asked for by it is answered by its event
or waited for behind it.
-/
theorem underWay_move
    (orderly : Orderly server) (move : Move server event next effects)
    (direction : Direction) :
    server.underWay direction + asked direction effects =
      (if event.answers direction then 1 else 0) +
        next.underWay direction := by
  cases move with
  | aside uncalled unanswering shown claimed numbered silent stood ended =>
      have unanswered : event.answers direction = false := by
        cases direction with
        | outward => exact unanswering.1
        | inward => exact unanswering.2
      rw [asked_eq_zero_of_silent direction silent, unanswered]
      simp [underWay]
  | listening unserved =>
      have absent : server.reception = .absent := orderly.unserved unserved
      cases direction <;> simp [underWay, absent, Event.answers, asked]
  | failed log failure logged =>
      rw [asked_append,
        asked_eq_zero_of_silent direction (silent_of_logs logged)]
      cases direction <;>
        simp [underWay, failure.underWay, asked]
  | entered state shown advance said wanted unended =>
      rw [asked_stage said wanted direction]
      simp only [underWay, advance.underWay direction]
      omega
  | agreed unset advance =>
      cases direction <;> simp [underWay, advance.underWay, asked]
  | turnedAway unset =>
      cases direction <;> simp [underWay, Event.answers, asked]
  | queued found =>
      cases direction <;> simp [underWay, Event.answers, asked]
  | started found free unlined begins =>
      have balance := underWay_begin (by simpa using free) begins direction
      cases direction <;> simpa [underWay, Event.answers] using balance
  | turned free lined begins =>
      have balance := underWay_begin (by simpa using free) begins direction
      cases direction <;> simpa [underWay, Event.answers] using balance
  | cycleSent held =>
      cases direction <;>
        simp [underWay, held, Event.answers, Holder.underWay,
          Transfer.direction, asked, Nat.add_comm]
  | waited held verdict =>
      cases direction <;>
        simp [underWay, held, Event.answers, Holder.underWay,
          Transfer.direction, asked, Nat.add_comm]
  | returned log ending logged =>
      rw [asked_append,
        asked_eq_zero_of_silent direction (silent_of_logs logged)]
      cases direction <;>
        simp [underWay, ending.underWay, asked, Nat.add_comm]

/-! ## The order of messages -/

/-- The kinds of the messages that a server has sent when it is in a stage. -/
def stageKinds : ServerHandshake.Stage → List MessageKind
  | .sending .offer => [.negotiate]
  | .receiving .choice => [.negotiate]
  | .receiving (.request _) => [.negotiate]
  | .sending (.grant _ _) => [.negotiate, .capsResponse]
  | .receiving (.subscription _ capabilities) =>
      .negotiate :: if capabilities.isSome then [.capsResponse] else []
  | .sending (.confirm _ capabilities _) =>
      .negotiate :: ((if capabilities.isSome then [.capsResponse] else []) ++
        [.subscribeResponse])

/-- The kinds of the messages that a reception has sent so far. -/
def receptionKinds : Reception → List MessageKind
  | .shaking _ stage => stageKinds stage
  | _ => []

/-- The kinds of the messages of a handshake, up to some stage. -/
def Opening (kinds : List MessageKind) : Prop :=
  ∃ granted confirmed : Bool,
    kinds =
      .negotiate :: ((if granted then [.capsResponse] else []) ++
        if confirmed then [.subscribeResponse] else [])

/-- A kind of message that tells the client about the build. -/
def IsNews (kind : MessageKind) : Prop := kind = .cycle ∨ kind = .exit

theorem opening_stageKinds (stage : ServerHandshake.Stage) :
    Opening (stageKinds stage) := by
  rcases stage with (_ | ⟨_, _⟩ | ⟨_, capabilities, _⟩) |
    (_ | _ | ⟨_, capabilities⟩)
  · exact ⟨false, false, rfl⟩
  · exact ⟨true, false, rfl⟩
  · exact ⟨capabilities.isSome, true, rfl⟩
  · exact ⟨false, false, rfl⟩
  · exact ⟨false, false, rfl⟩
  · exact ⟨capabilities.isSome, false, by simp [stageKinds]⟩

/-- The message of a stage is the last that was sent when it is entered. -/
theorem Advance.stageKinds_eq
    {trace : TraceContext} {stage : ServerHandshake.Stage}
    (advance : Advance server event trace (.next stage)) :
    stageKinds stage =
      receptionKinds server.reception ++
        (stageMessages server.options.supported trace stage).map
          Message.kind := by
  cases advance with
  | accepted waiting => simp [waiting, receptionKinds]; rfl
  | @sent _ sending _ waiting follows =>
      rw [waiting]
      cases sending with
      | offer =>
          cases follows
          rfl
      | grant version capabilities =>
          obtain ⟨_, rfl⟩ :=
            ServerHandshake.subscribe_eq_next_iff.mp follows
          rfl
      | confirm version capabilities watchType => cases follows
  | @received _ receiving message _ waiting follows =>
      rw [waiting]
      cases receiving with
      | choice =>
          obtain ⟨version, _, _, leads⟩ :=
            ServerHandshake.received_choice_iff.mp follows
          obtain ⟨_, rfl⟩ :=
            ServerHandshake.negotiate_eq_next_iff.mp leads.symm
          rfl
      | request version =>
          obtain ⟨_, capabilities, _, _, leads⟩ :=
            ServerHandshake.received_request_iff.mp follows
          cases leads
          simp only [stageKinds, receptionKinds, stageMessages,
            ServerHandshake.Sending.message]
          split <;> rfl
      | subscription version capabilities =>
          obtain ⟨watchType, _, leads⟩ :=
            ServerHandshake.received_subscription_iff.mp follows
          cases leads
          simp [stageKinds, receptionKinds, stageMessages,
            ServerHandshake.Sending.message, Message.kind, Message.plain,
            MessageBody.kind]

/-- A handshake has sent something before it comes to an agreement. -/
theorem Advance.opening
    {trace : TraceContext} {session : Session}
    (advance : Advance server event trace (.agreed session)) :
    Opening (receptionKinds server.reception) := by
  cases advance with
  | sent waiting _ =>
      rw [waiting]
      exact opening_stageKinds _
  | received waiting _ =>
      rw [waiting]
      exact opening_stageKinds _

/-- How the messages that a server has sent depend on its state. -/
structure Spoken (server : Server) (kinds opening news : List MessageKind) :
    Prop where
  /-- The messages of the handshake come first. -/
  parts : kinds = opening ++ news
  /-- They are those of a handshake. -/
  opened : opening = [] ∨ Opening opening
  /-- They are those of the stage that the handshake is in. -/
  reached :
    server.reception ≠ .finished →
      opening = receptionKinds server.reception
  /-- An agreed handshake has sent something. -/
  agreed : server.session.isSome → Opening opening
  /-- All other messages tell the client about the build. -/
  told : ∀ kind ∈ news, IsNews kind
  /-- Without an agreement there are none. -/
  untold : server.session = none → news = []

theorem Spoken.opened_reception
    {kinds opening news : List MessageKind}
    (spoken : Spoken server kinds opening news)
    (active : server.reception.active = true) :
    opening = receptionKinds server.reception := by
  apply spoken.reached
  intro finished
  simp [finished, Reception.active] at active

/-- News behind what was sent so far. -/
theorem Spoken.tell
    {kinds opening news : List MessageKind} {kind : MessageKind}
    (spoken : Spoken server kinds opening news)
    (found : server.session.isSome) (isNews : IsNews kind) :
    Spoken server (kinds ++ [kind]) opening (news ++ [kind]) where
  parts := by rw [spoken.parts, List.append_assoc]
  opened := spoken.opened
  reached := spoken.reached
  agreed := spoken.agreed
  told := by
    intro other member
    rcases List.mem_append.mp member with earlier | last
    · exact spoken.told other earlier
    · rw [List.mem_singleton.mp last]
      exact isNews
  untold := by
    intro unset
    simp [unset] at found

/-- A step that says nothing and changes neither stage nor session. -/
theorem Spoken.keepSilent
    {kinds opening news : List MessageKind}
    (spoken : Spoken server kinds opening news)
    (silent : messages effects = [])
    (sameReception : next.reception = server.reception)
    (sameSession : next.session = server.session) :
    Spoken next (kinds ++ (messages effects).map Message.kind)
      opening news := by
  obtain ⟨parts, opened, reached, agreed, told, untold⟩ := spoken
  refine ⟨by simpa [silent] using parts, opened, ?_, ?_, told, ?_⟩
  · rwa [sameReception]
  · rwa [sameSession]
  · rwa [sameSession]

theorem Spoken.begin
    {base : Server} {request : Request}
    {kinds opening news : List MessageKind}
    (spoken : Spoken server kinds opening news)
    (found : server.session.isSome)
    (sameReception : base.reception = server.reception)
    (sameSession : base.session = server.session)
    (begins : (next, effects) = begin base request) :
    ∃ news,
      Spoken next (kinds ++ (messages effects).map Message.kind)
        opening news := by
  obtain ⟨message, rfl, begun⟩ := begun_of_begin begins
  have isNews : IsNews message.kind := by
    cases begun <;> simp [IsNews, Message.kind, MessageBody.kind]
  obtain ⟨parts, opened, reached, agreed, told, untold⟩ :=
    spoken.tell found isNews
  have nextReception : next.reception = server.reception := by
    cases begun <;> exact sameReception
  have nextSession : next.session = server.session := by
    cases begun <;> exact sameSession
  exact ⟨_, parts, opened, by rwa [nextReception], by rwa [nextSession],
    told, by rwa [nextSession]⟩

/-- Every move sends what the order of messages allows. -/
theorem spoken_move
    {kinds opening news : List MessageKind}
    (orderly : Orderly server) (spoken : Spoken server kinds opening news)
    (move : Move server event next effects) :
    ∃ opening news,
      Spoken next (kinds ++ (messages effects).map Message.kind)
        opening news := by
  cases move with
  | aside uncalled unanswering shown claimed numbered silent stood ended =>
      exact ⟨opening, news, spoken.keepSilent silent.1 rfl rfl⟩
  | listening unserved =>
      have absent : server.reception = .absent := orderly.unserved unserved
      have silence := spoken.reached (by simp [absent])
      refine ⟨opening, news, by simpa using spoken.parts, spoken.opened, ?_,
        spoken.agreed, spoken.told, spoken.untold⟩
      intro _
      rw [silence, absent]
      rfl
  | failed log failure logged =>
      have silent := (silent_of_logs logged).1
      refine ⟨opening, news, by simpa [silent] using spoken.parts,
        spoken.opened, ?_, spoken.agreed, spoken.told, spoken.untold⟩
      intro unfinished
      exact absurd rfl unfinished
  | @entered _ trace stage _ state shown advance said wanted unended =>
      have unset := orderly.session_eq_none advance.active
      have silence := spoken.opened_reception advance.active
      refine ⟨stageKinds stage, [], ?_, .inr (opening_stageKinds stage),
        fun _ => rfl, by simp [unset], by simp, fun _ => rfl⟩
      rw [said, advance.stageKinds_eq, spoken.parts, spoken.untold unset,
        silence]
      simp
  | agreed unset advance =>
      have silence := spoken.opened_reception advance.active
      have started : Opening opening := silence ▸ advance.opening
      refine ⟨opening, news, by simpa using spoken.parts, spoken.opened, ?_,
        fun _ => started, spoken.told, by simp⟩
      intro unfinished
      exact absurd rfl unfinished
  | turnedAway unset =>
      exact ⟨opening, news, spoken.keepSilent (by simp) rfl rfl⟩
  | queued found =>
      exact ⟨opening, news, spoken.keepSilent (by simp) rfl rfl⟩
  | started found free unlined begins =>
      refine ⟨opening, spoken.begin (by simp [found]) ?_ ?_ begins⟩ <;> rfl
  | turned free lined begins =>
      have found :=
        orderly.lined _ (by rw [lined]; exact List.mem_cons_self)
      refine ⟨opening, spoken.begin (by simp [found]) ?_ ?_ begins⟩ <;> rfl
  | cycleSent held =>
      exact ⟨opening, news, spoken.keepSilent (by simp) rfl rfl⟩
  | waited held verdict =>
      exact ⟨opening, news, spoken.keepSilent (by simp) rfl rfl⟩
  | returned log ending logged =>
      have silent := (silent_of_logs logged).1
      exact ⟨opening, news, spoken.keepSilent (by simp [silent]) rfl rfl⟩

/-! ## A cycle under way -/

theorem Return.not_handshakeReceived
    {ticket : Ticket} {result : Except ProtocolError Unit}
    (ending : Return server event ticket result)
    (received : Except TransportError Message) :
    event ≠ .handshakeReceived received := by
  rintro rfl
  cases ending

/-- Whether a call has the exchange. -/
def HeldBy (ticket : Ticket) (server : Server) : Prop :=
  ∃ transfer, server.holder = some ⟨ticket, transfer⟩

/-- Nobody sends anything, and the reception receives nothing. -/
structure Undisturbed (events : List Event) (effects : List Effect) :
    Prop where
  /-- Nothing is sent. -/
  unsent : messages effects = []
  /-- The reception does not ask for a message. -/
  unasked : .receive .reception ∉ effects
  /-- The reception does not receive one. -/
  unreceived : ∀ result, .handshakeReceived result ∉ events

theorem Undisturbed.append
    {events more : List Event} {effects others : List Effect}
    (first : Undisturbed events effects) (second : Undisturbed more others) :
    Undisturbed (events ++ more) (effects ++ others) where
  unsent := by simp [first.unsent, second.unsent]
  unasked := by simp [first.unasked, second.unasked]
  unreceived := by simp [first.unreceived, second.unreceived]

theorem Silent.unasked (silent : Silent effects) (party : Party) :
    .receive party ∉ effects := by
  intro member
  have none := List.countP_eq_zero.mp silent.2 _ member
  simp [Effect.asksMessage] at none

/-- The call that has the exchange keeps it until it ends. -/
theorem held_move
    {ticket : Ticket} (orderly : Orderly server)
    (holds : server.HeldBy ticket)
    (move : Move server event next effects) :
    Undisturbed [event] effects ∧
      (next.HeldBy ticket ∨
        ∃ result, .finish ticket (.result result) ∈ effects) := by
  obtain ⟨transfer, held⟩ := holds
  have finished : server.reception.active = false := by
    rw [orderly.received (orderly.held (by simp [held]))]
    rfl
  cases move with
  | aside uncalled unanswering shown claimed numbered silent stood ended =>
      refine ⟨⟨silent.1, silent.unasked _, ?_⟩, .inl ⟨transfer, held⟩⟩
      intro result member
      rw [← List.mem_singleton.mp member] at unanswering
      simp at unanswering
  | listening unserved =>
      exact ⟨⟨rfl, by simp, by simp⟩, .inl ⟨transfer, held⟩⟩
  | failed log failure logged => simp [failure.active] at finished
  | entered state shown advance said wanted unended =>
      simp [advance.active] at finished
  | agreed unset advance => simp [advance.active] at finished
  | turnedAway unset =>
      exact ⟨⟨rfl, by simp, by simp⟩, .inl ⟨transfer, held⟩⟩
  | queued found =>
      exact ⟨⟨rfl, by simp, by simp⟩, .inl ⟨transfer, held⟩⟩
  | started found free unlined begins => simp [held] at free
  | turned free lined begins => simp [held] at free
  | cycleSent sending =>
      rw [held] at sending
      cases sending
      exact ⟨⟨rfl, by simp, by simp⟩, .inl ⟨_, rfl⟩⟩
  | waited awaiting verdict =>
      exact ⟨⟨rfl, by simp, by simp⟩, .inl ⟨transfer, held⟩⟩
  | returned log ending logged =>
      obtain ⟨other, holds⟩ := ending.holds
      rw [held] at holds
      cases holds
      have silent := silent_of_logs logged
      refine ⟨⟨by simp [silent.1], ?_, ?_⟩,
        .inr ⟨_, List.mem_append_right _ List.mem_cons_self⟩⟩
      · simpa using silent.unasked .reception
      · intro result member
        exact ending.not_handshakeReceived result
          (List.mem_singleton.mp member).symm

/-- As long as the call that has the exchange does not end, nobody else acts. -/
theorem held_run
    {ticket : Ticket} {later : List Event} (orderly : Orderly server)
    (holds : server.HeldBy ticket)
    (ran : run step server later = some (next, effects))
    (unended : ∀ outcome, .finish ticket outcome ∉ effects) :
    Orderly next ∧ next.HeldBy ticket ∧ Undisturbed later effects := by
  revert unended
  refine run_invariant
    (fun state events effects =>
      (∀ outcome, .finish ticket outcome ∉ effects) →
        Orderly state ∧ state.HeldBy ticket ∧ Undisturbed events effects)
    (fun _ => ⟨orderly, holds, rfl, by simp, by simp⟩) ?_ ran
  intro state events earlier event following more kept stepped unended
  have unendedEarlier : ∀ outcome, .finish ticket outcome ∉ earlier :=
    fun outcome member => unended outcome (List.mem_append_left _ member)
  obtain ⟨orderly, holds, undisturbed⟩ := kept unendedEarlier
  have move := move_of_step stepped
  obtain ⟨nothing, stays | ⟨result, ended⟩⟩ := held_move orderly holds move
  · exact ⟨orderly_move orderly move, stays, undisturbed.append nothing⟩
  · exact absurd (List.mem_append_right _ ended) (unended _)

theorem mem_messages
    {party : Party} {message : Message}
    (member : .send party message ∈ effects) : message ∈ messages effects :=
  List.mem_filterMap.mpr ⟨_, member, rfl⟩

theorem not_isNews_stage
    {supported : List Version} {trace : TraceContext}
    {stage : ServerHandshake.Stage} {message : Message}
    (member : message ∈ stageMessages supported trace stage) :
    ¬IsNews message.kind := by
  rcases stage with (_ | ⟨_, capabilities⟩ | _) | _
  · rw [List.mem_singleton.mp member]
    simp [IsNews, ServerHandshake.Sending.message, Message.kind,
      Message.plain, MessageBody.kind]
  · rw [List.mem_singleton.mp member]
    simp only [ServerHandshake.Sending.message]
    split <;>
      simp [IsNews, Message.kind, Message.plain, MessageBody.kind]
  · rw [List.mem_singleton.mp member]
    simp [IsNews, ServerHandshake.Sending.message, Message.kind,
      Message.plain, MessageBody.kind]
  · simp [stageMessages] at member

/-- The call that gets the exchange sends its message first of all. -/
theorem news_of_begin
    {party : Party} {request : Request} {message : Message}
    (begins : (next, effects) = begin server request)
    (member : .send party message ∈ effects) :
    party = .exchange ∧
      (message.kind = .cycle →
        ∃ number, message.cycleId? = some number ∧
          next.holder = some ⟨request.ticket, .sendingCycle number⟩) := by
  obtain ⟨own, rfl, begun⟩ := begun_of_begin begins
  obtain ⟨rfl, rfl⟩ := Effect.send.inj (List.mem_singleton.mp member)
  refine ⟨rfl, ?_⟩
  intro kind
  cases begun with
  | cycle errand => exact ⟨_, by simp [Message.cycleId?], rfl⟩
  | exit errand => simp [Message.kind, MessageBody.kind] at kind

/-- Only a call that got the exchange tells the client about the build. -/
theorem news_of_move
    {party : Party} {message : Message}
    (orderly : Orderly server) (move : Move server event next effects)
    (member : .send party message ∈ effects) (isNews : IsNews message.kind) :
    party = .exchange ∧ server.session.isSome ∧
      (message.kind = .cycle →
        ∃ ticket number, message.cycleId? = some number ∧
          next.holder = some ⟨ticket, .sendingCycle number⟩) := by
  have said := mem_messages member
  cases move with
  | aside uncalled unanswering shown claimed numbered silent stood ended =>
      simp [silent.1] at said
  | listening unserved => simp at said
  | failed log failure logged => simp [(silent_of_logs logged).1] at said
  | entered state shown advance stageSaid wanted unended =>
      rw [stageSaid] at said
      exact absurd isNews (not_isNews_stage said)
  | agreed unset advance => simp at said
  | turnedAway unset => simp at said
  | queued found => simp at said
  | started found free unlined begins =>
      obtain ⟨own, sends⟩ := news_of_begin begins member
      exact ⟨own, by simp [found], fun kind => ⟨_, sends kind⟩⟩
  | turned free lined begins =>
      obtain ⟨own, sends⟩ := news_of_begin begins member
      have found :=
        orderly.lined _ (by rw [lined]; exact List.mem_cons_self)
      exact ⟨own, by simp [found], fun kind => ⟨_, sends kind⟩⟩
  | cycleSent held => simp at said
  | waited held verdict => simp at said
  | returned log ending logged => simp [(silent_of_logs logged).1] at said

/--
Only the call whose turn it is receives, until it returns: it has the exchange
at every step before, and neither that step nor an earlier one sends anything.
-/
def Exclusive (ticket : Ticket) (server : Server) : Prop :=
  ∀ later last reached final quiet more,
    run step server later = some (reached, quiet) →
      (∀ outcome, .finish ticket outcome ∉ quiet) →
        step reached last = some (final, more) →
          reached.HeldBy ticket ∧
            Undisturbed (later ++ [last]) (quiet ++ more)

theorem exclusive_of_heldBy
    {ticket : Ticket} (orderly : Orderly server)
    (holds : server.HeldBy ticket) :
    Exclusive ticket server := by
  intro later last reached final quiet more ran unended stepped
  obtain ⟨stillOrderly, stillHolds, undisturbed⟩ :=
    held_run orderly holds ran unended
  have move := move_of_step stepped
  exact ⟨stillHolds,
    undisturbed.append (held_move stillOrderly stillHolds move).1⟩

/-! ## Along every run -/

/-- What the gates, the traffic and the messages come to along a run. -/
structure Steady (server : Server) (events : List Event)
    (effects : List Effect) : Prop where
  /-- The gates are kept. -/
  orderly : Orderly server
  /-- What is asked for is answered or under way. -/
  balanced :
    ∀ direction,
      asked direction effects =
        answered direction events + server.underWay direction
  /-- The messages are in order. -/
  spoken :
    ∃ opening news,
      Spoken server ((messages effects).map Message.kind) opening news

theorem steady_run
    {options : ServerOptions} {events : List Event}
    (ran : run step (new options) events = some (server, effects)) :
    Steady server events effects := by
  refine run_invariant Steady ⟨orderly_new options, ?_, [], [], ?_⟩ ?_ ran
  · intro direction
    cases direction <;> rfl
  · exact ⟨rfl, .inl rfl, fun _ => rfl, by simp [new], by simp, by simp⟩
  intro state events earlier event following more steady stepped
  have move := move_of_step stepped
  obtain ⟨opening, news, spoken⟩ := steady.spoken
  refine ⟨orderly_move steady.orderly move, ?_, ?_⟩
  · intro direction
    have balance := underWay_move steady.orderly move direction
    have before := steady.balanced direction
    rw [asked_append, answered, List.countP_append, List.countP_singleton,
      ← answered]
    omega
  · rw [messages_append, List.map_append]
    exact spoken_move steady.orderly spoken move

/--
The transport is never asked for two messages, or to send two, at a time; the
messages of a server are those of a handshake and then news, which only calls
send that found the session; and no message disturbs a cycle.
-/
theorem exchange_exclusive
    {options : ServerOptions} {events : List Event}
    (ran : run step (new options) events = some (server, effects)) :
    (∀ direction,
        answered direction events ≤ asked direction effects ∧
          asked direction effects ≤ answered direction events + 1) ∧
      (∃ opening news,
        (messages effects).map Message.kind = opening ++ news ∧
          (opening = [] ∧ news = [] ∨ Opening opening) ∧
          ∀ kind ∈ news, IsNews kind) ∧
      ∀ event next more,
        step server event = some (next, more) →
          ∀ party message, .send party message ∈ more →
            IsNews message.kind →
              party = .exchange ∧ server.session.isSome ∧
                (message.kind = .cycle →
                  ∃ ticket number, message.cycleId? = some number ∧
                    next.holder = some ⟨ticket, .sendingCycle number⟩ ∧
                    Exclusive ticket next) := by
  have steady := steady_run ran
  refine ⟨?_, ?_, ?_⟩
  · intro direction
    have balance := steady.balanced direction
    have least := steady.orderly.underWay_le_one direction
    omega
  · obtain ⟨opening, news, spoken⟩ := steady.spoken
    refine ⟨opening, news, spoken.parts, ?_, spoken.told⟩
    rcases spoken.opened with silent | opened
    · left
      refine ⟨silent, spoken.untold ?_⟩
      cases found : server.session with
      | none => rfl
      | some session =>
          obtain ⟨granted, confirmed, equal⟩ :=
            spoken.agreed (by simp [found])
          simp [silent] at equal
    · exact .inr opened
  · intro event next more stepped party message member isNews
    have move := move_of_step stepped
    obtain ⟨own, found, sends⟩ :=
      news_of_move steady.orderly move member isNews
    refine ⟨own, found, ?_⟩
    intro kind
    obtain ⟨ticket, number, numbered, held⟩ := sends kind
    exact ⟨ticket, number, numbered, held,
      exclusive_of_heldBy (orderly_move steady.orderly move) ⟨_, held⟩⟩

/-- A server accepts a client of version 0 and tells it about a change. -/
def legacyVisit : List Event :=
  [.serve .none (.ok ()), .accepted (.ok ()), .handshakeSent (.ok ()),
    .handshakeReceived (.ok (Message.plain (.negotiateResponse .legacy))),
    .call (.cycle .none .runfiles KeyMap.empty), .callSent (.ok ())]

theorem exchange_exclusive_legacyVisit :
    ∃ server effects,
      run step (new ⟨"build.sock", [.legacy]⟩) legacyVisit =
          some (server, effects) ∧
        (messages effects).map Message.kind = [.negotiate, .cycle] ∧
        asked .inward effects ≤ answered .inward legacyVisit + 1 := by
  obtain ⟨server, effects, ran, kinds⟩ :
      ∃ server effects,
        run step (new ⟨"build.sock", [.legacy]⟩) legacyVisit =
            some (server, effects) ∧
          (messages effects).map Message.kind = [.negotiate, .cycle] :=
    ⟨_, _, rfl, rfl⟩
  exact ⟨server, effects, ran, kinds,
    ((exchange_exclusive ran).1 .inward).2⟩

end Server

end BuildWatch
