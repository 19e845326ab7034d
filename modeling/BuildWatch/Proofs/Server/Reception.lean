import BuildWatch.Proofs.Server.Talk

/-!
# How the reception of a client ends

A server cannot choose its client.  Whatever the transport makes of what the
server sends, and whatever it hands over, there is a session exactly behind
what the version asks for, and the session says what the client said.  Any
other end leaves a server that tells nobody anything any more, and what it
has said by then is the part of the handshake up to the step that failed.
-/

namespace BuildWatch

/-- What sending came to. -/
abbrev Delivery := Except TransportError Unit

/-- The span in which a client is received. -/
@[simp]
def Reception.trace? : Reception → Option TraceContext
  | .accepting trace => some trace
  | .shaking trace _ => some trace
  | _ => none

namespace ServerHandshake

/-- How many messages are sent when a stage is entered. -/
def Stage.delivered : Stage → Nat
  | .sending .offer => 0
  | .sending (.grant _ _) => 1
  | .sending (.confirm _ _ _) => 2
  | .receiving .choice => 1
  | .receiving (.request _) => 1
  | .receiving (.subscription _ _) => 2

/-- What a handshake that comes to a session sends and hears. -/
structure Concluded (supported : List Version) (sent : List Delivery)
    (heard : List Receipt) (session : Session) : Prop where
  /-- Nothing that was sent failed. -/
  sent : sent = List.replicate session.version.rounds (.ok ())
  length : heard.length = session.version.rounds
  chosen : Chosen supported heard session.version
  capable :
    session.capabilities.isSome = decide (0 < session.version.number)
  requested :
    ∀ capabilities, session.capabilities = some capabilities →
      Requested heard capabilities
  subscribes :
    session.watchType.isSome = decide (2 ≤ session.version.number)
  subscribed :
    ∀ watchType, session.watchType = some watchType →
      Subscribed heard watchType

/-- The messages of the handshake that comes to a session. -/
def script (supported : List Version) (trace : TraceContext)
    (session : Session) : List Message :=
  let capabilities := session.capabilities.getD Capabilities.default
  if 2 ≤ session.version.number then
    [offer supported, grant trace capabilities, confirmation]
  else if 0 < session.version.number then
    [offer supported, grant trace capabilities]
  else [offer supported]

theorem opening_eq_script
    (supported : List Version) (trace : TraceContext) (session : Session) :
    opening supported trace session.version
        (session.capabilities.getD Capabilities.default) =
      script supported trace session := by
  simp [opening, script, Version.hasSubscription, Version.hasCapabilities]

/--
What a reception without a session sent, heard and said: one case for each
step that can fail.
-/
inductive Broken (supported : List Version) (trace : TraceContext) :
    List Delivery → List Receipt → List Message → Prop where
  /-- No client came. -/
  | unaccepted : Broken supported trace [] [] []
  | unoffered (error : TransportError) :
      Broken supported trace [.error error] [] [offer supported]
  | unchosen {receipt : Receipt}
      (rejected : ∀ version, ¬Chosen supported [receipt] version) :
      Broken supported trace [.ok ()] [receipt] [offer supported]
  | unrequested {version : Version} {heard : List Receipt}
      {receipt : Receipt}
      (length : heard.length = 1)
      (chosen : Chosen supported heard version)
      (capable : 0 < version.number)
      (rejected :
        ∀ capabilities, ¬Requested (heard ++ [receipt]) capabilities) :
      Broken supported trace [.ok ()] (heard ++ [receipt])
        [offer supported]
  | ungranted {version : Version} {capabilities : Capabilities}
      {heard : List Receipt}
      (length : heard.length = 2)
      (chosen : Chosen supported heard version)
      (capable : 0 < version.number)
      (requested : Requested heard capabilities)
      (error : TransportError) :
      Broken supported trace [.ok (), .error error] heard
        [offer supported, grant trace capabilities]
  | unsubscribed {version : Version} {capabilities : Capabilities}
      {heard : List Receipt} {receipt : Receipt}
      (length : heard.length = 2)
      (chosen : Chosen supported heard version)
      (subscribes : 2 ≤ version.number)
      (requested : Requested heard capabilities)
      (rejected : ∀ watchType, ¬Subscribed (heard ++ [receipt]) watchType) :
      Broken supported trace [.ok (), .ok ()] (heard ++ [receipt])
        [offer supported, grant trace capabilities]
  | unconfirmed {version : Version} {capabilities : Capabilities}
      {watchType : String} {heard : List Receipt}
      (length : heard.length = 3)
      (chosen : Chosen supported heard version)
      (subscribes : 2 ≤ version.number)
      (requested : Requested heard capabilities)
      (subscribed : Subscribed heard watchType)
      (error : TransportError) :
      Broken supported trace [.ok (), .ok (), .error error] heard
        [offer supported, grant trace capabilities,
          confirmation]

/-! ## At most one session -/

section Sessions

variable {supported : List Version} {trace : TraceContext}
  {sent : List Delivery} {heard : List Receipt} {said : List Message}

theorem Chosen.unique
    {version other : Version} (chosen : Chosen supported heard version)
    (again : Chosen supported heard other) : version = other := by
  obtain ⟨message, found, body, _⟩ := chosen
  obtain ⟨same, sameFound, sameBody, _⟩ := again
  rw [found] at sameFound
  cases sameFound
  rw [body] at sameBody
  exact MessageBody.negotiateResponse.inj sameBody

theorem Requested.unique
    {capabilities other : Capabilities}
    (requested : Requested heard capabilities)
    (again : Requested heard other) : capabilities = other := by
  obtain ⟨message, value, found, body, accepted⟩ := requested
  obtain ⟨same, sameValue, sameFound, sameBody, sameAccepted⟩ := again
  rw [found] at sameFound
  cases sameFound
  rw [body] at sameBody
  cases sameBody
  rw [accepted] at sameAccepted
  exact Except.ok.inj sameAccepted

theorem Subscribed.unique
    {watchType other : String} (subscribed : Subscribed heard watchType)
    (again : Subscribed heard other) : watchType = other := by
  obtain ⟨message, found, body⟩ := subscribed
  obtain ⟨same, sameFound, sameBody⟩ := again
  rw [found] at sameFound
  cases sameFound
  rw [body] at sameBody
  exact MessageBody.subscribe.inj sameBody

/-- Two options are equal if they are filled alike and with the same. -/
theorem eq_of_isSome_eq
    {α : Type} {first second : Option α}
    (alike : first.isSome = second.isSome)
    (same :
      ∀ left right, first = some left → second = some right →
        left = right) : first = second := by
  cases first with
  | none =>
      cases second with
      | none => rfl
      | some right => simp at alike
  | some left =>
      cases second with
      | none => simp at alike
      | some right => rw [same left right rfl rfl]

/-- What was sent and heard leaves no choice of the session. -/
theorem Concluded.unique
    {session other : Session}
    (concluded : Concluded supported sent heard session)
    (again : Concluded supported sent heard other) : session = other := by
  have version : session.version = other.version :=
    concluded.chosen.unique again.chosen
  have capabilities : session.capabilities = other.capabilities := by
    apply eq_of_isSome_eq
    · rw [concluded.capable, again.capable, version]
    · intro left right found other
      exact (concluded.requested left found).unique
        (again.requested right other)
  have watchType : session.watchType = other.watchType := by
    apply eq_of_isSome_eq
    · rw [concluded.subscribes, again.subscribes, version]
    · intro left right found other
      exact (concluded.subscribed left found).unique
        (again.subscribed right other)
  cases session
  cases other
  simp_all

theorem Concluded.length_eq
    {session : Session}
    (concluded : Concluded supported sent heard session) :
    sent.length = heard.length ∧ 0 < heard.length := by
  have positive := session.version.rounds_pos
  constructor
  · rw [concluded.sent, concluded.length, List.length_replicate]
  · rwa [concluded.length]

theorem Concluded.not_mem
    {session : Session} {error : TransportError}
    (concluded : Concluded supported sent heard session) :
    .error error ∉ sent := by
  rw [concluded.sent]
  simp [List.mem_replicate]

/-- The session of an agreement says what was agreed on. -/
theorem Settlement.concluded
    {session : Session}
    (settlement : Settlement supported trace heard said session) :
    Concluded supported
      (List.replicate session.version.rounds (.ok ())) heard session where
  sent := rfl
  length := settlement.length_heard
  chosen := settlement.settled.chosen
  capable := by
    cases settlement with
    | legacy length chosen incapable => exact incapable.symm
    | capable length chosen capable silent requested => exact capable.symm
    | subscribed length chosen subscribes requested subscribed =>
        exact (Version.hasCapabilities_of_hasSubscription subscribes).symm
  requested := by
    cases settlement with
    | legacy length chosen incapable => simp
    | capable length chosen capable silent requested => simpa using requested
    | subscribed length chosen subscribes requested subscribed =>
        simpa using requested
  subscribes := by
    cases settlement with
    | legacy length chosen incapable =>
        exact (Version.hasSubscription_eq_false incapable).symm
    | capable length chosen capable silent requested => exact silent.symm
    | subscribed length chosen subscribes requested subscribed =>
        exact subscribes.symm
  subscribed := by
    cases settlement with
    | legacy length chosen incapable => simp
    | capable length chosen capable silent requested => simp
    | subscribed length chosen subscribes requested subscribed =>
        simpa using subscribed

/-- A step that failed is in the way of every session. -/
theorem Broken.not_concluded
    {session : Session}
    (broken : Broken supported trace sent heard said) :
    ¬Concluded supported sent heard session := by
  intro concluded
  obtain ⟨even, positive⟩ := concluded.length_eq
  -- Apart from the first choice the numbers tell, or a delivery that failed.
  cases broken with
  | unaccepted => simp at positive
  | unoffered error => simp at positive
  | unchosen rejected => exact rejected _ concluded.chosen
  | unrequested length chosen capable rejected => simp [length] at even
  | ungranted length chosen capable requested error =>
      exact absurd (by simp) (@Concluded.not_mem _ _ _ _ error concluded)
  | unsubscribed length chosen subscribes requested rejected =>
      simp [length] at even
  | unconfirmed length chosen subscribes requested subscribed error =>
      exact absurd (by simp) (@Concluded.not_mem _ _ _ _ error concluded)

/-- A handshake that is under way has not come to a session yet. -/
theorem Standing.not_concluded
    {stage : Stage} {session : Session}
    (standing : Standing supported trace stage heard said) :
    ¬Concluded supported (List.replicate stage.delivered (.ok ())) heard
        session := by
  intro concluded
  obtain ⟨even, positive⟩ := concluded.length_eq
  have rounds := concluded.length
  cases standing with
  | offering => simp at positive
  | offered => simp at positive
  | awaitingRequest length chosen capable =>
      rw [concluded.chosen.unique chosen, length, Version.rounds_eq]
        at rounds
      split at rounds
      · omega
      · simp at rounds
  | granting length chosen capable requested =>
      simp [length, Stage.delivered] at even
  | awaitingSubscription length chosen subscribes requested =>
      rw [concluded.chosen.unique chosen, length, Version.rounds_eq,
        if_pos subscribes] at rounds
      omega
  | confirming length chosen subscribes requested subscribed =>
      simp [length, Stage.delivered] at even

end Sessions

end ServerHandshake

namespace Server

open ServerHandshake

/-! ## What a step adds -/

/-- What an event of the handshake sent came to. -/
@[simp]
def Event.delivery? : Event → Option Delivery
  | .handshakeSent result => some result
  | _ => none

/-- What the messages of the handshake came to. -/
def deliveries (events : List Event) : List Delivery :=
  events.filterMap Event.delivery?

/-- What was received in the handshake. -/
def receipts (events : List Event) : List Receipt :=
  events.filterMap Event.shake?

theorem deliveries_snoc (events : List Event) (event : Event) :
    deliveries (events ++ [event]) =
      deliveries events ++ event.delivery?.toList :=
  filterMap_snoc Event.delivery? events event

theorem receipts_snoc (events : List Event) (event : Event) :
    receipts (events ++ [event]) =
      receipts events ++ event.shake?.toList :=
  filterMap_snoc Event.shake? events event

variable {server next : Server} {event : Event} {effects : List Effect}
  {sent : List Delivery} {heard : List Receipt} {said : List Message}
  {trace : TraceContext}

/-- What a server has sent, heard and said, by how far its reception is. -/
structure Account (server : Server) (sent : List Delivery)
    (heard : List Receipt) (said : List Message) : Prop where
  orderly : Orderly server
  talk : Talk server heard said
  unsent :
    (server.reception = .absent ∨
        ∃ trace, server.reception = .accepting trace) →
      sent = []
  sending :
    ∀ trace stage, server.reception = .shaking trace stage →
      sent = List.replicate stage.delivered (.ok ())
  concluded :
    ∀ session, server.session = some session →
      Concluded server.options.supported sent heard session
  broken :
    server.reception = .finished → server.session = none →
      ∃ trace, Broken server.options.supported trace sent heard said
  shown :
    ∀ version, server.state = .connected version →
      ∃ session, server.session = some session ∧ session.version = version

theorem account_new (options : ServerOptions) :
    Account (new options) [] [] [] where
  orderly := orderly_new options
  talk := talk_new options
  unsent := fun _ => rfl
  sending := by simp [new]
  concluded := by simp [new]
  broken := by simp [new]
  shown := by simp [new]

/-- An advance to a stage has sent what leads to it. -/
theorem Account.sending_of_advance
    {stage : Stage} (account : Account server sent heard said)
    (advance : Advance server event trace (.next stage)) :
    sent ++ event.delivery?.toList =
      List.replicate stage.delivered (.ok ()) := by
  cases advance with
  | accepted waiting =>
      rw [account.unsent (.inr ⟨trace, waiting⟩)]
      rfl
  | @sent _ sending _ waiting follows =>
      rw [account.sending _ _ waiting]
      cases sending with
      | offer =>
          cases follows
          rfl
      | grant version capabilities =>
          obtain ⟨_, rfl⟩ := subscribe_eq_next_iff.mp follows
          rfl
      | confirm version capabilities watchType => cases follows
  | @received _ receiving message _ waiting follows =>
      rw [account.sending _ _ waiting]
      cases receiving with
      | choice =>
          obtain ⟨version, _, _, leads⟩ := received_choice_iff.mp follows
          obtain ⟨_, rfl⟩ := negotiate_eq_next_iff.mp leads.symm
          rfl
      | request version =>
          obtain ⟨_, _, _, _, leads⟩ := received_request_iff.mp follows
          cases leads
          rfl
      | subscription version capabilities =>
          obtain ⟨_, _, leads⟩ := received_subscription_iff.mp follows
          cases leads
          rfl

/-- An agreement has sent all that was said. -/
theorem Account.sent_of_advance
    {session : Session} (account : Account server sent heard said)
    (advance : Advance server event trace (.agreed session)) :
    sent ++ event.delivery?.toList =
      List.replicate said.length (.ok ()) := by
  cases advance with
  | sent waiting follows =>
      rw [account.sending _ _ waiting]
      cases account.talk.standing _ _ waiting with
      | offering => cases follows
      | granting length chosen capable requested => rfl
      | confirming length chosen subscribes requested subscribed => rfl
  | received waiting follows =>
      rw [account.sending _ _ waiting]
      cases account.talk.standing _ _ waiting <;> rfl

/-- An agreement is the end of the whole script. -/
theorem Account.concluded_of_advance
    {session : Session} (account : Account server sent heard said)
    (advance : Advance server event trace (.agreed session)) :
    Concluded server.options.supported (sent ++ event.delivery?.toList)
        (heard ++ event.shake?.toList) session ∧
      said = script server.options.supported trace session := by
  have settlement := settlement_of_advance account.talk advance
  have spoken := settlement.said_eq
  have all : said.length = session.version.rounds := by
    rw [spoken, length_opening]
  refine ⟨?_, spoken.trans (opening_eq_script ..)⟩
  rw [account.sent_of_advance advance, all]
  exact settlement.concluded

/-- A receipt that a stage cannot go on with. -/
def Rejects (supported : List Version) (stage : Receiving)
    (receipt : Receipt) : Prop :=
  ∀ message progress, receipt = .ok message →
    stage.received supported message ≠ .ok progress

/-- What is received at last breaks the handshake if it is rejected. -/
theorem Account.broken_of_receipt
    {stage : Receiving} {receipt : Receipt}
    (account : Account server sent heard said)
    (waiting : server.reception = .shaking trace (.receiving stage))
    (rejected : Rejects server.options.supported stage receipt) :
    Broken server.options.supported trace sent (heard ++ [receipt]) said := by
  have standing := account.talk.standing _ _ waiting
  rw [account.sending _ _ waiting]
  cases standing with
  | offered =>
      refine .unchosen ?_
      rintro version ⟨message, found, body, member⟩
      exact rejected message _ (Option.some.inj found)
        (received_choice_iff.mpr ⟨version, member, body, rfl⟩)
  | awaitingRequest length chosen capable =>
      refine .unrequested length chosen (of_decide_eq_true capable) ?_
      rintro capabilities ⟨message, requested, found, body, accepted⟩
      rw [← length, List.getElem?_concat_length] at found
      exact rejected message _ (Option.some.inj found)
        (received_request_iff.mpr
          ⟨requested, capabilities, body, accepted, rfl⟩)
  | awaitingSubscription length chosen subscribes requested =>
      refine .unsubscribed length chosen (of_decide_eq_true subscribes)
        requested ?_
      rintro watchType ⟨message, found, body⟩
      rw [← length, List.getElem?_concat_length] at found
      exact rejected message _ (Option.some.inj found)
        (received_subscription_iff.mpr ⟨watchType, body, rfl⟩)

/-- A failure is the step at which the script breaks off. -/
theorem Account.broken_of_failure
    (account : Account server sent heard said)
    (received : server.reception.trace? = some trace)
    (failure : Failure server event) :
    Broken server.options.supported trace (sent ++ event.delivery?.toList)
      (heard ++ event.shake?.toList) said := by
  have unaccepted {own : TraceContext}
      (waiting : server.reception = .accepting own) :
      Broken server.options.supported trace (sent ++ [])
        (heard ++ []) said := by
    obtain ⟨rfl, rfl⟩ := account.talk.unshaken (.inr ⟨own, waiting⟩)
    rw [account.unsent (.inr ⟨own, waiting⟩)]
    exact .unaccepted
  cases failure with
  | abandoned waiting => exact unaccepted waiting
  | unaccepted waiting => exact unaccepted waiting
  | @unsent own stage error waiting =>
      have standing := account.talk.standing _ _ waiting
      rw [account.sending _ _ waiting]
      simp only [waiting, Reception.trace?, Option.some.injEq] at received
      subst received
      simp only [Event.shake?, Option.toList_none, List.append_nil]
      cases standing with
      | offering => exact .unoffered error
      | granting length chosen capable requested =>
          exact .ungranted length chosen (of_decide_eq_true capable)
            requested error
      | confirming length chosen subscribes requested subscribed =>
          exact .unconfirmed length chosen (of_decide_eq_true subscribes)
            requested subscribed error
  | unreceived waiting =>
      simp only [waiting, Reception.trace?, Option.some.injEq] at received
      subst received
      simp only [Event.delivery?, Option.toList_none, List.append_nil]
      refine account.broken_of_receipt waiting ?_
      intro message progress same
      cases same
  | refused waiting refusal =>
      simp only [waiting, Reception.trace?, Option.some.injEq] at received
      subst received
      simp only [Event.delivery?, Option.toList_none, List.append_nil]
      refine account.broken_of_receipt waiting ?_
      intro message progress same
      cases same
      simp [refusal]
  | agreedBefore again advance =>
      simp [account.orderly.session_eq_none advance.active] at again

/-! ## Along a run -/

theorem Reception.trace?_isSome {reception : Reception}
    (active : reception.active = true) :
    ∃ trace, reception.trace? = some trace := by
  cases reception with
  | absent => simp [Reception.active] at active
  | accepting trace => exact ⟨trace, rfl⟩
  | shaking trace stage => exact ⟨trace, rfl⟩
  | finished => simp [Reception.active] at active

/-- A step that leaves the reception and the session alone. -/
theorem Account.keep
    (account : Account server sent heard said)
    (orderly : Orderly next)
    (talk :
      Talk next (heard ++ event.shake?.toList) (said ++ messages effects))
    (unsent : event.delivery? = none) (deaf : event.shake? = none)
    (silent : server.session = none → messages effects = [])
    (sameOptions : next.options = server.options)
    (sameReception : next.reception = server.reception)
    (sameSession : next.session = server.session)
    (shown : next.state = server.state ∨ next.state = .closed) :
    Account next (sent ++ event.delivery?.toList)
      (heard ++ event.shake?.toList) (said ++ messages effects) := by
  rw [deaf, Option.toList_none, List.append_nil] at talk ⊢
  rw [unsent, Option.toList_none, List.append_nil]
  refine ⟨orderly, talk, ?_, ?_, ?_, ?_, ?_⟩
  · rw [sameReception]
    exact account.unsent
  · rw [sameReception]
    exact account.sending
  · rw [sameOptions, sameSession]
    exact account.concluded
  · rw [sameOptions, sameReception, sameSession]
    intro finished unset
    rw [silent unset, List.append_nil]
    exact account.broken finished unset
  · intro version connected
    rw [sameSession]
    rcases shown with same | closed
    · exact account.shown version (same ▸ connected)
    · rw [closed] at connected
      cases connected

theorem account_move
    (account : Account server sent heard said)
    (move : Move server event next effects) :
    Account next (sent ++ event.delivery?.toList)
      (heard ++ event.shake?.toList) (said ++ messages effects) := by
  have orderly := orderly_move account.orderly move
  have talk := talk_move account.orderly account.talk move
  cases move with
  | aside uncalled unanswering shown claimed numbered silent stood ended =>
      have unsent : event.delivery? = none := by
        cases event <;> simp_all
      have deaf : event.shake? = none := by
        cases event <;> simp_all
      exact account.keep orderly talk unsent deaf (fun _ => silent.1) rfl rfl
        rfl shown
  | listening unserved =>
      have absent : server.reception = .absent :=
        account.orderly.unserved unserved
      refine ⟨orderly, talk, ?_, by simp, ?_, by simp, by simp⟩
      · intro _
        rw [account.unsent (.inl absent)]
        rfl
      · simpa using account.concluded
  | failed log failure logged =>
      obtain ⟨trace, received⟩ := Reception.trace?_isSome failure.active
      have broken := account.broken_of_failure received failure
      have unset := account.orderly.session_eq_none failure.active
      have silent : messages (log ++ [.publish .closed]) = [] := by
        simp [(silent_of_logs logged).1]
      refine ⟨orderly, talk, by simp, by simp, by simp [unset], ?_, by simp⟩
      intro _ _
      rw [silent, List.append_nil]
      exact ⟨trace, broken⟩
  | @entered _ trace stage _ state shown advance spoken wanted unended =>
      have sending := account.sending_of_advance advance
      have unset := account.orderly.session_eq_none advance.active
      refine ⟨orderly, talk, by simp, ?_, by simp [unset], by simp, ?_⟩
      · intro other reached same
        cases same
        exact sending
      · intro version connected
        rcases shown with same | hidden
        · exact account.shown version (same ▸ connected)
        · simp only at connected
          simp [connected, ConnectionState.version?] at hidden
  | agreed unset advance =>
      have concluded := (account.concluded_of_advance advance).1
      refine ⟨orderly, talk, by simp, by simp, ?_, by simp, ?_⟩
      · intro session same
        cases same
        exact concluded
      · intro version connected
        cases connected
        exact ⟨_, rfl, rfl⟩
  | turnedAway unset =>
      exact account.keep orderly talk rfl rfl (fun _ => rfl) rfl rfl rfl
        (.inl rfl)
  | queued found =>
      exact account.keep orderly talk rfl rfl (fun _ => rfl) rfl rfl rfl
        (.inl rfl)
  | started found free unlined begins =>
      obtain ⟨message, rfl, begun⟩ := begun_of_begin begins
      have silent : server.session = none →
          messages [.send .exchange message] = [] := by
        simp [found]
      cases begun <;>
        exact account.keep orderly talk rfl rfl silent rfl rfl rfl (.inl rfl)
  | turned free lined begins =>
      obtain ⟨message, rfl, begun⟩ := begun_of_begin begins
      have found :=
        account.orderly.lined _ (by rw [lined]; exact List.mem_cons_self)
      have silent : server.session = none →
          messages [.send .exchange message] = [] := by
        simp [found]
      cases begun <;>
        exact account.keep orderly talk rfl rfl silent rfl rfl rfl (.inl rfl)
  | cycleSent held =>
      exact account.keep orderly talk rfl rfl (fun _ => rfl) rfl rfl rfl
        (.inl rfl)
  | waited held verdict =>
      exact account.keep orderly talk rfl rfl (fun _ => rfl) rfl rfl rfl
        (.inl rfl)
  | returned log ending logged =>
      have unsent : event.delivery? = none := by
        cases ending <;> rfl
      have deaf : event.shake? = none := by
        cases ending <;> rfl
      refine account.keep orderly talk unsent deaf ?_ rfl rfl rfl (.inl rfl)
      simp [(silent_of_logs logged).1]

theorem account_run
    {options : ServerOptions} {events : List Event}
    (ran : run step (new options) events = some (server, effects)) :
    server.options = options ∧
      Account server (deliveries events) (receipts events)
        (messages effects) := by
  refine run_invariant
    (fun server events effects =>
      server.options = options ∧
        Account server (deliveries events) (receipts events)
          (messages effects))
    ⟨rfl, account_new options⟩ ?_ ran
  intro state events earlier event following more kept stepped
  obtain ⟨same, account⟩ := kept
  have move := move_of_step stepped
  rw [deliveries_snoc, receipts_snoc, messages_append]
  exact ⟨(options_move move).trans same, account_move account move⟩

/-- There is a session exactly behind a handshake that came to it. -/
theorem Account.session_eq_some_iff
    {session : Session} (account : Account server sent heard said) :
    server.session = some session ↔
      Concluded server.options.supported sent heard session := by
  refine ⟨account.concluded session, ?_⟩
  intro concluded
  obtain ⟨even, positive⟩ := concluded.length_eq
  cases found : server.session with
  | some other =>
      rw [(account.concluded other found).unique concluded]
  | none =>
      exfalso
      cases reached : server.reception with
      | absent =>
          obtain ⟨rfl, _⟩ := account.talk.unshaken (.inl reached)
          simp at positive
      | accepting trace =>
          obtain ⟨rfl, _⟩ := account.talk.unshaken (.inr ⟨trace, reached⟩)
          simp at positive
      | shaking trace stage =>
          rw [account.sending _ _ reached] at concluded
          exact (account.talk.standing _ _ reached).not_concluded concluded
      | finished =>
          obtain ⟨trace, broken⟩ := account.broken reached found
          exact broken.not_concluded concluded

/-! ## What a session and its absence come to -/

/-- What a move means for the reception of the client. -/
inductive Bearing (server : Server) : Event → Server → Prop where
  /-- The reception and the session are left alone. -/
  | apart {event : Event} {next : Server}
      (reception : next.reception = server.reception)
      (session : next.session = server.session)
      (state : next.state = server.state ∨ next.state = .closed) :
      Bearing server event next
  | listening {trace : TraceContext} {next : Server}
      (unserved : server.serving = false)
      (reception : next.reception = .accepting trace)
      (session : next.session = server.session) :
      Bearing server (.serve trace (.ok ())) next
  | failed {event : Event} {next : Server}
      (failure : Failure server event)
      (reception : next.reception = .finished)
      (session : next.session = server.session)
      (state : next.state = .closed) :
      Bearing server event next
  | entered {event : Event} {trace : TraceContext} {stage : Stage}
      {next : Server}
      (advance : Advance server event trace (.next stage))
      (reception : next.reception = .shaking trace stage)
      (session : next.session = server.session) :
      Bearing server event next
  | agreed {event : Event} {trace : TraceContext} {session : Session}
      {next : Server}
      (unset : server.session = none)
      (advance : Advance server event trace (.agreed session))
      (reception : next.reception = .finished)
      (found : next.session = some session) :
      Bearing server event next

theorem bearing_of_move (move : Move server event next effects) :
    Bearing server event next := by
  cases move with
  | aside uncalled unanswering shown claimed numbered silent stood ended =>
      exact .apart rfl rfl shown
  | listening unserved => exact .listening unserved rfl rfl
  | failed log failure logged => exact .failed failure rfl rfl rfl
  | entered state shown advance said asked unended =>
      exact .entered advance rfl rfl
  | agreed unset advance => exact .agreed unset advance rfl rfl
  | started found free unlined begins =>
      obtain ⟨message, rfl, begun⟩ := begun_of_begin begins
      cases begun <;> exact .apart rfl rfl (.inl rfl)
  | turned free lined begins =>
      obtain ⟨message, rfl, begun⟩ := begun_of_begin begins
      cases begun <;> exact .apart rfl rfl (.inl rfl)
  | _ => exact .apart rfl rfl (.inl rfl)

/-- A session is never replaced. -/
theorem session_eq_some_of_move
    {session : Session} (found : server.session = some session)
    (move : Move server event next effects) :
    next.session = some session := by
  cases bearing_of_move move with
  | apart reception same state => exact same.trans found
  | listening unserved reception same => exact same.trans found
  | failed failure reception same state => exact same.trans found
  | entered advance reception same => exact same.trans found
  | agreed unset advance reception other => simp [found] at unset

theorem session_eq_some_of_run
    {session : Session} {later : List Event}
    (found : server.session = some session)
    (ran : run step server later = some (next, effects)) :
    next.session = some session := by
  refine run_invariant (fun state _ _ => state.session = some session) found
    ?_ ran
  intro state events earlier event following more kept stepped
  exact session_eq_some_of_move kept (move_of_step stepped)

/-- Every call about the build is turned away, and nothing is sent. -/
def Refuses (server : Server) : Prop :=
  ∀ errand,
    step server (.call errand) =
      some ({ server with nextTicket := server.nextTicket + 1 },
        [.finish server.nextTicket (.result (.error .notConnected))])

theorem refuses_of_session_eq_none
    (unset : server.session = none) : Refuses server := by
  intro errand
  simp [step, start, unset]

/-- A server that gets no session any more and tells nobody anything. -/
def Barren (server : Server) : Prop :=
  ∀ later final effects,
    run step server later = some (final, effects) →
      final.session = none ∧ messages effects = [] ∧ Refuses final

/-- Nobody is asked to serve again by being asked once more. -/
theorem serving_of_move
    (served : server.serving = true)
    (move : Move server event next effects) : next.serving = true := by
  cases move with
  | aside uncalled unanswering shown claimed numbered silent stood ended =>
      exact claimed served
  | listening unserved => rfl
  | started found free unlined begins =>
      obtain ⟨message, rfl, begun⟩ := begun_of_begin begins
      cases begun <;> exact served
  | turned free lined begins =>
      obtain ⟨message, rfl, begun⟩ := begun_of_begin begins
      cases begun <;> exact served
  | _ => exact served

/-- Without a reception no move sets a session or sends anything. -/
theorem barren_move
    (orderly : Orderly server) (served : server.serving = true)
    (inactive : server.reception.active = false)
    (unset : server.session = none)
    (move : Move server event next effects) :
    next.reception = server.reception ∧ next.session = none ∧
      messages effects = [] := by
  cases move with
  | aside uncalled unanswering shown claimed numbered silent stood ended =>
      exact ⟨rfl, unset, silent.1⟩
  | listening unserved => simp [served] at unserved
  | failed log failure logged =>
      simp [failure.active] at inactive
  | entered state shown advance said asked unended =>
      simp [advance.active] at inactive
  | agreed _ advance => simp [advance.active] at inactive
  | turnedAway _ => exact ⟨rfl, unset, rfl⟩
  | queued found => simp [unset] at found
  | started found free unlined begins => simp [unset] at found
  | turned free lined begins =>
      simp [orderly.waiting_eq_nil unset] at lined
  | cycleSent held => exact ⟨rfl, unset, rfl⟩
  | waited held verdict => exact ⟨rfl, unset, rfl⟩
  | returned log ending logged =>
      exact ⟨rfl, unset, by simp [(silent_of_logs logged).1]⟩

/-- A server whose reception is not under way, and not to come either. -/
structure Unattended (server : Server) : Prop where
  orderly : Orderly server
  served : server.serving = true
  inactive : server.reception.active = false
  unset : server.session = none

theorem unattended_of_finished
    (orderly : Orderly server) (finished : server.reception = .finished)
    (unset : server.session = none) : Unattended server where
  orderly := orderly
  served := orderly.serving_of_ne_absent (by simp [finished])
  inactive := by
    rw [finished]
    rfl
  unset := unset

/-- Nobody is received any more by a server that receives nobody. -/
theorem Unattended.of_run
    {later : List Event} (unattended : Unattended server)
    (ran : run step server later = some (next, effects)) :
    Unattended next ∧ next.reception = server.reception ∧
      messages effects = [] := by
  refine run_invariant
    (fun state _ effects =>
      Unattended state ∧ state.reception = server.reception ∧
        messages effects = [])
    ⟨unattended, rfl, rfl⟩ ?_ ran
  rintro state events earlier event following more
    ⟨⟨orderly, served, inactive, unset⟩, same, silent⟩ stepped
  have move := move_of_step stepped
  obtain ⟨still, never, nothing⟩ :=
    barren_move orderly served inactive unset move
  refine ⟨⟨orderly_move orderly move, serving_of_move served move, ?_, never⟩,
    still.trans same, by simp [silent, nothing]⟩
  rw [still, inactive]

theorem Unattended.barren (unattended : Unattended server) :
    Barren server := by
  intro later final effects ran
  obtain ⟨still, _, silent⟩ := unattended.of_run ran
  exact ⟨still.unset, silent, refuses_of_session_eq_none still.unset⟩

theorem barren_of_finished
    (orderly : Orderly server) (finished : server.reception = .finished)
    (unset : server.session = none) : Barren server :=
  (unattended_of_finished orderly finished unset).barren

/-- What the reception of a client ends with, by what it sent and heard. -/
inductive Ending (supported : List Version) (trace : TraceContext)
    (sent : List Delivery) (heard : List Receipt) (said : List Message)
    (server : Server) : Prop where
  | concluded (session : Session)
      (concluded : Concluded supported sent heard session)
      (found : server.session = some session)
      (shown : server.state = .connected session.version)
      (spoken : said = script supported trace session)
  | broken
      (broken : Broken supported trace sent heard said)
      (unset : server.session = none)
      (shown : server.state = .closed)

/-- The step that ends the reception decides what becomes of the server. -/
theorem Account.ending_of_move
    (account : Account server sent heard said)
    (received : server.reception.trace? = some trace)
    (move : Move server event next effects)
    (finished : next.reception = .finished) :
    Ending server.options.supported trace (sent ++ event.delivery?.toList)
      (heard ++ event.shake?.toList) (said ++ messages effects) next := by
  have busy : server.reception ≠ .finished := by
    intro ended
    simp [ended] at received
  cases move with
  | failed log failure logged =>
      have unset := account.orderly.session_eq_none failure.active
      refine .broken ?_ unset rfl
      rw [messages_append, (silent_of_logs logged).1, messages_publish,
        messages_nil, List.append_nil, List.append_nil]
      exact account.broken_of_failure received failure
  | @agreed _ own session unset advance =>
      have same : own = trace := by
        cases advance with
        | sent waiting follows => simpa [waiting] using received
        | received waiting follows => simpa [waiting] using received
      subst same
      obtain ⟨concluded, spoken⟩ := account.concluded_of_advance advance
      refine .concluded session concluded rfl rfl ?_
      rw [messages_publish, messages_nil, List.append_nil, spoken]
  | listening unserved => simp at finished
  | entered state shown advance said asked unended => simp at finished
  | started found free unlined begins =>
      obtain ⟨message, rfl, begun⟩ := begun_of_begin begins
      cases begun <;> exact absurd finished busy
  | turned free lined begins =>
      obtain ⟨message, rfl, begun⟩ := begun_of_begin begins
      cases begun <;> exact absurd finished busy
  | _ => exact absurd finished busy

/-- Whatever the transport answers, the reception goes on with it. -/
structure Responsive (server : Server) : Prop where
  accepted :
    ∀ trace result, server.reception = .accepting trace →
      server.cancelled = false → (step server (.accepted result)).isSome
  sent :
    ∀ trace stage result, server.reception = .shaking trace (.sending stage) →
      (step server (.handshakeSent result)).isSome
  received :
    ∀ trace stage result,
      server.reception = .shaking trace (.receiving stage) →
        (step server (.handshakeReceived result)).isSome

theorem responsive (server : Server) : Responsive server where
  accepted := by
    intro trace result waiting live
    simp [step, waiting, live]
  sent := by
    intro trace stage result waiting
    cases result <;> simp [step, waiting]
  received := by
    intro trace stage result waiting
    cases result with
    | error error => simp [step, waiting]
    | ok message =>
        simp only [step, waiting]
        split <;> rfl

/-! ## Along every run -/

/-- What a server makes of a client that it cannot choose. -/
structure Exact (options : ServerOptions) (events : List Event)
    (effects : List Effect) (server : Server) : Prop where
  /-- There is a session exactly behind a handshake that came to it. -/
  concluded :
    ∀ session, server.session = some session ↔
      Concluded options.supported (deliveries events) (receipts events)
        session
  /-- Either the whole script was said or the part up to the failing step. -/
  ended :
    ∀ trace event next more,
      server.reception.trace? = some trace →
        step server event = some (next, more) →
          next.reception = .finished →
            Ending options.supported trace (deliveries (events ++ [event]))
              (receipts (events ++ [event])) (messages (effects ++ more)) next
  /-- A reception that failed is the end of all talk. -/
  failed :
    server.reception = .finished → server.session = none →
      Barren server ∧
        ∃ trace,
          Broken options.supported trace (deliveries events)
            (receipts events) (messages effects)
  refused : server.session = none → Refuses server
  kept :
    ∀ session, server.session = some session →
      ∀ later final more,
        run step server later = some (final, more) →
          final.session = some session
  shown :
    ∀ version, server.state = .connected version →
      ∃ session, server.session = some session ∧ session.version = version
  responsive : Responsive server

/-- The reception is exact, whoever the client is and whatever goes wrong. -/
theorem reception_exact
    {options : ServerOptions} {events : List Event}
    (ran : run step (new options) events = some (server, effects)) :
    Exact options events effects server := by
  obtain ⟨rfl, account⟩ := account_run ran
  refine ⟨fun _ => account.session_eq_some_iff, ?_, ?_,
    refuses_of_session_eq_none, ?_, account.shown, responsive server⟩
  · intro trace event next more received stepped finished
    rw [deliveries_snoc, receipts_snoc, messages_append]
    exact account.ending_of_move received (move_of_step stepped) finished
  · intro finished unset
    exact ⟨barren_of_finished account.orderly finished unset,
      account.broken finished unset⟩
  · intro session found later final more later_ran
    exact session_eq_some_of_run found later_ran

/-- A client of version 2 asks for nothing special and subscribes. -/
def subscribedVisit : List Event :=
  [.serve .none (.ok ()), .accepted (.ok ()), .handshakeSent (.ok ()),
    .handshakeReceived (.ok (Message.plain (.negotiateResponse ⟨2⟩))),
    .handshakeReceived
      (.ok (Message.plain (.caps (Json.object KeyMap.empty)))),
    .handshakeSent (.ok ()),
    .handshakeReceived (.ok (Message.plain (.subscribe "runfiles"))),
    .handshakeSent (.ok ())]

theorem reception_exact_subscribedVisit :
    ∃ server effects session,
      run step (new ⟨"build.sock", [⟨2⟩, .first]⟩) subscribedVisit =
          some (server, effects) ∧
        server.state = .connected ⟨2⟩ ∧ server.session = some session ∧
        session.version = ⟨2⟩ ∧
        Concluded [⟨2⟩, .first] (deliveries subscribedVisit)
          (receipts subscribedVisit) session := by
  have reached :
      (run step (new ⟨"build.sock", [⟨2⟩, .first]⟩) subscribedVisit).map
          (·.1.state) =
        some (.connected ⟨2⟩) := by
    decide +kernel
  obtain ⟨⟨server, effects⟩, ran, connected⟩ :=
    Option.map_eq_some_iff.mp reached
  have exactly := reception_exact ran
  obtain ⟨session, found, version⟩ := exactly.shown _ connected
  exact ⟨server, effects, session, ran, connected, found, version,
    (exactly.concluded session).mp found⟩

end Server

end BuildWatch
