import BuildWatch.Proofs.Handshake
import BuildWatch.Proofs.Runs
import BuildWatch.Proofs.Server.Gates

/-!
# What a server has heard and said

The state of a server shows what its client has sent in the handshake, and
what the server has sent.  The history is kept whoever the client is and
whatever goes wrong: a stage is reached exactly behind the messages that lead
to it, and a session stands for the whole handshake.
-/

namespace BuildWatch

/-- What receiving came to. -/
abbrev Receipt := Except TransportError Message

/-- How many messages either side sends in a handshake. -/
def Version.rounds (version : Version) : Nat :=
  if 2 ≤ version.number then 3
  else if 0 < version.number then 2
  else 1

theorem Version.rounds_eq (version : Version) :
    version.rounds =
      if version.hasSubscription then 3
      else if version.hasCapabilities then 2
      else 1 := by
  simp [rounds, hasSubscription, hasCapabilities]

/-- There is no handshake without a message. -/
theorem Version.rounds_pos (version : Version) : 0 < version.rounds := by
  unfold rounds
  split
  · decide
  · split <;> decide

/-- A message about the build, as a server sends them. -/
def Message.IsNews (message : Message) : Prop :=
  (∃ (session : Session) (trace : TraceContext) (number : CycleId)
      (scope : Scope) (changes : Changes),
    message = session.cycleMessage trace number scope changes) ∨
    ∃ (session : Session) (trace : TraceContext) (description : String),
      message = session.exitMessage trace description

namespace ServerHandshake

/-- The client has picked an offered version. -/
def Chosen (supported : List Version) (heard : List Receipt)
    (version : Version) : Prop :=
  ∃ message, heard[0]? = some (.ok message) ∧
    message.body = .negotiateResponse version ∧ version ∈ supported

/-- The client has asked for what these capabilities are the meaning of. -/
def Requested (heard : List Receipt) (capabilities : Capabilities) : Prop :=
  ∃ message requested, heard[1]? = some (.ok message) ∧
    message.body = .caps requested ∧
    Capabilities.ofWire (some requested) = .ok capabilities

/-- The client has subscribed. -/
def Subscribed (heard : List Receipt) (watchType : String) : Prop :=
  ∃ message, heard[2]? = some (.ok message) ∧
    message.body = .subscribe watchType

section Growth

variable {supported : List Version} {heard : List Receipt}

theorem Chosen.append
    {version : Version} (chosen : Chosen supported heard version)
    (more : List Receipt) : Chosen supported (heard ++ more) version := by
  obtain ⟨message, found, body, member⟩ := chosen
  exact ⟨message, getElem?_append_of_eq_some found more, body, member⟩

theorem Requested.append
    {capabilities : Capabilities} (requested : Requested heard capabilities)
    (more : List Receipt) : Requested (heard ++ more) capabilities := by
  obtain ⟨message, value, found, body, accepted⟩ := requested
  exact ⟨message, value, getElem?_append_of_eq_some found more, body,
    accepted⟩

end Growth

/-! ## The messages of a handshake -/

section Opening

variable (supported : List Version) (trace : TraceContext)

/-- The message that offers versions. -/
def offer : Message := Message.plain (.negotiate supported)

/-- The message that grants capabilities, traced if they ask for that. -/
def grant (capabilities : Capabilities) : Message :=
  if capabilities.otelEnabled then
    ⟨trace.fields, .capsResponse (Json.object capabilities.toWire)⟩
  else Message.plain (.capsResponse (Json.object capabilities.toWire))

/-- The message that confirms a subscription. -/
def confirmation : Message := Message.plain .subscribeResponse

/-- The messages that a server sends in a handshake. -/
def opening (version : Version) (capabilities : Capabilities) :
    List Message :=
  if version.hasSubscription then
    [offer supported, grant trace capabilities, confirmation]
  else if version.hasCapabilities then
    [offer supported, grant trace capabilities]
  else [offer supported]

theorem length_opening (version : Version) (capabilities : Capabilities) :
    (opening supported trace version capabilities).length =
      version.rounds := by
  rw [opening, Version.rounds_eq]
  split
  · rfl
  · split <;> rfl

/-- What a server has heard and said when it is in a stage. -/
inductive Standing : Stage → List Receipt → List Message → Prop where
  | offering : Standing (.sending .offer) [] [offer supported]
  | offered : Standing (.receiving .choice) [] [offer supported]
  | awaitingRequest {version : Version} {heard : List Receipt}
      (length : heard.length = 1)
      (chosen : Chosen supported heard version)
      (capable : version.hasCapabilities = true) :
      Standing (.receiving (.request version)) heard [offer supported]
  | granting {version : Version} {capabilities : Capabilities}
      {heard : List Receipt}
      (length : heard.length = 2)
      (chosen : Chosen supported heard version)
      (capable : version.hasCapabilities = true)
      (requested : Requested heard capabilities) :
      Standing (.sending (.grant version capabilities)) heard
        [offer supported, grant trace capabilities]
  | awaitingSubscription {version : Version} {capabilities : Capabilities}
      {heard : List Receipt}
      (length : heard.length = 2)
      (chosen : Chosen supported heard version)
      (subscribes : version.hasSubscription = true)
      (requested : Requested heard capabilities) :
      Standing (.receiving (.subscription version (some capabilities))) heard
        [offer supported, grant trace capabilities]
  | confirming {version : Version} {capabilities : Capabilities}
      {watchType : String} {heard : List Receipt}
      (length : heard.length = 3)
      (chosen : Chosen supported heard version)
      (subscribes : version.hasSubscription = true)
      (requested : Requested heard capabilities)
      (subscribed : Subscribed heard watchType) :
      Standing (.sending (.confirm version (some capabilities) watchType))
        heard
        [offer supported, grant trace capabilities,
          confirmation]

/-- What a server has heard and said when it comes to an agreement. -/
inductive Settlement : List Receipt → List Message → Session → Prop where
  | legacy {version : Version} {heard : List Receipt}
      (length : heard.length = 1)
      (chosen : Chosen supported heard version)
      (incapable : version.hasCapabilities = false) :
      Settlement heard [offer supported] ⟨version, none, none⟩
  | capable {version : Version} {capabilities : Capabilities}
      {heard : List Receipt}
      (length : heard.length = 2)
      (chosen : Chosen supported heard version)
      (capable : version.hasCapabilities = true)
      (silent : version.hasSubscription = false)
      (requested : Requested heard capabilities) :
      Settlement heard
        [offer supported, grant trace capabilities]
        ⟨version, some capabilities, none⟩
  | subscribed {version : Version} {capabilities : Capabilities}
      {watchType : String} {heard : List Receipt}
      (length : heard.length = 3)
      (chosen : Chosen supported heard version)
      (subscribes : version.hasSubscription = true)
      (requested : Requested heard capabilities)
      (subscribed : Subscribed heard watchType) :
      Settlement heard
        [offer supported, grant trace capabilities,
          confirmation]
        ⟨version, some capabilities, some watchType⟩

end Opening

/-- What a server has heard and said when it has a session. -/
structure Settled (supported : List Version) (heard : List Receipt)
    (said : List Message) (session : Session) : Prop where
  length : heard.length = session.version.rounds
  chosen : Chosen supported heard session.version
  incapable :
    session.version.hasCapabilities = false → session.capabilities = none
  /-- The capabilities are those that were granted. -/
  spoken :
    ∃ trace capabilities news,
      said = opening supported trace session.version capabilities ++ news ∧
        (∀ message ∈ news, message.IsNews) ∧
        (session.version.hasCapabilities = true →
          session.capabilities = some capabilities ∧
            Requested heard capabilities)

/-- What a server can have said, whatever became of the handshake. -/
def Uttered (supported : List Version) (heard : List Receipt)
    (said : List Message) : Prop :=
  ∃ trace version capabilities news,
    said <+: opening supported trace version capabilities ++ news ∧
      (∀ message ∈ news, message.IsNews) ∧
      (1 < said.length →
        Chosen supported heard version ∧
          (version.hasCapabilities = true →
            Requested heard capabilities))

section Utterance

variable {supported : List Version} {trace : TraceContext}
  {heard : List Receipt} {said : List Message}

theorem Uttered.append
    (uttered : Uttered supported heard said) (more : List Receipt) :
    Uttered supported (heard ++ more) said := by
  obtain ⟨trace, version, capabilities, news, begins, told, known⟩ := uttered
  refine ⟨trace, version, capabilities, news, begins, told, ?_⟩
  intro long
  obtain ⟨chosen, requested⟩ := known long
  exact ⟨chosen.append more, fun capable => (requested capable).append more⟩

theorem uttered_offer :
    Uttered supported heard [offer supported] :=
  ⟨.none, .legacy, default, [], List.prefix_rfl, by simp, by simp⟩

theorem uttered_opening
    (trace : TraceContext) {version : Version} {capabilities : Capabilities}
    (begins : said <+: opening supported trace version capabilities)
    (chosen : Chosen supported heard version)
    (requested : Requested heard capabilities) :
    Uttered supported heard said :=
  ⟨trace, version, capabilities, [], by simpa using begins, by simp,
    fun _ => ⟨chosen, fun _ => requested⟩⟩

theorem Standing.uttered
    {stage : Stage} (standing : Standing supported trace stage heard said) :
    Uttered supported heard said := by
  cases standing with
  | offering => exact uttered_offer
  | offered => exact uttered_offer
  | awaitingRequest length chosen capable => exact uttered_offer
  | @granting version capabilities _ length chosen capable requested =>
      refine uttered_opening trace ?_ chosen requested
      unfold opening
      split
      · exact ⟨[confirmation], rfl⟩
      · simp
  | awaitingSubscription length chosen subscribes requested =>
      refine uttered_opening trace ?_ chosen requested
      rw [opening, if_pos subscribes]
      exact ⟨[confirmation], rfl⟩
  | confirming length chosen subscribes requested subscribed =>
      refine uttered_opening trace ⟨[], ?_⟩ chosen requested
      rw [opening, if_pos subscribes, List.append_nil]

theorem Standing.of_choice
    (standing :
      Standing supported trace (.receiving .choice) heard said) :
    heard = [] := by
  cases standing with
  | offered => rfl

theorem Standing.of_request
    {version : Version}
    (standing :
      Standing supported trace (.receiving (.request version)) heard said) :
    heard.length = 1 ∧ Chosen supported heard version ∧
      version.hasCapabilities = true := by
  cases standing with
  | awaitingRequest length chosen capable => exact ⟨length, chosen, capable⟩

theorem Standing.of_subscription
    {version : Version} {capabilities : Option Capabilities}
    (standing :
      Standing supported trace
        (.receiving (.subscription version capabilities)) heard said) :
    heard.length = 2 ∧ Chosen supported heard version ∧
      version.hasSubscription = true := by
  cases standing with
  | awaitingSubscription length chosen subscribes requested =>
      exact ⟨length, chosen, subscribes⟩

/-- The messages of an agreement are those of its version. -/
theorem Settlement.said_eq
    {session : Session}
    (settlement : Settlement supported trace heard said session) :
    said =
      opening supported trace session.version
        (session.capabilities.getD Capabilities.default) := by
  cases settlement with
  | legacy length chosen incapable =>
      have silent := Version.hasSubscription_eq_false incapable
      simp [opening, silent, incapable]
  | capable length chosen capable silent requested =>
      simp [opening, silent, capable]
  | subscribed length chosen subscribes requested subscribed =>
      simp [opening, subscribes]

theorem Settlement.length_heard
    {session : Session}
    (settlement : Settlement supported trace heard said session) :
    heard.length = session.version.rounds := by
  cases settlement with
  | legacy length chosen incapable =>
      have silent := Version.hasSubscription_eq_false incapable
      simp [length, Version.rounds_eq, silent, incapable]
  | capable length chosen capable silent requested =>
      simp [length, Version.rounds_eq, silent, capable]
  | subscribed length chosen subscribes requested subscribed =>
      simp [length, Version.rounds_eq, subscribes]

theorem Settlement.settled
    {session : Session}
    (settlement : Settlement supported trace heard said session) :
    Settled supported heard said session where
  length := settlement.length_heard
  chosen := by
    cases settlement <;> assumption
  incapable := by
    cases settlement with
    | legacy length chosen incapable => exact fun _ => rfl
    | capable length chosen capable silent requested => simp [capable]
    | subscribed length chosen subscribes requested subscribed =>
        simp [Version.hasCapabilities_of_hasSubscription subscribes]
  spoken := by
    refine ⟨trace, session.capabilities.getD Capabilities.default, [], ?_,
      by simp, ?_⟩
    · rw [List.append_nil]
      exact settlement.said_eq
    · cases settlement with
      | legacy length chosen incapable => simp [incapable]
      | capable length chosen capable silent requested =>
          exact fun _ => ⟨rfl, requested⟩
      | subscribed length chosen subscribes requested subscribed =>
          exact fun _ => ⟨rfl, requested⟩

theorem Settled.uttered
    {session : Session} (settled : Settled supported heard said session) :
    Uttered supported heard said := by
  obtain ⟨trace, capabilities, news, said, told, granted⟩ := settled.spoken
  refine ⟨trace, session.version, capabilities, news, ⟨[], ?_⟩, told, ?_⟩
  · rw [said, List.append_nil]
  · intro _
    exact ⟨settled.chosen, fun capable => (granted capable).2⟩

theorem Settled.tell
    {session : Session} {message : Message}
    (settled : Settled supported heard said session)
    (isNews : message.IsNews) :
    Settled supported heard (said ++ [message]) session := by
  obtain ⟨length, chosen, incapable, trace, capabilities, news, spoken, told,
    granted⟩ := settled
  refine ⟨length, chosen, incapable, trace, capabilities, news ++ [message],
    ?_, ?_, granted⟩
  · rw [spoken, List.append_assoc]
  · intro other member
    rcases List.mem_append.mp member with earlier | last
    · exact told other earlier
    · rwa [List.mem_singleton.mp last]

end Utterance

end ServerHandshake

namespace Server

open ServerHandshake

/-! ## Along a run -/

/-- What an event of the handshake received. -/
@[simp]
def Event.shake? : Event → Option Receipt
  | .handshakeReceived result => some result
  | _ => none

variable {server next : Server} {event : Event} {effects : List Effect}
  {heard : List Receipt} {said : List Message}

/-- How the state of a server shows what it has heard and said. -/
structure Talk (server : Server) (heard : List Receipt)
    (said : List Message) : Prop where
  uttered : Uttered server.options.supported heard said
  unshaken :
    (server.reception = .absent ∨
        ∃ trace, server.reception = .accepting trace) →
      heard = [] ∧ said = []
  standing :
    ∀ trace stage, server.reception = .shaking trace stage →
      Standing server.options.supported trace stage heard said
  settled :
    ∀ session, server.session = some session →
      Settled server.options.supported heard said session

/-- An advance leads from one stage of the history to the next. -/
theorem standing_of_advance
    {trace : TraceContext} {stage : Stage} (talk : Talk server heard said)
    (advance : Advance server event trace (.next stage)) :
    Standing server.options.supported trace stage
      (heard ++ event.shake?.toList)
      (said ++ stageMessages server.options.supported trace stage) := by
  cases advance with
  | accepted waiting =>
      obtain ⟨rfl, rfl⟩ := talk.unshaken (.inr ⟨trace, waiting⟩)
      exact .offering
  | sent waiting follows =>
      have standing := talk.standing _ _ waiting
      cases standing with
      | offering =>
          cases follows
          exact .offered
      | granting length chosen capable requested =>
          obtain ⟨subscribes, rfl⟩ := subscribe_eq_next_iff.mp follows
          simpa [stageMessages] using
            Standing.awaitingSubscription length chosen subscribes requested
      | confirming length chosen subscribes requested subscribed =>
          cases follows
  | @received _ _ message _ waiting follows =>
      have standing := talk.standing _ _ waiting
      cases standing with
      | offered =>
          obtain ⟨version, member, body, leads⟩ :=
            received_choice_iff.mp follows
          obtain ⟨capable, rfl⟩ := negotiate_eq_next_iff.mp leads.symm
          exact .awaitingRequest rfl ⟨message, rfl, body, member⟩ capable
      | awaitingRequest length chosen capable =>
          obtain ⟨requested, capabilities, body, accepted, leads⟩ :=
            received_request_iff.mp follows
          cases leads
          refine .granting (by simp [length]) (chosen.append _) capable
            ⟨message, requested, ?_, body, accepted⟩
          simp [length]
      | awaitingSubscription length chosen subscribes requested =>
          obtain ⟨watchType, body, leads⟩ :=
            received_subscription_iff.mp follows
          cases leads
          refine .confirming (by simp [length]) (chosen.append _) subscribes
            (requested.append _) ⟨message, ?_, body⟩
          simp [length]

/-- An agreement stands for the whole handshake. -/
theorem settlement_of_advance
    {trace : TraceContext} {session : Session}
    (talk : Talk server heard said)
    (advance : Advance server event trace (.agreed session)) :
    Settlement server.options.supported trace
      (heard ++ event.shake?.toList) said session := by
  cases advance with
  | sent waiting follows =>
      have standing := talk.standing _ _ waiting
      simp only [Event.shake?, Option.toList_none, List.append_nil]
      cases standing with
      | offering => cases follows
      | granting length chosen capable requested =>
          obtain ⟨silent, rfl⟩ := subscribe_eq_agreed_iff.mp follows
          exact .capable length chosen capable silent requested
      | confirming length chosen subscribes requested subscribed =>
          cases follows
          exact .subscribed length chosen subscribes requested subscribed
  | @received _ _ message _ waiting follows =>
      have standing := talk.standing _ _ waiting
      cases standing with
      | offered =>
          obtain ⟨version, member, body, leads⟩ :=
            received_choice_iff.mp follows
          obtain ⟨incapable, rfl⟩ := negotiate_eq_agreed_iff.mp leads.symm
          exact .legacy rfl ⟨message, rfl, body, member⟩ incapable
      | awaitingRequest length chosen capable =>
          obtain ⟨requested, capabilities, body, accepted, leads⟩ :=
            received_request_iff.mp follows
          cases leads
      | awaitingSubscription length chosen subscribes requested =>
          obtain ⟨watchType, body, leads⟩ :=
            received_subscription_iff.mp follows
          cases leads

theorem settled_of_advance
    {trace : TraceContext} {session : Session}
    (talk : Talk server heard said)
    (advance : Advance server event trace (.agreed session)) :
    Settled server.options.supported (heard ++ event.shake?.toList) said
      session :=
  (settlement_of_advance talk advance).settled

theorem Begun.isNews
    {request : Request} {message : Message}
    (begun : Begun server request next message) : message.IsNews := by
  cases begun with
  | cycle errand => exact .inl ⟨_, _, _, _, _, rfl⟩
  | exit errand => exact .inr ⟨_, _, _, rfl⟩

/-- A step that neither receives nor sends anything. -/
theorem Talk.keepSilent
    (talk : Talk server heard said)
    (deaf : event.shake? = none) (silent : messages effects = [])
    (sameOptions : next.options = server.options)
    (sameReception : next.reception = server.reception)
    (sameSession : next.session = server.session) :
    Talk next (heard ++ event.shake?.toList) (said ++ messages effects) := by
  rw [deaf, silent, Option.toList_none, List.append_nil, List.append_nil]
  obtain ⟨uttered, unshaken, standing, settled⟩ := talk
  refine ⟨?_, ?_, ?_, ?_⟩
  · rwa [sameOptions]
  · rwa [sameReception]
  · rwa [sameOptions, sameReception]
  · rwa [sameOptions, sameSession]

/-- A call that gets the exchange adds its message. -/
theorem Talk.begin
    {base : Server} {request : Request} {session : Session}
    (talk : Talk server heard said)
    (begins : (next, effects) = begin base request)
    (found : server.session = some session)
    (finished : server.reception = .finished)
    (sameOptions : base.options = server.options)
    (sameReception : base.reception = server.reception)
    (sameSession : base.session = server.session) :
    Talk next heard (said ++ messages effects) := by
  obtain ⟨message, rfl, begun⟩ := begun_of_begin begins
  have told := (talk.settled session found).tell begun.isNews
  have nextOptions : next.options = server.options := by
    cases begun <;> exact sameOptions
  have nextReception : next.reception = .finished := by
    cases begun <;> exact sameReception.trans finished
  have nextSession : next.session = some session := by
    cases begun <;> exact sameSession.trans found
  refine ⟨?_, ?_, ?_, ?_⟩
  · rw [nextOptions]
    exact told.uttered
  · simp [nextReception]
  · simp [nextReception]
  · intro other same
    rw [nextSession] at same
    cases same
    rw [nextOptions]
    exact told

theorem talk_move
    (orderly : Orderly server) (talk : Talk server heard said)
    (move : Move server event next effects) :
    Talk next (heard ++ event.shake?.toList) (said ++ messages effects) := by
  cases move with
  | aside uncalled unanswering shown claimed numbered silent stood ended =>
      have deaf : event.shake? = none := by
        cases event <;> simp_all
      exact talk.keepSilent deaf silent.1 rfl rfl rfl
  | listening unserved =>
      have absent : server.reception = .absent := orderly.unserved unserved
      obtain ⟨rfl, rfl⟩ := talk.unshaken (.inl absent)
      exact ⟨talk.uttered, fun _ => ⟨rfl, rfl⟩, by simp, talk.settled⟩
  | failed log failure logged =>
      have silent : messages (log ++ [.publish .closed]) = [] := by
        simp [(silent_of_logs logged).1]
      have unset := orderly.session_eq_none failure.active
      rw [silent, List.append_nil]
      exact ⟨talk.uttered.append _, by simp, by simp, by simp [unset]⟩
  | @entered _ trace stage _ state shown advance spoken wanted unended =>
      have standing := standing_of_advance talk advance
      have unset := orderly.session_eq_none advance.active
      rw [spoken]
      refine ⟨standing.uttered, by simp, ?_, by simp [unset]⟩
      intro other reached same
      cases same
      exact standing
  | agreed unset advance =>
      have settled := settled_of_advance talk advance
      rw [messages_publish, messages_nil, List.append_nil]
      refine ⟨settled.uttered, by simp, by simp, ?_⟩
      intro session same
      cases same
      exact settled
  | turnedAway unset => exact talk.keepSilent rfl rfl rfl rfl rfl
  | queued found => exact talk.keepSilent rfl rfl rfl rfl rfl
  | started found free unlined begins =>
      have finished := orderly.received (by simp [found])
      simpa using talk.begin begins found finished rfl rfl rfl
  | turned free lined begins =>
      have found :=
        orderly.lined _ (by rw [lined]; exact List.mem_cons_self)
      have finished := orderly.received (by simp [found])
      simpa using talk.begin begins found finished rfl rfl rfl
  | cycleSent held => exact talk.keepSilent rfl rfl rfl rfl rfl
  | waited held verdict => exact talk.keepSilent rfl rfl rfl rfl rfl
  | returned log ending logged =>
      have deaf : event.shake? = none := by
        cases ending <;> rfl
      refine talk.keepSilent deaf ?_ rfl rfl rfl
      simp [(silent_of_logs logged).1]

theorem talk_new (options : ServerOptions) : Talk (new options) [] [] where
  uttered := ⟨.none, .legacy, default, [], List.nil_prefix, by simp, by simp⟩
  unshaken := fun _ => ⟨rfl, rfl⟩
  standing := by simp [new]
  settled := by simp [new]

theorem options_move (move : Move server event next effects) :
    next.options = server.options := by
  cases move with
  | started found free unlined begins =>
      obtain ⟨message, rfl, begun⟩ := begun_of_begin begins
      cases begun <;> rfl
  | turned free lined begins =>
      obtain ⟨message, rfl, begun⟩ := begun_of_begin begins
      cases begun <;> rfl
  | _ => rfl

end Server

end BuildWatch
