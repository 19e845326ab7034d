import BuildWatch.Consumer
import BuildWatch.Proofs.Client.Moves
import BuildWatch.Proofs.Server.Talk

/-!
# What a client has heard and said

The state of a client on its first connection shows what the server has sent
and what the client has answered, from the choice of a version to the
subscription.  A stream is handed out at most once, and behind all of that.
-/

namespace BuildWatch

namespace ClientHandshake

/-- The server has offered versions of which this is picked. -/
def Offered (supported : List Version) (heard : List Receipt)
    (version : Version) : Prop :=
  ∃ message offered, heard[0]? = some (.ok message) ∧
    message.body = .negotiate offered ∧
    Version.select offered supported = some version

/-- The server has granted what these capabilities are the meaning of. -/
def Granted (heard : List Receipt) (capabilities : Capabilities) : Prop :=
  ∃ message granted, heard[1]? = some (.ok message) ∧
    message.body = .capsResponse granted ∧
    Capabilities.ofWire (some granted) = .ok capabilities

section Growth

variable {supported : List Version} {heard : List Receipt}

theorem Offered.append
    {version : Version} (offered : Offered supported heard version)
    (more : List Receipt) : Offered supported (heard ++ more) version := by
  obtain ⟨message, versions, found, body, selected⟩ := offered
  exact ⟨message, versions,
    getElem?_append_of_eq_some found more, body, selected⟩

theorem Granted.append
    {capabilities : Capabilities} (granted : Granted heard capabilities)
    (more : List Receipt) : Granted (heard ++ more) capabilities := by
  obtain ⟨message, value, found, body, accepted⟩ := granted
  exact ⟨message, value,
    getElem?_append_of_eq_some found more, body, accepted⟩

end Growth

/-! ## The messages of a handshake -/

def choice (version : Version) : Message :=
  Message.plain (.negotiateResponse version)

def wish (request : CapabilityRequest) : Message :=
  Message.plain (.caps (Json.object request.toWire))

def subscription (watchType : String) : Message :=
  Message.plain (.subscribe watchType)

/-- The messages by which a client attaches. -/
def attachment (request : CapabilityRequest) (version : Version) :
    List Message :=
  if version.hasCapabilities then [choice version, wish request]
  else [choice version]

/-- The messages that a client sends before its first cycle. -/
def opening (watchType : String) (request : CapabilityRequest)
    (version : Version) : List Message :=
  if version.hasSubscription then
    [choice version, wish request, subscription watchType]
  else attachment request version

theorem length_opening
    (watchType : String) (request : CapabilityRequest) (version : Version) :
    (opening watchType request version).length = version.rounds := by
  rw [opening, Version.rounds_eq, attachment]
  split
  · rfl
  · split <;> rfl

theorem opening_of_attachment
    (watchType : String) (request : CapabilityRequest) (version : Version) :
    attachment request version <+: opening watchType request version := by
  unfold opening
  split
  next subscribes =>
    rw [attachment,
      if_pos (Version.hasCapabilities_of_hasSubscription subscribes)]
    exact ⟨[subscription watchType], rfl⟩
  next => exact List.prefix_rfl

/-- What a client has heard and said when it is in a stage. -/
inductive Standing (supported : List Version) (request : CapabilityRequest) :
    Stage → List Receipt → List Message → Prop where
  | awaitingOffer : Standing supported request (.receiving .offer) [] []
  | choosing {version : Version} {heard : List Receipt}
      (length : heard.length = 1)
      (offered : Offered supported heard version) :
      Standing supported request (.sending (.choose version)) heard
        [choice version]
  | requesting {version : Version} {heard : List Receipt}
      (length : heard.length = 1)
      (offered : Offered supported heard version)
      (capable : version.hasCapabilities = true) :
      Standing supported request (.sending (.request version)) heard
        [choice version, wish request]
  | awaitingGrant {version : Version} {heard : List Receipt}
      (length : heard.length = 1)
      (offered : Offered supported heard version)
      (capable : version.hasCapabilities = true) :
      Standing supported request (.receiving (.grant version)) heard
        [choice version, wish request]

/-- What a client can have said, whatever became of the handshake. -/
def Uttered (supported : List Version) (watchType : String)
    (request : CapabilityRequest) (heard : List Receipt)
    (said : List Message) : Prop :=
  ∃ version, said <+: opening watchType request version ∧
    (said ≠ [] → Offered supported heard version)

theorem Uttered.append
    {supported : List Version} {watchType : String}
    {request : CapabilityRequest} {heard : List Receipt}
    {said : List Message}
    (uttered : Uttered supported watchType request heard said)
    (more : List Receipt) :
    Uttered supported watchType request (heard ++ more) said := by
  obtain ⟨version, begins, offered⟩ := uttered
  exact ⟨version, begins, fun spoken => (offered spoken).append more⟩

theorem Standing.uttered
    {supported : List Version} {watchType : String}
    {request : CapabilityRequest} {stage : Stage} {heard : List Receipt}
    {said : List Message}
    (standing : Standing supported request stage heard said) :
    Uttered supported watchType request heard said := by
  have capable_prefix :
      ∀ version : Version, version.hasCapabilities = true →
        [choice version, wish request] <+:
          opening watchType request version := by
    intro version capable
    have whole := opening_of_attachment watchType request version
    rwa [attachment, if_pos capable] at whole
  cases standing with
  | awaitingOffer =>
      exact ⟨.legacy, List.nil_prefix, fun spoken => absurd rfl spoken⟩
  | @choosing version _ length offered =>
      refine ⟨version, ?_, fun _ => offered⟩
      refine List.IsPrefix.trans ?_
        (opening_of_attachment watchType request version)
      unfold attachment
      split
      · exact ⟨[wish request], rfl⟩
      · exact List.prefix_rfl
  | @requesting version _ length offered capable =>
      exact ⟨version, capable_prefix version capable, fun _ => offered⟩
  | @awaitingGrant version _ length offered capable =>
      exact ⟨version, capable_prefix version capable, fun _ => offered⟩

theorem Standing.of_offer
    {supported : List Version} {request : CapabilityRequest}
    {heard : List Receipt} {said : List Message}
    (standing :
      Standing supported request (.receiving .offer) heard said) :
    heard = [] := by
  cases standing with
  | awaitingOffer => rfl

theorem Standing.of_grant
    {supported : List Version} {request : CapabilityRequest}
    {version : Version} {heard : List Receipt} {said : List Message}
    (standing :
      Standing supported request (.receiving (.grant version)) heard said) :
    heard.length = 1 ∧ Offered supported heard version ∧
      version.hasCapabilities = true := by
  cases standing with
  | awaitingGrant length offered capable => exact ⟨length, offered, capable⟩

end ClientHandshake

namespace Client

open ClientHandshake

/-! ## States -/

/-- What a client knows when it is connected. -/
structure Agreed (client : Client) (heard : List Receipt)
    (version : Version) : Prop where
  state : client.state = .connected version
  noted : client.version = some version
  joined : ∃ connection, client.connection = some connection
  used : client.nextConnection = 1
  offered : Offered client.options.supported heard version
  capable :
    version.hasCapabilities = true →
      ∃ capabilities, client.capabilities = some capabilities ∧
        Granted heard capabilities
  incapable :
    version.hasCapabilities = false → client.capabilities = none

/-- What a client knows in its handshake. -/
structure Joining (client : Client) (connection : ConnectionId) : Prop where
  used : client.nextConnection = 1
  joined : client.connection = some connection
  unconnected : client.isConnected = false
  unclaimed : client.capabilities = none
  unasked : client.awaiting = false

/-- How the state of a client shows what it has heard, said and handed out. -/
inductive Talk (request : CapabilityRequest) (client : Client) :
    List Receipt → List Message → List CycleStream → Prop where
  /-- There was no connection yet. -/
  | fresh
      (unused : client.nextConnection = 0)
      (apart : client.connection = none)
      (state : client.state = .disconnected)
      (unclaimed : client.capabilities = none)
      (unasked : client.awaiting = false)
      (idle : client.activity = .idle) :
      Talk request client [] [] []
  /-- The handshake is under way. -/
  | shaking {connection : ConnectionId} {stage : Stage}
      {heard : List Receipt} {said : List Message}
      (joining : Joining client connection)
      (active : client.activity = .shaking connection request stage)
      (standing :
        Standing client.options.supported request stage heard said) :
      Talk request client heard said []
  /-- The handshake failed. -/
  | gone {heard : List Receipt} {said : List Message}
      (used : client.nextConnection = 1)
      (apart : client.connection = none)
      (state : client.state = .disconnected)
      (inactive :
        client.activity = .idle ∨
          ∃ error, client.activity = .abandoning error)
      (uttered :
        Uttered client.options.supported client.options.watchType request
          heard said) :
      Talk request client heard said []
  /-- The client is attached. -/
  | connected {version : Version} {heard : List Receipt}
      (agreed : Agreed client heard version)
      (idle : client.activity = .idle)
      (unasked : client.awaiting = false)
      (length : heard.length = (attachment request version).length) :
      Talk request client heard (attachment request version) []
  /-- The client subscribes. -/
  | subscribing {version : Version} {connection : ConnectionId}
      {step : Subscription} {heard : List Receipt}
      (agreed : Agreed client heard version)
      (active : client.activity = .subscribing connection step)
      (asked : client.awaiting = true)
      (subscribes : version.hasSubscription = true)
      (length : heard.length = 2) :
      Talk request client heard
        (opening client.options.watchType request version) []
  /-- The subscription failed. -/
  | stuck {version : Version} {heard : List Receipt}
      (agreed : Agreed client heard version)
      (idle : client.activity = .idle)
      (asked : client.awaiting = true) :
      Talk request client heard
        (opening client.options.watchType request version) []
  /-- The stream is handed out. -/
  | served {version : Version} {connection : ConnectionId}
      {heard : List Receipt}
      (agreed : Agreed client heard version)
      (idle : client.activity = .idle)
      (asked : client.awaiting = true)
      (length : heard.length = version.rounds) :
      Talk request client heard
        (opening client.options.watchType request version)
        [CycleStream.new connection]

/-! ## Traffic -/

/-- What an effect asks the transport to send. -/
def Effect.message? : Effect → Option Message
  | .send _ message => some message
  | _ => none

/-- The messages that effects ask the transport to send, in order. -/
def messages (effects : List Effect) : List Message :=
  effects.filterMap Effect.message?

/-- What an event received. -/
@[simp]
def Event.heard? : Event → Option Receipt
  | .received result => some result
  | _ => none

/-- The streams that effects hand out, in order. -/
def handedOut (effects : List Effect) : List CycleStream :=
  effects.filterMap Consumer.handedOut?

section Traffic

variable (rest : List Effect)

@[simp]
theorem messages_nil : messages [] = [] :=
  rfl

@[simp]
theorem messages_send (connection : ConnectionId) (message : Message) :
    messages (.send connection message :: rest) = message :: messages rest :=
  rfl

@[simp]
theorem messages_receive (connection : ConnectionId) :
    messages (.receive connection :: rest) = messages rest :=
  rfl

@[simp]
theorem messages_close (connection : ConnectionId) :
    messages (.close connection :: rest) = messages rest :=
  rfl

@[simp]
theorem messages_finish (outcome : Outcome) :
    messages (.finish outcome :: rest) = messages rest :=
  rfl

@[simp]
theorem handedOut_nil : handedOut [] = [] :=
  rfl

@[simp]
theorem handedOut_send (connection : ConnectionId) (message : Message) :
    handedOut (.send connection message :: rest) = handedOut rest :=
  rfl

@[simp]
theorem handedOut_receive (connection : ConnectionId) :
    handedOut (.receive connection :: rest) = handedOut rest :=
  rfl

@[simp]
theorem handedOut_close (connection : ConnectionId) :
    handedOut (.close connection :: rest) = handedOut rest :=
  rfl

@[simp]
theorem handedOut_finish (outcome : Outcome) :
    handedOut (.finish outcome :: rest) =
      (Consumer.handedOut? (.finish outcome)).toList ++ handedOut rest := by
  cases shown : Consumer.handedOut? (.finish outcome) <;>
    simp [handedOut, shown]

end Traffic

/-! ## Steps -/

variable {client next : Client} {event : Event} {effects : List Effect}
  {request : CapabilityRequest} {heard : List Receipt}
  {said : List Message} {streams : List CycleStream}

/-- What a step adds to what the client has heard, said and handed out. -/
def Grown (request : CapabilityRequest) (event : Event)
    (heard : List Receipt) (said : List Message)
    (streams : List CycleStream) (next : Client) (effects : List Effect) :
    Prop :=
  Talk request next (heard ++ event.heard?.toList)
    (said ++ messages effects) (streams ++ handedOut effects)

/-- A call that ends at once. -/
theorem grown_of_finish
    {outcome : Outcome} (talk : Talk request client heard said streams)
    (idle : client.activity = .idle) (deaf : event.heard? = none)
    (fruitless : Consumer.handedOut? (.finish outcome) = none)
    (reaction : finish client outcome = (next, effects)) :
    Grown request event heard said streams next effects := by
  have same : { client with activity := .idle } = client := by
    rw [← idle]
  simp only [finish, same, Prod.mk.injEq] at reaction
  obtain ⟨rfl, rfl⟩ := reaction
  unfold Grown
  rw [deaf]
  simpa [fruitless] using talk

/-- An attempt to attach that is given up. -/
theorem grown_of_abandon
    {connection : ConnectionId} {error : ProtocolError}
    (used : client.nextConnection = 1)
    (uttered :
      Uttered client.options.supported client.options.watchType request
        heard said)
    (reaction : abandon client connection error = (next, effects)) :
    Grown request event heard said [] next effects := by
  obtain ⟨rfl, rfl⟩ := Prod.mk.inj reaction
  unfold Grown
  simp only [messages_close, messages_nil, handedOut_close, handedOut_nil,
    List.append_nil]
  exact .gone used rfl rfl (.inr ⟨error, rfl⟩) (uttered.append _)

/-- The messages of a stage. -/
def stageMessages (request : CapabilityRequest) : Stage → List Message
  | .sending stage => [stage.message request]
  | .receiving _ => []

/-- A stage of the handshake that is entered. -/
theorem grown_of_enterStage
    {connection : ConnectionId} {stage : Stage}
    (joining : Joining client connection)
    (standing :
      Standing client.options.supported request stage
        (heard ++ event.heard?.toList)
        (said ++ stageMessages request stage))
    (reaction :
      enterStage client connection request stage = (next, effects)) :
    Grown request event heard said [] next effects := by
  obtain ⟨rfl, rfl⟩ := Prod.mk.inj reaction
  have active :
      Talk request
        { client with activity := .shaking connection request stage }
        (heard ++ event.heard?.toList)
        (said ++ stageMessages request stage) [] :=
    .shaking ⟨joining.used, joining.joined, joining.unconnected,
      joining.unclaimed, joining.unasked⟩ rfl standing
  unfold Grown
  cases stage <;> simpa [stageMessages] using active

theorem grown_of_attach
    (talk : Talk request client heard said streams)
    (idle : client.activity = .idle)
    (allowed : client.nextConnection = 0 ∨ client.connection.isSome)
    (reaction : attach client request = (next, effects)) :
    Grown request (.attach request) heard said streams next effects := by
  unfold attach at reaction
  split at reaction
  next connection joined => exact grown_of_finish talk idle rfl rfl reaction
  next apart =>
    have unused : client.nextConnection = 0 := by
      rcases allowed with unused | joined
      · exact unused
      · simp [apart] at joined
    cases talk with
    | fresh _ _ state unclaimed unasked _ =>
        refine grown_of_enterStage ?_ ?_ reaction
        · exact ⟨by simp [unused], rfl, rfl, unclaimed, unasked⟩
        · exact .awaitingOffer
    | shaking joining _ _ => simp [joining.used] at unused
    | gone used _ _ _ _ => simp [unused] at used
    | connected agreed _ _ _ => simp [agreed.used] at unused
    | subscribing agreed _ _ _ _ => simp [agreed.used] at unused
    | stuck agreed _ _ => simp [agreed.used] at unused
    | served agreed _ _ _ => simp [agreed.used] at unused

/-- A message of the handshake that is sent, or is not. -/
theorem grown_of_handshakeSent
    {connection : ConnectionId} {stage : Sending}
    {result : Except TransportError Unit}
    (joining : Joining client connection)
    (standing :
      Standing client.options.supported request (.sending stage) heard said)
    (reaction :
      proceed client connection request (do
        result.mapError ProtocolError.ofTransport
        stage.sent request) = (next, effects)) :
    Grown request (.sent result) heard said [] next effects := by
  obtain ⟨used, joined, unconnected, unclaimed, unasked⟩ := joining
  match result with
  | .error error => exact grown_of_abandon used standing.uttered reaction
  | .ok () =>
      cases standing with
      | @choosing version _ length offered =>
          change proceed client connection request
            ((Sending.choose version).sent request) = _ at reaction
          cases capable : version.hasCapabilities with
          | true =>
              rw [Sending.sent, if_pos capable] at reaction
              refine grown_of_enterStage ?_ ?_ reaction
              · exact ⟨used, joined, rfl, unclaimed, unasked⟩
              · exact .requesting (by simp [length]) (offered.append _) capable
          | false =>
              rw [Sending.sent, if_neg (by simp [capable])] at reaction
              split at reaction
              next modest =>
                obtain ⟨rfl, rfl⟩ := Prod.mk.inj reaction
                have alone :
                    attachment request version = [choice version] := by
                  simp [attachment, capable]
                unfold Grown
                simp only [Event.heard?, Option.toList_none,
                  List.append_nil, messages_finish, messages_nil]
                rw [← alone]
                refine .connected
                  ⟨rfl, rfl, ⟨connection, joined⟩, used, offered, ?_,
                    fun _ => rfl⟩
                  rfl unasked ?_
                · simp [capable]
                · simp [length, alone]
              next demanding =>
                exact grown_of_abandon used
                  (Standing.choosing length offered).uttered reaction
      | @requesting version _ length offered capable =>
          refine grown_of_enterStage ?_ ?_ reaction
          · exact ⟨used, joined, unconnected, unclaimed, unasked⟩
          · exact .awaitingGrant (by simp [length]) (offered.append _) capable

/-- A message of the handshake that is received, or is not. -/
theorem grown_of_handshakeReceived
    {connection : ConnectionId} {stage : Receiving} {result : Receipt}
    (joining : Joining client connection)
    (standing :
      Standing client.options.supported request (.receiving stage) heard said)
    (reaction :
      proceed client connection request (do
        let message ← result.mapError ProtocolError.ofTransport
        stage.received client.options.supported message) =
          (next, effects)) :
    Grown request (.received result) heard said [] next effects := by
  obtain ⟨used, joined, unconnected, unclaimed, unasked⟩ := joining
  match result with
  | .error error => exact grown_of_abandon used standing.uttered reaction
  | .ok message =>
      change proceed client connection request
        (stage.received client.options.supported message) = _ at reaction
      cases received :
          stage.received client.options.supported message with
      | error error =>
          rw [received] at reaction
          exact grown_of_abandon used standing.uttered reaction
      | ok progress =>
          rw [received] at reaction
          cases standing with
          | awaitingOffer =>
              obtain ⟨offered, version, body, selected, rfl⟩ :=
                received_offer_iff.mp received
              refine grown_of_enterStage ?_ ?_ reaction
              · exact ⟨used, joined, unconnected, unclaimed, unasked⟩
              · exact .choosing rfl ⟨message, offered, rfl, body, selected⟩
          | @awaitingGrant version _ length offered capable =>
              obtain ⟨granted, capabilities, body, accepted, rfl⟩ :=
                received_grant_iff.mp received
              obtain ⟨rfl, rfl⟩ := Prod.mk.inj reaction
              have both :
                  attachment request version =
                    [choice version, wish request] := by
                simp [attachment, capable]
              unfold Grown
              simp only [messages_finish, messages_nil, List.append_nil]
              rw [← both]
              refine .connected
                ⟨rfl, rfl, ⟨connection, joined⟩, used, offered.append _, ?_,
                  ?_⟩
                rfl unasked ?_
              · intro _
                refine ⟨capabilities, rfl, message, granted, ?_, body,
                  accepted⟩
                simp [length]
              · simp [capable]
              · simp [length, both]

theorem Agreed.append
    {version : Version} (agreed : Agreed client heard version)
    (more : List Receipt) : Agreed client (heard ++ more) version := by
  obtain ⟨state, noted, joined, used, offered, capable, incapable⟩ := agreed
  refine ⟨state, noted, joined, used, offered.append more, ?_, incapable⟩
  intro has
  obtain ⟨capabilities, known, granted⟩ := capable has
  exact ⟨capabilities, known, granted.append more⟩

/-- A client that agreed with its server has not hung up. -/
theorem Agreed.attached
    {version : Version} (agreed : Agreed client heard version) :
    client.connection ≠ none := by
  obtain ⟨connection, joined⟩ := agreed.joined
  simp [joined]

/-- What was agreed on does not depend on the calls for cycles. -/
theorem Agreed.update
    {version : Version} (agreed : Agreed client heard version)
    (awaiting : Bool) (activity : ClientActivity) :
    Agreed { client with awaiting, activity } heard version :=
  ⟨agreed.state, agreed.noted, agreed.joined, agreed.used, agreed.offered,
    agreed.capable, agreed.incapable⟩

theorem opening_of_silent
    {version : Version} (watchType : String)
    (silent : version.hasSubscription = false) :
    opening watchType request version = attachment request version := by
  rw [opening, if_neg (by simp [silent])]

theorem grown_of_awaitCycles
    (talk : Talk request client heard said streams)
    (idle : client.activity = .idle)
    (reaction : awaitCycles client = (next, effects)) :
    Grown request .awaitCycles heard said streams next effects := by
  unfold awaitCycles at reaction
  split at reaction
  next connection version joined state =>
    cases talk with
    | fresh _ apart _ _ _ _ => simp [apart] at joined
    | shaking _ active _ => simp [active] at idle
    | gone _ apart _ _ _ => simp [apart] at joined
    | @connected known _ agreed _ unasked length =>
        have same : known = version := by
          have both := agreed.state.symm.trans state
          cases both
          rfl
        subst same
        rw [if_neg (by simp [unasked])] at reaction
        unfold Grown
        split at reaction
        next subscribes =>
          obtain ⟨rfl, rfl⟩ := Prod.mk.inj reaction
          have capable :=
            Version.hasCapabilities_of_hasSubscription subscribes
          have grown :
              attachment request known ++
                  [subscription client.options.watchType] =
                opening client.options.watchType request known := by
            rw [opening, if_pos subscribes, attachment, if_pos capable]
            rfl
          have talk :
              Talk request
                { client with
                  awaiting := true
                  activity := .subscribing connection .sending }
                heard (opening client.options.watchType request known) [] :=
            .subscribing (agreed.update _ _) rfl rfl subscribes
              (by simp [length, attachment, capable])
          rw [← grown] at talk
          simpa [subscription] using talk
        next silent =>
          obtain ⟨rfl, rfl⟩ := Prod.mk.inj reaction
          have talk :
              Talk request { client with awaiting := true, activity := .idle }
                heard (opening client.options.watchType request known)
                [CycleStream.new connection] := by
            refine .served (agreed.update _ _) rfl rfl ?_
            rw [length, ← opening_of_silent client.options.watchType
              (by simpa using silent), length_opening]
          rw [opening_of_silent _ (by simpa using silent)] at talk
          simpa [Consumer.handedOut?] using talk
    | subscribing _ active _ _ _ => simp [active] at idle
    | stuck agreed _ asked =>
        rw [if_pos asked] at reaction
        exact grown_of_finish (.stuck agreed idle asked) idle rfl rfl reaction
    | served agreed _ asked length =>
        rw [if_pos asked] at reaction
        exact grown_of_finish (.served agreed idle asked length) idle rfl rfl
          reaction
  next => exact grown_of_finish talk idle rfl rfl reaction

/-- How a step of the subscription ends that hands nothing out. -/
theorem grown_of_stuck
    {version : Version} {outcome : Outcome}
    (agreed : Agreed client heard version)
    (asked : client.awaiting = true)
    (fruitless : Consumer.handedOut? (.finish outcome) = none)
    (reaction : finish client outcome = (next, effects)) :
    Grown request event heard
      (opening client.options.watchType request version) [] next effects := by
  obtain ⟨rfl, rfl⟩ := Prod.mk.inj reaction
  have talk :
      Talk request { client with activity := .idle }
        (heard ++ event.heard?.toList)
        (opening client.options.watchType request version) [] :=
    .stuck ((agreed.update client.awaiting .idle).append _) rfl asked
  unfold Grown
  simpa [fruitless] using talk

/-- Only a client in its handshake waits for a stage. -/
theorem Talk.of_shaking
    {connection : ConnectionId} {own : CapabilityRequest} {stage : Stage}
    (talk : Talk request client heard said streams)
    (active : client.activity = .shaking connection own stage) :
    own = request ∧ streams = [] ∧ Joining client connection ∧
      Standing client.options.supported request stage heard said := by
  cases talk with
  | shaking joining shaking standing =>
      rw [shaking] at active
      cases active
      exact ⟨rfl, rfl, joining, standing⟩
  | subscribing _ subscribing _ _ _ => simp [subscribing] at active
  | gone _ _ _ inactive _ =>
      rcases inactive with idle | ⟨error, abandoning⟩
      · simp [idle] at active
      · simp [abandoning] at active
  | fresh _ _ _ _ _ idle => simp [idle] at active
  | connected _ idle _ _ => simp [idle] at active
  | stuck _ idle _ => simp [idle] at active
  | served _ idle _ _ => simp [idle] at active

/-- Only a client that is attached waits for its subscription. -/
theorem Talk.of_subscribing
    {connection : ConnectionId} {step : Subscription}
    (talk : Talk request client heard said streams)
    (active : client.activity = .subscribing connection step) :
    ∃ version, Agreed client heard version ∧ client.awaiting = true ∧
      version.hasSubscription = true ∧ heard.length = 2 ∧
      said = opening client.options.watchType request version ∧
      streams = [] := by
  cases talk with
  | @subscribing version _ _ _ agreed _ asked subscribes length =>
      exact ⟨version, agreed, asked, subscribes, length, rfl, rfl⟩
  | shaking _ shaking _ => simp [shaking] at active
  | gone _ _ _ inactive _ =>
      rcases inactive with idle | ⟨error, abandoning⟩
      · simp [idle] at active
      · simp [abandoning] at active
  | fresh _ _ _ _ _ idle => simp [idle] at active
  | connected _ idle _ _ => simp [idle] at active
  | stuck _ idle _ => simp [idle] at active
  | served _ idle _ _ => simp [idle] at active

/-- Only a client that gave up waits for its connection to close. -/
theorem Talk.of_ending
    (talk : Talk request client heard said streams)
    (ending :
      (∃ error, client.activity = .abandoning error) ∨
        client.activity = .disconnecting) :
    client.nextConnection = 1 ∧ client.connection = none ∧
      client.state = .disconnected ∧ streams = [] ∧
      Uttered client.options.supported client.options.watchType request
        heard said := by
  cases talk with
  | gone used apart state _ uttered =>
      exact ⟨used, apart, state, rfl, uttered⟩
  | shaking _ shaking _ => simp [shaking] at ending
  | subscribing _ subscribing _ _ _ => simp [subscribing] at ending
  | fresh _ _ _ _ _ idle => simp [idle] at ending
  | connected _ idle _ _ => simp [idle] at ending
  | stuck _ idle _ => simp [idle] at ending
  | served _ idle _ _ => simp [idle] at ending

theorem grown_of_sent
    {result : Except TransportError Unit}
    (talk : Talk request client heard said streams)
    (reaction : sent client result = some (next, effects)) :
    Grown request (.sent result) heard said streams next effects := by
  unfold sent at reaction
  split at reaction
  next connection own stage active =>
    obtain ⟨rfl, rfl, joining, standing⟩ := talk.of_shaking active
    exact grown_of_handshakeSent joining standing (Option.some.inj reaction)
  next connection active =>
    obtain ⟨version, agreed, asked, subscribes, length, rfl, rfl⟩ :=
      talk.of_subscribing active
    cases result with
    | error error =>
        exact grown_of_stuck agreed asked rfl (Option.some.inj reaction)
    | ok _ =>
        obtain ⟨rfl, rfl⟩ := Prod.mk.inj (Option.some.inj reaction)
        unfold Grown
        simpa using Talk.subscribing
          (agreed.update client.awaiting (.subscribing connection .awaiting))
          rfl asked subscribes length
  next => simp at reaction

theorem grown_of_received
    {result : Receipt} (talk : Talk request client heard said streams)
    (reaction : received client result = some (next, effects)) :
    Grown request (.received result) heard said streams next effects := by
  unfold received at reaction
  split at reaction
  next connection own stage active =>
    obtain ⟨rfl, rfl, joining, standing⟩ := talk.of_shaking active
    exact grown_of_handshakeReceived joining standing
      (Option.some.inj reaction)
  next connection active =>
    obtain ⟨version, agreed, asked, subscribes, length, rfl, rfl⟩ :=
      talk.of_subscribing active
    split at reaction
    next => exact grown_of_stuck agreed asked rfl (Option.some.inj reaction)
    next message =>
      split at reaction
      next confirmed =>
        obtain ⟨rfl, rfl⟩ := Prod.mk.inj (Option.some.inj reaction)
        unfold Grown
        simpa [Consumer.handedOut?] using Talk.served
          ((agreed.update client.awaiting .idle).append [.ok message])
          rfl asked (by simp [length, Version.rounds_eq, subscribes])
      next => exact grown_of_stuck agreed asked rfl (Option.some.inj reaction)
  next => simp at reaction

theorem grown_of_closed
    {result : Except TransportError Unit}
    (talk : Talk request client heard said streams)
    (reaction : closed client result = some (next, effects)) :
    Grown request (.closed result) heard said streams next effects := by
  have gone :
      ∀ outcome : Outcome,
        (∃ error, client.activity = .abandoning error) ∨
            client.activity = .disconnecting →
          Consumer.handedOut? (.finish outcome) = none →
            finish client outcome = (next, effects) →
              Grown request (.closed result) heard said streams next
                effects := by
    intro outcome ending fruitless ended
    obtain ⟨used, apart, state, rfl, uttered⟩ := talk.of_ending ending
    obtain ⟨rfl, rfl⟩ := Prod.mk.inj ended
    have after :
        Talk request { client with activity := .idle } heard said [] :=
      .gone used apart state (.inl rfl) uttered
    unfold Grown
    simpa [fruitless] using after
  unfold closed at reaction
  split at reaction
  next error active =>
    exact gone _ (.inl ⟨error, active⟩) rfl (Option.some.inj reaction)
  next active =>
    exact gone _ (.inr active) rfl (Option.some.inj reaction)
  next => simp at reaction

/-- The calls that a client may get on its first connection. -/
def Event.Staying (request : CapabilityRequest) (client : Client) :
    Event → Prop
  | .attach other =>
      other = request ∧
        (client.nextConnection = 0 ∨ client.connection.isSome)
  | .disconnect => False
  | _ => True

/-- Every step of a client that stays keeps the history. -/
theorem talk_step
    (talk : Talk request client heard said streams)
    (staying : event.Staying request client)
    (stepped : client.step event = some (next, effects)) :
    Talk request next (heard ++ event.heard?.toList)
      (said ++ messages effects) (streams ++ handedOut effects) := by
  cases event with
  | attach other =>
      obtain ⟨rfl, allowed⟩ := staying
      simp only [step] at stepped
      split at stepped
      next idle =>
        exact grown_of_attach talk idle allowed (Option.some.inj stepped)
      next => simp at stepped
  | disconnect => exact staying.elim
  | awaitCycles =>
      simp only [step] at stepped
      split at stepped
      next idle =>
        exact grown_of_awaitCycles talk idle (Option.some.inj stepped)
      next => simp at stepped
  | sent result => exact grown_of_sent talk stepped
  | received result => exact grown_of_received talk stepped
  | closed result => exact grown_of_closed talk stepped

/-- Whatever becomes of a client, its messages are those of its opening. -/
theorem Talk.uttered
    (talk : Talk request client heard said streams) :
    Uttered client.options.supported client.options.watchType request heard
      said := by
  cases talk with
  | fresh _ _ _ _ _ _ =>
      exact ⟨.legacy, List.nil_prefix, fun spoken => absurd rfl spoken⟩
  | shaking _ _ standing => exact standing.uttered
  | gone _ _ _ _ uttered => exact uttered
  | @connected version _ agreed _ _ _ =>
      exact ⟨version, opening_of_attachment .., fun _ => agreed.offered⟩
  | @subscribing version _ _ _ agreed _ _ _ _ =>
      exact ⟨version, List.prefix_rfl, fun _ => agreed.offered⟩
  | @stuck version _ agreed _ _ =>
      exact ⟨version, List.prefix_rfl, fun _ => agreed.offered⟩
  | @served version _ _ agreed _ _ _ =>
      exact ⟨version, List.prefix_rfl, fun _ => agreed.offered⟩

/-- At most one stream is handed out. -/
theorem Talk.streams_eq
    (talk : Talk request client heard said streams) :
    streams = [] ∨
      ∃ connection, streams = [CycleStream.new connection] := by
  cases talk with
  | @served version connection _ _ _ _ _ => exact .inr ⟨connection, rfl⟩
  | _ => exact .inl rfl

/-- A client whose stream is handed out leaves the connection to it. -/
theorem quiet_of_served
    {connection : ConnectionId}
    (talk : Talk request client heard said [CycleStream.new connection])
    (staying : event.Staying request client)
    (stepped : client.step event = some (next, effects)) :
    event.heard? = none ∧ messages effects = [] ∧ handedOut effects = [] := by
  cases talk with
  | served agreed idle asked length =>
      obtain ⟨own, joined⟩ := agreed.joined
      cases event with
      | attach other =>
          simp only [step, if_pos idle, attach, joined] at stepped
          obtain ⟨rfl, rfl⟩ := Prod.mk.inj (Option.some.inj stepped)
          exact ⟨rfl, rfl, rfl⟩
      | disconnect => exact staying.elim
      | awaitCycles =>
          simp only [step, if_pos idle, awaitCycles, joined, agreed.state,
            if_pos asked] at stepped
          obtain ⟨rfl, rfl⟩ := Prod.mk.inj (Option.some.inj stepped)
          exact ⟨rfl, rfl, rfl⟩
      | sent result => simp [step, sent, idle] at stepped
      | received result => simp [step, received, idle] at stepped
      | closed result => simp [step, closed, idle] at stepped

/-- Whether a client has hung up. -/
def Parted (client : Client) : Prop :=
  client.nextConnection = 1 ∧ client.connection = none

/-- A client that hung up does not come back and sends nothing more. -/
theorem parted_step
    (parted : Parted client)
    (talk : Talk request client heard said streams)
    (staying : event.Staying request client)
    (stepped : client.step event = some (next, effects)) :
    Parted next ∧ messages effects = [] := by
  obtain ⟨used, apart⟩ := parted
  cases talk with
  | gone _ _ state inactive _ =>
      cases event with
      | attach other =>
          obtain ⟨_, unused | joined⟩ := staying
          · simp [used] at unused
          · simp [apart] at joined
      | disconnect => exact staying.elim
      | awaitCycles =>
          simp only [step, awaitCycles, apart] at stepped
          split at stepped
          next =>
            obtain ⟨rfl, rfl⟩ := Prod.mk.inj (Option.some.inj stepped)
            exact ⟨⟨used, apart⟩, rfl⟩
          next => simp at stepped
      | sent result =>
          rcases inactive with idle | ⟨error, abandoning⟩
          · simp [step, sent, idle] at stepped
          · simp [step, sent, abandoning] at stepped
      | received result =>
          rcases inactive with idle | ⟨error, abandoning⟩
          · simp [step, received, idle] at stepped
          · simp [step, received, abandoning] at stepped
      | closed result =>
          rcases inactive with idle | ⟨error, abandoning⟩
          · simp [step, closed, idle] at stepped
          · simp only [step, closed, abandoning] at stepped
            obtain ⟨rfl, rfl⟩ := Prod.mk.inj (Option.some.inj stepped)
            exact ⟨⟨used, apart⟩, rfl⟩
  | fresh unused _ _ _ _ _ => simp [used] at unused
  | shaking joining _ _ => simp [joining.joined] at apart
  | connected agreed _ _ _ => exact absurd apart agreed.attached
  | subscribing agreed _ _ _ _ => exact absurd apart agreed.attached
  | stuck agreed _ _ => exact absurd apart agreed.attached
  | served agreed _ _ _ => exact absurd apart agreed.attached

end Client

end BuildWatch
