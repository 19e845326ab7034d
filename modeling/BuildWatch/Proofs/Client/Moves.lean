import BuildWatch.Client
import BuildWatch.Proofs.Handshake
import BuildWatch.Proofs.Runs

/-!
# What the steps of a client come to

Every step of a client is one of a few moves: a call is turned away, a
handshake starts, goes on, breaks off or comes to an agreement, the client
hangs up, or it asks for its cycles.  A property of all steps is proved by one
case for each move.
-/

namespace BuildWatch

/-- Only a version that has capabilities is asked about them. -/
def ClientHandshake.Stage.Apt : Stage → Prop
  | .sending (.request version) => version.hasCapabilities = true
  | .receiving (.grant version) => version.hasCapabilities = true
  | _ => True

namespace Client

open ClientHandshake

/-- Whether an event starts a call. -/
def Event.starts : Event → Bool
  | .attach _ => true
  | .disconnect => true
  | .awaitCycles => true
  | _ => false

/-- What effects say that calls came to. -/
def outcomes (effects : List Effect) : List Outcome :=
  effects.filterMap fun
    | .finish outcome => some outcome
    | _ => none

/-- The connections that effects close. -/
def hangUps (effects : List Effect) : List ConnectionId :=
  effects.filterMap fun
    | .close connection => some connection
    | _ => none

theorem outcomes_append (first second : List Effect) :
    outcomes (first ++ second) = outcomes first ++ outcomes second :=
  List.filterMap_append

theorem hangUps_append (first second : List Effect) :
    hangUps (first ++ second) = hangUps first ++ hangUps second :=
  List.filterMap_append

/-- How an event breaks a handshake off. -/
inductive Breaks (client : Client) : Event → ProtocolError → Prop where
  | unsent {connection : ConnectionId} {request : CapabilityRequest}
      {stage : Sending} {error : TransportError}
      (active :
        client.activity = .shaking connection request (.sending stage)) :
      Breaks client (.sent (.error error)) (ProtocolError.ofTransport error)
  | unreceived {connection : ConnectionId} {request : CapabilityRequest}
      {stage : Receiving} {error : TransportError}
      (active :
        client.activity = .shaking connection request (.receiving stage)) :
      Breaks client (.received (.error error))
        (ProtocolError.ofTransport error)
  /-- Capabilities are asked for that the version does not have. -/
  | demanding {connection : ConnectionId} {request : CapabilityRequest}
      {version : Version}
      (active :
        client.activity =
          .shaking connection request (.sending (.choose version)))
      (incapable : version.hasCapabilities = false)
      (wishes : request.isEmpty = false) :
      Breaks client (.sent (.ok ())) (.capabilitiesUnsupported version)
  /-- The message is not the one that the stage asks for. -/
  | refused {connection : ConnectionId} {request : CapabilityRequest}
      {stage : Receiving} {message : Message} {error : ProtocolError}
      (active :
        client.activity = .shaking connection request (.receiving stage))
      (refusal :
        stage.received client.options.supported message = .error error) :
      Breaks client (.received (.ok message)) error

/-- What a step of a client comes to. -/
inductive Move (client : Client) : Event → Client → List Effect → Prop where
  | refused {request : CapabilityRequest}
      (idle : client.activity = .idle)
      (joined : client.connection.isSome) :
      Move client (.attach request) client
        [.finish (.attached (.error .alreadyConnected))]
  /-- A handshake starts. -/
  | joined {request : CapabilityRequest}
      (idle : client.activity = .idle) (apart : client.connection = none) :
      Move client (.attach request)
        { client with
          state := .negotiating
          connection := some client.nextConnection
          nextConnection := client.nextConnection + 1
          activity := .shaking client.nextConnection request start }
        [.receive client.nextConnection]
  /-- There is nobody to hang up on. -/
  | missed (idle : client.activity = .idle)
      (apart : client.connection = none) :
      Move client .disconnect client
        [.finish (.disconnected (.error .notConnected))]
  | parted {connection : ConnectionId}
      (idle : client.activity = .idle)
      (joined : client.connection = some connection) :
      Move client .disconnect
        { client.forget with activity := .disconnecting } [.close connection]
  /-- A call for the cycles finds none to ask for. -/
  | turnedAway {error : ProtocolError} (idle : client.activity = .idle) :
      Move client .awaitCycles client [.finish (.awaited (.error error))]
  /-- The cycles are asked for. -/
  | asked {version : Version} {activity : ClientActivity}
      {effects : List Effect}
      (idle : client.activity = .idle)
      (state : client.state = .connected version)
      (waits :
        activity = .idle ∨
          ∃ connection, activity = .subscribing connection .sending) :
      Move client .awaitCycles { client with awaiting := true, activity }
        effects
  /-- The subscription goes on, or it is over. -/
  | subscribed {event : Event} {connection : ConnectionId}
      {subscription : Subscription} {activity : ClientActivity}
      {effects : List Effect}
      (active : client.activity = .subscribing connection subscription)
      (answers : event.starts = false)
      (waits :
        activity = .idle ∨ activity = .subscribing connection .awaiting) :
      Move client event { client with activity } effects
  /-- The handshake gets to a stage. -/
  | entered {event : Event} {connection : ConnectionId}
      {request : CapabilityRequest} {stage next : Stage}
      {effects : List Effect}
      (active : client.activity = .shaking connection request stage)
      (answers : event.starts = false)
      (apt : stage.Apt → next.Apt)
      (quiet : outcomes effects = [] ∧ hangUps effects = []) :
      Move client event
        { client.reach next with
          activity := .shaking connection request next }
        effects
  /-- The handshake comes to an agreement. -/
  | agreed {event : Event} {connection : ConnectionId}
      {request : CapabilityRequest} {stage : Stage} {agreement : Agreement}
      (active : client.activity = .shaking connection request stage)
      (answers : event.starts = false)
      (apt :
        stage.Apt →
          agreement.capabilities.isSome = agreement.version.hasCapabilities) :
      Move client event
        { client with
          state := .connected agreement.version
          version := some agreement.version
          capabilities := agreement.capabilities
          activity := .idle }
        [.finish (.attached (.ok ()))]
  /-- The handshake breaks off. -/
  | broken {event : Event} {connection : ConnectionId}
      {request : CapabilityRequest} {stage : Stage} {error : ProtocolError}
      (active : client.activity = .shaking connection request stage)
      (breaks : Breaks client event error) :
      Move client event
        { client.forget with activity := .abandoning error }
        [.close connection]
  /-- The connection of a handshake that broke off is closed. -/
  | gaveUp {error : ProtocolError} {result : Except TransportError Unit}
      (active : client.activity = .abandoning error) :
      Move client (.closed result) { client with activity := .idle }
        [.finish (.attached (.error error))]
  /-- The connection that the caller is done with is closed. -/
  | hungUp {result : Except TransportError Unit}
      (active : client.activity = .disconnecting) :
      Move client (.closed result) { client with activity := .idle }
        [.finish
          (.disconnected (result.mapError ProtocolError.ofTransport))]

/-! ## Every step is a move -/

variable {client next : Client} {event : Event} {effects : List Effect}

/-- A client between two calls waits for nothing. -/
theorem with_idle (idle : client.activity = .idle) :
    { client with activity := .idle } = client := by
  rw [← idle]

/-- A call that ends at once leaves the client as it is. -/
theorem finish_of_idle
    (idle : client.activity = .idle) (outcome : Outcome) :
    finish client outcome = (client, [.finish outcome]) := by
  simp only [finish, with_idle idle]

/-- What is sent in a handshake takes it to a stage or to an agreement. -/
theorem move_of_handshakeSent
    {connection : ConnectionId} {request : CapabilityRequest}
    {stage : Sending} {result : Except TransportError Unit}
    (active :
      client.activity = .shaking connection request (.sending stage))
    (reaction :
      proceed client connection request (do
        result.mapError ProtocolError.ofTransport
        stage.sent request) = (next, effects)) :
    Move client (.sent result) next effects := by
  match result with
  | .error error =>
      obtain ⟨rfl, rfl⟩ := Prod.mk.inj reaction
      exact .broken active (.unsent active)
  | .ok () =>
      change proceed client connection request (stage.sent request) = _
        at reaction
      cases stage with
      | choose version =>
          rw [Sending.sent] at reaction
          split at reaction
          next capable =>
            obtain ⟨rfl, rfl⟩ := Prod.mk.inj reaction
            exact .entered active rfl (fun _ => capable) ⟨rfl, rfl⟩
          next incapable =>
            split at reaction
            next modest =>
              obtain ⟨rfl, rfl⟩ := Prod.mk.inj reaction
              exact .agreed active rfl fun _ => by simpa using incapable
            next wishes =>
              obtain ⟨rfl, rfl⟩ := Prod.mk.inj reaction
              exact .broken active
                (.demanding active (by simpa using incapable)
                  (by simpa using wishes))
      | request version =>
          obtain ⟨rfl, rfl⟩ := Prod.mk.inj reaction
          exact .entered active rfl id ⟨rfl, rfl⟩

/-- What is received in a handshake does as well. -/
theorem move_of_handshakeReceived
    {connection : ConnectionId} {request : CapabilityRequest}
    {stage : Receiving} {result : Except TransportError Message}
    (active :
      client.activity = .shaking connection request (.receiving stage))
    (reaction :
      proceed client connection request (do
        let message ← result.mapError ProtocolError.ofTransport
        stage.received client.options.supported message) =
          (next, effects)) :
    Move client (.received result) next effects := by
  match result with
  | .error error =>
      obtain ⟨rfl, rfl⟩ := Prod.mk.inj reaction
      exact .broken active (.unreceived active)
  | .ok message =>
      change proceed client connection request
        (stage.received client.options.supported message) = _ at reaction
      cases received :
          stage.received client.options.supported message with
      | error error =>
          rw [received] at reaction
          obtain ⟨rfl, rfl⟩ := Prod.mk.inj reaction
          exact .broken active (.refused active received)
      | ok progress =>
          rw [received] at reaction
          cases stage with
          | offer =>
              obtain ⟨_, version, _, _, rfl⟩ :=
                received_offer_iff.mp received
              obtain ⟨rfl, rfl⟩ := Prod.mk.inj reaction
              exact .entered active rfl id ⟨rfl, rfl⟩
          | grant version =>
              obtain ⟨_, capabilities, _, _, rfl⟩ :=
                received_grant_iff.mp received
              obtain ⟨rfl, rfl⟩ := Prod.mk.inj reaction
              exact .agreed active rfl fun capable => capable.symm

theorem move_of_awaitCycles
    (idle : client.activity = .idle)
    (reaction : awaitCycles client = (next, effects)) :
    Move client .awaitCycles next effects := by
  unfold awaitCycles at reaction
  split at reaction
  next connection version joined state =>
    split at reaction
    next again =>
      rw [finish_of_idle idle] at reaction
      obtain ⟨rfl, rfl⟩ := Prod.mk.inj reaction
      exact .turnedAway idle
    next first =>
      split at reaction
      next subscribes =>
        obtain ⟨rfl, rfl⟩ := Prod.mk.inj reaction
        exact .asked idle state (.inr ⟨connection, rfl⟩)
      next silent =>
        obtain ⟨rfl, rfl⟩ := Prod.mk.inj reaction
        exact .asked idle state (.inl rfl)
  next =>
    rw [finish_of_idle idle] at reaction
    obtain ⟨rfl, rfl⟩ := Prod.mk.inj reaction
    exact .turnedAway idle

/-- Every step of a client is a move. -/
theorem move_of_step (stepped : client.step event = some (next, effects)) :
    Move client event next effects := by
  cases event with
  | attach request =>
      simp only [step] at stepped
      split at stepped
      next idle =>
        have reaction := Option.some.inj stepped
        unfold attach at reaction
        split at reaction
        next connection joined =>
          rw [finish_of_idle idle] at reaction
          obtain ⟨rfl, rfl⟩ := Prod.mk.inj reaction
          exact .refused idle (by simp [joined])
        next apart =>
          obtain ⟨rfl, rfl⟩ := Prod.mk.inj reaction
          exact .joined idle apart
      next => simp at stepped
  | disconnect =>
      simp only [step] at stepped
      split at stepped
      next idle =>
        have reaction := Option.some.inj stepped
        unfold disconnect at reaction
        split at reaction
        next apart =>
          rw [finish_of_idle idle] at reaction
          obtain ⟨rfl, rfl⟩ := Prod.mk.inj reaction
          exact .missed idle apart
        next connection joined =>
          obtain ⟨rfl, rfl⟩ := Prod.mk.inj reaction
          exact .parted idle joined
      next => simp at stepped
  | awaitCycles =>
      simp only [step] at stepped
      split at stepped
      next idle => exact move_of_awaitCycles idle (Option.some.inj stepped)
      next => simp at stepped
  | sent result =>
      simp only [step, sent] at stepped
      split at stepped
      next connection request stage active =>
        exact move_of_handshakeSent active (Option.some.inj stepped)
      next connection active =>
        split at stepped
        next error =>
          obtain ⟨rfl, rfl⟩ := Prod.mk.inj (Option.some.inj stepped)
          exact .subscribed active rfl (.inl rfl)
        next =>
          obtain ⟨rfl, rfl⟩ := Prod.mk.inj (Option.some.inj stepped)
          exact .subscribed active rfl (.inr rfl)
      next => simp at stepped
  | received result =>
      simp only [step, received] at stepped
      split at stepped
      next connection request stage active =>
        exact move_of_handshakeReceived active (Option.some.inj stepped)
      next connection active =>
        repeat' split at stepped
        all_goals
          obtain ⟨rfl, rfl⟩ := Prod.mk.inj (Option.some.inj stepped)
          exact .subscribed active rfl (.inl rfl)
      next => simp at stepped
  | closed result =>
      simp only [step, closed] at stepped
      split at stepped
      next error active =>
        obtain ⟨rfl, rfl⟩ := Prod.mk.inj (Option.some.inj stepped)
        exact .gaveUp active
      next active =>
        obtain ⟨rfl, rfl⟩ := Prod.mk.inj (Option.some.inj stepped)
        exact .hungUp active
      next => simp at stepped

/-! ## What no step changes -/

@[simp]
theorem options_reach (client : Client) (stage : Stage) :
    (client.reach stage).options = client.options := by
  unfold reach
  split <;> rfl

@[simp]
theorem connection_reach (client : Client) (stage : Stage) :
    (client.reach stage).connection = client.connection := by
  unfold reach
  split <;> rfl

/-- No step changes how a client is set up. -/
theorem options_step (stepped : client.step event = some (next, effects)) :
    next.options = client.options := by
  cases move_of_step stepped with
  | entered active answers apt quiet => exact options_reach client _
  | _ => rfl

end Client

end BuildWatch
