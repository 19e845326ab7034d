import BuildWatch.Proofs.Dialogue.Voices

/-!
# Both sides agree

No side of a dialogue is ever surprised by what the other side says in the
handshake, and whatever the two settle on is the same on both sides: the
first version of the server that the client supports, and the capabilities
that the request of the client means.
-/

namespace BuildWatch

/-- Whether an error says that the peer broke the handshake. -/
def ProtocolError.blamesPeer : ProtocolError → Bool
  | .unexpectedMessage _ _ => true
  | .unsupportedVersion _ _ => true
  | .decode _ => true
  | .capability _ => true
  | _ => false

/-- The error by which an event fails the handshake of a server. -/
def Server.handshakeError? (server : Server) :
    Server.Event → Option ProtocolError
  | .handshakeSent (.error error) => some (ProtocolError.ofTransport error)
  | .handshakeReceived result =>
      match server.reception with
      | .shaking _ (.receiving stage) =>
          match (result.mapError ProtocolError.ofTransport).bind
            (stage.received server.options.supported) with
          | .error error => some error
          | .ok _ => none
      | _ => none
  | _ => none

namespace Client

variable {client : Client} {request : CapabilityRequest}
  {heard : List Receipt} {said : List Message} {streams : List CycleStream}

/-- A client that is connected has agreed with its server. -/
theorem Talk.agreed
    {version : Version}
    (talk : Talk request client heard said streams)
    (connected : client.state = .connected version) :
    Agreed client heard version := by
  have same :
      ∀ {own : Version}, Agreed client heard own →
        Agreed client heard version := by
    intro own agreed
    have state := agreed.state
    rw [connected] at state
    cases state
    exact agreed
  cases talk with
  | fresh _ _ state _ _ _ => simp [connected] at state
  | shaking joining _ _ =>
      have unconnected := joining.unconnected
      simp [isConnected, connected] at unconnected
  | gone _ _ state _ _ => simp [connected] at state
  | connected agreed _ _ _ => exact same agreed
  | subscribing agreed _ _ _ _ => exact same agreed
  | stuck agreed _ _ => exact same agreed
  | served agreed _ _ _ => exact same agreed

/-- A client receives only in its handshake and behind its subscription. -/
theorem receiving_of_step
    {receipt : Receipt} {next : Client} {effects : List Effect}
    (stepped : client.step (.received receipt) = some (next, effects)) :
    (∃ connection request stage,
        client.activity =
          .shaking connection request (.receiving stage)) ∨
      ∃ connection,
        client.activity = .subscribing connection .awaiting := by
  simp only [step, received] at stepped
  split at stepped
  next connection request stage active =>
    exact .inl ⟨connection, request, stage, active⟩
  next connection active => exact .inr ⟨connection, active⟩
  next => simp at stepped

end Client

theorem Consumer.Phase.agreed
    {request : CapabilityRequest} {consumer : Consumer}
    {journal : List Consumer.Entry} {version : Version}
    (phase : Phase request consumer journal)
    (connected : consumer.client.state = .connected version) :
    Client.Agreed consumer.client (heard journal) version := by
  cases phase with
  | before talk streamless unfollowed => exact talk.agreed connected
  | behind talk single ran listened spoke =>
      rw [listened]
      exact (talk.agreed connected).append _

namespace Dialogue

section Agreement

variable {server : ServerOptions} {client : ClientOptions}
  {request : CapabilityRequest} {dialogue : Dialogue}
  {journal : List Entry}

/-! ## What the two settle on -/

/-- The version of a client is the first that both sides support. -/
theorem Joint.selected_of_connected
    (joint : Joint server client request dialogue journal)
    {version : Version}
    (connected : dialogue.consumer.client.state = .connected version) :
    Version.select server.supported client.supported = some version := by
  have agreed := joint.consumer.phase.agreed connected
  have offered := agreed.offered
  rw [joint.consumer.same] at offered
  exact joint.selected offered

/-- What the server knows of its session. -/
theorem Joint.settled
    (joint : Joint server client request dialogue journal)
    {session : Session} (found : dialogue.server.session = some session) :
    ServerHandshake.Settled server.supported
      (Server.shakes (served journal)) (Server.said (served journal))
      session := by
  have course := joint.server_course
  rw [← course.same]
  exact course.talk.settled session found

/-- The version of a session is the first that both sides support. -/
theorem Joint.selected_of_session
    (joint : Joint server client request dialogue journal)
    {session : Session} (found : dialogue.server.session = some session) :
    Version.select server.supported client.supported =
      some session.version :=
  joint.chosen (joint.settled found).chosen

/-- A client on a version with capabilities has those of its request. -/
theorem Joint.client_capabilities
    (joint : Joint server client request dialogue journal)
    (fit : request.Fits) {version : Version} {capabilities : Capabilities}
    (accepted :
      Capabilities.ofWire (some (Json.object request.toWire)) =
        .ok capabilities)
    (connected : dialogue.consumer.client.state = .connected version)
    (capable : version.hasCapabilities = true) :
    dialogue.consumer.client.capabilities = some capabilities := by
  have agreed := joint.consumer.phase.agreed connected
  obtain ⟨own, known, message, granted, found, body, meaning⟩ :=
    agreed.capable capable
  obtain ⟨answer, equal, said⟩ :=
    joint.grant_heard fit accepted (joint.selected_of_connected connected)
      capable found
  cases equal
  rw [body] at said
  cases said
  have canonical := Capabilities.canonical_of_ofWire accepted
  rw [Capabilities.ofWire_toWire canonical] at meaning
  rw [known, Except.ok.inj meaning]

/-- A session on a version with capabilities has those of the request. -/
theorem Joint.session_capabilities
    (joint : Joint server client request dialogue journal)
    (fit : request.Fits) {session : Session} {capabilities : Capabilities}
    (accepted :
      Capabilities.ofWire (some (Json.object request.toWire)) =
        .ok capabilities)
    (found : dialogue.server.session = some session)
    (capable : session.version.hasCapabilities = true) :
    session.capabilities = some capabilities := by
  obtain ⟨trace, own, news, _, _, granted⟩ := (joint.settled found).spoken
  obtain ⟨known, requested⟩ := granted capable
  rw [known, joint.requested fit accepted (joint.selected_of_session found)
    capable requested]

/-! ## Failures of the server -/

/-- What a stage of the server makes of what it finds on the connection. -/
theorem Joint.received_stage
    (joint : Joint server client request dialogue journal)
    (fit : request.Fits) {capabilities : Capabilities}
    (accepted :
      Capabilities.ofWire (some (Json.object request.toWire)) =
        .ok capabilities)
    {stage : ServerHandshake.Receiving} {trace : TraceContext}
    {shakes : List Receipt} {said : List Message} {receipt : Receipt}
    (standing :
      ServerHandshake.Standing server.supported trace (.receiving stage)
        shakes said)
    (chosen :
      ∀ version, ServerHandshake.Chosen server.supported shakes version →
        Version.select server.supported client.supported = some version)
    (found :
      (Server.heard (served journal))[shakes.length]? = some receipt) :
    receipt = .error .closed ∨
      ∃ message, receipt = .ok message ∧
        ∃ progress,
          stage.received server.supported message = .ok progress := by
  cases stage with
  | choice =>
      rw [standing.of_choice] at found
      rcases joint.choice_heard found with
        missed | ⟨version, equal, selected⟩
      · exact .inl missed
      · have member := (Version.mem_of_select_eq_some selected).1
        exact .inr ⟨_, equal, _,
          ServerHandshake.received_choice_iff.mpr ⟨version, member, rfl, rfl⟩⟩
  | request version =>
      obtain ⟨length, picked, capable⟩ := standing.of_request
      rw [length] at found
      rcases joint.wish_heard fit (chosen version picked) capable found with
        missed | equal
      · exact .inl missed
      · exact .inr ⟨_, equal, _,
          ServerHandshake.received_request_iff.mpr
            ⟨_, capabilities, rfl, accepted, rfl⟩⟩
  | subscription version own =>
      obtain ⟨length, picked, subscribes⟩ := standing.of_subscription
      rw [length] at found
      rcases joint.subscription_heard (chosen version picked) subscribes
        found with missed | equal
      · exact .inl missed
      · exact .inr ⟨_, equal, _,
          ServerHandshake.received_subscription_iff.mpr ⟨_, rfl, rfl⟩⟩

/-- The handshake of the server never fails because of the client. -/
theorem Joint.blameless_server
    (joint : Joint server client request dialogue journal)
    (fit : request.Fits) {capabilities : Capabilities}
    (accepted :
      Capabilities.ofWire (some (Json.object request.toWire)) =
        .ok capabilities)
    {event : Server.Event} {after : Server} {effects : List Server.Effect}
    {inward : List String} {error : ProtocolError}
    (fed : Feeds dialogue event.heard? inward)
    (sent : ∀ error, unsent? event = some error →
      dialogue.hungUp = true ∧ ∃ kind, error = .io kind)
    (reaction : dialogue.server.step event = some (after, effects))
    (failed : dialogue.server.handshakeError? event = some error) :
    error.blamesPeer = false := by
  cases event with
  | handshakeSent result =>
      cases result with
      | ok _ => simp [Server.handshakeError?] at failed
      | error own =>
          obtain ⟨_, kind, rfl⟩ := sent own rfl
          cases failed
          rfl
  | handshakeReceived receipt =>
      simp only [Server.handshakeError?] at failed
      split at failed
      next trace stage waiting =>
        have course := joint.server_course
        have standing := course.talk.standing trace _ waiting
        have unset :=
          course.orderly.session_eq_none (by rw [waiting]; rfl)
        have heard :
            Server.heard (served journal) =
              Server.shakes (served journal) := by
          rw [course.heard, course.unanswered unset, List.append_nil]
        have later := joint_server joint fed sent reaction
        have found :
            (Server.heard
              (served
                (journal ++
                  (Server.entries after (.handshakeReceived receipt)
                    effects).map .server)))[(Server.shakes
                      (served journal)).length]? = some receipt := by
          rw [served_append_server, Server.heard_append, heard,
            Server.heard_entries]
          simp
        rw [course.same] at standing failed
        rcases later.received_stage fit accepted standing
            (fun version => joint.chosen) found with
          rfl | ⟨message, rfl, progress, follows⟩
        · cases failed
          rfl
        · simp [Except.mapError, Except.bind, follows] at failed
      next => simp at failed
  | _ => simp [Server.handshakeError?] at failed

/-! ## Failures of the client -/

/-- What a client makes of what it finds on the connection. -/
theorem Joint.blameless_received
    (joint : Joint server client request dialogue journal)
    (fit : request.Fits) {capabilities : Capabilities}
    (accepted :
      Capabilities.ofWire (some (Json.object request.toWire)) =
        .ok capabilities)
    {receipt : Receipt} {after : Consumer}
    {effects : List Consumer.Effect} {outward : List String}
    {error : ProtocolError}
    (fed :
      Reads dialogue (Consumer.Event.client (.received receipt)).heard?
        outward)
    (reaction :
      dialogue.consumer.step (.client (.received receipt)) =
        some (after, effects))
    (fails : Client.Fails dialogue.consumer.client (.received receipt) error) :
    error.blamesPeer = false := by
  have later := joint_consumer joint fed rfl trivial reaction
  have found :
      (Consumer.heard
        (consumed
          (journal ++
            (Consumer.entries (.client (.received receipt)) effects).map
              .consumer)))[(Consumer.heard (consumed journal)).length]? =
        some receipt := by
    rw [consumed_append_consumer, Consumer.heard_append,
      Consumer.heard_entries]
    simp [Consumer.Event.heard?]
  simp only [Consumer.step, bind, Option.bind_eq_some_iff] at reaction
  obtain ⟨⟨own, more⟩, reacts, _⟩ := reaction
  have course := joint.consumer
  cases course.phase with
  | behind talk single ran listened spoke =>
      have staying :
          Client.Event.Staying request dialogue.consumer.client
            (.received receipt) := trivial
      obtain ⟨deaf, _⟩ := Client.quiet_of_served talk staying reacts
      cases deaf
  | before talk streamless unfollowed =>
      rcases Client.receiving_of_step reacts with
        ⟨connection, wished, stage, active⟩ | ⟨connection, active⟩
      · obtain ⟨_, _, joining, standing⟩ := talk.of_shaking active
        rw [course.same] at standing
        cases stage with
        | offer =>
            rw [standing.of_offer] at found
            cases later.offer_heard found
            cases fails with
            | refused shaking refusal =>
                rw [active] at shaking
                cases shaking
                simp only [ClientHandshake.Receiving.received,
                  Message.plain] at refusal
                split at refusal
                next => cases refusal
                next =>
                  cases refusal
                  rfl
            | unconfirmed subscribing other =>
                simp [active] at subscribing
        | grant version =>
            obtain ⟨length, offered, capable⟩ := standing.of_grant
            rw [length] at found
            obtain ⟨message, rfl, body⟩ :=
              later.grant_heard fit accepted (joint.selected offered) capable
                found
            cases fails with
            | refused shaking refusal =>
                rw [active] at shaking
                cases shaking
                have meaning :=
                  Capabilities.ofWire_toWire
                    (Capabilities.canonical_of_ofWire accepted)
                simp [ClientHandshake.Receiving.received, body,
                  meaning] at refusal
            | unconfirmed subscribing other =>
                simp [active] at subscribing
      · obtain ⟨version, agreed, _, subscribes, length, _, _⟩ :=
          talk.of_subscribing active
        have offered := agreed.offered
        rw [course.same] at offered
        rw [length] at found
        cases later.confirmation_heard (joint.selected offered) subscribes
          found
        cases fails with
        | refused shaking refusal => simp [active] at shaking
        | unconfirmed subscribing other => exact absurd rfl other

/-- The handshake of the client never fails because of the server. -/
theorem Joint.blameless_client
    (joint : Joint server client request dialogue journal)
    (fit : request.Fits) {capabilities : Capabilities}
    (accepted :
      Capabilities.ofWire (some (Json.object request.toWire)) =
        .ok capabilities)
    {event : Client.Event} {after : Consumer}
    {effects : List Consumer.Effect} {outward : List String}
    {error : ProtocolError}
    (fed : Reads dialogue event.heard? outward)
    (sent : unsaid? (.client event) = none)
    (reaction :
      dialogue.consumer.step (.client event) = some (after, effects))
    (fails : Client.Fails dialogue.consumer.client event error) :
    error.blamesPeer = false := by
  cases fails with
  | unsent => simp [unsaid?] at sent
  | demanding => rfl
  | unreceived =>
      exact joint.blameless_received fit accepted fed reaction .unreceived
  | refused active refusal =>
      exact joint.blameless_received fit accepted fed reaction
        (.refused active refusal)
  | unconfirmed active other =>
      exact joint.blameless_received fit accepted fed reaction
        (.unconfirmed active other)

/-! ## Along a run -/

/-- The error that a call of the client ends with. -/
def failure? : Entry → Option ProtocolError
  | .consumer (.inr (.client (.finish (.attached (.error error))))) =>
      some error
  | .consumer (.inr (.client (.finish (.awaited (.error error))))) =>
      some error
  | _ => none

/-- The errors that calls of the client end with. -/
def failures (journal : List Entry) : List ProtocolError :=
  journal.filterMap failure?

/-- The client never blames the server. -/
structure Blameless (dialogue : Dialogue) (journal : List Entry) : Prop where
  abandoning :
    ∀ error, dialogue.consumer.client.activity = .abandoning error →
      error.blamesPeer = false
  failed : ∀ error ∈ failures journal, error.blamesPeer = false

theorem failures_server
    (entries : List Server.Entry) :
    failures (entries.map .server) = [] := by
  simp [failures, List.filterMap_map, Function.comp_def, failure?]

/-- Only a client fails. -/
theorem client_of_failures
    {event : Consumer.Event} {effects : List Consumer.Effect}
    {error : ProtocolError}
    (member :
      error ∈
        failures ((Consumer.entries event effects).map .consumer)) :
    .client (.finish (.attached (.error error))) ∈ effects ∨
      .client (.finish (.awaited (.error error))) ∈ effects := by
  obtain ⟨entry, inside, shown⟩ := List.mem_filterMap.mp member
  obtain ⟨own, place, rfl⟩ := List.mem_map.mp inside
  rcases List.mem_cons.mp place with rfl | last
  · simp [failure?] at shown
  · obtain ⟨effect, found, rfl⟩ := List.mem_map.mp last
    unfold failure? at shown
    split at shown
    next equal =>
      cases equal
      cases shown
      exact .inl found
    next equal =>
      cases equal
      cases shown
      exact .inr found
    next => simp at shown

theorem blameless_consumer
    (joint : Joint server client request dialogue journal)
    (blameless : Blameless dialogue journal)
    (fit : request.Fits) {capabilities : Capabilities}
    (accepted :
      Capabilities.ofWire (some (Json.object request.toWire)) =
        .ok capabilities)
    {event : Consumer.Event} {after : Consumer}
    {effects : List Consumer.Effect} {outward : List String}
    (fed : Reads dialogue event.heard? outward)
    (sent : unsaid? event = none)
    (staying : event.Staying dialogue.request dialogue.consumer)
    (reaction : dialogue.consumer.step event = some (after, effects)) :
    (∀ error, after.client.activity = .abandoning error →
        error.blamesPeer = false) ∧
      ∀ error,
        (.client (.finish (.attached (.error error))) ∈ effects ∨
            .client (.finish (.awaited (.error error))) ∈ effects) →
          error.blamesPeer = false := by
  cases event with
  | client event =>
      have fails :
          ∀ error, Client.Fails dialogue.consumer.client event error →
            error.blamesPeer = false :=
        fun error => joint.blameless_client fit accepted fed sent reaction
      simp only [Consumer.step, bind, Option.bind_eq_some_iff] at reaction
      obtain ⟨⟨own, more⟩, reacts, equal⟩ := reaction
      obtain ⟨rfl, rfl⟩ := Prod.mk.inj (Option.some.inj equal)
      have undisturbed : event ≠ .disconnect := by
        rintro rfl
        exact staying
      have accounted := Client.accounted_step undisturbed reacts
      refine ⟨fun error active => fails error (accounted.abandoned error active),
        ?_⟩
      rintro error (member | member)
      · obtain ⟨effect, inside, same⟩ := List.mem_map.mp member
        cases same
        rcases accounted.attached error inside with rfl | abandoning
        · rfl
        · exact blameless.abandoning error abandoning
      · obtain ⟨effect, inside, same⟩ := List.mem_map.mp member
        cases same
        rcases accounted.awaited error inside with rfl | rfl | failed
        · rfl
        · rfl
        · exact fails error failed
  | stream index event =>
      simp only [Consumer.step, bind, Option.bind_eq_some_iff] at reaction
      obtain ⟨stream, found, ⟨next, more⟩, reacts, equal⟩ := reaction
      obtain ⟨rfl, rfl⟩ := Prod.mk.inj (Option.some.inj equal)
      exact ⟨blameless.abandoning, by simp⟩
  | gather index => exact staying.elim
  | sequence index event =>
      simp [Consumer.step, joint.consumer.ungathered] at reaction

theorem blameless_step
    (joint : Joint server client request dialogue journal)
    (blameless : Blameless dialogue journal)
    (fit : request.Fits) {capabilities : Capabilities}
    (accepted :
      Capabilities.ofWire (some (Json.object request.toWire)) =
        .ok capabilities)
    {action : Action} {next : Dialogue} {more : List Entry}
    (stepped : dialogue.step action = some (next, more)) :
    Blameless next (journal ++ more) := by
  cases turn_of_step stepped with
  | server fed sent reaction =>
      refine ⟨blameless.abandoning, ?_⟩
      intro error member
      rw [failures, List.filterMap_append] at member
      rcases List.mem_append.mp member with earlier | last
      · exact blameless.failed error earlier
      · rw [← failures, failures_server] at last
        cases last
  | consumer fed sent staying reaction =>
      obtain ⟨abandoning, failed⟩ :=
        blameless_consumer joint blameless fit accepted fed sent staying
          reaction
      refine ⟨abandoning, ?_⟩
      intro error member
      rw [failures, List.filterMap_append] at member
      rcases List.mem_append.mp member with earlier | last
      · exact blameless.failed error earlier
      · exact failed error (client_of_failures last)

theorem blameless_run
    (fit : request.Fits) {capabilities : Capabilities}
    (accepted :
      Capabilities.ofWire (some (Json.object request.toWire)) =
        .ok capabilities)
    {actions : List Action}
    (ran :
      run step (new server client request) actions =
        some (dialogue, journal)) :
    Blameless dialogue journal := by
  have whole :=
    run_invariant
      (fun dialogue _ journal =>
        Joint server client request dialogue journal ∧
          Blameless dialogue journal)
      ⟨joint_new, ⟨by simp [new, Consumer.new, Client.new], by
        simp [failures]⟩⟩ ?_ ran
  · exact whole.2
  intro state actions journal action next more kept stepped
  obtain ⟨joint, blameless⟩ := kept
  exact ⟨joint_step joint stepped,
    blameless_step joint blameless fit accepted stepped⟩

end Agreement

/-- Two lists lead to the first entry of one that the other contains. -/
theorem first_of_select
    {offered supported : List Version} {version : Version}
    (selected : Version.select offered supported = some version) :
    ∃ earlier later, offered = earlier ++ version :: later ∧
      version ∈ supported ∧ ∀ other ∈ earlier, other ∉ supported := by
  obtain ⟨common, earlier, later, split, apart⟩ :=
    List.find?_eq_some_iff_append.mp selected
  exact ⟨earlier, later, split, by simpa using common, by simpa using apart⟩

/--
Whatever two lists of versions and whatever request meet, both sides settle on
the first common version and on what the request means, or neither side
connects; and no handshake fails because the other side broke it.
-/
theorem handshake_agrees
    {server : ServerOptions} {client : ClientOptions}
    {request : CapabilityRequest} {capabilities : Capabilities}
    (accepted :
      Capabilities.ofWire (some (Json.object request.toWire)) =
        .ok capabilities)
    (fit : request.Fits)
    {actions : List Action} {dialogue : Dialogue} {journal : List Entry}
    (ran :
      run step (new server client request) actions =
        some (dialogue, journal)) :
    (∀ version session,
        dialogue.consumer.client.state = .connected version →
          dialogue.server.session = some session →
            session.version = version ∧
              dialogue.consumer.client.version = some version ∧
              (∃ earlier later,
                server.supported = earlier ++ version :: later ∧
                  version ∈ client.supported ∧
                  ∀ other ∈ earlier, other ∉ client.supported) ∧
              (version.number = 0 →
                dialogue.consumer.client.capabilities = none ∧
                  session.capabilities = none) ∧
              (0 < version.number →
                dialogue.consumer.client.capabilities = some capabilities ∧
                  session.capabilities = some capabilities)) ∧
      ((∀ version ∈ server.supported, version ∉ client.supported) →
        dialogue.consumer.client.isConnected = false ∧
          dialogue.server.session = none ∧
          dialogue.server.state.version? = none) ∧
      (∀ error ∈ failures journal, error.blamesPeer = false) ∧
      ∀ action next more,
        dialogue.step action = some (next, more) →
          ∀ turn event error,
            .server (turn, .inl event) ∈ more →
              dialogue.server.handshakeError? event = some error →
                error.blamesPeer = false := by
  have joint := joint_run ran
  refine ⟨?_, ?_, (blameless_run fit accepted ran).failed, ?_⟩
  · intro version session connected found
    have selected := joint.selected_of_connected connected
    have same : session.version = version := by
      have other := joint.selected_of_session found
      rw [selected] at other
      exact (Option.some.inj other).symm
    have phase := joint.consumer.phase.agreed connected
    refine ⟨same, phase.noted, first_of_select selected, ?_, ?_⟩
    · intro zero
      have incapable : version.hasCapabilities = false := by
        simp [Version.hasCapabilities, zero]
      refine ⟨phase.incapable incapable, ?_⟩
      rw [← same] at incapable
      exact (joint.settled found).incapable incapable
    · intro positive
      have capable : version.hasCapabilities = true := by
        simpa [Version.hasCapabilities] using positive
      refine ⟨joint.client_capabilities fit accepted connected capable, ?_⟩
      rw [← same] at capable
      exact joint.session_capabilities fit accepted found capable
  · intro disjoint
    have nothing := Version.select_eq_none_iff.mpr disjoint
    have unset : dialogue.server.session = none := by
      cases found : dialogue.server.session with
      | none => rfl
      | some session =>
          have selected := joint.selected_of_session found
          simp [nothing] at selected
    refine ⟨?_, unset, joint.server_course.shown unset⟩
    unfold Client.isConnected
    split
    next version connected =>
      have selected := joint.selected_of_connected connected
      simp [nothing] at selected
    next => rfl
  · intro action next more stepped turn event error member failed
    cases turn_of_step stepped with
    | @server own after effects inward fed sent reaction =>
        obtain ⟨entry, inside, equal⟩ := List.mem_map.mp member
        cases equal
        cases Server.eq_of_mem_entries inside
        exact joint.blameless_server fit accepted fed sent reaction failed
    | consumer fed sent staying reaction => simp at member

/-- A request with an entry of its own. -/
def vendorRequest : CapabilityRequest :=
  ⟨none, some true, KeyMap.empty.insert "vendor" Json.null⟩

/-- A client attaches to a server that prefers a version it does not know. -/
def firstVisit : List Action :=
  [.server (.serve .none (.ok ())), .server (.accepted (.ok ())),
    .consumer (.client (.attach vendorRequest)), .serverSent .reception none,
    .consumerReceived .client, .consumerSent .client,
    .serverReceived .reception, .consumerSent .client,
    .serverReceived .reception, .serverSent .reception none,
    .consumerReceived .client]

theorem handshake_agrees_firstVisit :
    ∃ dialogue journal capabilities session,
      Capabilities.ofWire (some (Json.object vendorRequest.toWire)) =
          .ok capabilities ∧
        run step
            (new ⟨"build.sock", [⟨7⟩, .first, .legacy]⟩ .default
              vendorRequest)
            firstVisit = some (dialogue, journal) ∧
        dialogue.consumer.client.state = .connected .first ∧
        dialogue.server.session = some session ∧
        session.version = .first ∧
        dialogue.consumer.client.version = some .first ∧
        dialogue.consumer.client.capabilities = some capabilities ∧
        session.capabilities = some capabilities ∧
        ∀ error ∈ failures journal, error.blamesPeer = false := by
  have fit : vendorRequest.Fits := by
    refine KeyMap.forall_mem_insert ?_ (Json.fits_null 125)
    simp [KeyMap.empty]
  obtain ⟨capabilities, accepted⟩ :
      ∃ capabilities,
        Capabilities.ofWire (some (Json.object vendorRequest.toWire)) =
          .ok capabilities :=
    ⟨⟨[.runfiles], some true, KeyMap.empty.insert "vendor" Json.null⟩,
      by decide +kernel⟩
  have reached :
      (run step
          (new ⟨"build.sock", [⟨7⟩, .first, .legacy]⟩ .default
            vendorRequest)
          firstVisit).map
        (fun reached =>
          (reached.1.consumer.client.state,
            reached.1.server.session.isSome)) =
        some (.connected .first, true) := by
    decide +kernel
  obtain ⟨⟨dialogue, journal⟩, ran, shown⟩ :=
    Option.map_eq_some_iff.mp reached
  obtain ⟨connected, some_session⟩ := Prod.mk.inj shown
  obtain ⟨session, found⟩ := Option.isSome_iff_exists.mp some_session
  obtain ⟨agree, _, blameless, _⟩ := handshake_agrees accepted fit ran
  obtain ⟨same, noted, _, _, capable⟩ := agree .first session connected found
  obtain ⟨ours, theirs⟩ := capable (by decide)
  exact ⟨dialogue, journal, capabilities, session, accepted, ran, connected,
    found, same, noted, ours, theirs, blameless⟩

end Dialogue

end BuildWatch
