import BuildWatch.Proofs.Client.Calls
import BuildWatch.Proofs.Client.Talk

/-!
# How often the cycles of a connection are asked for

A client marks its connection before it asks for the cycles.  On versions
that have subscriptions it subscribes behind that, and the mark is kept if
this fails: the call fails, no stream was handed out, and every later call on
that connection is told that the cycles are being awaited already.  On other
versions the mark says that the stream was handed out.
-/

namespace BuildWatch.Client

open ClientHandshake

variable {client next : Client} {event : Event} {said effects : List Effect}
  {connection : ConnectionId}

/-! ## What was asked for -/

/-- The stream of a connection was handed out. -/
def Streamed (connection : ConnectionId) (effects : List Effect) : Prop :=
  .finish (.awaited (.ok (CycleStream.new connection))) ∈ effects

/-- A subscription was sent on a connection. -/
def Tried (connection : ConnectionId) (effects : List Effect) : Prop :=
  ∃ watchType, .send connection (subscription watchType) ∈ effects

/-- The cycles of a connection were asked for, whatever came of it. -/
def Asked (connection : ConnectionId) (effects : List Effect) : Prop :=
  Streamed connection effects ∨ Tried connection effects

theorem streamed_append :
    Streamed connection (said ++ effects) ↔
      Streamed connection said ∨ Streamed connection effects :=
  List.mem_append

theorem tried_append :
    Tried connection (said ++ effects) ↔
      Tried connection said ∨ Tried connection effects := by
  simp only [Tried, List.mem_append, exists_or]

theorem asked_append :
    Asked connection (said ++ effects) ↔
      Asked connection said ∨ Asked connection effects := by
  simp only [Asked, streamed_append, tried_append, or_or_or_comm]

section Parts

theorem unasked_nil (connection : ConnectionId) : ¬Asked connection [] := by
  simp [Asked, Streamed, Tried]

theorem unasked_receive (own connection : ConnectionId) :
    ¬Asked connection [.receive own] := by
  simp [Asked, Streamed, Tried]

theorem unasked_close (own connection : ConnectionId) :
    ¬Asked connection [.close own] := by
  simp [Asked, Streamed, Tried]

theorem unasked_finish
    {outcome : Outcome} (fruitless : ∀ stream, outcome ≠ .awaited (.ok stream))
    (connection : ConnectionId) : ¬Asked connection [.finish outcome] := by
  simp only [Asked, Streamed, Tried, List.mem_singleton, reduceCtorEq,
    exists_false, or_false, Effect.finish.injEq]
  exact fun same => fruitless _ same.symm

/-- No message of the handshake subscribes. -/
theorem unasked_handshake
    (own : ConnectionId) (stage : Sending) (request : CapabilityRequest)
    (connection : ConnectionId) :
    ¬Asked connection [.send own (stage.message request)] := by
  cases stage <;>
    simp [Asked, Streamed, Tried, Sending.message, subscription,
      Message.plain]

theorem asked_subscription
    (own : ConnectionId) (watchType : String) (connection : ConnectionId) :
    Asked connection [.send own (subscription watchType)] ↔
      connection = own := by
  simp only [Asked, Streamed, Tried, List.mem_singleton, reduceCtorEq,
    false_or, Effect.send.injEq]
  constructor
  · rintro ⟨_, same, _⟩
    exact same
  · rintro rfl
    exact ⟨watchType, rfl, rfl⟩

theorem asked_stream (own connection : ConnectionId) :
    Asked connection [.finish (.awaited (.ok (CycleStream.new own)))] ↔
      connection = own := by
  simp [Asked, Streamed, Tried, CycleStream.new]

theorem untried_finish (outcome : Outcome) (connection : ConnectionId) :
    ¬Tried connection [.finish outcome] := by
  simp [Tried]

end Parts

/-! ## What a step asks for -/

/-- What a step means for the connection, its mark and what was asked for. -/
inductive Asking (client : Client) : Client → List Effect → Prop where
  /-- A call ends without asking for anything. -/
  | aside {effects : List Effect}
      (unasked : ∀ connection, ¬Asked connection effects) :
      Asking client { client with activity := .idle } effects
  | joined {activity : ClientActivity} {effects : List Effect}
      (apart : client.connection = none)
      (free : ∀ connection step, activity ≠ .subscribing connection step)
      (unasked : ∀ connection, ¬Asked connection effects) :
      Asking client
        { client with
          state := .negotiating
          connection := some client.nextConnection
          nextConnection := client.nextConnection + 1
          activity }
        effects
  /-- The handshake goes on or comes to an agreement. -/
  | shaking {own : ConnectionId} {request : CapabilityRequest}
      {stage : Stage} {state : ClientState} {version : Option Version}
      {capabilities : Option Capabilities} {activity : ClientActivity}
      {effects : List Effect}
      (active : client.activity = .shaking own request stage)
      (free : ∀ connection step, activity ≠ .subscribing connection step)
      (unasked : ∀ connection, ¬Asked connection effects) :
      Asking client { client with state, version, capabilities, activity }
        effects
  | parted {activity : ClientActivity} {effects : List Effect}
      (waits :
        activity = .disconnecting ∨ ∃ error, activity = .abandoning error)
      (unasked : ∀ connection, ¬Asked connection effects) :
      Asking client { client.forget with activity } effects
  /-- The connection is marked, and its cycles are asked for. -/
  | marked {version : Version} {own : ConnectionId}
      {activity : ClientActivity} {effects : List Effect}
      (state : client.state = .connected version)
      (joined : client.connection = some own)
      (unmarked : client.awaiting = false)
      (waits : activity = .idle ∨ activity = .subscribing own .sending)
      (asked : ∀ connection, Asked connection effects ↔ connection = own)
      (tried :
        ∀ connection, Tried connection effects →
          version.hasSubscription = true) :
      Asking client { client with awaiting := true, activity } effects
  /-- The subscription goes on, or it is over. -/
  | subscribes {own : ConnectionId} {subscription : Subscription}
      {activity : ClientActivity} {effects : List Effect}
      (active : client.activity = .subscribing own subscription)
      (waits : activity = .idle ∨ activity = .subscribing own .awaiting)
      (asked : ∀ connection, Asked connection effects → connection = own)
      (untried : ∀ connection, ¬Tried connection effects) :
      Asking client { client with activity } effects

theorem asking_of_finish
    {outcome : Outcome} (idle : client.activity = .idle)
    (fruitless : ∀ stream, outcome ≠ .awaited (.ok stream)) :
    Asking client client [.finish outcome] := by
  have aside : Asking client { client with activity := .idle } _ :=
    .aside (unasked_finish fruitless)
  rwa [with_idle idle] at aside

theorem asking_of_proceed
    {own : ConnectionId} {request : CapabilityRequest} {stage : Stage}
    {progress : Except ProtocolError (Progress Stage Agreement)}
    (active : client.activity = .shaking own request stage)
    (reaction : proceed client own request progress = (next, effects)) :
    Asking client next effects := by
  rcases progress with error | (following | agreement)
  · obtain ⟨rfl, rfl⟩ := Prod.mk.inj reaction
    exact .parted (.inr ⟨error, rfl⟩) (unasked_close own)
  · obtain ⟨rfl, rfl⟩ := Prod.mk.inj reaction
    rcases following with sending | receiving
    · have unasked := unasked_handshake own sending request
      cases sending <;> exact .shaking active (by simp) unasked
    · exact .shaking active (by simp) (unasked_receive own)
  · obtain ⟨rfl, rfl⟩ := Prod.mk.inj reaction
    exact .shaking active (by simp) (unasked_finish (by simp))

theorem asking_of_awaitCycles
    (idle : client.activity = .idle)
    (reaction : awaitCycles client = (next, effects)) :
    Asking client next effects := by
  unfold awaitCycles at reaction
  split at reaction
  next own version joined state =>
    split at reaction
    next again =>
      rw [finish_of_idle idle] at reaction
      obtain ⟨rfl, rfl⟩ := Prod.mk.inj reaction
      exact asking_of_finish idle (by simp)
    next first =>
      have unmarked : client.awaiting = false := by simpa using first
      split at reaction
      next subscribes =>
        obtain ⟨rfl, rfl⟩ := Prod.mk.inj reaction
        exact .marked state joined unmarked (.inr rfl)
          (asked_subscription own _) (fun _ _ => subscribes)
      next silent =>
        obtain ⟨rfl, rfl⟩ := Prod.mk.inj reaction
        refine .marked state joined unmarked (.inl rfl)
          (asked_stream own) ?_
        intro connection tried
        exact absurd tried (untried_finish _ connection)
  next =>
    rw [finish_of_idle idle] at reaction
    obtain ⟨rfl, rfl⟩ := Prod.mk.inj reaction
    exact asking_of_finish idle (by simp)

theorem asking_of_shaking
    {own : ConnectionId} {request : CapabilityRequest} {stage : Stage}
    (active : client.activity = .shaking own request stage)
    (answers : event.starts = false)
    (stepped : client.step event = some (next, effects)) :
    Asking client next effects := by
  cases event with
  | sent result =>
      simp only [step, sent, active] at stepped
      split at stepped
      next reached =>
        exact asking_of_proceed (active.trans reached)
          (Option.some.inj stepped)
      next reached => simp at reached
      next => simp at stepped
  | received result =>
      simp only [step, received, active] at stepped
      split at stepped
      next reached =>
        exact asking_of_proceed (active.trans reached)
          (Option.some.inj stepped)
      next reached => simp at reached
      next => simp at stepped
  | closed result => simp [step, closed, active] at stepped
  | _ => simp [Event.starts] at answers

theorem asking_of_subscribing
    {own : ConnectionId} {subscription : Subscription}
    (active : client.activity = .subscribing own subscription)
    (answers : event.starts = false)
    (stepped : client.step event = some (next, effects)) :
    Asking client next effects := by
  have fails (error : ProtocolError) :
      Asking client { client with activity := .idle }
        [.finish (.awaited (.error error))] :=
    .aside (unasked_finish (by simp))
  cases event with
  | sent result =>
      cases subscription with
      | awaiting => simp [step, sent, active] at stepped
      | sending =>
          simp only [step, sent, active] at stepped
          rcases result with error | ⟨⟩
          · obtain ⟨rfl, rfl⟩ := Prod.mk.inj (Option.some.inj stepped)
            exact fails _
          · obtain ⟨rfl, rfl⟩ := Prod.mk.inj (Option.some.inj stepped)
            refine .subscribes active (.inr rfl) ?_ (by simp [Tried])
            intro connection asked
            exact absurd asked (unasked_receive own connection)
  | received result =>
      cases subscription with
      | sending => simp [step, received, active] at stepped
      | awaiting =>
          simp only [step, received, active] at stepped
          rcases result with error | message
          · obtain ⟨rfl, rfl⟩ := Prod.mk.inj (Option.some.inj stepped)
            exact fails _
          · simp only at stepped
            split at stepped
            next confirmed =>
              obtain ⟨rfl, rfl⟩ := Prod.mk.inj (Option.some.inj stepped)
              exact .subscribes active (.inl rfl)
                (fun connection => (asked_stream own connection).mp)
                (untried_finish _)
            next other =>
              obtain ⟨rfl, rfl⟩ := Prod.mk.inj (Option.some.inj stepped)
              exact fails _
  | closed result => simp [step, closed, active] at stepped
  | _ => simp [Event.starts] at answers

/-- Only a call for the cycles asks for them. -/
theorem asking_of_step
    (stepped : client.step event = some (next, effects)) :
    Asking client next effects := by
  cases move_of_step stepped with
  | refused idle joined => exact asking_of_finish idle (by simp)
  | joined idle apart =>
      exact .joined apart (by simp) (unasked_receive _)
  | missed idle apart => exact asking_of_finish idle (by simp)
  | parted idle joined =>
      exact .parted (.inl rfl) (unasked_close _)
  | turnedAway idle => exact asking_of_finish idle (by simp)
  | asked idle state waits =>
      exact asking_of_awaitCycles idle (by simpa [step, idle] using stepped)
  | subscribed active answers waits =>
      exact asking_of_subscribing active answers stepped
  | entered active answers apt quiet =>
      exact asking_of_shaking active answers stepped
  | agreed active answers apt =>
      exact .shaking active (by simp) (unasked_finish (by simp))
  | broken active breaks =>
      exact .parted (.inr ⟨_, rfl⟩) (unasked_close _)
  | gaveUp active => exact .aside (unasked_finish (by simp))
  | hungUp active => exact .aside (unasked_finish (by simp))

/-! ## The mark along a run -/

/-- What the mark of a client tells of what it asked for. -/
structure Marking (client : Client) (effects : List Effect) : Prop where
  /-- Connections are numbered as they start. -/
  below :
    ∀ connection,
      client.connection = some connection ∨ Asked connection effects →
        connection < client.nextConnection
  shaking :
    ∀ connection request stage,
      client.activity = .shaking connection request stage →
        client.awaiting = false
  subscribing :
    ∀ connection subscription,
      client.activity = .subscribing connection subscription →
        client.connection = some connection ∧ client.awaiting = true
  marked :
    client.awaiting = true ↔
      ∃ connection,
        client.connection = some connection ∧ Asked connection effects
  /-- Only on versions that have subscriptions does a client subscribe. -/
  tried :
    ∀ connection,
      client.connection = some connection → Tried connection effects →
        ∃ version,
          client.state = .connected version ∧ version.hasSubscription = true

theorem marking_new (options : ClientOptions) : Marking (new options) [] where
  below := by simp [new, unasked_nil]
  shaking := by simp [new]
  subscribing := by simp [new]
  marked := by simp [new]
  tried := by simp [new]

/-- Effects that ask for nothing leave what was asked for as it was. -/
theorem asked_append_iff_of_unasked
    (unasked : ∀ connection, ¬Asked connection effects) :
    Asked connection (said ++ effects) ↔ Asked connection said := by
  simp [asked_append, unasked connection]

theorem tried_append_iff_of_unasked
    (unasked : ∀ connection, ¬Asked connection effects) :
    Tried connection (said ++ effects) ↔ Tried connection said := by
  rw [tried_append, or_iff_left]
  exact fun tried => unasked connection (.inr tried)

section Step

/-- A step that asks for nothing and leaves the connection and the mark. -/
theorem Marking.keep
    {state : ClientState} {version : Option Version}
    {capabilities : Option Capabilities} {activity : ClientActivity}
    (marking : Marking client said)
    (unasked : ∀ connection, ¬Asked connection effects)
    (free : ∀ connection step, activity ≠ .subscribing connection step)
    (shakes :
      ∀ connection request stage,
        activity = .shaking connection request stage →
          client.awaiting = false)
    (shown : state = client.state ∨ client.awaiting = false) :
    Marking { client with state, version, capabilities, activity }
      (said ++ effects) where
  below := by
    intro connection known
    rw [asked_append_iff_of_unasked unasked] at known
    exact marking.below connection known
  shaking := shakes
  subscribing := by
    intro connection step active
    exact absurd active (free connection step)
  marked := by
    simp only [asked_append_iff_of_unasked unasked]
    exact marking.marked
  tried := by
    intro connection joined tries
    rw [tried_append_iff_of_unasked unasked] at tries
    rcases shown with rfl | unmarked
    · exact marking.tried connection joined tries
    · have awaiting := marking.marked.mpr ⟨connection, joined, .inr tries⟩
      simp [unmarked] at awaiting

theorem Marking.join
    {activity : ClientActivity} (marking : Marking client said)
    (apart : client.connection = none)
    (unasked : ∀ connection, ¬Asked connection effects)
    (free : ∀ connection step, activity ≠ .subscribing connection step) :
    Marking
      { client with
        state := .negotiating
        connection := some client.nextConnection
        nextConnection := client.nextConnection + 1
        activity }
      (said ++ effects) := by
  have unmarked : client.awaiting = false := by
    by_contra awaiting
    obtain ⟨connection, joined, _⟩ :=
      marking.marked.mp (by simpa using awaiting)
    simp [apart] at joined
  have fresh : ¬Asked client.nextConnection said := by
    intro asked
    exact Nat.lt_irrefl _ (marking.below _ (.inr asked))
  constructor
  · intro connection known
    rw [asked_append_iff_of_unasked unasked] at known
    rcases known with same | asked
    · cases same
      exact Nat.lt_succ_self _
    · exact Nat.lt_succ_of_lt (marking.below connection (.inr asked))
  · exact fun _ _ _ _ => unmarked
  · intro connection step active
    exact absurd active (free connection step)
  · simp [asked_append_iff_of_unasked unasked, unmarked, fresh]
  · intro connection joined tries
    cases joined
    rw [tried_append_iff_of_unasked unasked] at tries
    exact absurd (.inr tries) fresh

theorem Marking.part
    {activity : ClientActivity} (marking : Marking client said)
    (unasked : ∀ connection, ¬Asked connection effects)
    (waits :
      activity = .disconnecting ∨ ∃ error, activity = .abandoning error) :
    Marking { client.forget with activity } (said ++ effects) where
  below := by
    intro connection known
    rw [asked_append_iff_of_unasked unasked] at known
    rcases known with joined | asked
    · simp [forget] at joined
    · exact marking.below connection (.inr asked)
  shaking := fun _ _ _ _ => rfl
  subscribing := by
    rcases waits with rfl | ⟨error, rfl⟩ <;> simp
  marked := by simp [forget]
  tried := by simp [forget]

/-- The mark is set by the call that asks for the cycles. -/
theorem Marking.mark
    {version : Version} {own : ConnectionId} {activity : ClientActivity}
    (marking : Marking client said)
    (state : client.state = .connected version)
    (joined : client.connection = some own)
    (waits : activity = .idle ∨ activity = .subscribing own .sending)
    (asked : ∀ connection, Asked connection effects ↔ connection = own)
    (tries :
      ∀ connection, Tried connection effects →
        version.hasSubscription = true) :
    Marking { client with awaiting := true, activity } (said ++ effects) where
  below := by
    intro connection known
    rw [asked_append, asked] at known
    rcases known with same | earlier | rfl
    · exact marking.below connection (.inl same)
    · exact marking.below connection (.inr earlier)
    · exact marking.below connection (.inl joined)
  shaking := by
    rcases waits with rfl | rfl <;> simp
  subscribing := by
    rcases waits with rfl | rfl
    · simp
    · intro connection step active
      cases active
      exact ⟨joined, rfl⟩
  marked := by
    refine iff_of_true rfl ⟨own, joined, asked_append.mpr (.inr ?_)⟩
    exact (asked own).mpr rfl
  tried := by
    intro connection same tried
    rcases tried_append.mp tried with earlier | now
    · exact marking.tried connection same earlier
    · exact ⟨version, state, tries connection now⟩

theorem Marking.subscribe
    {own : ConnectionId} {subscription : Subscription}
    {activity : ClientActivity} (marking : Marking client said)
    (active : client.activity = .subscribing own subscription)
    (waits : activity = .idle ∨ activity = .subscribing own .awaiting)
    (asked : ∀ connection, Asked connection effects → connection = own)
    (untried : ∀ connection, ¬Tried connection effects) :
    Marking { client with activity } (said ++ effects) := by
  obtain ⟨joined, marked⟩ := marking.subscribing _ _ active
  constructor
  · intro connection known
    rw [asked_append] at known
    rcases known with same | earlier | now
    · exact marking.below connection (.inl same)
    · exact marking.below connection (.inr earlier)
    · rw [asked connection now]
      exact marking.below own (.inl joined)
  · rcases waits with rfl | rfl <;> simp
  · rcases waits with rfl | rfl
    · simp
    · intro connection step still
      cases still
      exact ⟨joined, marked⟩
  · obtain ⟨connection, same, earlier⟩ := marking.marked.mp marked
    exact iff_of_true marked
      ⟨connection, same, asked_append.mpr (.inl earlier)⟩
  · intro connection same tried
    rcases tried_append.mp tried with earlier | now
    · exact marking.tried connection same earlier
    · exact absurd now (untried connection)

end Step

theorem Marking.of_asking
    (marking : Marking client said) (asking : Asking client next effects) :
    Marking next (said ++ effects) := by
  cases asking with
  | aside unasked =>
      exact marking.keep unasked (by simp) (by simp) (.inl rfl)
  | joined apart free unasked => exact marking.join apart unasked free
  | shaking active free unasked =>
      have unmarked := marking.shaking _ _ _ active
      exact marking.keep unasked free (fun _ _ _ _ => unmarked)
        (.inr unmarked)
  | parted waits unasked => exact marking.part unasked waits
  | marked state joined unmarked waits asked tries =>
      exact marking.mark state joined waits asked tries
  | subscribes active waits asked untried =>
      exact marking.subscribe active waits asked untried

theorem marking_run
    {options : ClientOptions} {events : List Event}
    (ran : run step (new options) events = some (client, effects)) :
    Marking client effects := by
  refine run_invariant (fun client _ effects => Marking client effects)
    (marking_new options) ?_ ran
  intro client events effects event next more marking stepped
  exact marking.of_asking (asking_of_step stepped)

/-! ## A connection that was asked once -/

/-- A connection whose cycles are never asked for again. -/
structure Spent (connection : ConnectionId) (client : Client) : Prop where
  below : connection < client.nextConnection
  marked : client.connection = some connection → client.awaiting = true
  quiet : ∀ step, client.activity ≠ .subscribing connection step

theorem Spent.of_asking
    (spent : Spent connection client)
    (asking : Asking client next effects) :
    Spent connection next ∧ ¬Asked connection effects := by
  obtain ⟨below, marked, quiet⟩ := spent
  cases asking with
  | aside unasked => exact ⟨⟨below, marked, by simp⟩, unasked connection⟩
  | joined apart free unasked =>
      refine ⟨⟨Nat.lt_succ_of_lt below, ?_, free connection⟩,
        unasked connection⟩
      intro same
      cases same
      exact absurd below (Nat.lt_irrefl _)
  | shaking active free unasked =>
      exact ⟨⟨below, marked, free connection⟩, unasked connection⟩
  | parted waits unasked =>
      refine ⟨⟨below, by simp [forget], ?_⟩, unasked connection⟩
      rcases waits with rfl | ⟨error, rfl⟩ <;> simp
  | @marked version own _ _ state joined unmarked waits asked tried =>
      have other : connection ≠ own := by
        rintro rfl
        simp [marked joined] at unmarked
      refine ⟨⟨below, fun _ => rfl, ?_⟩, (asked connection).not.mpr other⟩
      rcases waits with rfl | rfl <;> simp [other.symm]
  | @subscribes own step _ _ active waits asked untried =>
      have other : connection ≠ own := by
        rintro rfl
        exact quiet step active
      refine ⟨⟨below, marked, ?_⟩, fun again => other (asked _ again)⟩
      rcases waits with rfl | rfl <;> simp [other.symm]

theorem Spent.of_run
    {later : List Event} (spent : Spent connection client)
    (ran : run step client later = some (next, effects)) :
    Spent connection next ∧ ¬Asked connection effects := by
  refine run_invariant
    (fun client _ effects =>
      Spent connection client ∧ ¬Asked connection effects)
    ⟨spent, unasked_nil _⟩ ?_ ran
  rintro client events effects event next more ⟨spent, unasked⟩ stepped
  obtain ⟨still, not_now⟩ := spent.of_asking (asking_of_step stepped)
  exact ⟨still, by simp [asked_append, unasked, not_now]⟩

/-! ## What a call for the cycles ends with -/

/-- How the answers of the transport hinder a subscription. -/
inductive Unsubscribed (connection : ConnectionId) :
    List Event → ProtocolError → List Effect → Prop where
  | unsent (error : TransportError) :
      Unsubscribed connection [.sent (.error error)]
        (ProtocolError.ofTransport error) []
  | unreceived (error : TransportError) :
      Unsubscribed connection [.sent (.ok ()), .received (.error error)]
        (ProtocolError.ofTransport error) [.receive connection]
  | unconfirmed {message : Message}
      (other : message.kind ≠ .subscribeResponse) :
      Unsubscribed connection [.sent (.ok ()), .received (.ok message)]
        (.unexpected .subscribeResponse message) [.receive connection]

/-- What a call for the cycles ends with. -/
inductive AwaitEnds (client : Client) :
    List Event → Client → List Effect → Prop where
  /-- There is no connection, and nothing happens. -/
  | unconnected (detached : Detached client) :
      AwaitEnds client [] client [.finish (.awaited (.error .notConnected))]
  /-- The connection is marked, and nothing happens. -/
  | refused (marked : client.awaiting = true) :
      AwaitEnds client [] client
        [.finish (.awaited (.error .alreadyAwaitingCycles))]
  /-- There is nothing to subscribe to. -/
  | streamed {version : Version} {connection : ConnectionId}
      (state : client.state = .connected version)
      (joined : client.connection = some connection)
      (unmarked : client.awaiting = false)
      (silent : version.hasSubscription = false) :
      AwaitEnds client [] { client with awaiting := true }
        [.finish (.awaited (.ok (CycleStream.new connection)))]
  | subscribed {version : Version} {connection : ConnectionId}
      {message : Message}
      (state : client.state = .connected version)
      (joined : client.connection = some connection)
      (unmarked : client.awaiting = false)
      (subscribes : version.hasSubscription = true)
      (confirmed : message.kind = .subscribeResponse) :
      AwaitEnds client [.sent (.ok ()), .received (.ok message)]
        { client with awaiting := true }
        [.send connection (subscription client.options.watchType),
          .receive connection,
          .finish (.awaited (.ok (CycleStream.new connection)))]
  /-- The subscription fails, but the connection stays marked. -/
  | failed {version : Version} {connection : ConnectionId}
      {answers : List Event} {error : ProtocolError} {asks : List Effect}
      (state : client.state = .connected version)
      (joined : client.connection = some connection)
      (unmarked : client.awaiting = false)
      (subscribes : version.hasSubscription = true)
      (hindered : Unsubscribed connection answers error asks) :
      AwaitEnds client answers { client with awaiting := true }
        (.send connection (subscription client.options.watchType) ::
          (asks ++ [.finish (.awaited (.error error))]))

theorem Unsubscribed.ne
    {answers : List Event} {error : ProtocolError} {asks : List Effect}
    (hindered : Unsubscribed connection answers error asks) :
    error ≠ .alreadyAwaitingCycles := by
  cases hindered with
  | unsent error => cases error <;> simp [ProtocolError.ofTransport]
  | unreceived error => cases error <;> simp [ProtocolError.ofTransport]
  | unconfirmed other => simp [ProtocolError.unexpected]

section Ends

variable {answers : List Event} {final : Client}

/-- What a subscription that was sent ends with. -/
theorem subscription_ends
    (active : client.activity = .subscribing connection .awaiting)
    (answered : ∀ event ∈ answers, event.starts = false)
    (idle : final.activity = .idle)
    (ran : run step client answers = some (final, said)) :
    final = { client with activity := .idle } ∧
      ((∃ message : Message,
          message.kind = .subscribeResponse ∧
            answers = [.received (.ok message)] ∧
            said = [.finish (.awaited (.ok (CycleStream.new connection)))]) ∨
        ∃ error,
          Unsubscribed connection (.sent (.ok ()) :: answers) error
              [.receive connection] ∧
            said = [.finish (.awaited (.error error))]) := by
  obtain ⟨answer, rest, now, first, more, rfl, stepped, behind, rfl⟩ :=
    cons_of_busy (by simp [active]) idle ran
  have unstarted := answered answer List.mem_cons_self
  have others : ∀ event ∈ rest, event.starts = false :=
    fun event member => answered event (List.mem_cons_of_mem _ member)
  cases answer with
  | received result =>
      simp only [step, received, active] at stepped
      rcases result with error | message
      · obtain ⟨rfl, rfl⟩ := Prod.mk.inj (Option.some.inj stepped)
        obtain ⟨rfl, rfl, rfl⟩ := unanswered_of_idle rfl others behind
        exact ⟨rfl, .inr ⟨_, .unreceived error, rfl⟩⟩
      · simp only at stepped
        split at stepped
        next confirmed =>
          obtain ⟨rfl, rfl⟩ := Prod.mk.inj (Option.some.inj stepped)
          obtain ⟨rfl, rfl, rfl⟩ := unanswered_of_idle rfl others behind
          exact ⟨rfl, .inl ⟨message, confirmed, rfl, rfl⟩⟩
        next other =>
          obtain ⟨rfl, rfl⟩ := Prod.mk.inj (Option.some.inj stepped)
          obtain ⟨rfl, rfl, rfl⟩ := unanswered_of_idle rfl others behind
          exact ⟨rfl, .inr ⟨_, .unconfirmed other, rfl⟩⟩
  | sent result => simp [step, sent, active] at stepped
  | closed result => simp [step, closed, active] at stepped
  | _ => simp [Event.starts] at unstarted

theorem awaitEnds_of_subscribing
    {version : Version} (idle : client.activity = .idle)
    (state : client.state = .connected version)
    (joined : client.connection = some connection)
    (unmarked : client.awaiting = false)
    (subscribes : version.hasSubscription = true)
    (completes : Completes client .awaitCycles answers final said) :
    AwaitEnds client answers final said := by
  obtain ⟨ran, answered, settled⟩ := completes
  obtain ⟨asked, spoken, rest, first, behind, rfl⟩ :=
    run_cons_eq_some_iff.mp ran
  have stepped :
      client.step .awaitCycles =
        some
          ({ client with
              awaiting := true, activity := .subscribing connection .sending },
            [.send connection (subscription client.options.watchType)]) := by
    simp [step, idle, awaitCycles, joined, state, unmarked, subscribes,
      subscription]
  obtain ⟨rfl, rfl⟩ := Prod.mk.inj (Option.some.inj (stepped.symm.trans first))
  obtain ⟨answer, others, now, told, more, rfl, second, following, rfl⟩ :=
    cons_of_busy (by simp) settled behind
  have unstarted := answered answer List.mem_cons_self
  have later : ∀ event ∈ others, event.starts = false :=
    fun event member => answered event (List.mem_cons_of_mem _ member)
  have marked :
      { client with awaiting := true, activity := .idle } =
        { client with awaiting := true } := by
    rw [← idle]
  cases answer with
  | sent result =>
      rcases result with error | ⟨⟩
      · obtain ⟨rfl, rfl⟩ := Prod.mk.inj (Option.some.inj second)
        obtain ⟨rfl, rfl, rfl⟩ := unanswered_of_idle rfl later following
        rw [marked]
        exact .failed state joined unmarked subscribes (.unsent error)
      · obtain ⟨rfl, rfl⟩ := Prod.mk.inj (Option.some.inj second)
        obtain ⟨rfl, ⟨message, confirmed, rfl, rfl⟩ | ⟨error, hindered, rfl⟩⟩ :=
          subscription_ends rfl later settled following
        · rw [marked]
          exact .subscribed state joined unmarked subscribes confirmed
        · rw [marked]
          exact .failed state joined unmarked subscribes hindered
  | received result => simp [step, received] at second
  | closed result => simp [step, closed] at second
  | _ => simp [Event.starts] at unstarted

theorem awaitEnds_of_completes
    (sound : Sound client) (idle : client.activity = .idle)
    (completes : Completes client .awaitCycles answers final said) :
    AwaitEnds client answers final said := by
  rcases sound.between idle with detached | ⟨version, attached⟩
  · have stepped :
        client.step .awaitCycles =
          some (client, [.finish (.awaited (.error .notConnected))]) := by
      simp [step, idle, awaitCycles, detached.apart, finish_of_idle]
    obtain ⟨rfl, rfl, rfl⟩ := completes_of_idle completes stepped idle
    exact .unconnected detached
  · obtain ⟨connection, joined⟩ := Option.isSome_iff_exists.mp attached.joined
    cases marked : client.awaiting with
    | true =>
        have stepped :
            client.step .awaitCycles =
              some (client,
                [.finish (.awaited (.error .alreadyAwaitingCycles))]) := by
          simp [step, idle, awaitCycles, joined, attached.state, marked,
            finish_of_idle]
        obtain ⟨rfl, rfl, rfl⟩ := completes_of_idle completes stepped idle
        exact .refused marked
    | false =>
        cases subscribes : version.hasSubscription with
        | false =>
            have stepped :
                client.step .awaitCycles =
                  some ({ client with awaiting := true },
                    [.finish
                      (.awaited (.ok (CycleStream.new connection)))]) := by
              simp [step, idle, awaitCycles, joined, attached.state, marked,
                subscribes, handOut, finish_of_idle]
            obtain ⟨rfl, rfl, rfl⟩ := completes_of_idle completes stepped idle
            exact .streamed attached.state joined marked subscribes
        | true =>
            exact awaitEnds_of_subscribing idle attached.state joined marked
              subscribes completes

/-- A call is refused exactly on a connection that is marked. -/
theorem AwaitEnds.refused_iff
    (ends : AwaitEnds client answers final said) :
    .finish (.awaited (.error .alreadyAwaitingCycles)) ∈ said ↔
      client.awaiting = true := by
  cases ends with
  | unconnected detached => simp [detached.unasked]
  | refused marked => simp [marked]
  | streamed state joined unmarked silent => simp [unmarked]
  | subscribed state joined unmarked subscribes confirmed => simp [unmarked]
  | failed state joined unmarked subscribes hindered =>
      have other := hindered.ne.symm
      cases hindered <;> simp [unmarked, other]

/-- What a call that fails leaves behind. -/
theorem AwaitEnds.of_error
    {error : ProtocolError} (ends : AwaitEnds client answers final said)
    (fails : .finish (.awaited (.error error)) ∈ said) :
    final = client ∧ messages said = [] ∨
      client.awaiting = false ∧ final = { client with awaiting := true } ∧
        ∃ connection,
          client.connection = some connection ∧ Tried connection said := by
  cases ends with
  | unconnected detached => exact .inl ⟨rfl, rfl⟩
  | refused marked => exact .inl ⟨rfl, rfl⟩
  | streamed state joined unmarked silent => simp at fails
  | subscribed state joined unmarked subscribes confirmed => simp at fails
  | @failed _ connection _ _ _ state joined unmarked subscribes hindered =>
      exact .inr ⟨unmarked, rfl, connection, joined, _, List.mem_cons_self⟩

end Ends

/-! ## Along every run -/

/-- What a client makes of calls for its cycles, between two calls. -/
structure Awaited (client : Client) (effects : List Effect) : Prop where
  /-- The mark says that the cycles of the connection were asked for, -/
  marked :
    client.awaiting = true ↔
      ∃ connection,
        client.connection = some connection ∧ Asked connection effects
  /-- which hands them out where there is nothing to subscribe to. -/
  streamed :
    ∀ version connection,
      client.state = .connected version →
        client.connection = some connection →
          version.hasSubscription = false →
            (client.awaiting = true ↔ Streamed connection effects)
  ends :
    ∀ answers final said,
      Completes client .awaitCycles answers final said →
        AwaitEnds client answers final said
  refused :
    ∀ answers final said,
      Completes client .awaitCycles answers final said →
        (.finish (.awaited (.error .alreadyAwaitingCycles)) ∈ said ↔
          ∃ connection,
            client.connection = some connection ∧ Asked connection effects)
  /-- A call that fails changes the client only if it has subscribed. -/
  failed :
    ∀ answers final said error,
      Completes client .awaitCycles answers final said →
        .finish (.awaited (.error error)) ∈ said →
          final = client ∧ messages said = [] ∨
            client.awaiting = false ∧
              final = { client with awaiting := true } ∧
              ∃ connection,
                client.connection = some connection ∧ Tried connection said
  /-- No connection is asked twice. -/
  spent :
    ∀ connection,
      client.connection = some connection → Asked connection effects →
        ∀ later final more,
          run step client later = some (final, more) →
            ¬Asked connection more

/--
The mark of a client says that the cycles of its connection were asked for.
On a version that has subscriptions it is kept if the subscription fails, and
then no call on that connection comes to a stream.
-/
theorem awaiting_iff_asked
    {options : ClientOptions} {events : List Event}
    (ran : run step (new options) events = some (client, effects))
    (idle : client.activity = .idle) : Awaited client effects := by
  have marking := marking_run ran
  have sound := (sound_run ran).2
  constructor
  · exact marking.marked
  · intro version connection state joined silent
    rw [marking.marked]
    constructor
    · rintro ⟨other, same, streamed | tried⟩
      · cases same.symm.trans joined
        exact streamed
      · obtain ⟨known, shown, subscribes⟩ := marking.tried other same tried
        cases state.symm.trans shown
        simp [silent] at subscribes
    · exact fun streamed => ⟨connection, joined, .inl streamed⟩
  · intro answers final said completes
    exact awaitEnds_of_completes sound idle completes
  · intro answers final said completes
    rw [← marking.marked]
    exact (awaitEnds_of_completes sound idle completes).refused_iff
  · intro answers final said error completes fails
    exact (awaitEnds_of_completes sound idle completes).of_error fails
  · intro connection joined asked later final more ran
    have marked := marking.marked.mpr ⟨connection, joined, asked⟩
    have spent : Spent connection client :=
      ⟨marking.below connection (.inl joined), fun _ => marked,
        by simp [idle]⟩
    exact (spent.of_run ran).2

/-- A client of version 2 attaches, but its subscription is not confirmed. -/
def unconfirmedVisit : List Event :=
  [.attach .empty, .received (.ok (Message.plain (.negotiate [⟨2⟩]))),
    .sent (.ok ()), .sent (.ok ()),
    .received (.ok (Message.plain (.capsResponse (Json.object KeyMap.empty)))),
    .awaitCycles, .sent (.ok ()),
    .received (.ok (Message.plain (.exit "")))]

theorem awaiting_iff_asked_unconfirmedVisit :
    ∃ client effects,
      run step (new ⟨[⟨2⟩], "sources"⟩) unconfirmedVisit =
          some (client, effects) ∧
        client.activity = .idle ∧ client.connection = some 0 ∧
        client.awaiting = true ∧ Asked 0 effects ∧
        ∀ later final more,
          run step client later = some (final, more) → ¬Asked 0 more := by
  obtain ⟨client, effects, ran, idle, joined, marked⟩ :
      ∃ client effects,
        run step (new ⟨[⟨2⟩], "sources"⟩) unconfirmedVisit =
            some (client, effects) ∧
          client.activity = .idle ∧ client.connection = some 0 ∧
          client.awaiting = true :=
    ⟨_, _, rfl, rfl, rfl, rfl⟩
  have awaited := awaiting_iff_asked ran idle
  obtain ⟨connection, same, asked⟩ := awaited.marked.mp marked
  cases same.symm.trans joined
  exact ⟨client, effects, ran, idle, joined, marked, asked,
    awaited.spent 0 joined asked⟩

/--
The first call for the cycles fails and hands out nothing, and yet the second
one is told that they are being awaited already.
-/
theorem refused_without_stream :
    ∃ client effects final said,
      (run step (new ⟨[⟨2⟩], "sources"⟩) (unconfirmedVisit.take 5)).map
            (·.1.awaiting) =
          some false ∧
        run step (new ⟨[⟨2⟩], "sources"⟩) unconfirmedVisit =
          some (client, effects) ∧
        outcomes effects =
          [.attached (.ok ()),
            .awaited
              (.error (.unexpectedMessage .subscribeResponse .exit))] ∧
        client.connection = some 0 ∧ ¬Streamed 0 effects ∧
        client.awaiting = true ∧
        Completes client .awaitCycles [] final said ∧
        said = [.finish (.awaited (.error .alreadyAwaitingCycles))] := by
  obtain ⟨client, effects, final, said, ran, told, joined, marked, again,
    idle, refused⟩ :
      ∃ client effects final said,
        run step (new ⟨[⟨2⟩], "sources"⟩) unconfirmedVisit =
            some (client, effects) ∧
          outcomes effects =
            [.attached (.ok ()),
              .awaited
                (.error (.unexpectedMessage .subscribeResponse .exit))] ∧
          client.connection = some 0 ∧ client.awaiting = true ∧
          run step client [.awaitCycles] = some (final, said) ∧
          final.activity = .idle ∧
          said = [.finish (.awaited (.error .alreadyAwaitingCycles))] :=
    ⟨_, _, _, _, rfl, rfl, rfl, rfl, rfl, rfl, rfl⟩
  refine ⟨client, effects, final, said, rfl, ran, told, joined, ?_, marked,
    ⟨again, by simp, idle⟩, refused⟩
  intro streamed
  have answered :
      Outcome.awaited (.ok (CycleStream.new 0)) ∈ outcomes effects :=
    List.mem_filterMap.mpr ⟨_, streamed, rfl⟩
  simp [told] at answered

end BuildWatch.Client
