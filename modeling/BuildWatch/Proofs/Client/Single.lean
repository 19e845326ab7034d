import BuildWatch.Proofs.Client.Awaiting
import Mathlib.Data.List.Nodup

/-!
# One stream and one subscription for a connection

Every step of a client has a single effect, so that of two steps only one is
the first that asks for the cycles of a connection.  The mark of the client
shows whether that step was taken, and keeps it from being taken again, in
whatever order connections come and go.
-/

namespace BuildWatch.Client

open ClientHandshake

/-- The connection of the stream that an effect hands out. -/
def Effect.streamed? (effect : Effect) : Option ConnectionId :=
  (Consumer.handedOut? effect).map CycleStream.connection

/-- The connection that an effect subscribes on. -/
def Effect.subscribed? : Effect → Option ConnectionId
  | .send connection message =>
      if message.kind = .subscribe then some connection else none
  | _ => none

/-- The connections of the streams that are handed out, in order. -/
def streamedOn (effects : List Effect) : List ConnectionId :=
  effects.filterMap Effect.streamed?

/-- The connections that are subscribed on, in order. -/
def subscribedOn (effects : List Effect) : List ConnectionId :=
  effects.filterMap Effect.subscribed?

variable {client next : Client} {event : Event} {said effects : List Effect}
  {connection : ConnectionId}

/-! ## The effect of a step -/

/-- A step has one effect, and this is how it fits the client behind it. -/
inductive Sole : Reaction → Prop where
  | speaks {next : Client} {connection : ConnectionId} {message : Message}
      (plain :
        message.kind = .subscribe →
          ∃ watchType, message = subscription watchType) :
      Sole (next, [.send connection message])
  | listens {next : Client} {connection : ConnectionId} :
      Sole (next, [.receive connection])
  | closes {next : Client} {connection : ConnectionId} :
      Sole (next, [.close connection])
  | finishes {next : Client} {outcome : Outcome} (idle : next.activity = .idle)
      (fresh :
        ∀ stream, outcome = .awaited (.ok stream) →
          ∃ connection, stream = CycleStream.new connection) :
      Sole (next, [.finish outcome])

theorem sole_finish
    (client : Client) {outcome : Outcome}
    (fruitless : ∀ stream, outcome ≠ .awaited (.ok stream)) :
    Sole (finish client outcome) :=
  .finishes rfl fun stream same => absurd same (fruitless stream)

theorem sole_handOut (client : Client) (connection : ConnectionId) :
    Sole (handOut client connection) := by
  refine .finishes rfl ?_
  rintro stream same
  cases same
  exact ⟨connection, rfl⟩

theorem sole_enterStage
    (client : Client) (connection : ConnectionId)
    (request : CapabilityRequest) (stage : Stage) :
    Sole (enterStage client connection request stage) := by
  rcases stage with sending | receiving
  · refine .speaks fun subscribes => ?_
    cases sending <;> simp [Sending.message, Message.kind, Message.plain,
      MessageBody.kind] at subscribes
  · exact .listens

theorem sole_proceed
    (client : Client) (connection : ConnectionId)
    (request : CapabilityRequest)
    (progress : Except ProtocolError (Progress Stage Agreement)) :
    Sole (proceed client connection request progress) := by
  rcases progress with error | (stage | agreement)
  · exact .closes
  · exact sole_enterStage (client.reach stage) connection request stage
  · exact sole_finish _ (by simp)

theorem sole_attach (client : Client) (request : CapabilityRequest) :
    Sole (attach client request) := by
  unfold attach
  split
  · exact sole_finish client (by simp)
  · exact sole_enterStage _ _ _ _

theorem sole_disconnect (client : Client) : Sole (disconnect client) := by
  unfold disconnect
  split
  · exact sole_finish client (by simp)
  · exact .closes

theorem sole_awaitCycles (client : Client) : Sole (awaitCycles client) := by
  unfold awaitCycles
  split
  · split
    · exact sole_finish client (by simp)
    · split
      · exact .speaks fun _ => ⟨_, rfl⟩
      · exact sole_handOut _ _
  · exact sole_finish client (by simp)

section Answers

variable {reaction : Reaction}

theorem sole_sent
    {result : Except TransportError Unit}
    (reacted : sent client result = some reaction) : Sole reaction := by
  unfold sent at reacted
  split at reacted
  · cases Option.some.inj reacted
    exact sole_proceed client _ _ _
  · split at reacted
    · cases Option.some.inj reacted
      exact sole_finish client (by simp)
    · cases Option.some.inj reacted
      exact .listens
  · simp at reacted

theorem sole_received
    {result : Except TransportError Message}
    (reacted : received client result = some reaction) : Sole reaction := by
  unfold received at reacted
  split at reacted
  · cases Option.some.inj reacted
    exact sole_proceed client _ _ _
  · split at reacted
    · cases Option.some.inj reacted
      exact sole_finish client (by simp)
    · split at reacted
      · cases Option.some.inj reacted
        exact sole_handOut client _
      · cases Option.some.inj reacted
        exact sole_finish client (by simp)
  · simp at reacted

theorem sole_closed
    {result : Except TransportError Unit}
    (reacted : closed client result = some reaction) : Sole reaction := by
  unfold closed at reacted
  split at reacted
  · cases Option.some.inj reacted
    exact sole_finish client (by simp)
  · cases Option.some.inj reacted
    exact sole_finish client (by simp)
  · simp at reacted

theorem sole_of_step
    (stepped : client.step event = some reaction) : Sole reaction := by
  cases event with
  | attach request =>
      obtain ⟨idle, reacted⟩ := Option.ite_none_right_eq_some.mp stepped
      exact Option.some.inj reacted ▸ sole_attach client request
  | disconnect =>
      obtain ⟨idle, reacted⟩ := Option.ite_none_right_eq_some.mp stepped
      exact Option.some.inj reacted ▸ sole_disconnect client
  | awaitCycles =>
      obtain ⟨idle, reacted⟩ := Option.ite_none_right_eq_some.mp stepped
      exact Option.some.inj reacted ▸ sole_awaitCycles client
  | sent result => exact sole_sent stepped
  | received result => exact sole_received stepped
  | closed result => exact sole_closed stepped

end Answers

/-! ## What a step asks for -/

theorem streamedOn_append (first second : List Effect) :
    streamedOn (first ++ second) = streamedOn first ++ streamedOn second :=
  List.filterMap_append

theorem subscribedOn_append (first second : List Effect) :
    subscribedOn (first ++ second) =
      subscribedOn first ++ subscribedOn second :=
  List.filterMap_append

/-- A step hands out no stream, or one and no more, and is done then. -/
theorem streamed_of_step
    (stepped : client.step event = some (next, effects)) :
    streamedOn effects = [] ∨
      ∃ connection, streamedOn effects = [connection] ∧
        Streamed connection effects ∧ next.activity = .idle := by
  cases sole_of_step stepped with
  | @finishes _ outcome idle fresh =>
      cases handed : (Effect.finish outcome).streamed? with
      | none => exact .inl (by simp [streamedOn, handed])
      | some connection =>
          refine .inr ⟨connection, by simp [streamedOn, handed], ?_, idle⟩
          obtain ⟨stream, out, rfl⟩ := Option.map_eq_some_iff.mp handed
          unfold Consumer.handedOut? at out
          split at out
          next own same =>
            cases Option.some.inj out
            cases same
            obtain ⟨connection, rfl⟩ := fresh _ rfl
            exact List.mem_singleton.mpr rfl
          next => simp at out
  | _ => exact .inl rfl

/-- A step subscribes on no connection, or on one and no more. -/
theorem subscribed_of_step
    (stepped : client.step event = some (next, effects)) :
    subscribedOn effects = [] ∨
      ∃ connection, subscribedOn effects = [connection] ∧
        Tried connection effects := by
  cases sole_of_step stepped with
  | @speaks _ connection message plain =>
      by_cases subscribes : message.kind = .subscribe
      · obtain ⟨watchType, rfl⟩ := plain subscribes
        exact .inr ⟨connection, rfl, watchType, List.mem_singleton.mpr rfl⟩
      · exact .inl (by simp [subscribedOn, Effect.subscribed?, subscribes])
  | _ => exact .inl rfl

/-- How a step can ask for the cycles of a connection. -/
theorem asking_cases
    (marking : Marking client said)
    (stepped : client.step event = some (next, effects))
    (asked : Asked connection effects) :
    client.connection = some connection ∧
      (¬Asked connection said ∨
        (∃ step, client.activity = .subscribing connection step) ∧
          ¬Tried connection effects) := by
  cases asking_of_step stepped with
  | aside unasked => exact absurd asked (unasked connection)
  | joined apart free unasked => exact absurd asked (unasked connection)
  | shaking active free unasked => exact absurd asked (unasked connection)
  | parted waits unasked => exact absurd asked (unasked connection)
  | marked state joined unmarked waits only tries =>
      have same := (only connection).mp asked
      subst same
      refine ⟨joined, .inl fun earlier => ?_⟩
      have marked := marking.marked.mpr ⟨connection, joined, earlier⟩
      simp [unmarked] at marked
  | subscribes active waits only untried =>
      have same := only connection asked
      subst same
      exact ⟨(marking.subscribing _ _ active).1,
        .inr ⟨⟨_, active⟩, untried connection⟩⟩

theorem tried_of_mem
    (stepped : client.step event = some (next, effects))
    (member : connection ∈ subscribedOn effects) : Tried connection effects := by
  obtain none | ⟨own, one, tried⟩ := subscribed_of_step stepped
  · simp [none] at member
  · rw [one, List.mem_singleton] at member
    exact member ▸ tried

/-- What a step hands out or subscribes on, it asks for. -/
theorem asked_of_mem
    (stepped : client.step event = some (next, effects))
    (member :
      connection ∈ streamedOn effects ∨ connection ∈ subscribedOn effects) :
    Asked connection effects := by
  rcases member with served | subscribed
  · obtain none | ⟨own, one, streamed, _⟩ := streamed_of_step stepped
    · simp [none] at served
    · rw [one, List.mem_singleton] at served
      exact .inl (served ▸ streamed)
  · exact .inr (tried_of_mem stepped subscribed)

/-! ## Along a run -/

/-- No connection has two streams or two subscriptions. -/
structure Single (client : Client) (effects : List Effect) : Prop where
  streams : (streamedOn effects).Nodup
  subscriptions : (subscribedOn effects).Nodup
  known :
    ∀ connection,
      connection ∈ streamedOn effects ∨ connection ∈ subscribedOn effects →
        Asked connection effects
  /-- There is no stream yet while the client subscribes. -/
  unserved :
    ∀ connection step,
      client.activity = .subscribing connection step →
        connection ∉ streamedOn effects

/-- Whoever subscribes finds the connection unmarked. -/
theorem unasked_of_tried
    (marking : Marking client said)
    (stepped : client.step event = some (next, effects))
    (tried : Tried connection effects) : ¬Asked connection said := by
  obtain ⟨_, unasked | ⟨_, untried⟩⟩ :=
    asking_cases marking stepped (.inr tried)
  · exact unasked
  · exact absurd tried untried

theorem Single.unstreamed
    (single : Single client said) (marking : Marking client said)
    (stepped : client.step event = some (next, effects))
    (streamed : Streamed connection effects) :
    connection ∉ streamedOn said := by
  obtain ⟨_, unasked | ⟨⟨step, active⟩, _⟩⟩ :=
    asking_cases marking stepped (.inl streamed)
  · exact fun member => unasked (single.known connection (.inl member))
  · exact single.unserved connection step active

/-- A client that subscribes has not handed out the stream. -/
theorem Single.unserved_of_step
    (single : Single client said) (marking : Marking client said)
    (stepped : client.step event = some (next, effects)) {step : Subscription}
    (active : next.activity = .subscribing connection step) :
    connection ∉ streamedOn said := by
  cases asking_of_step stepped with
  | aside unasked => simp at active
  | joined apart free unasked => exact absurd active (free connection step)
  | shaking before free unasked => exact absurd active (free connection step)
  | parted waits unasked =>
      rcases waits with rfl | ⟨error, rfl⟩ <;> simp at active
  | @marked _ own _ _ state joined unmarked waits only tries =>
      intro member
      rcases waits with rfl | rfl
      · simp at active
      · cases active
        have marked := marking.marked.mpr
          ⟨connection, joined, single.known connection (.inl member)⟩
        simp [unmarked] at marked
  | subscribes before waits only untried =>
      rcases waits with rfl | rfl
      · simp at active
      · cases active
        exact single.unserved _ _ before

theorem Single.of_step
    (single : Single client said) (marking : Marking client said)
    (stepped : client.step event = some (next, effects)) :
    Single next (said ++ effects) where
  streams := by
    rw [streamedOn_append]
    obtain none | ⟨connection, one, streamed, _⟩ := streamed_of_step stepped
    · simpa [none] using single.streams
    · rw [one, ← List.concat_eq_append]
      exact List.Nodup.concat
        (single.unstreamed marking stepped streamed) single.streams
  subscriptions := by
    rw [subscribedOn_append]
    obtain none | ⟨connection, one, tried⟩ := subscribed_of_step stepped
    · simpa [none] using single.subscriptions
    · rw [one, ← List.concat_eq_append]
      refine List.Nodup.concat (fun member => ?_) single.subscriptions
      exact unasked_of_tried marking stepped tried
        (single.known connection (.inr member))
  known := by
    intro connection member
    simp only [streamedOn_append, subscribedOn_append,
      List.mem_append] at member
    rw [asked_append]
    rcases member with (earlier | now) | (earlier | now)
    · exact .inl (single.known connection (.inl earlier))
    · exact .inr (asked_of_mem stepped (.inl now))
    · exact .inl (single.known connection (.inr earlier))
    · exact .inr (asked_of_mem stepped (.inr now))
  unserved := by
    intro connection step active
    rw [streamedOn_append]
    obtain none | ⟨own, one, streamed, idle⟩ := streamed_of_step stepped
    · rw [none, List.append_nil]
      exact single.unserved_of_step marking stepped active
    · simp [idle] at active

theorem single_run
    {options : ClientOptions} {events : List Event}
    (ran : run step (new options) events = some (client, effects)) :
    Single client effects := by
  refine run_induction (fun client _ effects => Single client effects)
    ⟨.nil, .nil, by simp [streamedOn, subscribedOn], by simp [new]⟩ ?_ ran
  intro client events effects event next more before single stepped
  exact single.of_step (marking_run before) stepped

/-! ## A client that stays attached -/

/-- A client on a connection, in no call but perhaps one for its cycles. -/
structure Stays (connection : ConnectionId) (client : Client) : Prop where
  joined : client.connection = some connection
  calm :
    client.activity = .idle ∨
      ∃ own step, client.activity = .subscribing own step

/-- Only a call that hangs up ends a connection. -/
theorem Stays.of_step
    (stays : Stays connection client) (other : event ≠ .disconnect)
    (stepped : client.step event = some (next, effects)) :
    Stays connection next := by
  obtain ⟨joined, calm⟩ := stays
  cases move_of_step stepped with
  | refused idle some => exact ⟨joined, calm⟩
  | joined idle apart => simp [apart] at joined
  | missed idle apart => exact absurd rfl other
  | parted idle same => exact absurd rfl other
  | turnedAway idle => exact ⟨joined, calm⟩
  | asked idle state waits =>
      refine ⟨joined, waits.imp id fun ⟨own, active⟩ => ⟨own, _, active⟩⟩
  | @subscribed _ own _ _ _ active answers waits =>
      exact ⟨joined, waits.imp id fun active => ⟨own, _, active⟩⟩
  | entered active answers apt quiet => simp [active] at calm
  | agreed active answers apt => simp [active] at calm
  | broken active breaks => simp [active] at calm
  | gaveUp active => simp [active] at calm
  | hungUp active => simp [active] at calm

/-- A call for the cycles does not end as an attachment does. -/
theorem awaitCycles_ne_attached
    (client final : Client) (result : Except ProtocolError Unit) :
    awaitCycles client ≠ (final, [.finish (.attached result)]) := by
  intro same
  unfold awaitCycles at same
  repeat' split at same
  all_goals cases same

/-- Nor does any answer to such a call. -/
theorem subscribing_ne_attached
    {own : ConnectionId} {subscription : Subscription}
    (active : client.activity = .subscribing own subscription)
    (answers : event.starts = false) (result : Except ProtocolError Unit) :
    client.step event ≠ some (next, [.finish (.attached result)]) := by
  intro stepped
  cases event with
  | sent sent =>
      cases subscription with
      | sending =>
          cases sent <;>
            simp [step, Client.sent, active, finish] at stepped
      | awaiting => simp [step, Client.sent, active] at stepped
  | received received =>
      simp only [step, Client.received, active] at stepped
      cases subscription with
      | sending => simp at stepped
      | awaiting =>
          repeat' split at stepped
          all_goals simp_all [finish, handOut]
  | closed closed => simp [step, Client.closed, active] at stepped
  | _ => simp [Event.starts] at answers

/-- An attachment that succeeds leaves an unmarked connection. -/
theorem stays_of_attached
    (sound : Sound client) (marking : Marking client said)
    (stepped :
      client.step event = some (next, [.finish (.attached (.ok ()))])) :
    ∃ connection, Stays connection next ∧ ¬Asked connection said := by
  cases move_of_step stepped with
  | asked idle state waits =>
      obtain ⟨_, reacted⟩ := Option.ite_none_right_eq_some.mp stepped
      exact absurd (Option.some.inj reacted) (awaitCycles_ne_attached _ _ _)
  | subscribed active answers waits =>
      exact absurd stepped (subscribing_ne_attached active answers _)
  | entered active answers apt quiet => simp [outcomes] at quiet
  | @agreed _ connection _ _ _ active answers apt =>
      obtain ⟨joined, _⟩ := sound.shaking _ _ _ active
      refine ⟨connection, ⟨joined, .inl rfl⟩, fun asked => ?_⟩
      have marked := marking.marked.mpr ⟨connection, joined, asked⟩
      simp [marking.shaking _ _ _ active] at marked

/-- Until it hangs up, a client asks for the cycles of its connection only. -/
theorem Stays.of_run
    {later : List Event} (stays : Stays connection client)
    (marking : Marking client said) (other : .disconnect ∉ later)
    (ran : run step client later = some (next, effects)) :
    Stays connection next ∧
      ∀ own, own ∈ streamedOn effects ∨ own ∈ subscribedOn effects →
        own = connection := by
  have kept :
      Marking next (said ++ effects) ∧
        (.disconnect ∉ later → Stays connection next ∧
          ∀ own, own ∈ streamedOn effects ∨ own ∈ subscribedOn effects →
            own = connection) := by
    refine run_invariant
      (fun next later effects =>
        Marking next (said ++ effects) ∧
          (.disconnect ∉ later → Stays connection next ∧
            ∀ own, own ∈ streamedOn effects ∨ own ∈ subscribedOn effects →
              own = connection))
      ⟨by simpa using marking, fun _ => ⟨stays, by
        simp [streamedOn, subscribedOn]⟩⟩ ?_ ran
    rintro client later effects event next more ⟨marking, kept⟩ stepped
    refine ⟨?_, fun absent => ?_⟩
    · rw [← List.append_assoc]
      exact marking.of_asking (asking_of_step stepped)
    · simp only [List.mem_append, List.mem_singleton, not_or] at absent
      obtain ⟨stays, only⟩ := kept absent.1
      refine ⟨stays.of_step (Ne.symm absent.2) stepped, fun own => ?_⟩
      simp only [streamedOn_append, subscribedOn_append, List.mem_append]
      have now
          (member : own ∈ streamedOn more ∨ own ∈ subscribedOn more) :
          own = connection :=
        Option.some.inj
          ((asking_cases marking stepped
            (asked_of_mem stepped member)).1.symm.trans stays.joined)
      rintro ((earlier | last) | (earlier | last))
      · exact only own (.inl earlier)
      · exact now (.inl last)
      · exact only own (.inr earlier)
      · exact now (.inr last)
  exact kept.2 other

end BuildWatch.Client
