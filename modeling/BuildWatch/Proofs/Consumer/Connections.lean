import BuildWatch.Proofs.Client.Single
import BuildWatch.Proofs.Consumer.Moves
import BuildWatch.Watcher

/-!
# Connections are kept apart

A consumer may keep the streams of connections that are gone, use them, and
make sequences of them.  Each of them stays on the connection that it was
handed out on.  No connection gets a second stream or a second subscription,
so that what an old stream sends reaches no server but its own, and whatever
is done to a stream leaves the client as it is.
-/

namespace BuildWatch

namespace Consumer

/-! ## What a history shows -/

/-- The stream that a sequence is made of. -/
def Event.gathered? : Event → Option Nat
  | .gather index => some index
  | _ => none

/-- The connection of the stream that an effect hands out. -/
def Effect.streamed? (effect : Effect) : Option ConnectionId :=
  effect.client?.bind Client.Effect.streamed?

/-- The connection that an effect subscribes on, whoever does. -/
def Effect.subscribed? (effect : Effect) : Option ConnectionId :=
  (Watcher.operation? effect).bind fun operation =>
    match operation.demand with
    | .send message =>
        if message.kind = .subscribe then some operation.connection else none
    | _ => none

/-- The connection that a stream, or a sequence of it, sends or receives on. -/
def Effect.drawn? (effect : Effect) : Option ConnectionId :=
  (Watcher.operation? effect).bind fun operation =>
    match operation.party with
    | .client => none
    | _ => some operation.connection

/-- The streams that sequences were made of, in the order of the sequences. -/
def gathers (events : List Event) : List Nat :=
  events.filterMap Event.gathered?

/-- The stream that an effect is of, itself or as a sequence. -/
def Effect.stream? (events : List Event) : Effect → Option Nat
  | .client _ => none
  | .stream index _ _ => some index
  | .sequence index _ _ => (gathers events)[index]?

/-- The connections of the streams that are handed out, in order. -/
def streamedOn (effects : List Effect) : List ConnectionId :=
  effects.filterMap Effect.streamed?

/-- The connections that are subscribed on, in order. -/
def subscribedOn (effects : List Effect) : List ConnectionId :=
  effects.filterMap Effect.subscribed?

theorem streamedOn_append (first second : List Effect) :
    streamedOn (first ++ second) = streamedOn first ++ streamedOn second :=
  List.filterMap_append

theorem subscribedOn_append (first second : List Effect) :
    subscribedOn (first ++ second) =
      subscribedOn first ++ subscribedOn second :=
  List.filterMap_append

theorem gathers_append (first second : List Event) :
    gathers (first ++ second) = gathers first ++ gathers second :=
  List.filterMap_append

theorem streamedOn_eq (effects : List Effect) :
    streamedOn effects =
      Client.streamedOn (effects.filterMap Effect.client?) := by
  rw [Client.streamedOn, List.filterMap_filterMap]
  rfl

variable {consumer next : Consumer} {event : Event} {events : List Event}
  {effects more : List Effect}

/-! ## Where streams come from -/

/-- How streams, sequences and what they do go back to what was handed out. -/
structure Traced (consumer : Consumer) (events : List Event)
    (effects : List Effect) : Prop where
  streams :
    consumer.streams.map CycleStream.connection = streamedOn effects
  sequences :
    consumer.sequences.map (fun sequence => some sequence.connection) =
      (gathers events).map fun index => (streamedOn effects)[index]?
  /-- What a stream does, it does on the connection that it was got on. -/
  drawn :
    ∀ effect ∈ effects, ∀ connection,
      effect.drawn? = some connection →
        ∃ index,
          effect.stream? events = some index ∧
            (streamedOn effects)[index]? = some connection

theorem traced_new (options : ClientOptions) : Traced (new options) [] [] where
  streams := rfl
  sequences := rfl
  drawn := by simp

section Step

/-- Streams are handed out by the client only. -/
theorem streamedOn_of_other
    (stepped : consumer.step event = some (next, effects))
    (other : event.client? = none) : streamedOn effects = [] := by
  rw [streamedOn_eq, (client_of_step stepped other).2]
  rfl

theorem stream?_append (more : List Event) {effect : Effect} {index : Nat}
    (found : effect.stream? events = some index) :
    effect.stream? (events ++ more) = some index := by
  cases effect with
  | client effect => simp [Effect.stream?] at found
  | stream own connection effect => exact found
  | sequence own connection effect =>
      rw [Effect.stream?, gathers_append]
      exact getElem?_append_of_eq_some found _

theorem drawn?_stream
    {index : Nat} {own connection : ConnectionId}
    {effect : CycleStream.Effect}
    (drawn : (Effect.stream index own effect).drawn? = some connection) :
    connection = own := by
  cases effect <;>
    simp_all [Effect.drawn?, Watcher.operation?, Watcher.streamDemand?]

theorem drawn?_sequence
    {index : Nat} {own connection : ConnectionId}
    {effect : CycleStream.Effect}
    (drawn : (Effect.sequence index own effect).drawn? = some connection) :
    connection = own := by
  cases effect <;>
    simp_all [Effect.drawn?, Watcher.operation?, Watcher.streamDemand?]

theorem drawn?_client (effect : Client.Effect) :
    (Effect.client effect).drawn? = none := by
  cases effect <;> rfl

/-- What replaces an item and is the same to a function does not show. -/
theorem map_set_of_same
    {α β : Type} (shown : α → β) {items : List α} {index : Nat}
    {item other : α} (found : items[index]? = some item)
    (same : shown other = shown item) :
    (items.set index other).map shown = items.map shown := by
  obtain ⟨inside, rfl⟩ := List.getElem?_eq_some_iff.mp found
  rw [List.map_set, same, ← List.map_set, List.set_getElem_self]

theorem Traced.streams_of_step
    (traced : Traced consumer events effects)
    (stepped : consumer.step event = some (next, more)) :
    next.streams.map CycleStream.connection =
      streamedOn (effects ++ more) := by
  rw [streamedOn_append, ← traced.streams]
  cases move_of_step stepped with
  | @client _ _ own reacted =>
      rw [List.map_append, List.map_filterMap, streamedOn, List.filterMap_map]
      rfl
  | stream found reacted =>
      rw [streamedOn_of_other stepped rfl, List.append_nil]
      exact map_set_of_same _ found (CycleStream.connection_of_step reacted)
  | gather found =>
      rw [streamedOn_of_other stepped rfl, List.append_nil]
      exact map_set_of_same _ found rfl
  | sequence found reacted =>
      rw [streamedOn_of_other stepped rfl, List.append_nil]

/-- A stream that a sequence was made of had been handed out before. -/
theorem Traced.gathered
    (traced : Traced consumer events effects) {index : Nat}
    (member : index ∈ gathers events) :
    ∃ connection, (streamedOn effects)[index]? = some connection := by
  have shown :
      (streamedOn effects)[index]? ∈
        (gathers events).map fun index => (streamedOn effects)[index]? :=
    List.mem_map.mpr ⟨index, member, rfl⟩
  rw [← traced.sequences] at shown
  obtain ⟨sequence, _, same⟩ := List.mem_map.mp shown
  exact ⟨sequence.connection, same.symm⟩

theorem Traced.sequences_of_step
    (traced : Traced consumer events effects)
    (stepped : consumer.step event = some (next, more)) :
    next.sequences.map (fun sequence => some sequence.connection) =
      (gathers (events ++ [event])).map fun index =>
        (streamedOn (effects ++ more))[index]? := by
  have grown :
      consumer.sequences.map (fun sequence => some sequence.connection) =
        (gathers events).map fun index =>
          (streamedOn (effects ++ more))[index]? := by
    rw [traced.sequences]
    apply List.map_congr_left
    intro index member
    obtain ⟨connection, found⟩ := traced.gathered member
    rw [found, streamedOn_append]
    exact (getElem?_append_of_eq_some found _).symm
  rw [gathers_append, List.map_append, ← grown]
  cases move_of_step stepped with
  | client reacted => exact (List.append_nil _).symm
  | stream found reacted => exact (List.append_nil _).symm
  | @gather index stream found =>
      have known : (streamedOn effects)[index]? = some stream.connection := by
        rw [← traced.streams, List.getElem?_map, found]
        rfl
      rw [List.map_append, List.append_nil]
      exact congrArg (_ ++ [·]) known.symm
  | sequence found reacted =>
      have same := CycleSequence.connection_of_step reacted
      rw [map_set_of_same _ found (by rw [same])]
      exact (List.append_nil _).symm

theorem Traced.drawn_of_step
    (traced : Traced consumer events effects)
    (stepped : consumer.step event = some (next, more))
    {effect : Effect} (member : effect ∈ more) {connection : ConnectionId}
    (draws : effect.drawn? = some connection) :
    ∃ index,
      effect.stream? events = some index ∧
        (streamedOn effects)[index]? = some connection := by
  cases move_of_step stepped with
  | client reacted =>
      obtain ⟨own, _, rfl⟩ := List.mem_map.mp member
      simp [drawn?_client] at draws
  | @stream index _ stream _ _ found reacted =>
      obtain ⟨own, _, rfl⟩ := List.mem_map.mp member
      cases drawn?_stream draws
      refine ⟨index, rfl, ?_⟩
      rw [← traced.streams, List.getElem?_map, found]
      rfl
  | gather found => simp at member
  | @sequence index _ sequence _ _ found reacted =>
      obtain ⟨own, _, rfl⟩ := List.mem_map.mp member
      cases drawn?_sequence draws
      have known := congrArg (·[index]?) traced.sequences
      simp only [List.getElem?_map, found, Option.map_some] at known
      obtain ⟨stream, gathered, same⟩ := Option.map_eq_some_iff.mp known.symm
      exact ⟨stream, gathered, same⟩

theorem Traced.of_step
    (traced : Traced consumer events effects)
    (stepped : consumer.step event = some (next, more)) :
    Traced next (events ++ [event]) (effects ++ more) where
  streams := traced.streams_of_step stepped
  sequences := traced.sequences_of_step stepped
  drawn := by
    intro effect member connection draws
    obtain ⟨index, found, known⟩ :
        ∃ index,
          effect.stream? events = some index ∧
            (streamedOn effects)[index]? = some connection := by
      rcases List.mem_append.mp member with earlier | now
      · exact traced.drawn effect earlier connection draws
      · exact traced.drawn_of_step stepped now draws
    refine ⟨index, stream?_append _ found, ?_⟩
    rw [streamedOn_append]
    exact getElem?_append_of_eq_some known _

end Step

theorem traced_run
    {options : ClientOptions}
    (ran : run step (new options) events = some (consumer, effects)) :
    Traced consumer events effects := by
  refine run_invariant Traced (traced_new options) ?_ ran
  intro consumer events effects event next more traced stepped
  exact traced.of_step stepped

/-! ## Subscriptions -/

/-- An effect that sends no subscription subscribes on nothing. -/
theorem unsubscribed_of_kind
    {own : CycleStream.Effect}
    (others : ∀ message, own = .send message → message.kind ≠ .subscribe)
    (index : Nat) (connection : ConnectionId) :
    (Effect.stream index connection own).subscribed? = none ∧
      (Effect.sequence index connection own).subscribed? = none := by
  cases own with
  | send message =>
      have different := others message rfl
      simp [Effect.subscribed?, Watcher.operation?, Watcher.streamDemand?,
        different]
  | _ => simp [Effect.subscribed?, Watcher.operation?, Watcher.streamDemand?]

/-- The messages of streams and sequences are no subscriptions. -/
theorem unsubscribed_of_other
    (stepped : consumer.step event = some (next, effects))
    (other : event.client? = none) :
    ∀ effect ∈ effects, effect.subscribed? = none := by
  cases move_of_step stepped with
  | client reacted => simp [Event.client?] at other
  | stream found reacted =>
      intro effect member
      obtain ⟨own, inside, rfl⟩ := List.mem_map.mp member
      refine (unsubscribed_of_kind ?_ _ _).1
      rintro message rfl
      exact CycleStream.kind_ne_subscribe reacted inside
  | gather found => simp
  | sequence found reacted =>
      intro effect member
      obtain ⟨own, inside, rfl⟩ := List.mem_map.mp member
      refine (unsubscribed_of_kind ?_ _ _).2
      rintro message rfl
      exact CycleSequence.kind_ne_subscribe reacted inside

theorem subscribed?_client (effect : Client.Effect) :
    (Effect.client effect).subscribed? = effect.subscribed? := by
  cases effect <;> rfl

/-- Only the client subscribes. -/
theorem subscribedOn_of_step
    (stepped : consumer.step event = some (next, effects)) :
    subscribedOn effects =
      Client.subscribedOn (effects.filterMap Effect.client?) := by
  cases shown : event.client? with
  | none =>
      rw [(client_of_step stepped shown).2]
      exact List.filterMap_eq_nil_iff.mpr (unsubscribed_of_other stepped shown)
  | some own =>
      cases move_of_step stepped with
      | client reacted =>
          rw [Client.subscribedOn, List.filterMap_filterMap,
            subscribedOn, List.filterMap_map, List.filterMap_map]
          congr 1
          funext effect
          exact subscribed?_client effect
      | _ => simp [Event.client?] at shown

theorem subscribedOn_of_run
    {later : List Event} {final : Consumer}
    (ran : run step consumer later = some (final, effects)) :
    subscribedOn effects =
      Client.subscribedOn (effects.filterMap Effect.client?) := by
  refine run_invariant
    (fun _ _ effects =>
      subscribedOn effects =
        Client.subscribedOn (effects.filterMap Effect.client?))
    rfl ?_ ran
  intro consumer events effects event next more kept stepped
  rw [subscribedOn_append, List.filterMap_append, Client.subscribedOn_append,
    kept, subscribedOn_of_step stepped]

/-- Nothing is drawn on a connection that is subscribed on later. -/
def Ordered (effects : List Effect) : Prop :=
  effects.Pairwise fun earlier later =>
    ∀ connection,
      earlier.drawn? = some connection →
        later.subscribed? ≠ some connection

/-- A step subscribes on a connection that nothing was drawn on. -/
theorem undrawn_of_subscribed
    {options : ClientOptions}
    (ran : run step (new options) events = some (consumer, effects))
    (stepped : consumer.step event = some (next, more))
    {connection : ConnectionId} {earlier later : Effect}
    (before : earlier ∈ effects) (draws : earlier.drawn? = some connection)
    (now : later ∈ more) : later.subscribed? ≠ some connection := by
  intro subscribes
  cases move_of_step stepped with
  | @client own _ _ reacted =>
      obtain ⟨said, inside, rfl⟩ := List.mem_map.mp now
      rw [subscribed?_client] at subscribes
      have single := Client.single_run (client_run ran)
      have tried :=
        Client.tried_of_mem reacted
          (List.mem_filterMap.mpr ⟨said, inside, subscribes⟩)
      refine Client.unasked_of_tried (Client.marking_run (client_run ran))
        reacted tried (single.known connection (.inl ?_))
      rw [← streamedOn_eq]
      obtain ⟨index, _, known⟩ :=
        (traced_run ran).drawn earlier before connection draws
      exact List.mem_of_getElem? known
  | stream found reacted =>
      simp [unsubscribed_of_other stepped rfl later now] at subscribes
  | gather found => simp at now
  | sequence found reacted =>
      simp [unsubscribed_of_other stepped rfl later now] at subscribes

theorem ordered_run
    {options : ClientOptions}
    (ran : run step (new options) events = some (consumer, effects)) :
    Ordered effects := by
  refine run_induction (fun _ _ effects => Ordered effects) .nil ?_ ran
  intro consumer events effects event next more before ordered stepped
  refine List.pairwise_append.mpr ⟨ordered, ?_, ?_⟩
  · apply List.pairwise_of_forall_mem_list
    intro earlier first later last connection draws
    cases move_of_step stepped with
    | client reacted =>
        obtain ⟨own, _, rfl⟩ := List.mem_map.mp first
        simp [drawn?_client] at draws
    | stream found reacted =>
        simp [unsubscribed_of_other stepped rfl later last]
    | gather found => simp at first
    | sequence found reacted =>
        simp [unsubscribed_of_other stepped rfl later last]
  · intro earlier first later last connection draws
    exact undrawn_of_subscribed before stepped first draws last

/-! ## From an attachment to the next call that hangs up -/

/--
What a connection sees of a consumer, from the attachment on: these are the
streams that the consumer had then, all events, and the effects before and
behind.
-/
structure Window (connection : ConnectionId) (old : List CycleStream)
    (events : List Event) (early late : List Effect) : Prop where
  unstreamed : connection ∉ streamedOn early
  unsubscribed : connection ∉ subscribedOn early
  streamed : streamedOn late = [] ∨ streamedOn late = [connection]
  subscribed : subscribedOn late = [] ∨ subscribedOn late = [connection]
  /-- No older stream draws on the connection. -/
  own :
    ∀ effect ∈ late,
      effect.drawn? = some connection →
        ∃ index, effect.stream? events = some index ∧ old.length ≤ index

/-- The effect that ends an attachment that succeeds. -/
def attachedEffect : Effect :=
  .client (.finish (.attached (.ok ())))

/-- Items that are one and the same, but are not repeated. -/
theorem eq_nil_or_singleton
    {α : Type} {items : List α} {item : α} (nodup : items.Nodup)
    (only : ∀ other ∈ items, other = item) : items = [] ∨ items = [item] := by
  rcases items with _ | ⟨first, _ | ⟨second, rest⟩⟩
  · exact .inl rfl
  · exact .inr (by rw [only first List.mem_cons_self])
  · have same : first = second := by
      rw [only first (by simp), only second (by simp)]
    simp [same] at nodup

/-- A client that has just attached stays on a connection of its own. -/
theorem stays_of_step
    {options : ClientOptions}
    (ran : run step (new options) events = some (consumer, effects))
    (stepped : consumer.step event = some (next, [attachedEffect])) :
    ∃ connection,
      Client.Stays connection next.client ∧
        connection ∉ streamedOn effects ∧
        connection ∉ subscribedOn effects := by
  have alone := client_run ran
  obtain ⟨own, rfl⟩ : ∃ own, event = .client own := by
    cases event with
    | client own => exact ⟨own, rfl⟩
    | _ =>
        have none := (client_of_step stepped rfl).2
        simp [attachedEffect, Effect.client?] at none
  obtain ⟨connection, stays, unasked⟩ :=
    Client.stays_of_attached (Client.sound_run alone).2
      (Client.marking_run alone) (step_of_client stepped)
  have single := Client.single_run alone
  refine ⟨connection, stays, ?_, ?_⟩
  · rw [streamedOn_eq]
    exact fun member => unasked (single.known connection (.inl member))
  · rw [subscribedOn_of_run ran]
    exact fun member => unasked (single.known connection (.inr member))

theorem window_of_run
    {options : ClientOptions} {before during : List Event}
    {state start final : Consumer} {early late : List Effect}
    (ran : run step (new options) before = some (state, early))
    (stepped : state.step event = some (start, [attachedEffect]))
    (lasting : run step start during = some (final, late))
    (other : .client .disconnect ∉ during) :
    ∃ connection,
      start.client.connection = some connection ∧
        Window connection start.streams (before ++ event :: during) early
          late := by
  obtain ⟨connection, stays, unstreamed, unsubscribed⟩ :=
    stays_of_step ran stepped
  have attached :
      run step (new options) (before ++ [event]) =
        some (start, early ++ [attachedEffect]) :=
    run_snoc_eq_some_iff.mpr ⟨state, early, _, ran, stepped, rfl⟩
  have whole :
      run step (new options) (before ++ event :: during) =
        some (final, (early ++ [attachedEffect]) ++ late) := by
    rw [← List.singleton_append, ← List.append_assoc]
    exact run_append_eq_some_iff.mpr ⟨start, _, late, attached, lasting, rfl⟩
  have same : streamedOn (early ++ [attachedEffect]) = streamedOn early := by
    rw [streamedOn_append]
    exact List.append_nil _
  have stayed : .disconnect ∉ during.filterMap Event.client? := by
    intro member
    obtain ⟨event, inside, shown⟩ := List.mem_filterMap.mp member
    cases event with
    | client own =>
        cases shown
        exact other inside
    | _ => simp [Event.client?] at shown
  obtain ⟨_, only⟩ :=
    stays.of_run (Client.marking_run (client_run attached)) stayed
      (client_run lasting)
  have single := Client.single_run (client_run whole)
  have streams := single.streams
  have subscriptions := single.subscriptions
  rw [← streamedOn_eq, streamedOn_append] at streams
  rw [← subscribedOn_of_run whole, subscribedOn_append] at subscriptions
  refine ⟨connection, stays.joined, unstreamed, unsubscribed, ?_, ?_, ?_⟩
  · refine eq_nil_or_singleton (List.nodup_append.mp streams).2.1 ?_
    intro own member
    rw [streamedOn_eq] at member
    exact only own (.inl member)
  · refine eq_nil_or_singleton (List.nodup_append.mp subscriptions).2.1 ?_
    intro own member
    rw [subscribedOn_of_run lasting] at member
    exact only own (.inr member)
  · intro effect member draws
    obtain ⟨index, found, known⟩ :=
      (traced_run whole).drawn effect (List.mem_append_right _ member) _ draws
    refine ⟨index, found, Nat.le_of_not_lt fun old => unstreamed ?_⟩
    have length : start.streams.length = (streamedOn early).length := by
      rw [← same, ← (traced_run attached).streams, List.length_map]
    rw [streamedOn_append, same,
      List.getElem?_append_left (length ▸ old)] at known
    exact List.mem_of_getElem? known

/-! ## Along every run -/

/-- How the connections of a consumer are kept apart. -/
structure Apart (options : ClientOptions) (events : List Event)
    (consumer : Consumer) (effects : List Effect) : Prop where
  /-- No connection gets two streams, -/
  streams : (streamedOn effects).Nodup
  /-- nor two subscriptions, -/
  subscriptions : (subscribedOn effects).Nodup
  /-- nor a subscription behind anything that its stream does. -/
  ordered : Ordered effects
  /-- A stream stays on the connection that it was handed out on. -/
  drawn :
    ∀ effect ∈ effects, ∀ connection,
      effect.drawn? = some connection →
        ∃ index,
          effect.stream? events = some index ∧
            (streamedOn effects)[index]? = some connection
  /-- What is done to a stream leaves the client as it is, -/
  untouched :
    ∀ event next more,
      event.client? = none →
        consumer.step event = some (next, more) →
          next.client = consumer.client
  /-- which does what it does without any streams. -/
  alone :
    run Client.step (Client.new options) (events.filterMap Event.client?) =
      some (consumer.client, effects.filterMap Effect.client?)
  window :
    ∀ before event during state start early late,
      events = before ++ event :: during →
        run step (new options) before = some (state, early) →
          state.step event = some (start, [attachedEffect]) →
            run step start during = some (consumer, late) →
              .client .disconnect ∉ during →
                ∃ connection,
                  start.client.connection = some connection ∧
                    Window connection start.streams events early late

/--
However attachments, calls for the cycles, and calls on old and new streams
follow one another, no connection has more than one stream and one
subscription, and no stream touches a connection but its own.
-/
theorem connections_apart
    {options : ClientOptions}
    (ran : run step (new options) events = some (consumer, effects)) :
    Apart options events consumer effects where
  streams := by
    rw [streamedOn_eq]
    exact (Client.single_run (client_run ran)).streams
  subscriptions := by
    rw [subscribedOn_of_run ran]
    exact (Client.single_run (client_run ran)).subscriptions
  ordered := ordered_run ran
  drawn := (traced_run ran).drawn
  untouched := fun _ _ _ other stepped => (client_of_step stepped other).1
  alone := client_run ran
  window := by
    rintro before event during state start early late rfl first stepped
      lasting other
    exact window_of_run first stepped lasting other

/-- A client of version 2 attaches, but for the last answer. -/
def joining : List Event :=
  [.client (.attach .empty),
    .client (.received (.ok (Message.plain (.negotiate [⟨2⟩])))),
    .client (.sent (.ok ())), .client (.sent (.ok ()))]

def granted : Event :=
  .client
    (.received (.ok (Message.plain (.capsResponse (Json.object KeyMap.empty)))))

/-- It asks for its cycles. -/
def awaiting : List Event :=
  [.client .awaitCycles, .client (.sent (.ok ())),
    .client (.received (.ok (Message.plain .subscribeResponse)))]

/-- The first stream has a cycle, and the client hangs up. -/
def firstVisit : List Event :=
  joining ++ granted :: awaiting ++
    [.stream 0 .next,
      .stream 0
        (.received (.ok (Message.plain (.cycle 1 none KeyMap.empty)))),
      .stream 0 (.sent (.ok ())), .client .disconnect,
      .client (.closed (.ok ()))]

/-- The old stream is dropped when the new one is there. -/
def lateDrop : List Event :=
  awaiting ++ [.stream 0 (.drop false), .stream 0 (.sent (.ok ()))]

theorem connections_apart_lateDrop :
    ∃ (consumer : Consumer) (effects : List Effect) (start : Consumer)
        (early late : List Effect),
      run step (new ⟨[⟨2⟩], "sources"⟩)
            (firstVisit ++ joining ++ granted :: lateDrop) =
          some (consumer, effects) ∧
        streamedOn effects = [0, 1] ∧ subscribedOn effects = [0, 1] ∧
        effects.filterMap Effect.drawn? = [0, 0, 0] ∧
        Apart ⟨[⟨2⟩], "sources"⟩
          (firstVisit ++ joining ++ granted :: lateDrop) consumer effects ∧
        start.client.connection = some 1 ∧
        Window 1 start.streams
          (firstVisit ++ joining ++ granted :: lateDrop) early late ∧
        late.filterMap Effect.drawn? = [0] := by
  obtain ⟨consumer, effects, state, start, early, late, ran, streamed,
    subscribed, drawn, first, stepped, lasting, joined, last⟩ :
      ∃ (consumer : Consumer) (effects : List Effect)
          (state start : Consumer) (early late : List Effect),
        run step (new ⟨[⟨2⟩], "sources"⟩)
              (firstVisit ++ joining ++ granted :: lateDrop) =
            some (consumer, effects) ∧
          streamedOn effects = [0, 1] ∧ subscribedOn effects = [0, 1] ∧
          effects.filterMap Effect.drawn? = [0, 0, 0] ∧
          run step (new ⟨[⟨2⟩], "sources"⟩) (firstVisit ++ joining) =
            some (state, early) ∧
          state.step granted = some (start, [attachedEffect]) ∧
          run step start lateDrop = some (consumer, late) ∧
          start.client.connection = some 1 ∧
          late.filterMap Effect.drawn? = [0] :=
    ⟨_, _, _, _, _, _, rfl, rfl, rfl, rfl, rfl, rfl, rfl, rfl, rfl⟩
  have apart := connections_apart ran
  obtain ⟨connection, same, window⟩ :=
    apart.window _ _ _ _ _ _ _ rfl first stepped lasting
      (by simp [lateDrop, awaiting])
  cases same.symm.trans joined
  exact ⟨consumer, effects, start, early, late, ran, streamed, subscribed,
    drawn, apart, joined, window, last⟩

end Consumer

end BuildWatch
