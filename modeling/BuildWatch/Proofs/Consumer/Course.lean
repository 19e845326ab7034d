import BuildWatch.Proofs.Client.Failures
import BuildWatch.Proofs.Client.Talk
import BuildWatch.Proofs.CycleStream.Progress
import BuildWatch.Watcher

/-!
# The course of a consumer

A consumer that stays on its first connection goes through two phases: first
its client talks to the server, and once the client has handed out a stream,
the stream does.  What the consumer has heard and said is therefore what the
client has heard and said, and then what the stream has.
-/

namespace BuildWatch

namespace CycleStream

/-- What an entry received. -/
def receipt? : Entry → Option Receipt
  | .inl (.received result) => some result
  | _ => none

/-- The cycle that a receipt brings. -/
def cycleOf? : Receipt → Option CycleEvent
  | .ok message => message.cycleEvent?
  | .error _ => none

theorem arrivals_eq (journal : List Entry) :
    journal.filterMap arrival? =
      (journal.filterMap receipt?).filterMap cycleOf? := by
  rw [List.filterMap_filterMap]
  congr 1
  funext entry
  rcases entry with event | effect
  · cases event with
    | received result =>
        cases result with
        | error error => rfl
        | ok message => exact arrival?_received message
    | _ => rfl
  · rfl

end CycleStream

namespace Consumer

/-- What a journal of a consumer consists of. -/
abbrev Entry := Event ⊕ Effect

/-- What an event received. -/
def Event.heard? : Event → Option Receipt
  | .client event => event.heard?
  | .stream _ (.received result) => some result
  | .sequence _ (.received result) => some result
  | _ => none

/-- What an effect asks the transport to send. -/
def Effect.message? (effect : Effect) : Option Message :=
  (Watcher.operation? effect).bind fun operation =>
    match operation.demand with
    | .send message => some message
    | _ => none

/-- Whether an effect asks the transport to close. -/
def Effect.closes (effect : Effect) : Bool :=
  (Watcher.operation? effect).any fun operation =>
    match operation.demand with
    | .close => true
    | _ => false

/-- The messages that effects ask the transport to send, in order. -/
def messages (effects : List Effect) : List Message :=
  effects.filterMap Effect.message?

/-- What an entry received. -/
def Entry.heard? : Entry → Option Receipt
  | .inl event => event.heard?
  | .inr _ => none

/-- What an entry sends. -/
def Entry.message? : Entry → Option Message
  | .inl _ => none
  | .inr effect => effect.message?

/-- What an entry tells about a stream. -/
def Entry.stream? : Entry → Option CycleStream.Entry
  | .inl (.stream _ event) => some (.inl event)
  | .inr (.stream _ _ effect) => some (.inr effect)
  | _ => none

/-- What was received. -/
def heard (journal : List Entry) : List Receipt :=
  journal.filterMap Entry.heard?

/-- What was sent. -/
def said (journal : List Entry) : List Message :=
  journal.filterMap Entry.message?

/-- What happened to the stream. -/
def followed (journal : List Entry) : List CycleStream.Entry :=
  journal.filterMap Entry.stream?

/-- The entries of a step. -/
def entries (event : Event) (effects : List Effect) : List Entry :=
  .inl event :: effects.map .inr

theorem heard_append (journal more : List Entry) :
    heard (journal ++ more) = heard journal ++ heard more :=
  List.filterMap_append

theorem said_append (journal more : List Entry) :
    said (journal ++ more) = said journal ++ said more :=
  List.filterMap_append

theorem followed_append (journal more : List Entry) :
    followed (journal ++ more) = followed journal ++ followed more :=
  List.filterMap_append

theorem heard_entries (event : Event) (effects : List Effect) :
    heard (entries event effects) = event.heard?.toList := by
  have nothing :
      (effects.map (@Sum.inr Event Effect)).filterMap Entry.heard? = [] := by
    simp [List.filterMap_map, Function.comp_def, Entry.heard?]
  rw [heard, entries, List.filterMap_cons, nothing]
  cases shown : event.heard? <;> simp [Entry.heard?, shown]

theorem said_entries (event : Event) (effects : List Effect) :
    said (entries event effects) = messages effects := by
  rw [said, entries, List.filterMap_cons, List.filterMap_map]
  rfl

/-! ## Steps of the parts -/

theorem messages_client (effects : List Client.Effect) :
    messages (effects.map .client) = Client.messages effects := by
  rw [messages, List.filterMap_map, Client.messages]
  congr 1
  funext effect
  cases effect <;> rfl

theorem followed_client
    (event : Client.Event) (effects : List Client.Effect) :
    followed (entries (.client event) (effects.map .client)) = [] := by
  simp [followed, entries, List.filterMap_map, Function.comp_def,
    Entry.stream?, List.filterMap_cons]

section Stream

variable (index : Nat) (connection : ConnectionId)
  (event : CycleStream.Event) (effects : List CycleStream.Effect)

theorem messages_stream :
    messages (effects.map (.stream index connection)) =
      (Sum.inl event :: effects.map .inr).filterMap
        CycleStream.attempt? := by
  rw [messages, List.filterMap_map, List.filterMap_cons, List.filterMap_map]
  change _ = effects.filterMap (CycleStream.attempt? ∘ Sum.inr)
  congr 1
  funext effect
  cases effect <;> rfl

theorem followed_stream :
    followed
      (entries (.stream index event)
        (effects.map (.stream index connection))) =
      .inl event :: effects.map .inr := by
  rw [followed, entries, List.filterMap_cons, List.map_map,
    List.filterMap_map]
  simp [Entry.stream?, Function.comp_def]

theorem heard_stream :
    (Event.stream index event).heard?.toList =
      (Sum.inl event :: effects.map .inr).filterMap
        CycleStream.receipt? := by
  have nothing :
      (effects.map (@Sum.inr CycleStream.Event CycleStream.Effect)).filterMap
        CycleStream.receipt? = [] := by
    simp [List.filterMap_map, Function.comp_def, CycleStream.receipt?]
  rw [List.filterMap_cons, nothing]
  cases event <;> rfl

end Stream

/-! ## Phases -/

/-- Who talks to the server. -/
inductive Phase (request : CapabilityRequest) (consumer : Consumer)
    (journal : List Entry) : Prop where
  /-- The client does. -/
  | before
      (talk :
        Client.Talk request consumer.client (heard journal) (said journal)
          [])
      (streamless : consumer.streams = [])
      (unfollowed : followed journal = [])
  /-- The stream does, behind the client. -/
  | behind {connection : ConnectionId} {stream : CycleStream}
      {events : List CycleStream.Event} {receipts : List Receipt}
      {messages : List Message}
      (talk :
        Client.Talk request consumer.client receipts messages
          [CycleStream.new connection])
      (single : consumer.streams = [stream])
      (ran :
        run (recorded CycleStream.step) (CycleStream.new connection) events =
          some (stream, followed journal))
      (listened :
        heard journal =
          receipts ++ (followed journal).filterMap CycleStream.receipt?)
      (spoke :
        said journal =
          messages ++ (followed journal).filterMap CycleStream.attempt?)

/-- The calls of a consumer that stays on its first connection. -/
def Event.Staying (request : CapabilityRequest) (consumer : Consumer) :
    Event → Prop
  | .client event => event.Staying request consumer.client
  | .gather _ => False
  | _ => True

/-- Whether the consumer has hung up. -/
def hungUp (journal : List Entry) : Bool :=
  journal.any fun entry =>
    match entry with
    | .inl _ => false
    | .inr effect => effect.closes

/-- What a journal and the state behind it have to do with each other. -/
structure Course (options : ClientOptions) (request : CapabilityRequest)
    (consumer : Consumer) (journal : List Entry) : Prop where
  same : consumer.client.options = options
  ungathered : consumer.sequences = []
  phase : Phase request consumer journal
  parted : hungUp journal = true → Client.Parted consumer.client

section Steps

variable {options : ClientOptions} {request : CapabilityRequest}
  {consumer next : Consumer} {journal : List Entry}

theorem phase_client
    {event : Client.Event} {client : Client} {effects : List Client.Effect}
    (phase : Phase request consumer journal)
    (staying : event.Staying request consumer.client)
    (stepped : consumer.client.step event = some (client, effects)) :
    Phase request
      { consumer with
        client
        streams := consumer.streams ++ effects.filterMap handedOut? }
      (journal ++ entries (.client event) (effects.map .client)) := by
  have hears :
      heard (journal ++ entries (.client event) (effects.map .client)) =
        heard journal ++ event.heard?.toList := by
    rw [heard_append, heard_entries]
    rfl
  have speaks :
      said (journal ++ entries (.client event) (effects.map .client)) =
        said journal ++ Client.messages effects := by
    rw [said_append, said_entries, messages_client]
  have follows :
      followed (journal ++ entries (.client event) (effects.map .client)) =
        followed journal := by
    rw [followed_append, followed_client, List.append_nil]
  cases phase with
  | before talk streamless unfollowed =>
      have grown := Client.talk_step talk staying stepped
      rw [← hears, ← speaks, List.nil_append] at grown
      rcases grown.streams_eq with nothing | ⟨connection, one⟩
      · rw [nothing] at grown
        refine .before grown ?_ (follows.trans unfollowed)
        rw [streamless]
        exact nothing
      · rw [one] at grown
        have ran :
            run (recorded CycleStream.step) (CycleStream.new connection) [] =
              some (CycleStream.new connection,
                followed
                  (journal ++
                    entries (.client event) (effects.map .client))) := by
          rw [follows, unfollowed]
          rfl
        refine .behind grown ?_ ran ?_ ?_
        · rw [streamless]
          exact one
        · simp [follows, unfollowed]
        · simp [follows, unfollowed]
  | behind talk single ran listened spoke =>
      obtain ⟨deaf, silent, barren⟩ :=
        Client.quiet_of_served talk staying stepped
      have grown := Client.talk_step talk staying stepped
      rw [deaf, silent, barren, Option.toList_none, List.append_nil,
        List.append_nil, List.append_nil] at grown
      rw [deaf, Option.toList_none, List.append_nil] at hears
      rw [silent, List.append_nil] at speaks
      rw [← follows] at ran
      refine .behind grown ?_ ran ?_ ?_
      · rw [single]
        exact congrArg (_ ++ ·) barren
      · rw [hears, follows]
        exact listened
      · rw [speaks, follows]
        exact spoke

theorem phase_stream
    {index : Nat} {event : CycleStream.Event} {stream after : CycleStream}
    {effects : List CycleStream.Effect}
    (phase : Phase request consumer journal)
    (found : consumer.streams[index]? = some stream)
    (stepped : stream.step event = some (after, effects)) :
    Phase request
      { consumer with streams := consumer.streams.set index after }
      (journal ++
        entries (.stream index event)
          (effects.map (.stream index stream.connection))) := by
  cases phase with
  | before talk streamless unfollowed => simp [streamless] at found
  | @behind connection own events receipts messages talk single ran listened
      spoke =>
      rw [single] at found
      have first : index = 0 := by
        have inside := (List.getElem?_eq_some_iff.mp found).1
        simpa using inside
      subst first
      simp only [List.getElem?_cons_zero, Option.some.injEq] at found
      subst found
      have goes :
          run (recorded CycleStream.step) (CycleStream.new connection)
              (events ++ [event]) =
            some (after,
              followed
                (journal ++
                  entries (.stream 0 event)
                    (effects.map (.stream 0 own.connection)))) := by
        rw [followed_append, followed_stream]
        refine run_snoc_eq_some_iff.mpr ⟨own, _, _, ran, ?_, rfl⟩
        exact recorded_eq_some_iff.mpr ⟨effects, stepped, rfl⟩
      refine .behind talk ?_ goes ?_ ?_
      · simp [single]
      · rw [heard_append, heard_entries, followed_append, followed_stream,
          List.filterMap_append, listened, List.append_assoc, heard_stream]
      · rw [said_append, said_entries, followed_append, followed_stream,
          List.filterMap_append, spoke, List.append_assoc, messages_stream]

/-- The client talks, in either phase. -/
theorem Phase.talk
    (phase : Phase request consumer journal) :
    ∃ receipts messages streams,
      Client.Talk request consumer.client receipts messages streams := by
  cases phase with
  | before talk streamless unfollowed => exact ⟨_, _, _, talk⟩
  | behind talk single ran listened spoke => exact ⟨_, _, _, talk⟩

/-- What a consumer says starts like what a client says. -/
theorem Phase.uttered
    (phase : Phase request consumer journal) :
    ∃ version answers,
      said journal <+:
          ClientHandshake.opening consumer.client.options.watchType request
            version ++ answers ∧
        (said journal ≠ [] →
          ClientHandshake.Offered consumer.client.options.supported
            (heard journal) version) := by
  cases phase with
  | before talk streamless unfollowed =>
      obtain ⟨version, begins, offered⟩ := talk.uttered
      exact ⟨version, [], by simpa using begins, offered⟩
  | behind talk single ran listened spoke =>
      cases talk with
      | @served version _ _ agreed _ _ _ =>
          refine ⟨version,
            (followed journal).filterMap CycleStream.attempt?, ⟨[], ?_⟩,
            fun _ => ?_⟩
          · rw [spoke, List.append_nil]
          · rw [listened]
            exact agreed.offered.append _

theorem hungUp_append (journal more : List Entry) :
    hungUp (journal ++ more) = (hungUp journal || hungUp more) :=
  List.any_append

/-- Only a client that hangs up closes a connection. -/
theorem hungUp_client
    {event : Client.Event} {effects : List Client.Effect}
    (closed :
      hungUp (entries (.client event) (effects.map .client)) = true) :
    ∃ connection, .close connection ∈ effects := by
  simp only [hungUp, entries, List.any_cons, List.any_map, Bool.false_or,
    List.any_eq_true] at closed
  obtain ⟨effect, inside, closes⟩ := closed
  cases effect with
  | close connection => exact ⟨connection, inside⟩
  | send connection message =>
      simp [Effect.closes, Watcher.operation?] at closes
  | receive connection =>
      simp [Effect.closes, Watcher.operation?] at closes
  | finish outcome =>
      simp [Effect.closes, Watcher.operation?] at closes

theorem hungUp_stream
    (index : Nat) (connection : ConnectionId) (event : CycleStream.Event)
    (effects : List CycleStream.Effect) :
    hungUp
      (entries (.stream index event)
        (effects.map (.stream index connection))) = false := by
  apply List.any_eq_false.mpr
  intro entry member
  rcases List.mem_cons.mp member with rfl | inside
  · simp
  · rw [List.map_map] at inside
    obtain ⟨effect, _, rfl⟩ := List.mem_map.mp inside
    cases effect <;>
      simp [Effect.closes, Watcher.operation?, Watcher.streamDemand?]

theorem course_step
    {event : Event} {effects : List Effect}
    (course : Course options request consumer journal)
    (staying : event.Staying request consumer)
    (stepped : consumer.step event = some (next, effects)) :
    Course options request next (journal ++ entries event effects) := by
  obtain ⟨same, ungathered, phase, parted⟩ := course
  cases event with
  | client event =>
      simp only [step, bind, Option.bind_eq_some_iff] at stepped
      obtain ⟨⟨client, own⟩, reaction, equal⟩ := stepped
      obtain ⟨rfl, rfl⟩ := Prod.mk.inj (Option.some.inj equal)
      have grown := phase_client phase staying reaction
      refine ⟨(Client.options_step reaction).trans same, ungathered, grown, ?_⟩
      intro closed
      rw [hungUp_append, Bool.or_eq_true] at closed
      rcases closed with earlier | last
      · obtain ⟨receipts, messages, streams, talk⟩ := phase.talk
        exact (Client.parted_step (parted earlier) talk staying reaction).1
      · obtain ⟨connection, closes⟩ := hungUp_client last
        have undisturbed : event ≠ .disconnect := by
          rintro rfl
          exact staying
        obtain ⟨error, abandoning⟩ :=
          (Client.accounted_step undisturbed reaction).closing _ closes
        obtain ⟨receipts, messages, streams, talk⟩ := grown.talk
        obtain ⟨used, apart, _⟩ := talk.of_ending (.inl ⟨error, abandoning⟩)
        exact ⟨used, apart⟩
  | stream index event =>
      simp only [step, bind, Option.bind_eq_some_iff] at stepped
      obtain ⟨stream, found, ⟨after, own⟩, reaction, equal⟩ := stepped
      obtain ⟨rfl, rfl⟩ := Prod.mk.inj (Option.some.inj equal)
      refine ⟨same, ungathered, phase_stream phase found reaction, ?_⟩
      intro closed
      rw [hungUp_append, hungUp_stream, Bool.or_false] at closed
      exact parted closed
  | gather index => exact staying.elim
  | sequence index event => simp [step, ungathered] at stepped

/-- A consumer that hung up says nothing more. -/
theorem silent_of_hungUp
    {event : Event} {effects : List Effect}
    (course : Course options request consumer journal)
    (closed : hungUp journal = true)
    (staying : event.Staying request consumer)
    (stepped : consumer.step event = some (next, effects)) :
    messages effects = [] := by
  have parted := course.parted closed
  cases event with
  | client event =>
      simp only [step, bind, Option.bind_eq_some_iff] at stepped
      obtain ⟨⟨client, own⟩, reaction, equal⟩ := stepped
      obtain ⟨rfl, rfl⟩ := Prod.mk.inj (Option.some.inj equal)
      obtain ⟨receipts, messages, streams, talk⟩ := course.phase.talk
      rw [messages_client]
      exact (Client.parted_step parted talk staying reaction).2
  | stream index event =>
      simp only [step, bind, Option.bind_eq_some_iff] at stepped
      obtain ⟨stream, found, _⟩ := stepped
      cases course.phase with
      | before talk streamless unfollowed => simp [streamless] at found
      | behind talk single ran listened spoke =>
          cases talk with
          | served agreed _ _ _ => exact absurd parted.2 agreed.attached
  | gather index => exact staying.elim
  | sequence index event => simp [step, course.ungathered] at stepped

theorem course_new (options : ClientOptions) (request : CapabilityRequest) :
    Course options request (new options) [] where
  same := rfl
  ungathered := rfl
  phase := .before (.fresh rfl rfl rfl rfl rfl rfl) rfl rfl
  parted := by simp [hungUp]

end Steps

end Consumer

end BuildWatch
