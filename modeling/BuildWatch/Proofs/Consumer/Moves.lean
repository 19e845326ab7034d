import BuildWatch.Consumer
import BuildWatch.Proofs.CycleStream.Moves

/-!
# What the steps of a consumer come to

A step of a consumer is a step of its client, of a stream or of a sequence, or
it makes a stream into a sequence.  What the client does in it is a run of the
client alone.
-/

namespace BuildWatch

/-! ## What the parts do to a connection -/

namespace CycleStream

/-- No stream subscribes. -/
theorem kind_ne_subscribe
    {stream next : CycleStream} {event : Event} {effects : List Effect}
    {message : Message}
    (stepped : stream.step event = some (next, effects))
    (sends : .send message ∈ effects) : message.kind ≠ .subscribe := by
  intro subscribes
  cases move_of_step stepped with
  | @completed result active => cases result <;> simp [completionLog] at sends
  | @parted result active => cases result <;> simp [completionLog] at sends
  | _ =>
      simp_all [completedMessage, startedMessage, Message.plain, Message.kind,
        MessageBody.kind]

end CycleStream

namespace CycleSequence

variable {sequence next : CycleSequence} {event : Event}
  {effects : List CycleStream.Effect}

/-- What a sequence does, its stream does, at its end in two steps. -/
theorem step_cases
    (stepped : sequence.step event = some (next, effects)) :
    (∃ connection, sequence = .ended connection ∧ next = sequence ∧
        effects = [.dropped]) ∨
      ∃ stream after own more,
        sequence = .live stream ∧
          stream.step event.onStream = some (after, own) ∧
          effects = own ++ more ∧
          (next = .live after ∧ more = [] ∨
            next = .ended stream.connection ∧ more = (after.drop false).2) := by
  rcases sequence with stream | connection
  · obtain ⟨⟨after, own⟩, reacted, rest⟩ := Option.bind_eq_some_iff.mp stepped
    refine .inr ⟨stream, after, own, ?_⟩
    dsimp only at rest
    split at rest
    · obtain ⟨rfl, rfl⟩ := Prod.mk.inj (Option.some.inj rest)
      exact ⟨_, rfl, reacted, rfl, .inr ⟨rfl, rfl⟩⟩
    · obtain ⟨rfl, rfl⟩ := Prod.mk.inj (Option.some.inj rest)
      exact ⟨[], rfl, reacted, by simp, .inl ⟨rfl, rfl⟩⟩
  · cases event with
    | drop orphaned =>
        obtain ⟨rfl, rfl⟩ := Prod.mk.inj (Option.some.inj stepped)
        exact .inl ⟨connection, rfl, rfl, rfl⟩
    | _ => simp [step] at stepped

/-- A sequence stays on its connection. -/
theorem connection_of_step
    (stepped : sequence.step event = some (next, effects)) :
    next.connection = sequence.connection := by
  obtain ⟨connection, rfl, rfl, _⟩ |
      ⟨stream, after, own, more, rfl, reacted, rfl, ⟨rfl, _⟩ | ⟨rfl, _⟩⟩ :=
    step_cases stepped
  · rfl
  · exact CycleStream.connection_of_step reacted
  · rfl

/-- No sequence subscribes. -/
theorem kind_ne_subscribe
    {message : Message}
    (stepped : sequence.step event = some (next, effects))
    (sends : .send message ∈ effects) : message.kind ≠ .subscribe := by
  obtain ⟨connection, _, _, rfl⟩ |
      ⟨stream, after, own, more, rfl, reacted, rfl, behind⟩ :=
    step_cases stepped
  · simp at sends
  · rcases List.mem_append.mp sends with first | second
    · exact CycleStream.kind_ne_subscribe reacted first
    · rcases behind with ⟨_, rfl⟩ | ⟨_, rfl⟩
      · simp at second
      · unfold CycleStream.drop at second
        split at second
        · simp at second
        next number held =>
          have same : message = CycleStream.completedMessage number := by
            simpa using second
          simp [same, CycleStream.completedMessage, Message.plain,
            Message.kind, MessageBody.kind]

end CycleSequence

namespace Consumer

/-! ## The client of a consumer -/

/-- The event of the client, if it is one. -/
def Event.client? : Event → Option Client.Event
  | .client event => some event
  | _ => none

/-- The effect of the client, if it is one. -/
def Effect.client? : Effect → Option Client.Effect
  | .client effect => some effect
  | _ => none

/-! ## Every step is a move -/

/-- What a step of a consumer comes to. -/
inductive Move (consumer : Consumer) :
    Event → Consumer → List Effect → Prop where
  | client {event : Client.Event} {client : Client}
      {own : List Client.Effect}
      (stepped : consumer.client.step event = some (client, own)) :
      Move consumer (.client event)
        { consumer with
          client
          streams := consumer.streams ++ own.filterMap handedOut? }
        (own.map .client)
  | stream {index : Nat} {event : CycleStream.Event}
      {stream after : CycleStream} {own : List CycleStream.Effect}
      (found : consumer.streams[index]? = some stream)
      (stepped : stream.step event = some (after, own)) :
      Move consumer (.stream index event)
        { consumer with streams := consumer.streams.set index after }
        (own.map (.stream index stream.connection))
  | gather {index : Nat} {stream : CycleStream}
      (found : consumer.streams[index]? = some stream) :
      Move consumer (.gather index)
        { consumer with
          streams :=
            consumer.streams.set index { stream with activity := .gone }
          sequences := consumer.sequences ++ [.live stream] }
        []
  | sequence {index : Nat} {event : CycleSequence.Event}
      {sequence after : CycleSequence} {own : List CycleStream.Effect}
      (found : consumer.sequences[index]? = some sequence)
      (stepped : sequence.step event = some (after, own)) :
      Move consumer (.sequence index event)
        { consumer with sequences := consumer.sequences.set index after }
        (own.map (.sequence index sequence.connection))

variable {consumer next : Consumer} {event : Event} {events : List Event}
  {effects more : List Effect}

theorem move_of_step
    (stepped : consumer.step event = some (next, effects)) :
    Move consumer event next effects := by
  cases event with
  | client event =>
      simp only [step, bind, Option.bind_eq_some_iff] at stepped
      obtain ⟨⟨client, own⟩, reacted, equal⟩ := stepped
      obtain ⟨rfl, rfl⟩ := Prod.mk.inj (Option.some.inj equal)
      exact .client reacted
  | stream index event =>
      simp only [step, bind, Option.bind_eq_some_iff] at stepped
      obtain ⟨stream, found, ⟨after, own⟩, reacted, equal⟩ := stepped
      obtain ⟨rfl, rfl⟩ := Prod.mk.inj (Option.some.inj equal)
      exact .stream found reacted
  | gather index =>
      simp only [step, bind, Option.bind_eq_some_iff] at stepped
      obtain ⟨stream, found, rest⟩ := stepped
      obtain ⟨_, equal⟩ := Option.ite_none_right_eq_some.mp rest
      obtain ⟨rfl, rfl⟩ := Prod.mk.inj (Option.some.inj equal)
      exact .gather found
  | sequence index event =>
      simp only [step, bind, Option.bind_eq_some_iff] at stepped
      obtain ⟨sequence, found, ⟨after, own⟩, reacted, equal⟩ := stepped
      obtain ⟨rfl, rfl⟩ := Prod.mk.inj (Option.some.inj equal)
      exact .sequence found reacted

/-- Only events of the client change it, and only they have its effects. -/
theorem client_of_step
    (stepped : consumer.step event = some (next, effects))
    (other : event.client? = none) :
    next.client = consumer.client ∧
      effects.filterMap Effect.client? = [] := by
  cases move_of_step stepped with
  | client reacted => simp [Event.client?] at other
  | stream found reacted => exact ⟨rfl, by simp [Effect.client?]⟩
  | gather found => exact ⟨rfl, rfl⟩
  | sequence found reacted => exact ⟨rfl, by simp [Effect.client?]⟩

/-- An event of the client is a step of the client alone. -/
theorem step_of_client
    {own : Client.Event}
    (stepped : consumer.step (.client own) = some (next, effects)) :
    consumer.client.step own =
      some (next.client, effects.filterMap Effect.client?) := by
  cases move_of_step stepped with
  | @client _ client effects reacted =>
      have all : effects.filterMap (Effect.client? ∘ Effect.client) = effects :=
        List.filterMap_some
      rw [List.filterMap_map, all]
      exact reacted

/-- What the client of a consumer does is a run of the client alone. -/
theorem client_run
    {later : List Event} {final : Consumer}
    (ran : run step consumer later = some (final, effects)) :
    run Client.step consumer.client (later.filterMap Event.client?) =
      some (final.client, effects.filterMap Effect.client?) := by
  refine run_invariant
    (fun final later effects =>
      run Client.step consumer.client (later.filterMap Event.client?) =
        some (final.client, effects.filterMap Effect.client?))
    rfl ?_ ran
  intro reached later effects event next more ran stepped
  rw [filterMap_snoc, List.filterMap_append]
  refine run_append_eq_some_iff.mpr ⟨_, _, _, ran, ?_, rfl⟩
  cases shown : event.client? with
  | none =>
      obtain ⟨same, none⟩ := client_of_step stepped shown
      rw [same, none]
      rfl
  | some own =>
      cases event with
      | client event =>
          cases shown
          rw [Option.toList_some, run_singleton]
          exact step_of_client stepped
      | _ => simp [Event.client?] at shown

end Consumer

end BuildWatch
