import BuildWatch.CycleStream
import BuildWatch.Proofs.Runs

/-!
# Which failures end a stream

A stream ends if it cannot receive, or cannot say that a cycle is started:
the call for the next cycle yields the error, and no later call yields
anything.  That the last cycle is completed is said on the way to the next
one, and a failure to say so is only written to the log.  The stream goes on
as if it had been said and hands out the next cycle.
-/

namespace BuildWatch.CycleStream

variable {stream next : CycleStream} {event : Event} {effects : List Effect}

/-- What the calls for the next cycle come to, in order. -/
def items (effects : List Effect) : List (Option Item) :=
  effects.filterMap fun
    | .yield item => some item
    | _ => none

/-! ## Streams that are over -/

/-- Whether an effect says no more than that a stream is over. -/
def Effect.parting : Effect → Bool
  | .yield none => true
  | .stopped (.ok ()) => true
  | .dropped => true
  | _ => false

/-- A stream that has nothing left to do. -/
structure Finished (stream : CycleStream) : Prop where
  ended : stream.ended = true
  cleared : stream.pending = none
  resting : stream.activity = .idle ∨ stream.activity = .gone

theorem Finished.of_step
    (finished : Finished stream)
    (stepped : stream.step event = some (next, effects)) :
    Finished next ∧ ∀ effect ∈ effects, effect.parting = true := by
  obtain ⟨ended, cleared, resting⟩ := finished
  cases event with
  | next =>
      simp only [step, CycleStream.next, ended] at stepped
      split at stepped
      next idle =>
        obtain ⟨rfl, rfl⟩ := Prod.mk.inj (Option.some.inj stepped)
        exact ⟨⟨ended, cleared, .inl idle⟩, by simp [Effect.parting]⟩
      next => simp at stepped
  | stop =>
      simp only [step, stop, cleared] at stepped
      split at stepped
      next idle =>
        obtain ⟨rfl, rfl⟩ := Prod.mk.inj (Option.some.inj stepped)
        exact ⟨⟨rfl, rfl, .inl idle⟩, by simp [Effect.parting]⟩
      next => simp at stepped
  | drop orphaned =>
      simp only [step, drop, cleared] at stepped
      split at stepped
      next idle =>
        obtain ⟨rfl, rfl⟩ := Prod.mk.inj (Option.some.inj stepped)
        exact ⟨⟨ended, rfl, .inr rfl⟩, by simp [Effect.parting]⟩
      next => simp at stepped
  | sent result =>
      rcases resting with idle | gone
      · simp [step, sent, idle] at stepped
      · simp [step, sent, gone] at stepped
  | received result =>
      rcases resting with idle | gone
      · simp [step, idle] at stepped
      · simp [step, gone] at stepped

theorem Finished.of_run
    {later : List Event} (finished : Finished stream)
    (ran : run step stream later = some (next, effects)) :
    Finished next ∧ ∀ effect ∈ effects, effect.parting = true := by
  refine run_invariant
    (fun stream _ effects =>
      Finished stream ∧ ∀ effect ∈ effects, effect.parting = true)
    ⟨finished, by simp⟩ ?_ ran
  rintro stream events effects event next more ⟨finished, parting⟩ stepped
  obtain ⟨still, also⟩ := finished.of_step stepped
  refine ⟨still, fun effect member => ?_⟩
  rcases List.mem_append.mp member with earlier | last
  · exact parting effect earlier
  · exact also effect last

/-- Whoever asks a stream that is over gets the end of it. -/
theorem Finished.step_next
    (finished : Finished stream) (idle : stream.activity = .idle) :
    stream.step .next = some (stream, [.yield none]) := by
  simp [step, idle, CycleStream.next, finished.ended]

/-! ## Streams under way -/

/-- A call takes the last cycle off the stream before it does anything. -/
def Cleared (stream : CycleStream) : Prop :=
  stream.activity ≠ .idle → stream.pending = none

section Parts

theorem cleared_next (cleared : Cleared stream) :
    Cleared stream.next.1 := by
  unfold CycleStream.next
  split
  · exact cleared
  · split
    next vacant => exact fun _ => vacant
    next number held => exact fun _ => rfl

theorem cleared_stop (stream : CycleStream) : Cleared stream.stop.1 := by
  unfold stop
  split
  next vacant => exact fun _ => vacant
  next number held => exact fun _ => rfl

theorem cleared_drop (stream : CycleStream) (orphaned : Bool) :
    Cleared (stream.drop orphaned).1 := by
  unfold drop
  split
  next vacant => exact fun _ => vacant
  next number held => split <;> exact fun _ => rfl

theorem cleared_receive
    (vacant : stream.pending = none)
    (result : Except TransportError Message) :
    Cleared (stream.receive result).1 := by
  unfold receive
  split
  · exact fun _ => vacant
  · exact fun _ => vacant
  · split <;> exact fun _ => vacant

theorem cleared_sent
    {result : Except TransportError Unit} {reaction : Reaction}
    (cleared : Cleared stream)
    (reacted : stream.sent result = some reaction) : Cleared reaction.1 := by
  unfold CycleStream.sent at reacted
  split at reacted
  next active =>
    cases Option.some.inj reacted
    exact fun _ => cleared (by simp [active])
  next cycle active =>
    split at reacted
    all_goals
      cases Option.some.inj reacted
      exact fun busy => absurd rfl busy
  next active =>
    cases Option.some.inj reacted
    exact fun busy => absurd rfl busy
  next active =>
    cases Option.some.inj reacted
    exact fun _ => cleared (by simp [active])
  next => simp at reacted

end Parts

theorem Cleared.of_step
    {reaction : Reaction} (cleared : Cleared stream)
    (stepped : stream.step event = some reaction) : Cleared reaction.1 := by
  cases event with
  | sent result => exact cleared_sent cleared stepped
  | next =>
      simp only [step] at stepped
      split at stepped
      next idle =>
        cases Option.some.inj stepped
        exact cleared_next cleared
      next => simp at stepped
  | stop =>
      simp only [step] at stepped
      split at stepped
      next idle =>
        cases Option.some.inj stepped
        exact cleared_stop stream
      next => simp at stepped
  | drop orphaned =>
      simp only [step] at stepped
      split at stepped
      next idle =>
        cases Option.some.inj stepped
        exact cleared_drop stream orphaned
      next => simp at stepped
  | received result =>
      simp only [step] at stepped
      split at stepped
      next active =>
        cases Option.some.inj stepped
        exact cleared_receive (cleared (by simp [active])) result
      next => simp at stepped

theorem cleared_run
    {connection : ConnectionId} {events : List Event}
    (ran : run step (new connection) events = some (stream, effects)) :
    Cleared stream := by
  refine run_invariant (fun stream _ _ => Cleared stream) ?_ ?_ ran
  · exact fun _ => rfl
  · intro stream events effects event next more cleared stepped
    exact cleared.of_step stepped

/-! ## Failures -/

/-- How an event ends a stream with an error. -/
inductive Fatal (stream : CycleStream) : Event → TransportError → Prop where
  /-- A cycle arrived, but the stream cannot say that it is started. -/
  | unstarted {cycle : CycleEvent} {error : TransportError}
      (active : stream.activity = .starting cycle) :
      Fatal stream (.sent (.error error)) error
  /-- What cannot be read is skipped, and anything else is fatal. -/
  | unreceived {error : TransportError}
      (active : stream.activity = .receiving)
      (broken : ∀ reason, error ≠ .decode reason) :
      Fatal stream (.received (.error error)) error

/-- A stream fails in one way, whatever it is that fails. -/
theorem step_of_fatal
    {error : TransportError} (fatal : Fatal stream event error) :
    stream.step event = some (fail stream error) := by
  cases fatal with
  | unstarted active => simp [step, sent, active]
  | unreceived active broken =>
      cases error with
      | decode reason => exact absurd rfl (broken reason)
      | _ => simp [step, active, receive]

theorem finished_of_fatal
    {error : TransportError} (cleared : Cleared stream)
    (fatal : Fatal stream event error) :
    Finished (fail stream error).1 where
  ended := rfl
  cleared := by
    apply cleared
    cases fatal with
    | unstarted active => simp [active]
    | unreceived active broken => simp [active]
  resting := .inl rfl

/-- A call that starts yields no error yet. -/
theorem no_error_of_call
    {error : ProtocolError}
    (call : event = .next ∨ event = .stop ∨ ∃ orphaned, event = .drop orphaned)
    (stepped : stream.step event = some (next, effects)) :
    .yield (some (.error error)) ∉ effects := by
  rcases call with rfl | rfl | ⟨orphaned, rfl⟩
  all_goals
    simp only [step, CycleStream.next, stop, drop, await] at stepped
    repeat' split at stepped
    all_goals
      first
      | (obtain ⟨rfl, rfl⟩ := Prod.mk.inj (Option.some.inj stepped)
         simp)
      | simp at stepped

/-- A stream yields no error but that of a failure that ends it. -/
theorem fatal_of_yield
    {error : ProtocolError}
    (stepped : stream.step event = some (next, effects))
    (yields : .yield (some (.error error)) ∈ effects) :
    ∃ reason,
      error = ProtocolError.ofTransport reason ∧
        Fatal stream event reason := by
  cases event with
  | next => exact absurd yields (no_error_of_call (.inl rfl) stepped)
  | stop => exact absurd yields (no_error_of_call (.inr (.inl rfl)) stepped)
  | drop orphaned =>
      exact absurd yields
        (no_error_of_call (.inr (.inr ⟨orphaned, rfl⟩)) stepped)
  | sent result =>
      simp only [step, sent] at stepped
      split at stepped
      next active =>
        obtain ⟨rfl, rfl⟩ := Prod.mk.inj (Option.some.inj stepped)
        cases result <;> simp [completionLog, await] at yields
      next cycle active =>
        cases result with
        | error reason =>
            obtain ⟨rfl, rfl⟩ := Prod.mk.inj (Option.some.inj stepped)
            exact ⟨reason, by simpa using yields, .unstarted active⟩
        | ok done =>
            obtain ⟨rfl, rfl⟩ := Prod.mk.inj (Option.some.inj stepped)
            simp at yields
      next active =>
        obtain ⟨rfl, rfl⟩ := Prod.mk.inj (Option.some.inj stepped)
        simp at yields
      next active =>
        obtain ⟨rfl, rfl⟩ := Prod.mk.inj (Option.some.inj stepped)
        cases result <;> simp [completionLog] at yields
      next => simp at stepped
  | received result =>
      simp only [step] at stepped
      split at stepped
      next active =>
        simp only [receive, skip, fail, Option.some.injEq] at stepped
        split at stepped
        next reason =>
          obtain ⟨rfl, rfl⟩ := Prod.mk.inj stepped
          simp at yields
        next reason broken =>
          obtain ⟨rfl, rfl⟩ := Prod.mk.inj stepped
          exact ⟨reason, by simpa using yields,
            .unreceived active fun other same => broken other (by rw [same])⟩
        next message =>
          split at stepped
          all_goals
            obtain ⟨rfl, rfl⟩ := Prod.mk.inj stepped
            simp at yields
      next => simp at stepped

/-! ## Completions that are not sent -/

/-- A completion that is not sent shows in the log, and nowhere else. -/
theorem run_completion_unsent
    (active : stream.activity = .completing) (error : TransportError)
    (later : List Event) :
    run step stream (.sent (.error error) :: later) =
      (run step stream (.sent (.ok ()) :: later)).map fun reached =>
        (reached.1, .log .completionUnsent :: reached.2) := by
  cases ran : run step (await stream).1 later <;>
    simp [run, step, sent, active, completionLog, ran]

/-- The next cycle is handed out behind a completion that was not sent. -/
theorem run_next_cycle
    {message : Message} {cycle : CycleEvent}
    (active : stream.activity = .completing)
    (arrives : message.cycleEvent? = some cycle) (error : TransportError) :
    run step stream
        [.sent (.error error), .received (.ok message), .sent (.ok ())] =
      some
        ({ stream with pending := some cycle.number, activity := .idle },
          [.log .completionUnsent, .receive,
            .send (startedMessage cycle.number),
            .yield (some (.ok cycle))]) := by
  simp [run, step, sent, active, completionLog, await, receive, arrives]

/-! ## Along every run -/

/-- What a stream makes of the failures of its transport. -/
structure Faults (stream : CycleStream) : Prop where
  /-- A fatal failure is the last item, and the stream is over behind it. -/
  fatal :
    ∀ event error,
      Fatal stream event error →
        ∃ next,
          stream.step event =
              some
                (next,
                  [.yield (some (.error (ProtocolError.ofTransport error)))]) ∧
            Finished next ∧
            ∀ later final more,
              run step next later = some (final, more) →
                (∀ effect ∈ more, effect.parting = true) ∧
                  (final.activity = .idle →
                    final.step .next = some (final, [.yield none]))
  /-- There is no other way for an error to become an item. -/
  reported :
    ∀ event next effects error,
      stream.step event = some (next, effects) →
        .yield (some (.error error)) ∈ effects →
          ∃ reason,
            error = ProtocolError.ofTransport reason ∧
              Fatal stream event reason
  /-- Not to say that a cycle is completed changes nothing but the log. -/
  unsaid :
    stream.activity = .completing →
      ∀ error later,
        run step stream (.sent (.error error) :: later) =
          (run step stream (.sent (.ok ()) :: later)).map fun reached =>
            (reached.1, .log .completionUnsent :: reached.2)
  /-- So the next cycle is handed out. -/
  continued :
    stream.activity = .completing →
      ∀ error message cycle,
        message.cycleEvent? = some cycle →
          run step stream
              [.sent (.error error), .received (.ok message),
                .sent (.ok ())] =
            some
              ({ stream with pending := some cycle.number, activity := .idle },
                [.log .completionUnsent, .receive,
                  .send (startedMessage cycle.number),
                  .yield (some (.ok cycle))])

/--
To fail to receive, or to say that a cycle is started, ends a stream with the
error.  To fail to say that a cycle is completed does not.
-/
theorem failures_end_stream
    {connection : ConnectionId} {events : List Event}
    (ran : run step (new connection) events = some (stream, effects)) :
    Faults stream where
  fatal := by
    intro event error fatal
    have finished := finished_of_fatal (cleared_run ran) fatal
    refine ⟨_, step_of_fatal fatal, finished, ?_⟩
    intro later final more reached
    obtain ⟨still, parting⟩ := finished.of_run reached
    exact ⟨parting, still.step_next⟩
  reported := fun _ _ _ _ => fatal_of_yield
  unsaid := run_completion_unsent
  continued := fun active error _ _ arrives =>
    run_next_cycle active arrives error

/-- A cycle is handed out, and the consumer asks for the next one. -/
def nextAsked : List Event :=
  [.next, .received (.ok (Message.plain (.cycle 1 none KeyMap.empty))),
    .sent (.ok ()), .next]

theorem failures_end_stream_nextAsked :
    ∃ stream effects next,
      run step (new 0) (nextAsked ++ [.sent (.ok ())]) =
          some (stream, effects) ∧
        stream.step (.received (.error .closed)) =
          some (next, [.yield (some (.error (.transport .closed)))]) ∧
        Finished next := by
  obtain ⟨stream, effects, ran, active⟩ :
      ∃ stream effects,
        run step (new 0) (nextAsked ++ [.sent (.ok ())]) =
            some (stream, effects) ∧
          stream.activity = .receiving :=
    ⟨_, _, rfl, rfl⟩
  obtain ⟨next, yields, finished, _⟩ :=
    (failures_end_stream ran).fatal (.received (.error .closed)) .closed
      (.unreceived active (by simp))
  exact ⟨stream, effects, next, ran, yields, finished⟩

/--
The transport fails to send that the first cycle is completed, and the stream
hands out the second one and yields no error.
-/
theorem next_cycle_behind_failure :
    ∃ stream effects,
      run step (new 0)
          (nextAsked ++
            [.sent (.error (.io .other)),
              .received (.ok (Message.plain (.cycle 2 none KeyMap.empty))),
              .sent (.ok ())]) =
          some (stream, effects) ∧
        items effects =
          [some (.ok ⟨1, none, KeyMap.empty, .none⟩),
            some (.ok ⟨2, none, KeyMap.empty, .none⟩)] ∧
        stream.ended = false :=
  ⟨_, _, rfl, rfl, rfl⟩

end BuildWatch.CycleStream
