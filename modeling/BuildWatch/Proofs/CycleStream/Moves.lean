import BuildWatch.Proofs.CycleStream.Acknowledgments
import BuildWatch.Proofs.CycleStream.Endings

/-!
# What the steps of a stream come to

Every step of a stream is one of a few moves: a call ends at once or waits for
the transport, the transport answers, and a message is skipped, hands a cycle
out or ends the stream.  A property of all steps is proved by one case for
each move.
-/

namespace BuildWatch.CycleStream

/-- What a step of a stream comes to. -/
inductive Move (stream : CycleStream) :
    Event → CycleStream → List Effect → Prop where
  /-- There is no cycle behind the last. -/
  | beyond (idle : stream.activity = .idle) (ended : stream.ended = true) :
      Move stream .next stream [.yield none]
  | asked
      (idle : stream.activity = .idle) (live : stream.ended = false)
      (vacant : stream.pending = none) :
      Move stream .next { stream with activity := .receiving } [.receive]
  /-- The consumer comes back for the next cycle. -/
  | returned {number : CycleId}
      (idle : stream.activity = .idle) (live : stream.ended = false)
      (held : stream.pending = some number) :
      Move stream .next
        { stream with pending := none, activity := .completing }
        [.send (completedMessage number)]
  | stopped (idle : stream.activity = .idle) (vacant : stream.pending = none) :
      Move stream .stop { stream with ended := true } [.stopped (.ok ())]
  | stopping {number : CycleId}
      (idle : stream.activity = .idle) (held : stream.pending = some number) :
      Move stream .stop
        { stream with ended := true, pending := none, activity := .stopping }
        [.send (completedMessage number)]
  | dropped {orphaned : Bool}
      (idle : stream.activity = .idle) (vacant : stream.pending = none) :
      Move stream (.drop orphaned) { stream with activity := .gone } [.dropped]
  | orphaned {number : CycleId}
      (idle : stream.activity = .idle) (held : stream.pending = some number) :
      Move stream (.drop true)
        { stream with pending := none, activity := .gone }
        [.log .completionOrphaned, .dropped]
  | dropping {number : CycleId}
      (idle : stream.activity = .idle) (held : stream.pending = some number) :
      Move stream (.drop false)
        { stream with pending := none, activity := .dropping }
        [.dropped, .send (completedMessage number)]
  /-- The last cycle is completed, or not, and the stream goes on. -/
  | completed {result : Except TransportError Unit}
      (active : stream.activity = .completing) :
      Move stream (.sent result) { stream with activity := .receiving }
        (completionLog result ++ [.receive])
  | unstarted {cycle : CycleEvent} {error : TransportError}
      (active : stream.activity = .starting cycle) :
      Move stream (.sent (.error error))
        { stream with ended := true, activity := .idle }
        [.yield (some (.error (ProtocolError.ofTransport error)))]
  | started {cycle : CycleEvent}
      (active : stream.activity = .starting cycle) :
      Move stream (.sent (.ok ()))
        { stream with pending := some cycle.number, activity := .idle }
        [.yield (some (.ok cycle))]
  | settled {result : Except TransportError Unit}
      (active : stream.activity = .stopping) :
      Move stream (.sent result) { stream with activity := .idle }
        [.stopped (result.mapError ProtocolError.ofTransport)]
  | parted {result : Except TransportError Unit}
      (active : stream.activity = .dropping) :
      Move stream (.sent result) { stream with activity := .gone }
        (completionLog result)
  | skipped {result : Except TransportError Message} {entry : LogEntry}
      (active : stream.activity = .receiving)
      (foreign : skipLog result = some entry) :
      Move stream (.received result) stream [.log entry, .receive]
  | unreceived {error : TransportError}
      (active : stream.activity = .receiving)
      (broken : ∀ reason, error ≠ .decode reason) :
      Move stream (.received (.error error))
        { stream with ended := true, activity := .idle }
        [.yield (some (.error (ProtocolError.ofTransport error)))]
  | arrived {message : Message} {cycle : CycleEvent}
      (active : stream.activity = .receiving)
      (known : message.cycleEvent? = some cycle) :
      Move stream (.received (.ok message))
        { stream with activity := .starting cycle }
        [.send (startedMessage cycle.number)]

variable {stream next : CycleStream} {event : Event} {effects : List Effect}

theorem move_next (idle : stream.activity = .idle) :
    Move stream .next stream.next.1 stream.next.2 := by
  unfold CycleStream.next
  split
  next ended => exact .beyond idle ended
  next live =>
    have live : stream.ended = false := by simpa using live
    split
    next vacant => exact .asked idle live vacant
    next number held => exact .returned idle live held

theorem move_stop (idle : stream.activity = .idle) :
    Move stream .stop stream.stop.1 stream.stop.2 := by
  unfold stop
  split
  next vacant => exact .stopped idle vacant
  next number held => exact .stopping idle held

theorem move_drop (idle : stream.activity = .idle) (orphaned : Bool) :
    Move stream (.drop orphaned)
      (stream.drop orphaned).1 (stream.drop orphaned).2 := by
  unfold drop
  split
  next vacant => exact .dropped idle vacant
  next number held =>
    cases orphaned with
    | true => exact .orphaned idle held
    | false => exact .dropping idle held

theorem move_sent
    {result : Except TransportError Unit}
    (reacted : stream.sent result = some (next, effects)) :
    Move stream (.sent result) next effects := by
  simp only [sent] at reacted
  split at reacted
  next active =>
    obtain ⟨rfl, rfl⟩ := Prod.mk.inj (Option.some.inj reacted)
    exact .completed active
  next cycle active =>
    cases result with
    | error error =>
        obtain ⟨rfl, rfl⟩ := Prod.mk.inj (Option.some.inj reacted)
        exact .unstarted active
    | ok done =>
        obtain ⟨rfl, rfl⟩ := Prod.mk.inj (Option.some.inj reacted)
        exact .started active
  next active =>
    obtain ⟨rfl, rfl⟩ := Prod.mk.inj (Option.some.inj reacted)
    exact .settled active
  next active =>
    obtain ⟨rfl, rfl⟩ := Prod.mk.inj (Option.some.inj reacted)
    exact .parted active
  next => simp at reacted

theorem move_receive
    (active : stream.activity = .receiving)
    (result : Except TransportError Message) :
    Move stream (.received result)
      (stream.receive result).1 (stream.receive result).2 := by
  unfold receive
  split
  next reason => exact .skipped active rfl
  next error undecoded =>
    exact .unreceived active fun reason same => undecoded reason (by rw [same])
  next message =>
    split
    next unknown =>
      exact .skipped active (skipLog_of_cycleEvent?_eq_none unknown)
    next cycle known => exact .arrived active known

theorem move_of_step
    (stepped : stream.step event = some (next, effects)) :
    Move stream event next effects := by
  cases event with
  | sent result => exact move_sent stepped
  | next =>
      obtain ⟨idle, reacted⟩ := Option.ite_none_right_eq_some.mp stepped
      simpa [Option.some.inj reacted] using move_next idle
  | stop =>
      obtain ⟨idle, reacted⟩ := Option.ite_none_right_eq_some.mp stepped
      simpa [Option.some.inj reacted] using move_stop idle
  | drop orphaned =>
      obtain ⟨idle, reacted⟩ := Option.ite_none_right_eq_some.mp stepped
      simpa [Option.some.inj reacted] using move_drop idle orphaned
  | received result =>
      obtain ⟨active, reacted⟩ := Option.ite_none_right_eq_some.mp stepped
      simpa [Option.some.inj reacted] using move_receive active result

/-- A stream stays on its connection. -/
theorem connection_of_step
    (stepped : stream.step event = some (next, effects)) :
    next.connection = stream.connection := by
  cases move_of_step stepped <;> rfl

end BuildWatch.CycleStream
