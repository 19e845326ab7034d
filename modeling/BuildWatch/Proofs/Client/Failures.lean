import BuildWatch.Consumer
import BuildWatch.Proofs.Runs

/-!
# Why the calls of a client fail

A client reports the error by which its handshake failed only when the
connection is closed.  Here every error that a call ends with is traced back
to the step that caused it.
-/

namespace BuildWatch.Client

open ClientHandshake

/-- How an event fails the handshake or the subscription of a client. -/
inductive Fails (client : Client) : Event → ProtocolError → Prop where
  | unsent {error : TransportError} :
      Fails client (.sent (.error error)) (ProtocolError.ofTransport error)
  | unreceived {error : TransportError} :
      Fails client (.received (.error error))
        (ProtocolError.ofTransport error)
  /-- Capabilities were wished for that the version does not have. -/
  | demanding {version : Version} :
      Fails client (.sent (.ok ())) (.capabilitiesUnsupported version)
  | refused {connection : ConnectionId} {request : CapabilityRequest}
      {stage : Receiving} {message : Message} {error : ProtocolError}
      (active :
        client.activity = .shaking connection request (.receiving stage))
      (refusal :
        stage.received client.options.supported message = .error error) :
      Fails client (.received (.ok message)) error
  | unconfirmed {connection : ConnectionId} {message : Message}
      (active : client.activity = .subscribing connection .awaiting)
      (other : message.kind ≠ .subscribeResponse) :
      Fails client (.received (.ok message))
        (.unexpected .subscribeResponse message)

/-- Where the errors of a step come from. -/
structure Accounted (client : Client) (event : Event) (next : Client)
    (effects : List Effect) : Prop where
  closing :
    ∀ connection, .close connection ∈ effects →
      ∃ error, next.activity = .abandoning error
  abandoned :
    ∀ error, next.activity = .abandoning error → Fails client event error
  attached :
    ∀ error, .finish (.attached (.error error)) ∈ effects →
      error = .alreadyConnected ∨ client.activity = .abandoning error
  awaited :
    ∀ error, .finish (.awaited (.error error)) ∈ effects →
      error = .notConnected ∨ error = .alreadyAwaitingCycles ∨
        Fails client event error

variable {client next : Client} {event : Event} {effects : List Effect}

theorem accounted_of_proceed
    {other : Client} {connection : ConnectionId}
    {request : CapabilityRequest}
    {progress : Except ProtocolError (Progress Stage Agreement)}
    (fails : ∀ error, progress = .error error → Fails client event error)
    (reaction :
      proceed other connection request progress = (next, effects)) :
    Accounted client event next effects := by
  rcases progress with error | (stage | agreement)
  · obtain ⟨rfl, rfl⟩ := Prod.mk.inj reaction
    refine ⟨fun _ _ => ⟨error, rfl⟩, ?_, by simp, by simp⟩
    intro own same
    cases same
    exact fails error rfl
  · obtain ⟨rfl, rfl⟩ := Prod.mk.inj reaction
    cases stage <;> exact ⟨by simp, by simp, by simp, by simp⟩
  · obtain ⟨rfl, rfl⟩ := Prod.mk.inj reaction
    exact ⟨by simp, by simp, by simp, by simp⟩

/-- What can fail about the message of a stage. -/
theorem fails_of_sent
    {stage : Sending} {request : CapabilityRequest}
    {result : Except TransportError Unit} {error : ProtocolError}
    (failed :
      (do
        result.mapError ProtocolError.ofTransport
        stage.sent request) = .error error) :
    Fails client (.sent result) error := by
  match result with
  | .error own =>
      cases failed
      exact .unsent
  | .ok () =>
      change stage.sent request = .error error at failed
      unfold Sending.sent at failed
      repeat' split at failed
      all_goals
        cases failed
        try exact .demanding

/-- What can fail about a message that a stage waits for. -/
theorem fails_of_received
    {connection : ConnectionId} {request : CapabilityRequest}
    {stage : Receiving} {result : Except TransportError Message}
    {error : ProtocolError}
    (active :
      client.activity = .shaking connection request (.receiving stage))
    (failed :
      (do
        let message ← result.mapError ProtocolError.ofTransport
        stage.received client.options.supported message) = .error error) :
    Fails client (.received result) error := by
  match result with
  | .error own =>
      cases failed
      exact .unreceived
  | .ok message => exact .refused active failed

/-- Every step of a client that does not disconnect accounts for its errors. -/
theorem accounted_step
    (staying : event ≠ .disconnect)
    (stepped : client.step event = some (next, effects)) :
    Accounted client event next effects := by
  cases event with
  | attach request =>
      simp only [step, attach] at stepped
      split at stepped
      next =>
        split at stepped
        next =>
          obtain ⟨rfl, rfl⟩ := Prod.mk.inj (Option.some.inj stepped)
          exact ⟨by simp, by simp, by simp, by simp⟩
        next =>
          obtain ⟨rfl, rfl⟩ := Prod.mk.inj (Option.some.inj stepped)
          exact ⟨by simp [start], by simp, by simp [start], by simp [start]⟩
      next => simp at stepped
  | disconnect => exact absurd rfl staying
  | awaitCycles =>
      simp only [step, awaitCycles] at stepped
      split at stepped
      next =>
        repeat' split at stepped
        all_goals
          obtain ⟨rfl, rfl⟩ := Prod.mk.inj (Option.some.inj stepped)
          exact ⟨by simp, by simp, by simp, by simp⟩
      next => simp at stepped
  | sent result =>
      simp only [step, sent] at stepped
      split at stepped
      next =>
        exact accounted_of_proceed (fun _ => fails_of_sent)
          (Option.some.inj stepped)
      next =>
        split at stepped
        next =>
          obtain ⟨rfl, rfl⟩ := Prod.mk.inj (Option.some.inj stepped)
          refine ⟨by simp, by simp, by simp, ?_⟩
          intro own member
          cases List.mem_singleton.mp member
          exact .inr (.inr .unsent)
        next =>
          obtain ⟨rfl, rfl⟩ := Prod.mk.inj (Option.some.inj stepped)
          exact ⟨by simp, by simp, by simp, by simp⟩
      next => simp at stepped
  | received result =>
      simp only [step, received] at stepped
      split at stepped
      next active =>
        exact accounted_of_proceed (fun _ => fails_of_received active)
          (Option.some.inj stepped)
      next active =>
        split at stepped
        next =>
          obtain ⟨rfl, rfl⟩ := Prod.mk.inj (Option.some.inj stepped)
          refine ⟨by simp, by simp, by simp, ?_⟩
          intro own member
          cases List.mem_singleton.mp member
          exact .inr (.inr .unreceived)
        next =>
          split at stepped
          next =>
            obtain ⟨rfl, rfl⟩ := Prod.mk.inj (Option.some.inj stepped)
            exact ⟨by simp, by simp, by simp, by simp⟩
          next other =>
            obtain ⟨rfl, rfl⟩ := Prod.mk.inj (Option.some.inj stepped)
            refine ⟨by simp, by simp, by simp, ?_⟩
            intro own member
            cases List.mem_singleton.mp member
            exact .inr (.inr (.unconfirmed active other))
      next => simp at stepped
  | closed result =>
      simp only [step, closed] at stepped
      split at stepped
      next error active =>
        obtain ⟨rfl, rfl⟩ := Prod.mk.inj (Option.some.inj stepped)
        refine ⟨by simp, by simp, ?_, by simp⟩
        intro own member
        cases List.mem_singleton.mp member
        exact .inr active
      next =>
        obtain ⟨rfl, rfl⟩ := Prod.mk.inj (Option.some.inj stepped)
        exact ⟨by simp, by simp, by simp, by simp⟩
      next => simp at stepped

end BuildWatch.Client
