import BuildWatch.Proofs.Server.Talk

/-!
# What an answer means for a cycle

A call about a cycle waits until the client says something else than that it
has started the cycle.  What the client says then, or what the transport
fails with, decides what the call returns and whether it logs that the cycle
was not completed.
-/

namespace BuildWatch.Server

/-! ## The meaning of a receipt -/

/-- The client says how far it is with a cycle. -/
def Acknowledges (number : CycleId) (step : Acknowledgment)
    (receipt : Receipt) : Prop :=
  ∃ message, receipt = .ok message ∧
    message.body = .acknowledgment step number

/-- The client is done with a cycle that it did not complete. -/
def GivesUpOn (number : CycleId) (receipt : Receipt) : Prop :=
  Acknowledges number .aborted receipt ∨ Acknowledges number .failed receipt

/-- What the last receipt means for the call that waits on a cycle. -/
structure Means (number : CycleId) (receipt : Receipt)
    (log : List LogEntry) (result : Except ProtocolError Unit) : Prop where
  done :
    result = .ok () ↔
      Acknowledges number .completed receipt ∨ GivesUpOn number receipt
  /-- The client speaks of another cycle, whatever it says about it. -/
  mismatched :
    ∀ other kind, result = .error (.cycleMismatch number other kind) ↔
      ∃ message, receipt = .ok message ∧ message.kind = kind ∧
        message.cycleId? = some other ∧ other ≠ number
  /-- The client speaks of no cycle, or sends one itself. -/
  unexpected :
    ∀ kind, result = .error (.unexpectedCycleResponse number kind) ↔
      ∃ message, receipt = .ok message ∧ message.kind = kind ∧
        (message.cycleId? = none ∨
          kind = .cycle ∧ message.cycleId? = some number)
  undecodable :
    ∀ fault, result = .error (.decode fault) ↔
      receipt = .error (.decode fault)
  broken :
    ∀ error, result = .error (.transport error) ↔
      receipt = .error error ∧ ∀ fault, error ≠ .decode fault
  logged : log = [.cycleNotCompleted] ↔ GivesUpOn number receipt
  unlogged : log = [] ↔ ¬GivesUpOn number receipt

/-! ## What the server makes of it -/

section Answers

variable {server : Server} {ticket : Ticket} {number : CycleId}
  {receipt : Receipt}

/-- The start of the cycle leaves the call waiting. -/
theorem answerReceived_of_started
    (started : Acknowledges number .started receipt) :
    answerReceived server ticket number receipt =
      (server, [.receive .exchange]) := by
  obtain ⟨message, rfl, body⟩ := started
  simp [answerReceived, judge, Message.cycleId?, Message.kind,
    MessageBody.kind, body]

/-- The call returns with what a receipt means. -/
def Concludes (server : Server) (ticket : Ticket) (number : CycleId)
    (receipt : Receipt) : Prop :=
  ∃ log result,
    answerReceived server ticket number receipt =
        ({ server with holder := none },
          log.map Effect.log ++ [.finish ticket (.result result)]) ∧
      Means number receipt log result

theorem concludes_of_error (error : TransportError) :
    Concludes server ticket number (.error error) := by
  refine ⟨[], .error (ProtocolError.ofTransport error), rfl, ?_⟩
  cases error <;>
    constructor <;>
    simp [Acknowledges, GivesUpOn, ProtocolError.ofTransport]

/-- A message about another cycle is refused. -/
theorem concludes_of_foreign
    {message : Message} {other : CycleId}
    (about : message.cycleId? = some other) (foreign : other ≠ number) :
    Concludes server ticket number (.ok message) := by
  have unacknowledged :
      ∀ step, ¬Acknowledges number step (.ok message) := by
    rintro step ⟨same, equal, body⟩
    cases equal
    simp only [Message.cycleId?, body, Option.some.injEq] at about
    exact foreign about.symm
  refine ⟨[], .error (.cycleMismatch number other message.kind), ?_, ?_⟩
  · simp [answerReceived, judge, about, foreign, release]
  · constructor
    case mismatched =>
      intro own kind
      constructor
      · intro equal
        cases equal
        exact ⟨message, rfl, rfl, about, foreign⟩
      · rintro ⟨same, equal, rfl, known, _⟩
        cases equal
        rw [about] at known
        cases known
        rfl
    case unexpected => simp [about, foreign]
    all_goals simp [GivesUpOn, unacknowledged]

/-- A message about no cycle is unexpected. -/
theorem concludes_of_unrelated
    {message : Message} (unrelated : message.cycleId? = none) :
    Concludes server ticket number (.ok message) := by
  have unacknowledged :
      ∀ step, ¬Acknowledges number step (.ok message) := by
    rintro step ⟨same, equal, body⟩
    cases equal
    simp [Message.cycleId?, body] at unrelated
  refine ⟨[], .error (.unexpectedCycleResponse number message.kind), ?_, ?_⟩
  · simp [answerReceived, judge, unrelated, release]
  · constructor <;> simp [GivesUpOn, unacknowledged, unrelated, eq_comm]

/-- A cycle that the client sends itself is unexpected. -/
theorem concludes_of_cycle
    {message : Message} {scope : Option Scope} {sources : Changes}
    (body : message.body = .cycle number scope sources) :
    Concludes server ticket number (.ok message) := by
  refine ⟨[], .error (.unexpectedCycleResponse number .cycle), ?_, ?_⟩
  · simp [answerReceived, judge, Message.cycleId?, Message.kind,
      MessageBody.kind, body, release]
  · constructor <;>
      simp [Acknowledges, GivesUpOn, Message.cycleId?, Message.kind,
        MessageBody.kind, body, eq_comm]

/-- The client is done with the cycle. -/
theorem concludes_of_acknowledgment
    {message : Message} {step : Acknowledgment}
    (body : message.body = .acknowledgment step number)
    (past : step ≠ .started) :
    Concludes server ticket number (.ok message) := by
  refine ⟨if step = .completed then [] else [.cycleNotCompleted], .ok (), ?_,
    ?_⟩
  · cases step <;>
      simp [answerReceived, judge, Message.cycleId?, Message.kind,
        MessageBody.kind, body, release, Reaction.followedBy] at past ⊢
  · cases step <;>
      constructor <;>
      simp [Acknowledges, GivesUpOn, Message.cycleId?, Message.kind,
        MessageBody.kind, body] at past ⊢

/-- Whatever is received but the start of the cycle ends the call. -/
theorem concludes_of_not_started
    (server : Server) (ticket : Ticket)
    (other : ¬Acknowledges number .started receipt) :
    Concludes server ticket number receipt := by
  cases receipt with
  | error error => exact concludes_of_error error
  | ok message =>
      cases about : message.cycleId? with
      | none => exact concludes_of_unrelated about
      | some own =>
          by_cases same : own = number
          · subst same
            cases body : message.body with
            | cycle _ scope sources =>
                simp only [Message.cycleId?, body, Option.some.injEq] at about
                subst about
                exact concludes_of_cycle body
            | acknowledgment step _ =>
                simp only [Message.cycleId?, body, Option.some.injEq] at about
                subst about
                refine concludes_of_acknowledgment body ?_
                rintro rfl
                exact other ⟨message, rfl, body⟩
            | _ => simp [Message.cycleId?, body] at about
          · exact concludes_of_foreign about same

end Answers

end BuildWatch.Server
