import BuildWatch.Proofs.Server.Answers
import BuildWatch.Proofs.Server.Ledger
import BuildWatch.Proofs.Server.Reception

/-!
# What a call about a cycle comes to

A call about a cycle waits in line, sends its message and receives until the
client says something else than that it has started the cycle.  How much it
receives and what it returns hangs on nothing but what the transport makes of
its message and what the client says, whatever the other tasks do meanwhile.
-/

namespace BuildWatch.Server

/-! ## What a run shows of a call -/

/-- What sending the message of a call came to. -/
@[simp]
def Event.dispatch? : Event → Option Delivery
  | .callSent result => some result
  | _ => none

/-- What an effect logs. -/
def Effect.entry? : Effect → Option LogEntry
  | .log entry => some entry
  | _ => none

/-- What an effect says that a call came to. -/
def Effect.outcome? (ticket : Ticket) : Effect → Option Outcome
  | .finish own outcome => if own = ticket then some outcome else none
  | _ => none

/-- What the messages of calls came to. -/
def dispatches (events : List Event) : List Delivery :=
  events.filterMap Event.dispatch?

/-- What was received for calls. -/
def responses (events : List Event) : List Receipt :=
  events.filterMap Event.answer?

/-- What effects log, in order. -/
def logs (effects : List Effect) : List LogEntry :=
  effects.filterMap Effect.entry?

/-- What effects say that a call came to. -/
def outcomes (ticket : Ticket) (effects : List Effect) : List Outcome :=
  effects.filterMap (Effect.outcome? ticket)

section Shown

variable (ticket : Ticket) (event : Event) (events : List Event)
  (effects more : List Effect)

@[simp]
theorem logs_nil : logs [] = [] :=
  rfl

@[simp]
theorem outcomes_nil : outcomes ticket [] = [] :=
  rfl

theorem dispatches_snoc :
    dispatches (events ++ [event]) =
      dispatches events ++ event.dispatch?.toList :=
  filterMap_snoc Event.dispatch? events event

theorem responses_snoc :
    responses (events ++ [event]) =
      responses events ++ event.answer?.toList :=
  filterMap_snoc Event.answer? events event

@[simp]
theorem logs_append : logs (effects ++ more) = logs effects ++ logs more :=
  List.filterMap_append

@[simp]
theorem outcomes_append :
    outcomes ticket (effects ++ more) =
      outcomes ticket effects ++ outcomes ticket more :=
  List.filterMap_append

@[simp]
theorem logs_receive (party : Party) :
    logs (.receive party :: effects) = logs effects :=
  rfl

@[simp]
theorem logs_finish (outcome : Outcome) :
    logs (.finish ticket outcome :: effects) = logs effects :=
  rfl

@[simp]
theorem logs_map_log (log : List LogEntry) :
    logs (log.map Effect.log) = log := by
  simp [logs, List.filterMap_map, Function.comp_def, Effect.entry?]

@[simp]
theorem outcomes_receive (party : Party) :
    outcomes ticket (.receive party :: effects) = outcomes ticket effects :=
  rfl

@[simp]
theorem outcomes_finish (outcome : Outcome) :
    outcomes ticket (.finish ticket outcome :: effects) =
      outcome :: outcomes ticket effects := by
  simp [outcomes, Effect.outcome?]

@[simp]
theorem outcomes_map_log (log : List LogEntry) :
    outcomes ticket (log.map Effect.log) = [] := by
  simp [outcomes, List.filterMap_map, Function.comp_def, Effect.outcome?]

theorem outcomes_eq_nil_iff :
    outcomes ticket effects = [] ↔
      ∀ outcome, .finish ticket outcome ∉ effects := by
  rw [outcomes, List.filterMap_eq_nil_iff]
  constructor
  · intro silent outcome member
    simpa [Effect.outcome?] using silent _ member
  · intro unended effect member
    cases effect with
    | finish own outcome =>
        rw [Effect.outcome?, if_neg]
        rintro rfl
        exact unended outcome member
    | _ => rfl

end Shown

/-! ## Calls in line -/

/-- A call that tells the client something has started. -/
structure Tracked (server : Server) (ticket : Ticket) (errand : Errand) :
    Prop where
  orderly : Orderly server
  known :
    ∃ calls told, Ledger server calls told ∧
      calls[ticket]? = some (some errand)

variable {server next : Server} {event : Event} {effects : List Effect}
  {ticket : Ticket} {errand : Errand}

theorem Tracked.move
    (tracked : Tracked server ticket errand)
    (move : Move server event next effects) :
    Tracked next ticket errand := by
  obtain ⟨orderly, calls, told, ledger, called⟩ := tracked
  exact ⟨orderly_move orderly move, _, _, ledger_move orderly ledger move,
    getElem?_append_of_eq_some called _⟩

/-- Only the transport ends a call that tells the client something. -/
theorem Tracked.return_of_finish
    {outcome : Outcome} (tracked : Tracked server ticket errand)
    (move : Move server event next effects)
    (ended : .finish ticket outcome ∈ effects) :
    ∃ result, outcome = .result result ∧
      Return server event ticket result := by
  obtain ⟨orderly, calls, told, ledger, called⟩ := tracked
  rcases finish_of_move move ended with stands | ⟨rfl, _⟩ | returned
  · have besides := ledger.besides_of_stands stands
    rw [getElem?_append_of_eq_some called] at besides
    cases besides
  · rw [ledger.numbered] at called
    simp at called
  · exact returned

/-- Unless the transport ends it, the call goes on. -/
theorem Tracked.unended
    (tracked : Tracked server ticket errand)
    (move : Move server event next effects)
    (unreturned : ∀ result, ¬Return server event ticket result) :
    outcomes ticket effects = [] := by
  rw [outcomes_eq_nil_iff]
  intro outcome ended
  obtain ⟨result, _, ending⟩ := tracked.return_of_finish move ended
  exact unreturned result ending

/-- A call that does not have the exchange goes on. -/
theorem Tracked.unended_of_unheld
    (tracked : Tracked server ticket errand)
    (move : Move server event next effects)
    (unheld : ∀ transfer, server.holder ≠ some ⟨ticket, transfer⟩) :
    outcomes ticket effects = [] := by
  apply tracked.unended move
  intro result ending
  obtain ⟨transfer, held⟩ := ending.holds
  exact unheld transfer held

/-- A call that started before is no call that starts now. -/
theorem Tracked.ne_nextTicket
    (tracked : Tracked server ticket errand) : server.nextTicket ≠ ticket := by
  rintro rfl
  obtain ⟨orderly, calls, told, ledger, called⟩ := tracked
  rw [ledger.numbered] at called
  simp at called

/-- The exchange of a call that begins is its own. -/
theorem holder_of_begin
    {request : Request}
    (begins : (next, effects) = begin server request) :
    ∃ transfer, next.holder = some ⟨request.ticket, transfer⟩ ∧
      next.waiting = server.waiting := by
  obtain ⟨message, rfl, begun⟩ := begun_of_begin begins
  cases begun <;> exact ⟨_, rfl, rfl⟩

/-- A call that has left the line does not join it again. -/
theorem Tracked.unlined_move
    (tracked : Tracked server ticket errand)
    (move : Move server event next effects)
    (unlined : ∀ request ∈ server.waiting, request.ticket ≠ ticket) :
    ∀ request ∈ next.waiting, request.ticket ≠ ticket := by
  cases move with
  | queued found =>
      intro request member
      rcases List.mem_append.mp member with earlier | last
      · exact unlined request earlier
      · rw [List.mem_singleton.mp last]
        exact tracked.ne_nextTicket
  | started found free alone begins =>
      obtain ⟨_, _, same⟩ := holder_of_begin begins
      rw [same]
      exact unlined
  | turned free lined begins =>
      obtain ⟨_, _, same⟩ := holder_of_begin begins
      rw [same]
      intro request member
      exact unlined request (lined ▸ List.mem_cons_of_mem _ member)
  | _ => exact unlined

/-- A call about a cycle does not have the exchange as long as it is in line. -/
theorem Tracked.not_held
    {request : Request} {trace : TraceContext} {scope : Scope}
    {changes : Changes}
    (tracked :
      Tracked server request.ticket (.cycle trace scope changes))
    (lined : request ∈ server.waiting) (transfer : Transfer) :
    server.holder ≠ some ⟨request.ticket, transfer⟩ := by
  intro held
  obtain ⟨orderly, calls, told, ledger, called⟩ := tracked
  have across := (List.pairwise_append.mp ledger.ordered).2.2
  have later :
      ∀ cycle, told.getLast? ≠ some (request.ticket, cycle) := by
    intro cycle last
    have sent := List.mem_map_of_mem (List.mem_of_getLast? last) (f := Prod.fst)
    exact Nat.lt_irrefl _
      (across _ sent _ (List.mem_map_of_mem lined))
  have holds := ledger.held _ _ held
  cases transfer with
  | sendingCycle number =>
      obtain ⟨cycle, last, _⟩ := holds
      exact later cycle last
  | awaiting number =>
      obtain ⟨cycle, last, _⟩ := holds
      exact later cycle last
  | sendingExit =>
      obtain ⟨own, description, other⟩ := holds
      rw [called] at other
      cases other

/-! ## Beside a call that has the exchange -/

/-- An effect of a call that has nothing to do with the exchange. -/
def Effect.aside : Effect → Bool
  | .publish _ => true
  | .close _ => true
  | .finish _ _ => true
  | _ => false

/-- Effects that ask the transport for no message and log nothing. -/
structure Unheard (effects : List Effect) : Prop where
  silent : Silent effects
  unlogged : logs effects = []

theorem unheard_of_aside
    (aside : ∀ effect ∈ effects, effect.aside = true) : Unheard effects where
  silent := by
    constructor
    · apply List.filterMap_eq_nil_iff.mpr
      intro effect member
      have apart := aside effect member
      cases effect <;> simp_all [Effect.aside, Effect.message?]
    · apply List.countP_eq_zero.mpr
      intro effect member
      have apart := aside effect member
      cases effect <;> simp_all [Effect.aside, Effect.asksMessage]
  unlogged := by
    apply List.filterMap_eq_nil_iff.mpr
    intro effect member
    have apart := aside effect member
    cases effect <;> simp_all [Effect.aside, Effect.entry?]

/-- Whatever is no answer to the call that has the exchange leaves it alone. -/
theorem aside_of_step
    {holder : Holder} (orderly : Orderly server)
    (held : server.holder = some holder)
    (undispatched : event.dispatch? = none)
    (unanswered : event.answer? = none)
    (stepped : step server event = some (next, effects)) :
    next.holder = some holder ∧ ∀ effect ∈ effects, effect.aside = true := by
  have found : server.session.isSome := orderly.held (by simp [held])
  have finished : server.reception = .finished := orderly.received found
  have served : server.serving = true := by
    cases served : server.serving with
    | true => rfl
    | false => simp [orderly.unserved served] at finished
  obtain ⟨session, known⟩ := Option.isSome_iff_exists.mp found
  cases event with
  | serve trace bound =>
      simp only [step, serve, served, if_true, Option.some.injEq,
        Prod.mk.injEq] at stepped
      obtain ⟨rfl, rfl⟩ := stepped
      exact ⟨held, by simp [Effect.aside]⟩
  | cancel =>
      simp only [step, Option.some.injEq, Prod.mk.injEq] at stepped
      obtain ⟨rfl, rfl⟩ := stepped
      exact ⟨held, by simp⟩
  | call errand =>
      simp only [step, start, known, held, Option.isNone_some,
        Bool.false_and, Bool.false_eq_true, if_false, Option.some.injEq,
        Prod.mk.injEq] at stepped
      obtain ⟨rfl, rfl⟩ := stepped
      exact ⟨rfl, by simp⟩
  | awaitConnection =>
      simp only [step, awaitConnection] at stepped
      split at stepped
      all_goals
        simp only [Option.some.injEq, Prod.mk.injEq] at stepped
        obtain ⟨rfl, rfl⟩ := stepped
        exact ⟨held, by simp [Effect.aside]⟩
  | close =>
      simp only [step, close, Option.some.injEq, Prod.mk.injEq] at stepped
      obtain ⟨rfl, rfl⟩ := stepped
      exact ⟨held, by simp [Effect.aside]⟩
  | abandon | accepted | handshakeSent | handshakeReceived =>
      simp [step, finished] at stepped
  | turn => simp [step, held] at stepped
  | callSent result => simp at undispatched
  | callReceived result => simp at unanswered
  | notice own =>
      simp only [step] at stepped
      split at stepped
      next =>
        simp only [Option.some.injEq, Prod.mk.injEq] at stepped
        obtain ⟨rfl, rfl⟩ := stepped
        exact ⟨held, by simp [Effect.aside]⟩
      next => simp at stepped
  | closed own result =>
      simp only [step] at stepped
      split at stepped
      next =>
        cases result <;>
          simp only [transportClosed, publish, Reaction.followedBy,
            Option.some.injEq, Prod.mk.injEq] at stepped <;>
          obtain ⟨rfl, rfl⟩ := stepped <;>
          exact ⟨held, by simp [Effect.aside]⟩
      next => simp at stepped

/-! ## From the exchange to the end of a call -/

/-- Where a call about a cycle stands. -/
inductive Stand where
  | waits (transfer : Transfer)
  | ended (result : Except ProtocolError Unit)

/--
What a call about a cycle has come to since it got the exchange: what became
of its message, what was received for it, how often it asked for something,
what was logged, and where it stands.
-/
inductive Dealt (number : CycleId) :
    List Delivery → List Receipt → Nat → List LogEntry → Stand → Prop where
  | sending : Dealt number [] [] 0 [] (.waits (.sendingCycle number))
  /-- The message cannot be sent, and nothing is received. -/
  | unsent (error : TransportError) :
      Dealt number [.error error] [] 0 []
        (.ended (.error (ProtocolError.ofTransport error)))
  /-- All that was received so far is that the cycle has started. -/
  | awaiting {heard : List Receipt}
      (started : ∀ receipt ∈ heard, Acknowledges number .started receipt) :
      Dealt number [.ok ()] heard (heard.length + 1) []
        (.waits (.awaiting number))
  /-- The first receipt that says something else decides. -/
  | concluded {heard : List Receipt} {last : Receipt} {log : List LogEntry}
      {result : Except ProtocolError Unit}
      (started : ∀ receipt ∈ heard, Acknowledges number .started receipt)
      (other : ¬Acknowledges number .started last)
      (means : Means number last log result) :
      Dealt number [.ok ()] (heard ++ [last]) (heard ++ [last]).length log
        (.ended result)

/-- What a server and its effects show of a call that stands somewhere. -/
def Stand.Shown (ticket : Ticket) (server : Server) (effects : List Effect) :
    Stand → Prop
  | .waits transfer =>
      server.holder = some ⟨ticket, transfer⟩ ∧ outcomes ticket effects = []
  | .ended result =>
      server.holder = none ∧ outcomes ticket effects = [.result result]

/-- A call about a cycle, from when it got the exchange. -/
structure Dealing (begun : Server) (ticket : Ticket) (number : CycleId)
    (own : List Event) (reached : Server) (quiet : List Effect)
    (stand : Stand) : Prop where
  ran : run step begun own = some (reached, quiet)
  /-- Nobody sends anything meanwhile. -/
  silent : messages quiet = []
  dealt :
    Dealt number (dispatches own) (responses own) (requests quiet)
      (logs quiet) stand
  shown : stand.Shown ticket reached quiet

/-- A call that sends has sent and heard nothing yet. -/
theorem Dealt.of_sending
    {number own : CycleId} {sent : List Delivery} {heard : List Receipt}
    {asked : Nat} {log : List LogEntry}
    (dealt : Dealt number sent heard asked log (.waits (.sendingCycle own))) :
    own = number ∧ sent = [] ∧ heard = [] ∧ asked = 0 ∧ log = [] := by
  cases dealt with
  | sending => exact ⟨rfl, rfl, rfl, rfl, rfl⟩

/-- A call that waits has heard of the start of its cycle only. -/
theorem Dealt.of_awaiting
    {number own : CycleId} {sent : List Delivery} {heard : List Receipt}
    {asked : Nat} {log : List LogEntry}
    (dealt : Dealt number sent heard asked log (.waits (.awaiting own))) :
    own = number ∧ sent = [.ok ()] ∧ asked = heard.length + 1 ∧ log = [] ∧
      ∀ receipt ∈ heard, Acknowledges number .started receipt := by
  cases dealt with
  | awaiting started => exact ⟨rfl, rfl, rfl, rfl, started⟩

/-- A call about a cycle never waits for an end of the build to be sent. -/
theorem Dealt.not_sendingExit
    {number : CycleId} {sent : List Delivery} {heard : List Receipt}
    {asked : Nat} {log : List LogEntry} :
    ¬Dealt number sent heard asked log (.waits .sendingExit) := by
  intro dealt
  cases dealt

section Dealing

variable {begun reached : Server} {number : CycleId} {own : List Event}
  {quiet more : List Effect} {transfer : Transfer}

/-- Whatever the other tasks do, the call stands where it stood. -/
theorem Dealing.beside
    (dealing :
      Dealing begun ticket number own reached quiet (.waits transfer))
    (tracked : Tracked reached ticket errand)
    (undispatched : event.dispatch? = none)
    (unanswered : event.answer? = none)
    (stepped : step reached event = some (next, more)) :
    Dealing begun ticket number (own ++ [event]) next (quiet ++ more)
      (.waits transfer) := by
  obtain ⟨ran, silent, dealt, held, unended⟩ := dealing
  obtain ⟨keeps, aside⟩ :=
    aside_of_step tracked.orderly held undispatched unanswered stepped
  have unheard := unheard_of_aside aside
  have move := move_of_step stepped
  refine ⟨run_snoc_eq_some_iff.mpr ⟨_, _, _, ran, stepped, rfl⟩, ?_, ?_,
    keeps, ?_⟩
  · rw [messages_append, silent, unheard.silent.1]
    rfl
  · rw [dispatches_snoc, responses_snoc, undispatched, unanswered,
      requests_append, unheard.silent.2, logs_append, unheard.unlogged]
    simpa using dealt
  · rw [outcomes_append, unended, List.nil_append]
    apply tracked.unended move
    intro result ending
    cases ending <;> simp_all

/-- The message of the cycle is sent, or it cannot be. -/
theorem Dealing.sent
    {result : Except TransportError Unit}
    (dealing :
      Dealing begun ticket number own reached quiet (.waits transfer))
    (stepped : step reached (.callSent result) = some (next, more)) :
    ∃ stand,
      Dealing begun ticket number (own ++ [.callSent result]) next
        (quiet ++ more) stand := by
  obtain ⟨ran, silent, dealt, held, unended⟩ := dealing
  have extended :
      run step begun (own ++ [.callSent result]) =
        some (next, quiet ++ more) :=
    run_snoc_eq_some_iff.mpr ⟨_, _, _, ran, stepped, rfl⟩
  cases transfer with
  | awaiting waited =>
      cases result <;> simp [step, held, transferSent] at stepped
  | sendingExit => exact absurd dealt Dealt.not_sendingExit
  | sendingCycle sending =>
      obtain ⟨rfl, unsent, unheard, unasked, unlogged⟩ := dealt.of_sending
      cases result with
      | ok done =>
          simp only [step, held, transferSent, Option.some.injEq,
            Prod.mk.injEq] at stepped
          obtain ⟨rfl, rfl⟩ := stepped
          refine ⟨.waits (.awaiting sending), extended, by simp [silent], ?_,
            rfl, by simpa using unended⟩
          have dealt :
              Dealt sending [.ok ()] [] 1 [] (.waits (.awaiting sending)) :=
            .awaiting (by simp)
          simpa [dispatches_snoc, responses_snoc, unsent, unheard, unasked,
            unlogged] using dealt
      | error error =>
          simp only [step, held, transferSent, release, Option.some.injEq,
            Prod.mk.injEq] at stepped
          obtain ⟨rfl, rfl⟩ := stepped
          refine ⟨.ended (.error (ProtocolError.ofTransport error)), extended,
            by simp [silent], ?_, by simp [Stand.Shown, unended]⟩
          have dealt :
              Dealt sending [.error error] [] 0 []
                (.ended (.error (ProtocolError.ofTransport error))) :=
            .unsent error
          simpa [dispatches_snoc, responses_snoc, unsent, unheard, unasked,
            unlogged] using dealt

/-- The call goes on behind the start of the cycle, and ends behind all else. -/
theorem Dealing.received
    {receipt : Receipt}
    (dealing :
      Dealing begun ticket number own reached quiet (.waits transfer))
    (stepped : step reached (.callReceived receipt) = some (next, more)) :
    ∃ stand,
      Dealing begun ticket number (own ++ [.callReceived receipt]) next
        (quiet ++ more) stand := by
  obtain ⟨ran, silent, dealt, held, unended⟩ := dealing
  have extended :
      run step begun (own ++ [.callReceived receipt]) =
        some (next, quiet ++ more) :=
    run_snoc_eq_some_iff.mpr ⟨_, _, _, ran, stepped, rfl⟩
  cases transfer with
  | sendingCycle sending => simp [step, held] at stepped
  | sendingExit => exact absurd dealt Dealt.not_sendingExit
  | awaiting waited =>
      obtain ⟨rfl, sent, asked, unlogged, started⟩ := dealt.of_awaiting
      simp only [step, held, Option.some.injEq] at stepped
      by_cases begins : Acknowledges waited .started receipt
      · rw [answerReceived_of_started begins, Prod.mk.injEq] at stepped
        obtain ⟨rfl, rfl⟩ := stepped
        refine ⟨.waits (.awaiting waited), extended, by simp [silent], ?_,
          held, by simpa using unended⟩
        have still :
            ∀ other ∈ responses own ++ [receipt],
              Acknowledges waited .started other := by
          intro other member
          rcases List.mem_append.mp member with earlier | last
          · exact started other earlier
          · rwa [List.mem_singleton.mp last]
        simpa [dispatches_snoc, responses_snoc, sent, asked, unlogged] using
          Dealt.awaiting still
      · obtain ⟨log, result, reaction, means⟩ :=
          concludes_of_not_started reached ticket begins
        rw [reaction, Prod.mk.injEq] at stepped
        obtain ⟨rfl, rfl⟩ := stepped
        have logged : Silent (log.map Effect.log) := silent_of_logs (by simp)
        refine ⟨.ended result, extended, ?_, ?_, ?_⟩
        · simp [silent, logged.1]
        · simpa [dispatches_snoc, responses_snoc, sent, asked, unlogged,
            logged.2] using Dealt.concluded started begins means
        · simp [Stand.Shown, unended]

end Dealing

/-! ## Away from the exchange -/

/-- A call does not have the exchange at any point of a run. -/
def Aloof (ticket : Ticket) (server : Server) (events : List Event) : Prop :=
  ∀ first, first <+: events →
    ∀ state quiet, run step server first = some (state, quiet) →
      ∀ transfer, state.holder ≠ some ⟨ticket, transfer⟩

theorem aloof_nil
    (unheld : ∀ transfer, server.holder ≠ some ⟨ticket, transfer⟩) :
    Aloof ticket server [] := by
  intro first before state quiet ran
  obtain rfl := List.prefix_nil.mp before
  obtain ⟨rfl, rfl⟩ := Prod.mk.inj (Option.some.inj ran)
  exact unheld

theorem Aloof.snoc
    {events : List Event}
    (aloof : Aloof ticket server events)
    (ran : run step server (events ++ [event]) = some (next, effects))
    (unheld : ∀ transfer, next.holder ≠ some ⟨ticket, transfer⟩) :
    Aloof ticket server (events ++ [event]) := by
  intro first before state quiet reached
  rcases List.prefix_concat_iff.mp before with rfl | earlier
  · rw [ran] at reached
    obtain ⟨rfl, rfl⟩ := Prod.mk.inj (Option.some.inj reached)
    exact unheld
  · exact aloof first earlier state quiet reached

/-- A call that is over is neither in line nor has it the exchange. -/
structure Past (server : Server) (ticket : Ticket) : Prop where
  unlined : ∀ request ∈ server.waiting, request.ticket ≠ ticket
  unheld : ∀ transfer, server.holder ≠ some ⟨ticket, transfer⟩

/-- A call that is over stays so. -/
theorem Past.move
    (past : Past server ticket) (tracked : Tracked server ticket errand)
    (move : Move server event next effects) : Past next ticket := by
  obtain ⟨unlined, unheld⟩ := past
  refine ⟨tracked.unlined_move move unlined, ?_⟩
  cases move with
  | started found free alone begins =>
      obtain ⟨transfer, held, same⟩ := holder_of_begin begins
      rw [held]
      intro other equal
      cases equal
      exact tracked.ne_nextTicket rfl
  | turned free lined begins =>
      obtain ⟨transfer, held, same⟩ := holder_of_begin begins
      rw [held]
      intro other equal
      cases equal
      exact unlined _ (lined ▸ List.mem_cons_self) rfl
  | @cycleSent own number holding =>
      intro other equal
      cases equal
      exact unheld _ holding
  | returned log ending logged => simp
  | _ => exact unheld

/-! ## A call and the run it is part of -/

/-- Whatever the transport answers, the call that has the exchange goes on. -/
def Proceeds (server : Server) : Transfer → Prop
  | .awaiting _ =>
      ∀ receipt, (step server (.callReceived receipt)).isSome
  | _ => ∀ result, (step server (.callSent result)).isSome

theorem proceeds_of_held
    {transfer : Transfer}
    (held : server.holder = some ⟨ticket, transfer⟩) :
    Proceeds server transfer := by
  cases transfer with
  | awaiting number =>
      intro receipt
      simp [step, held]
  | sendingCycle number =>
      intro result
      cases result <;> simp [step, held, transferSent]
  | sendingExit =>
      intro result
      cases result <;> simp [step, held, transferSent]

/-- A call in line has not had the exchange yet, and is not over. -/
structure Lined (server : Server) (request : Request) (line : List Event)
    (reached : Server) (before : List Effect) : Prop where
  ran : run step server line = some (reached, before)
  waits : request ∈ reached.waiting
  aloof : Aloof request.ticket server line
  unended : outcomes request.ticket before = []

/-- A call gets the exchange for the first time, and sends its message. -/
structure Taken (server : Server) (ticket : Ticket) (number : CycleId)
    (message : Message) (line : List Event) (begun : Server)
    (before : List Effect) : Prop where
  ran :
    run step server line =
      some (begun, before ++ [.send .exchange message])
  aloof :
    ∃ earlier last, line = earlier ++ [last] ∧ Aloof ticket server earlier
  unended : outcomes ticket before = []
  held : begun.holder = some ⟨ticket, .sendingCycle number⟩

/--
What a call about a cycle does in the events of a run that starts with it:
it waits in line, it has the exchange, or it is over.
-/
inductive Conduct (server : Server) (ticket : Ticket) (session : Session)
    (trace : TraceContext) (scope : Scope) (changes : Changes)
    (final : Server) : List Event → List Effect → Prop where
  | lined {line : List Event} {before : List Effect}
      (lined :
        Lined server ⟨ticket, session, .cycle trace scope changes⟩ line final
          before) :
      Conduct server ticket session trace scope changes final line before
  | underWay {number : CycleId} {transfer : Transfer} {begun : Server}
      {line own : List Event} {before quiet : List Effect}
      (taken :
        Taken server ticket number
          (session.cycleMessage trace number scope changes) line begun before)
      (dealing :
        Dealing begun ticket number own final quiet (.waits transfer))
      (proceeds : Proceeds final transfer) :
      Conduct server ticket session trace scope changes final (line ++ own)
        (before ++
          [.send .exchange
            (session.cycleMessage trace number scope changes)] ++ quiet)
  | ended {number : CycleId} {result : Except ProtocolError Unit}
      {begun reached : Server} {line own rest : List Event}
      {before quiet after : List Effect}
      (taken :
        Taken server ticket number
          (session.cycleMessage trace number scope changes) line begun before)
      (dealing : Dealing begun ticket number own reached quiet (.ended result))
      (ran : run step reached rest = some (final, after))
      (aloof : Aloof ticket reached rest)
      (unended : outcomes ticket after = [])
      (past : Past final ticket) :
      Conduct server ticket session trace scope changes final
        (line ++ own ++ rest)
        (before ++
          [.send .exchange
            (session.cycleMessage trace number scope changes)] ++ quiet ++
            after)

section Conduct

variable {final : Server} {session : Session} {number : CycleId}
  {line : List Event} {before more : List Effect}

/-- A call that gets the exchange sends its message, and waits for that. -/
theorem Taken.conduct
    {begun : Server} {trace : TraceContext} {scope : Scope}
    {changes : Changes}
    (taken :
      Taken server ticket number
        (session.cycleMessage trace number scope changes) line begun before) :
    Conduct server ticket session trace scope changes begun line
      (before ++
        [.send .exchange
          (session.cycleMessage trace number scope changes)]) := by
  have dealing :
      Dealing begun ticket number [] begun []
        (.waits (.sendingCycle number)) :=
    ⟨rfl, rfl, .sending, taken.held, rfl⟩
  have conduct := Conduct.underWay taken dealing (proceeds_of_held taken.held)
  rwa [List.append_nil, List.append_nil] at conduct

/-- A call that gets the exchange sends its message. -/
theorem taken_of_begin
    {trace : TraceContext} {scope : Scope} {changes : Changes}
    {reached : Server}
    (aloof : Aloof ticket server line)
    (unended : outcomes ticket before = [])
    (ran : run step server (line ++ [event]) = some (next, before ++ more))
    (begins :
      (next, more) =
        begin reached ⟨ticket, session, .cycle trace scope changes⟩) :
    ∃ number,
      more =
          [.send .exchange
            (session.cycleMessage trace number scope changes)] ∧
        Taken server ticket number
          (session.cycleMessage trace number scope changes)
          (line ++ [event]) next before := by
  simp only [begin, Prod.mk.injEq] at begins
  obtain ⟨rfl, rfl⟩ := begins
  exact ⟨_, rfl, ran, ⟨_, _, rfl, aloof⟩, unended, rfl⟩

/-- A call in line stays in line or gets the exchange. -/
theorem Lined.step
    {trace : TraceContext} {scope : Scope} {changes : Changes}
    (lined :
      Lined server ⟨ticket, session, .cycle trace scope changes⟩ line final
        before)
    (tracked : Tracked final ticket (.cycle trace scope changes))
    (stepped : step final event = some (next, more)) :
    Conduct server ticket session trace scope changes next (line ++ [event])
      (before ++ more) := by
  obtain ⟨ran, waits, aloof, unended⟩ := lined
  have move := move_of_step stepped
  have extended :
      run Server.step server (line ++ [event]) = some (next, before ++ more) :=
    run_snoc_eq_some_iff.mpr ⟨_, _, _, ran, stepped, rfl⟩
  have quiet : outcomes ticket more = [] :=
    tracked.unended_of_unheld move (tracked.not_held waits)
  have stays
      (still :
        ⟨ticket, session, .cycle trace scope changes⟩ ∈ next.waiting) :
      Conduct server ticket session trace scope changes next
        (line ++ [event]) (before ++ more) := by
    refine .lined ⟨extended, still, ?_, ?_⟩
    · exact aloof.snoc extended ((tracked.move move).not_held still)
    · rw [outcomes_append, unended, quiet]
      rfl
  cases move with
  | queued found => exact stays (List.mem_append_left _ waits)
  | started found free unlined begins =>
      rw [unlined] at waits
      cases waits
  | @turned request rest _ _ free front begins =>
      rw [front] at waits
      rcases List.mem_cons.mp waits with first | behind
      · subst first
        obtain ⟨number, rfl, taken⟩ :=
          taken_of_begin aloof unended extended begins
        exact taken.conduct
      · obtain ⟨transfer, _, same⟩ := holder_of_begin begins
        exact stays (same ▸ behind)
  | _ => exact stays waits

/-- A call about a cycle that has the exchange is out of the line for good. -/
theorem Tracked.unlined_of_held
    {transfer : Transfer} {trace : TraceContext} {scope : Scope}
    {changes : Changes}
    (tracked : Tracked final ticket (.cycle trace scope changes))
    (held : final.holder = some ⟨ticket, transfer⟩)
    (move : Move final event next effects) :
    ∀ request ∈ next.waiting, request.ticket ≠ ticket := by
  apply tracked.unlined_move move
  rintro request member rfl
  exact tracked.not_held member transfer held

/-- What a call that has the exchange comes to in a step. -/
theorem Dealing.step
    {begun : Server} {own : List Event} {quiet : List Effect}
    {transfer : Transfer}
    (dealing :
      Dealing begun ticket number own final quiet (.waits transfer))
    (tracked : Tracked final ticket errand)
    (stepped : step final event = some (next, more)) :
    ∃ stand,
      Dealing begun ticket number (own ++ [event]) next (quiet ++ more)
        stand := by
  cases event with
  | callSent result => exact dealing.sent stepped
  | callReceived receipt => exact dealing.received stepped
  | _ => exact ⟨_, dealing.beside tracked rfl rfl stepped⟩

/-- Where a call stands tells what it does in the run that it is part of. -/
theorem Dealing.conduct
    {trace : TraceContext} {scope : Scope} {changes : Changes}
    {begun : Server} {own : List Event} {quiet : List Effect} {stand : Stand}
    (taken :
      Taken server ticket number
        (session.cycleMessage trace number scope changes) line begun before)
    (dealing : Dealing begun ticket number own final quiet stand)
    (unlined : ∀ request ∈ final.waiting, request.ticket ≠ ticket) :
    Conduct server ticket session trace scope changes final (line ++ own)
      (before ++
        [.send .exchange
          (session.cycleMessage trace number scope changes)] ++ quiet) := by
  cases stand with
  | waits transfer =>
      exact .underWay taken dealing (proceeds_of_held dealing.shown.1)
  | ended result =>
      have past : Past final ticket := ⟨unlined, by simp [dealing.shown.1]⟩
      have conduct :=
        Conduct.ended taken dealing rfl (aloof_nil past.unheld) rfl past
      rwa [List.append_nil, List.append_nil] at conduct

/-- What a call does is continued by every step. -/
theorem Conduct.step
    {trace : TraceContext} {scope : Scope} {changes : Changes}
    {events : List Event}
    (conduct :
      Conduct server ticket session trace scope changes final events effects)
    (tracked : Tracked final ticket (.cycle trace scope changes))
    (stepped : step final event = some (next, more)) :
    Conduct server ticket session trace scope changes next (events ++ [event])
      (effects ++ more) := by
  have move := move_of_step stepped
  cases conduct with
  | lined lined => exact lined.step tracked stepped
  | underWay taken dealing proceeds =>
      obtain ⟨stand, further⟩ := dealing.step tracked stepped
      rw [List.append_assoc, List.append_assoc]
      exact further.conduct taken
        (tracked.unlined_of_held dealing.shown.1 move)
  | ended taken dealing ran aloof unended past =>
      have still := past.move tracked move
      rw [List.append_assoc, List.append_assoc _ _ more]
      have extended := run_snoc_eq_some_iff.mpr ⟨_, _, _, ran, stepped, rfl⟩
      refine .ended taken dealing extended (aloof.snoc extended still.unheld)
        ?_ still
      rw [outcomes_append, unended, tracked.unended_of_unheld move past.unheld]
      rfl

/-- A call that starts joins the line or gets the exchange at once. -/
theorem conduct_of_start
    {trace : TraceContext} {scope : Scope} {changes : Changes}
    {calls : List (Option Errand)} {told : List (Ticket × CycleEvent)}
    (orderly : Orderly server) (ledger : Ledger server calls told)
    (found : server.session = some session)
    (stepped :
      Server.step server (.call (.cycle trace scope changes)) =
        some (next, more)) :
    Tracked next server.nextTicket (.cycle trace scope changes) ∧
      Conduct server server.nextTicket session trace scope changes next
        [.call (.cycle trace scope changes)] more := by
  have move := move_of_step stepped
  have tracked :
      Tracked next server.nextTicket (.cycle trace scope changes) := by
    refine ⟨orderly_move orderly move, _, _, ledger_move orderly ledger move,
      ?_⟩
    simp [ledger.numbered]
  have fresh : Aloof server.nextTicket server [] := by
    apply aloof_nil
    intro transfer held
    exact Nat.lt_irrefl _ (ledger.lt_of_held held)
  have ran :
      run Server.step server ([] ++ [.call (.cycle trace scope changes)]) =
        some (next, [] ++ more) := by
    simpa using stepped
  refine ⟨tracked, ?_⟩
  simp only [Server.step, start, Option.some.injEq] at stepped
  split at stepped
  next unset => simp [found] at unset
  next known same =>
    obtain rfl : session = known := by simpa [found] using same
    split at stepped
    next free =>
      obtain ⟨number, rfl, taken⟩ :=
        taken_of_begin fresh rfl ran stepped.symm
      exact taken.conduct
    next busy =>
      obtain ⟨shape, rfl⟩ := Prod.mk.inj stepped
      have waits :
          ⟨server.nextTicket, session, .cycle trace scope changes⟩ ∈
            next.waiting := by
        simp [← shape]
      exact .lined
        ⟨ran, waits, fresh.snoc ran (tracked.not_held waits), rfl⟩

end Conduct

/-! ## Along every run -/

/--
On a server with a client, whatever the other tasks, the transport and the
client do, a call about a cycle sends one message, which says CYCLE, receives
up to the first receipt that is not the start of its cycle, and returns with
what that means.
-/
theorem cycle_exact
    {options : ServerOptions} {events later : List Event} {final : Server}
    {session : Session} {trace : TraceContext} {scope : Scope}
    {changes : Changes} {more : List Effect}
    (reached : run step (new options) events = some (server, effects))
    (found : server.session = some session)
    (ran :
      run step server (.call (.cycle trace scope changes) :: later) =
        some (final, more)) :
    (∀ number, ∃ carried,
        (session.cycleMessage trace number scope changes).body =
          .cycle number carried changes) ∧
      Conduct server server.nextTicket session trace scope changes final
        (.call (.cycle trace scope changes) :: later) more := by
  refine ⟨fun number =>
    ⟨_, session.body_cycleMessage trace number scope changes⟩, ?_⟩
  obtain ⟨orderly, calls, told, ledger⟩ := ledger_run reached
  obtain ⟨started, before, after, first, rest, rfl⟩ :=
    run_cons_eq_some_iff.mp ran
  obtain ⟨tracked, conduct⟩ := conduct_of_start orderly ledger found first
  refine (run_invariant
    (fun state seen quiet =>
      Tracked state server.nextTicket (.cycle trace scope changes) ∧
        Conduct server server.nextTicket session trace scope changes state
          (.call (.cycle trace scope changes) :: seen) (before ++ quiet))
    ⟨tracked, by simpa using conduct⟩ ?_ rest).2
  rintro state seen quiet event next own ⟨still, continues⟩ stepped
  refine ⟨still.move (move_of_step stepped), ?_⟩
  rw [← List.append_assoc]
  exact continues.step still stepped

/-- A client of version 0 comes. -/
def legacyArrival : List Event :=
  [.serve .none (.ok ()), .accepted (.ok ()), .handshakeSent (.ok ()),
    .handshakeReceived (.ok (Message.plain (.negotiateResponse .legacy)))]

/-- The client starts the first cycle and aborts another. -/
def strayAnswers : List Event :=
  [.callSent (.ok ()),
    .callReceived (.ok (Message.plain (.acknowledgment .started 1))),
    .callReceived (.ok (Message.plain (.acknowledgment .aborted 2)))]

theorem cycle_exact_strayAnswers :
    ∃ server effects session final more,
      run step (new ⟨"build.sock", [.legacy]⟩) legacyArrival =
          some (server, effects) ∧
        server.session = some session ∧
        run step server
            (.call (.cycle .none .runfiles KeyMap.empty) :: strayAnswers) =
          some (final, more) ∧
        (∃ carried,
          (session.cycleMessage .none 1 .runfiles KeyMap.empty).body =
            .cycle 1 carried KeyMap.empty) ∧
        Conduct server server.nextTicket session .none .runfiles KeyMap.empty
          final (.call (.cycle .none .runfiles KeyMap.empty) :: strayAnswers)
          more ∧
        outcomes server.nextTicket more =
          [.result
            (.error (.cycleMismatch 1 2 (.acknowledgment .aborted)))] := by
  obtain ⟨server, effects, session, final, more, arrived, found, ran,
      ended⟩ :
      ∃ server effects session final more,
        run step (new ⟨"build.sock", [.legacy]⟩) legacyArrival =
            some (server, effects) ∧
          server.session = some session ∧
          run step server
              (.call (.cycle .none .runfiles KeyMap.empty) ::
                strayAnswers) =
            some (final, more) ∧
          outcomes server.nextTicket more =
            [.result
              (.error (.cycleMismatch 1 2 (.acknowledgment .aborted)))] :=
    ⟨_, _, _, _, _, rfl, rfl, rfl, rfl⟩
  obtain ⟨worded, conduct⟩ := cycle_exact arrived found ran
  exact ⟨server, effects, session, final, more, arrived, found, ran, worded 1,
    conduct, ended⟩

end BuildWatch.Server
