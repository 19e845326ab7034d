import BuildWatch.Proofs.Server.Closure
import BuildWatch.Proofs.Server.Cycle

/-!
# When a server is told to stop waiting

A server can be told at any time to stop waiting for a client.  Told before
a client came, its reception gives up at its next turn, and nothing is ever
said or heard.  Told later, it takes the same steps as if it had never been
told: a handshake that is under way goes on, and only its failure is no longer
written to the log.
-/

namespace BuildWatch.Server

variable {server next : Server} {event : Event} {effects : List Effect}

/-! ## Being told, and never being told -/

/-- Whether an event tells a server to stop waiting for a client. -/
def Event.cancels : Event → Bool
  | .cancel => true
  | _ => false

/-- The same events, but the server is never told to stop waiting. -/
def uncancelled (events : List Event) : List Event :=
  events.filter fun event => !event.cancels

/-- Whether an effect logs that a handshake failed. -/
def Effect.logsFailure : Effect → Bool
  | .log .handshakeFailed => true
  | _ => false

/-- The same effects without the log of a handshake that failed. -/
def hushed (effects : List Effect) : List Effect :=
  effects.filter fun effect => !effect.logsFailure

/-- The same server, told to stop waiting for a client. -/
def calledOff (server : Server) : Server :=
  { server with cancelled := true }

/-- The same reaction of a server that was told to stop waiting. -/
def Reaction.calledOff (reaction : Reaction) : Reaction :=
  (reaction.1.calledOff, hushed reaction.2)

/-- The states that effects show, in order. -/
def published (effects : List Effect) : List ConnectionState :=
  effects.filterMap fun
    | .publish state => some state
    | _ => none

/-! ## What the log of a failure is to others -/

section Hushed

variable (effects more : List Effect)

theorem hushed_append :
    hushed (effects ++ more) = hushed effects ++ hushed more :=
  List.filter_append ..

/-- Whoever does not read that log entry sees the same without it. -/
theorem filterMap_hushed
    {α : Type} (shown : Effect → Option α)
    (deaf : shown (.log .handshakeFailed) = none) :
    (hushed effects).filterMap shown = effects.filterMap shown := by
  rw [hushed, List.filterMap_filter]
  congr 1
  funext effect
  split
  next kept => rfl
  next left =>
    obtain rfl : effect = .log .handshakeFailed := by
      cases effect with
      | log entry => cases entry <;> simp [Effect.logsFailure] at left ⊢
      | _ => simp [Effect.logsFailure] at left
    exact deaf.symm

theorem messages_hushed : messages (hushed effects) = messages effects :=
  filterMap_hushed effects Effect.message? rfl

theorem published_hushed : published (hushed effects) = published effects :=
  filterMap_hushed effects _ rfl

theorem outcomes_hushed (ticket : Ticket) :
    outcomes ticket (hushed effects) = outcomes ticket effects :=
  filterMap_hushed effects (Effect.outcome? ticket) rfl

theorem requests_hushed : requests (hushed effects) = requests effects := by
  rw [requests, hushed, List.countP_filter, requests]
  congr 1
  funext effect
  cases effect <;> simp [Effect.asksMessage, Effect.logsFailure]

theorem logs_hushed :
    logs (hushed effects) =
      (logs effects).filter fun entry => entry ≠ .handshakeFailed := by
  rw [logs, hushed, List.filterMap_filter, logs, List.filter_filterMap]
  congr 1
  funext effect
  cases effect with
  | log entry => cases entry <;> rfl
  | _ => rfl

end Hushed

/-! ## Told too late -/

section Parts

variable (server : Server)

theorem calledOff_failHandshake :
    failHandshake server.calledOff = (failHandshake server).calledOff := by
  cases told : server.cancelled <;>
    simp [failHandshake, told, calledOff, Reaction.calledOff,
      Reaction.followedBy, endReception, publish, hushed, Effect.logsFailure]

theorem calledOff_enterStage
    (trace : TraceContext) (stage : ServerHandshake.Stage) :
    enterStage server.calledOff trace stage =
      (enterStage server trace stage).calledOff := by
  rcases stage with sending | (_ | _ | _) <;> rfl

theorem calledOff_proceed
    (trace : TraceContext)
    (progress : Progress ServerHandshake.Stage Session) :
    proceed server.calledOff trace progress =
      (proceed server trace progress).calledOff := by
  cases progress with
  | next stage => exact calledOff_enterStage server trace stage
  | agreed session =>
      have same : server.calledOff.session = server.session := rfl
      simp only [proceed, agree, same]
      split
      · exact calledOff_failHandshake server
      · rfl

theorem calledOff_begin (request : Request) :
    begin server.calledOff request = (begin server request).calledOff := by
  obtain ⟨ticket, session, errand⟩ := request
  cases errand <;> rfl

theorem calledOff_start (errand : Errand) :
    start server.calledOff errand = (start server errand).calledOff := by
  have same : server.calledOff.session = server.session := rfl
  have free :
      (server.calledOff.holder.isNone && server.calledOff.waiting.isEmpty) =
        (server.holder.isNone && server.waiting.isEmpty) :=
    rfl
  cases found : server.session with
  | none =>
      simp only [start, same, found]
      rfl
  | some session =>
      simp only [start, same, found, free]
      split
      · exact calledOff_begin
          { server with
            session := some session, nextTicket := server.nextTicket + 1 }
          ⟨server.nextTicket, session, errand⟩
      · rfl

theorem calledOff_transferSent
    (holder : Holder) (result : Except TransportError Unit) :
    transferSent server.calledOff holder result =
      (transferSent server holder result).map Reaction.calledOff := by
  obtain ⟨ticket, transfer⟩ := holder
  cases result <;> cases transfer <;> rfl

theorem calledOff_answerReceived
    (ticket : Ticket) (number : CycleId)
    (result : Except TransportError Message) :
    answerReceived server.calledOff ticket number result =
      (answerReceived server ticket number result).calledOff := by
  cases result with
  | error error => rfl
  | ok message =>
      simp only [answerReceived]
      cases judge number message <;> rfl

theorem calledOff_serve
    (trace : TraceContext) (bound : Except TransportError Unit) :
    serve server.calledOff trace bound =
      (serve server trace bound).calledOff := by
  have claimed : server.calledOff.serving = server.serving := rfl
  simp only [serve, claimed]
  split
  · rfl
  · cases bound <;> rfl

theorem calledOff_awaitConnection :
    awaitConnection server.calledOff =
      (awaitConnection server).calledOff := by
  have shown : server.calledOff.state = server.state := rfl
  simp only [awaitConnection, shown]
  split <;> rfl

theorem calledOff_transportClosed
    (ticket : Ticket) (result : Except TransportError Unit) :
    transportClosed server.calledOff ticket result =
      (transportClosed server ticket result).calledOff := by
  cases result <;> rfl

end Parts

/-- A server that does not wait for a client takes no notice. -/
theorem calledOff_step
    (beyond : ∀ trace, server.reception ≠ .accepting trace) (event : Event) :
    step server.calledOff event =
      (step server event).map Reaction.calledOff := by
  have same : server.calledOff.reception = server.reception := rfl
  have held : server.calledOff.holder = server.holder := rfl
  have lined : server.calledOff.waiting = server.waiting := rfl
  cases event with
  | serve trace bound =>
      exact congrArg some (calledOff_serve server trace bound)
  | cancel => rfl
  | call errand => exact congrArg some (calledOff_start server errand)
  | awaitConnection =>
      exact congrArg some (calledOff_awaitConnection server)
  | close => rfl
  | abandon =>
      cases waiting : server.reception with
      | accepting trace => exact absurd waiting (beyond trace)
      | _ => simp [step, same, waiting]
  | accepted result =>
      cases waiting : server.reception with
      | accepting trace => exact absurd waiting (beyond trace)
      | _ => simp [step, same, waiting]
  | handshakeSent result =>
      cases waiting : server.reception with
      | shaking trace stage =>
          cases stage with
          | sending stage =>
              simp only [step, same, waiting]
              cases result with
              | ok done =>
                  exact congrArg some (calledOff_proceed server _ _)
              | error error =>
                  exact congrArg some (calledOff_failHandshake server)
          | receiving stage => simp [step, same, waiting]
      | _ => simp [step, same, waiting]
  | handshakeReceived result =>
      cases waiting : server.reception with
      | shaking trace stage =>
          cases stage with
          | sending stage => simp [step, same, waiting]
          | receiving stage =>
              have offered : server.calledOff.options = server.options := rfl
              simp only [step, same, waiting, offered]
              cases result with
              | error error =>
                  exact congrArg some (calledOff_failHandshake server)
              | ok message =>
                  cases read :
                      stage.received server.options.supported message with
                  | error error =>
                      simp only [read]
                      exact congrArg some (calledOff_failHandshake server)
                  | ok progress =>
                      simp only [read]
                      exact congrArg some
                        (calledOff_proceed server trace progress)
      | _ => simp [step, same, waiting]
  | turn =>
      simp only [step, held, lined]
      split
      next request rest free line =>
        exact congrArg some
          (calledOff_begin { server with waiting := rest } request)
      next => rfl
  | callSent result =>
      simp only [step, held]
      split
      next holder _ => exact calledOff_transferSent server holder result
      next => rfl
  | callReceived result =>
      simp only [step, held]
      split
      next ticket number _ =>
        exact congrArg some
          (calledOff_answerReceived server ticket number result)
      next => rfl
  | notice ticket =>
      have watched : server.calledOff.watchers = server.watchers := rfl
      have shown : server.calledOff.state = server.state := rfl
      simp only [step, watched, shown]
      split <;> rfl
  | closed ticket result =>
      have closing : server.calledOff.closers = server.closers := rfl
      simp only [step, closing]
      split
      · exact congrArg some (calledOff_transportClosed server ticket result)
      · rfl

/-- A server whose reception is beyond waiting for a client. -/
structure Met (server : Server) : Prop where
  served : server.serving = true
  beyond : ∀ trace, server.reception ≠ .accepting trace

/-- Nobody waits for a client again. -/
theorem Met.of_step
    (met : Met server) (stepped : step server event = some (next, effects)) :
    Met next := by
  have move := move_of_step stepped
  refine ⟨serving_of_move met.served move, ?_⟩
  cases bearing_of_move move with
  | apart reception session state =>
      rw [reception]
      exact met.beyond
  | listening unserved reception session => simp [met.served] at unserved
  | failed failure reception session state => simp [reception]
  | entered advance reception session => simp [reception]
  | agreed unset advance reception found => simp [reception]

/-- Behind the step that accepts a client, nobody waits for one. -/
theorem met_of_accepted_step
    {result : Except TransportError Unit} (orderly : Orderly server)
    (stepped : step server (.accepted result) = some (next, effects)) :
    Met next := by
  have move := move_of_step stepped
  simp only [step] at stepped
  split at stepped
  next trace waiting live =>
    have served := orderly.serving (by rw [waiting]; rfl)
    refine ⟨serving_of_move served move, ?_⟩
    rcases result with error | ⟨⟩
    · have gaveUp : GivesUp server (receive server trace (.error error)) :=
        givesUp_receive trace error
      rw [Option.some.inj stepped] at gaveUp
      have finished : next.reception = .finished := gaveUp.reception
      simp [finished]
    · obtain ⟨rfl, -⟩ := Prod.mk.inj (Option.some.inj stepped)
      simp
  next => simp at stepped

/-- Where a client was accepted, nobody waits for one. -/
theorem met_of_accepted
    {options : ServerOptions} {events : List Event}
    (ran : run step (new options) events = some (server, effects))
    (accepted : ∃ result, .accepted result ∈ events) : Met server := by
  refine run_induction
    (fun state seen _ => (∃ result, .accepted result ∈ seen) → Met state)
    (by simp) ?_ ran accepted
  rintro state seen said event next more reached kept stepped ⟨result, member⟩
  rcases List.mem_append.mp member with earlier | last
  · exact (kept ⟨result, earlier⟩).of_step stepped
  · obtain rfl := List.mem_singleton.mp last
    exact met_of_accepted_step (account_run reached).2.orderly stepped

/-- To be told is a step of its own, which shows nothing. -/
theorem run_cancel (server : Server) (events : List Event) :
    run step server (.cancel :: events) =
      run step server.calledOff events := by
  have told : step server .cancel = some (server.calledOff, []) := rfl
  cases ran : run step server.calledOff events <;> simp [run, told, ran]

/-- A server that is told too late goes on as if it was never told. -/
theorem run_calledOff (met : Met server) (events : List Event) :
    run step server.calledOff events =
      (run step server (uncancelled events)).map Reaction.calledOff := by
  induction events generalizing server with
  | nil => rfl
  | cons event rest ih =>
      by_cases told : event.cancels = true
      · obtain rfl : event = .cancel := by
          cases event <;> simp [Event.cancels] at told ⊢
        rw [uncancelled, List.filter_cons_of_neg (by simp [told]),
          ← uncancelled, ← ih met]
        exact run_cancel server.calledOff rest
      · rw [uncancelled, List.filter_cons_of_pos (by simp [told]),
          ← uncancelled, run, run, calledOff_step met.beyond]
        cases stepped : step server event with
        | none => rfl
        | some reaction =>
            have following := ih (met.of_step stepped)
            cases ran : run step reaction.1 (uncancelled rest) <;>
              simp_all [Reaction.calledOff, hushed_append]

/-- What a server does after it was told too late, and would do otherwise. -/
structure Unheeded (after : List Event) (final : Server) (said : List Effect)
    (calm : Server) (told : List Effect) : Prop where
  server : final = { calm with cancelled := true }
  effects : said = hushed told
  heard :
    receipts (.cancel :: after) = receipts (uncancelled after) ∧
      responses (.cancel :: after) = responses (uncancelled after)
  sent : messages said = messages told
  asked : requests said = requests told
  published : published said = published told
  session : final.session = calm.session
  results : ∀ ticket, outcomes ticket said = outcomes ticket told
  logs :
    logs said = (logs told).filter fun entry => entry ≠ .handshakeFailed

/-- Whoever is told to stop waiting hears the same. -/
theorem filterMap_uncancelled
    {α : Type} (shown : Event → Option α) (deaf : shown .cancel = none)
    (events : List Event) :
    (uncancelled events).filterMap shown = events.filterMap shown := by
  rw [uncancelled, List.filterMap_filter]
  congr 1
  funext event
  cases event with
  | cancel => exact deaf.symm
  | _ => rfl

theorem unheeded_calledOff
    (after : List Event) (calm : Server) (told : List Effect) :
    Unheeded after calm.calledOff (hushed told) calm told where
  server := rfl
  effects := rfl
  heard := by
    constructor
    · exact (filterMap_uncancelled Event.shake? rfl after).symm
    · exact (filterMap_uncancelled Event.answer? rfl after).symm
  sent := messages_hushed told
  asked := requests_hushed told
  published := published_hushed told
  session := rfl
  results := outcomes_hushed told
  logs := logs_hushed told

/-! ## Told in time -/

/-- A server that never saw a client. -/
structure Unvisited (server : Server) (seen : List Event)
    (said : List Effect) : Prop where
  silent : Silent said
  unanswered :
    ∀ event ∈ seen, event.answersSend = false ∧ event.answersReceive = false
  unset : server.session = none
  unshaken : ∀ trace stage, server.reception ≠ .shaking trace stage
  /-- A reception that is over has given up. -/
  closed : server.reception = .finished → server.state = .closed

theorem Silent.append
    {more : List Effect} (silent : Silent effects) (also : Silent more) :
    Silent (effects ++ more) := by
  simp [Silent, silent.1, silent.2, also.1, also.2]

/-- No step but that which accepts a client makes a server see one. -/
theorem Unvisited.of_step
    {seen : List Event} {said : List Effect} (orderly : Orderly server)
    (unvisited : Unvisited server seen said)
    (unaccepted : ∀ result, event ≠ .accepted result)
    (stepped : step server event = some (next, effects)) :
    Unvisited next (seen ++ [event]) (said ++ effects) := by
  obtain ⟨silent, unanswered, unset, unshaken, closed⟩ := unvisited
  -- Whatever is left asks for nothing and is no answer of the transport.
  have quietly
      (mute : Silent effects)
      (asked : event.answersSend = false ∧ event.answersReceive = false)
      (still : next.session = none)
      (apart : ∀ trace stage, next.reception ≠ .shaking trace stage)
      (shown : next.reception = .finished → next.state = .closed) :
      Unvisited next (seen ++ [event]) (said ++ effects) := by
    refine ⟨silent.append mute, ?_, still, apart, shown⟩
    intro other member
    rcases List.mem_append.mp member with earlier | last
    · exact unanswered other earlier
    · rw [List.mem_singleton.mp last]
      exact asked
  have unadvanced
      {trace : TraceContext}
      {progress : Progress ServerHandshake.Stage Session}
      (advance : Advance server event trace progress) : False := by
    cases advance with
    | accepted waiting => exact unaccepted _ rfl
    | sent waiting follows => exact unshaken _ _ waiting
    | received waiting follows => exact unshaken _ _ waiting
  cases move_of_step stepped with
  | aside uncalled unanswering shown claimed numbered mute stood ended =>
      refine quietly mute unanswering unset unshaken fun finished => ?_
      rcases shown with same | shut
      · exact same.trans (closed finished)
      · exact shut
  | listening unserved =>
      exact quietly ⟨rfl, rfl⟩ ⟨rfl, rfl⟩ unset (by simp) (by simp)
  | failed log failure logged =>
      have mute : Silent (log ++ [.publish .closed]) :=
        (silent_of_logs logged).append ⟨rfl, rfl⟩
      cases failure with
      | abandoned waiting =>
          exact quietly mute ⟨rfl, rfl⟩ unset (by simp) (by simp)
      | unaccepted waiting => exact absurd rfl (unaccepted _)
      | unsent waiting => exact absurd waiting (unshaken _ _)
      | unreceived waiting => exact absurd waiting (unshaken _ _)
      | refused waiting refusal => exact absurd waiting (unshaken _ _)
      | agreedBefore again advance => exact (unadvanced advance).elim
  | entered state shown advance said asked unended =>
      exact (unadvanced advance).elim
  | agreed unset advance => exact (unadvanced advance).elim
  | turnedAway _ =>
      exact quietly ⟨rfl, rfl⟩ ⟨rfl, rfl⟩ unset unshaken closed
  | queued found => simp [unset] at found
  | started found free unlined begins => simp [unset] at found
  | turned free lined begins =>
      simp [orderly.waiting_eq_nil unset] at lined
  | cycleSent held => simpa [unset] using orderly.held (by simp [held])
  | waited held verdict =>
      simpa [unset] using orderly.held (by simp [held])
  | returned log ending logged =>
      obtain ⟨transfer, held⟩ := ending.holds
      simpa [unset] using orderly.held (by simp [held])

/-- A run in which nobody is accepted sees no client. -/
theorem unvisited_run
    {options : ServerOptions} {events : List Event}
    (ran : run step (new options) events = some (server, effects))
    (unaccepted : ∀ result, .accepted result ∉ events) :
    Unvisited server events effects := by
  refine run_induction
    (fun state seen said =>
      (∀ result, .accepted result ∉ seen) → Unvisited state seen said)
    ?_ ?_ ran unaccepted
  · intro _
    exact ⟨⟨rfl, rfl⟩, by simp, rfl, by simp [new], by simp [new]⟩
  · intro state seen said event next more reached kept stepped unaccepted
    have earlier : ∀ result, .accepted result ∉ seen := by
      intro result member
      exact unaccepted result (List.mem_append_left _ member)
    refine (kept earlier).of_step (account_run reached).2.orderly ?_ stepped
    rintro result rfl
    exact unaccepted result (List.mem_append_right _ List.mem_cons_self)

/-- Who was told to stop waiting accepts nobody. -/
theorem unaccepted_of_cancelled
    {later : List Event} (cancelled : server.cancelled = true)
    (ran : run step server later = some (next, effects)) :
    next.cancelled = true ∧ ∀ result, .accepted result ∉ later := by
  refine run_invariant
    (fun state seen _ =>
      state.cancelled = true ∧ ∀ result, .accepted result ∉ seen)
    ⟨cancelled, by simp⟩ ?_ ran
  rintro state seen said event next more ⟨told, unaccepted⟩ stepped
  refine ⟨(shown_of_step stepped).cancelled told, fun result member => ?_⟩
  rcases List.mem_append.mp member with earlier | last
  · exact unaccepted result earlier
  · rw [← List.mem_singleton.mp last] at stepped
    simp [step, told] at stepped

/-- What becomes of a server that is told to stop waiting in time. -/
structure Abandoned (server : Server) (seen : List Event)
    (said : List Effect) : Prop extends Unvisited server seen said where
  /-- As long as the reception waits, it is its turn to give up, -/
  leaves :
    server.reception.active = true →
      step server .abandon = some (endReception server)
  /-- and nothing else is. -/
  unaccepting : ∀ result, step server (.accepted result) = none
  /-- Behind that the server is closed for good. -/
  settled :
    server.reception = .finished →
      ∀ later final more,
        run step server later = some (final, more) → final.state = .closed

theorem abandoned_of_unvisited
    {options : ServerOptions} {events : List Event}
    (ran : run step (new options) events = some (server, effects))
    (unvisited : Unvisited server events effects)
    (cancelled : server.cancelled = true) :
    Abandoned server events effects where
  toUnvisited := unvisited
  leaves := by
    intro active
    cases waiting : server.reception with
    | accepting trace => simp [step, waiting, cancelled]
    | shaking trace stage =>
        exact absurd waiting (unvisited.unshaken trace stage)
    | absent => simp [waiting, Reception.active] at active
    | finished => simp [waiting, Reception.active] at active
  unaccepting := by
    intro result
    simp [step, cancelled]
  settled := by
    intro finished later final more reached
    obtain ⟨_, account⟩ := account_run ran
    have served : server.serving = true := by
      by_contra unserved
      simp [account.orderly.unserved (by simpa using unserved)] at finished
    exact closed_of_sealed_run account.orderly account.talk
      ⟨served, .ended finished⟩ (unvisited.closed finished) reached

/-! ## Along every run -/

/--
Told to stop waiting before anybody was accepted, a server says and hears
nothing, and it ends up closed.  Told later, it does what it would do if it
was never told, but it does not log that its handshake failed.
-/
theorem cancellation_ends_waiting_only
    {options : ServerOptions} {before : List Event}
    (ran : run step (new options) before = some (server, effects)) :
    ((∀ result, .accepted result ∉ before) →
      ∀ after final said,
        run step server (.cancel :: after) = some (final, said) →
          Abandoned final (before ++ .cancel :: after) (effects ++ said)) ∧
    ((∃ result, .accepted result ∈ before) →
      ∀ after,
        (∀ final said,
          run step server (.cancel :: after) = some (final, said) →
            ∃ calm told,
              run step server (uncancelled after) = some (calm, told) ∧
                Unheeded after final said calm told) ∧
        ∀ calm told,
          run step server (uncancelled after) = some (calm, told) →
            run step server (.cancel :: after) =
              some (calm.calledOff, hushed told)) := by
  constructor
  · intro unaccepted after final said reached
    have whole :
        run step (new options) (before ++ .cancel :: after) =
          some (final, effects ++ said) :=
      run_append_eq_some_iff.mpr ⟨server, effects, said, ran, reached, rfl⟩
    obtain ⟨_, _, later, told, behind, rfl⟩ := run_cons_eq_some_iff.mp reached
    obtain ⟨rfl, rfl⟩ := Prod.mk.inj (Option.some.inj told)
    obtain ⟨cancelled, never⟩ := unaccepted_of_cancelled rfl behind
    refine abandoned_of_unvisited whole (unvisited_run whole ?_) cancelled
    intro result member
    rcases List.mem_append.mp member with early | late
    · exact unaccepted result early
    · exact never result (by simpa using late)
  · intro accepted after
    have same :
        run step server (.cancel :: after) =
          (run step server (uncancelled after)).map Reaction.calledOff := by
      rw [run_cancel, run_calledOff (met_of_accepted ran accepted)]
    constructor
    · intro final said reached
      rw [same] at reached
      obtain ⟨⟨calm, told⟩, calmly, equal⟩ := Option.map_eq_some_iff.mp reached
      obtain ⟨rfl, rfl⟩ := Prod.mk.inj equal
      exact ⟨calm, told, calmly, unheeded_calledOff after calm told⟩
    · intro calm told calmly
      rw [same, calmly]
      rfl

/-- A client is accepted, and the versions are offered to it. -/
def offeredVisit : List Event :=
  [.serve .none (.ok ()), .accepted (.ok ()), .handshakeSent (.ok ())]

theorem cancellation_ends_waiting_only_offeredVisit :
    (∃ server effects final said,
      run step (new ⟨"build.sock", [.first]⟩) [.serve .none (.ok ())] =
          some (server, effects) ∧
        run step server [.cancel, .abandon] = some (final, said) ∧
        final.state = .closed ∧ final.session = none ∧
        Silent (effects ++ said)) ∧
    ∃ server effects calm told,
      run step (new ⟨"build.sock", [.first]⟩) offeredVisit =
          some (server, effects) ∧
        run step server [.handshakeReceived (.error .closed)] =
          some (calm, told) ∧
        logs told = [.handshakeFailed] ∧
        run step server [.cancel, .handshakeReceived (.error .closed)] =
          some (calm.calledOff, hushed told) ∧
        logs (hushed told) = [] := by
  constructor
  · obtain ⟨server, effects, final, said, ran, reached, closed⟩ :
        ∃ server effects final said,
          run step (new ⟨"build.sock", [.first]⟩) [.serve .none (.ok ())] =
              some (server, effects) ∧
            run step server [.cancel, .abandon] = some (final, said) ∧
            final.state = .closed :=
      ⟨_, _, _, _, rfl, rfl, rfl⟩
    obtain ⟨early, _⟩ := cancellation_ends_waiting_only ran
    have abandoned := early (by simp) [.abandon] final said reached
    exact ⟨server, effects, final, said, ran, reached, closed,
      abandoned.unset, abandoned.silent⟩
  · obtain ⟨server, effects, calm, told, ran, calmly, logged⟩ :
        ∃ server effects calm told,
          run step (new ⟨"build.sock", [.first]⟩) offeredVisit =
              some (server, effects) ∧
            run step server [.handshakeReceived (.error .closed)] =
              some (calm, told) ∧
            logs told = [.handshakeFailed] :=
      ⟨_, _, _, _, rfl, rfl, rfl⟩
    obtain ⟨_, late⟩ := cancellation_ends_waiting_only ran
    obtain ⟨_, cancelled⟩ :=
      late ⟨.ok (), by simp [offeredVisit]⟩
        [.handshakeReceived (.error .closed)]
    refine ⟨server, effects, calm, told, ran, calmly, logged,
      cancelled calm told calmly, ?_⟩
    rw [logs_hushed, logged]
    rfl

end BuildWatch.Server
