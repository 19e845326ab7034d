import BuildWatch.Proofs.CycleStream.Progress
import BuildWatch.Proofs.Server.Ledger

/-!
# The course of a server

All that is known about a server along a run: what its handshake said, which
calls sent which cycles, and that answers come in behind the handshake only.
If the answers are those of a client that takes every cycle up and completes
it, their number says what the call that has the exchange waits for.
-/

namespace BuildWatch.Server

open CycleStream

/-! ## What is received -/

/-- What an event received, for whomever. -/
@[simp]
def Event.heard? : Event → Option Receipt
  | .handshakeReceived result => some result
  | .callReceived result => some result
  | _ => none

/-- What an entry received for the handshake. -/
def Entry.shake? : Entry → Option Receipt
  | (_, .inl event) => event.shake?
  | _ => none

/-- What an entry received, for whomever. -/
def Entry.heard? : Entry → Option Receipt
  | (_, .inl event) => event.heard?
  | _ => none

/-- The message that an entry sends. -/
def Entry.message? : Entry → Option Message
  | (_, .inr effect) => effect.message?
  | _ => none

/-- What was received for the handshake. -/
def shakes (journal : List Entry) : List Receipt :=
  journal.filterMap Entry.shake?

/-- What was received. -/
def heard (journal : List Entry) : List Receipt :=
  journal.filterMap Entry.heard?

/-- What was sent. -/
def said (journal : List Entry) : List Message :=
  journal.filterMap Entry.message?

theorem shakes_append (journal more : List Entry) :
    shakes (journal ++ more) = shakes journal ++ shakes more :=
  List.filterMap_append

theorem heard_append (journal more : List Entry) :
    heard (journal ++ more) = heard journal ++ heard more :=
  List.filterMap_append

theorem said_append (journal more : List Entry) :
    said (journal ++ more) = said journal ++ said more :=
  List.filterMap_append

section Entries

variable (next : Server) (event : Event) (effects : List Effect)

@[simp]
theorem shakes_entries :
    shakes (entries next event effects) = event.shake?.toList :=
  filterMap_entries next event effects _ fun _ _ => rfl

@[simp]
theorem heard_entries :
    heard (entries next event effects) = event.heard?.toList :=
  filterMap_entries next event effects _ fun _ _ => rfl

@[simp]
theorem said_entries :
    said (entries next event effects) = messages effects := by
  rw [said, entries, List.filterMap_cons, List.filterMap_map]
  rfl

end Entries

/-! ## The course -/

/-- What a journal and the state behind it have to do with each other. -/
structure Course (options : ServerOptions) (server : Server)
    (journal : List Entry) : Prop where
  same : server.options = options
  orderly : Orderly server
  talk : Talk server (shakes journal) (said journal)
  ledger : Ledger server (calls journal) (told journal)
  cycles :
    (told journal).map Prod.snd =
      (said journal).filterMap Message.cycleEvent?
  /-- The handshake is over before a call receives anything. -/
  heard : heard journal = shakes journal ++ answers journal
  unanswered : server.session = none → answers journal = []
  /-- A server that says that it has a client has a session. -/
  shown : server.session = none → server.state.version? = none

section Steps

variable {options : ServerOptions} {server next : Server} {event : Event}
  {effects : List Effect} {journal : List Entry}

/-- Only the reception receives for the handshake, and only a call answers. -/
theorem heard?_of_move
    (orderly : Orderly server) (move : Move server event next effects) :
    (event.shake?.isSome → server.session = none) ∧
      (event.answer?.isSome → next.session.isSome) := by
  cases move with
  | aside uncalled unanswering shown claimed numbered silent stood ended =>
      cases event <;> simp_all
  | listening unserved => simp
  | failed log failure logged =>
      have unset := orderly.session_eq_none failure.active
      refine ⟨fun _ => unset, ?_⟩
      cases failure with
      | agreedBefore again advance => cases advance <;> simp
      | _ => simp
  | entered state shown advance said asked unended =>
      have unset := orderly.session_eq_none advance.active
      refine ⟨fun _ => unset, ?_⟩
      cases advance <;> simp
  | agreed unset advance =>
      refine ⟨fun _ => unset, ?_⟩
      cases advance <;> simp
  | turnedAway unset => simp
  | queued found => simp
  | started found free unlined begins => simp
  | turned free lined begins => simp
  | cycleSent held => simp
  | waited held verdict =>
      exact ⟨by simp, fun _ => orderly.held (by simp [held])⟩
  | returned log ending logged =>
      obtain ⟨transfer, held⟩ := ending.holds
      have found := orderly.held (by simp [held])
      refine ⟨?_, fun _ => found⟩
      cases ending <;> simp

theorem heard?_eq (event : Event) :
    event.heard?.toList = event.shake?.toList ++ event.answer?.toList := by
  cases event <;> rfl

/-- A session is never lost. -/
theorem session_of_move
    (move : Move server event next effects) (unset : next.session = none) :
    server.session = none ∧
      (server.state.version? = none → next.state.version? = none) := by
  cases move with
  | aside uncalled unanswering shown claimed numbered silent stood ended =>
      refine ⟨unset, fun unseen => ?_⟩
      rcases shown with rfl | rfl
      · exact unseen
      · rfl
  | listening unserved => exact ⟨unset, fun _ => rfl⟩
  | failed log failure logged => exact ⟨unset, fun _ => rfl⟩
  | entered state shown advance said asked unended =>
      refine ⟨unset, fun unseen => ?_⟩
      rcases shown with rfl | hidden
      · exact unseen
      · exact hidden
  | agreed before advance => simp at unset
  | turnedAway before => exact ⟨unset, id⟩
  | queued found => exact ⟨unset, id⟩
  | started found free unlined begins =>
      obtain ⟨message, rfl, begun⟩ := begun_of_begin begins
      cases begun <;> exact ⟨unset, id⟩
  | turned free lined begins =>
      obtain ⟨message, rfl, begun⟩ := begun_of_begin begins
      cases begun <;> exact ⟨unset, id⟩
  | cycleSent held => exact ⟨unset, id⟩
  | waited held verdict => exact ⟨unset, id⟩
  | returned log ending logged => exact ⟨unset, id⟩

theorem course_step
    (course : Course options server journal)
    (stepped : step server event = some (next, effects)) :
    Course options next (journal ++ entries next event effects) := by
  obtain ⟨same, orderly, talk, ledger, cycles, heard, unanswered, shown⟩ :=
    course
  have move := move_of_step stepped
  obtain ⟨shaking, answering⟩ := heard?_of_move orderly move
  refine ⟨(options_move move).trans same, orderly_move orderly move, ?_, ?_,
    ?_, ?_, ?_, ?_⟩
  · rw [shakes_append, said_append, shakes_entries, said_entries]
    exact talk_move orderly talk move
  · rw [calls_append, told_append, calls_entries, told_entries]
    exact ledger_move orderly ledger move
  · rw [told_append, said_append, told_entries, said_entries, List.map_append,
      List.filterMap_append, cycles, map_reported move]
  · rw [heard_append, shakes_append, answers_append, heard_entries,
      shakes_entries, answers_entries, heard, heard?_eq]
    cases shaken : event.shake? with
    | none => simp
    | some receipt =>
        have none := unanswered (shaking (by rw [shaken]; rfl))
        simp [none]
  · intro unset
    have unheard : event.answer? = none := by
      cases answered : event.answer? with
      | none => rfl
      | some receipt =>
          have found := answering (by rw [answered]; rfl)
          simp [unset] at found
    rw [answers_append, answers_entries, unheard,
      unanswered (session_of_move move unset).1]
    rfl
  · intro unset
    obtain ⟨before, unseen⟩ := session_of_move move unset
    exact unseen (shown before)

theorem course_new (options : ServerOptions) :
    Course options (new options) [] where
  same := rfl
  orderly := orderly_new options
  talk := talk_new options
  ledger := ledger_new options
  cycles := rfl
  heard := rfl
  unanswered := fun _ => rfl
  shown := fun _ => rfl

theorem course_run
    {events : List Event}
    (ran : run noted (new options) events = some (server, journal)) :
    Course options server journal := by
  refine run_invariant (fun server _ journal => Course options server journal)
    (course_new options) ?_ ran
  intro state events journal event next more course stepped
  obtain ⟨effects, reaction, rfl⟩ := noted_eq_some_iff.mp stepped
  exact course_step course reaction

end Steps

/-! ## The pace of answers -/

/-- The answer that a client gives at a place: two for each cycle. -/
def reply (place : Nat) : Message :=
  if place % 2 = 0 then startedMessage (UInt32.ofNat (place / 2 + 1))
  else completedMessage (UInt32.ofNat (place / 2 + 1))

theorem judge_started (number : CycleId) :
    judge number (startedMessage number) = .wait := by
  simp [judge, startedMessage, Message.cycleId?, Message.plain, Message.kind,
    MessageBody.kind]

theorem judge_completed (number : CycleId) :
    judge number (completedMessage number) = .done := by
  simp [judge, completedMessage, Message.cycleId?, Message.plain,
    Message.kind, MessageBody.kind]

/-- Whether every answer is the reply that its place asks for. -/
def Replied (answers : List Receipt) : Prop :=
  ∀ (place : Nat) (receipt : Receipt), answers[place]? = some receipt →
    receipt = .ok (reply place)

/-- Whoever answers numbered cycles in order replies. -/
theorem eq_reply_of_answersTo
    {cycles : List CycleEvent} {place : Nat} {message : Message}
    (numbered :
      ∀ (index : Nat) (cycle : CycleEvent), cycles[index]? = some cycle →
        cycle.number = UInt32.ofNat (index + 1))
    (found : (cycles.flatMap answersTo)[place]? = some message) :
    message = reply place := by
  induction cycles using List.reverseRecOn with
  | nil => simp at found
  | append_singleton cycles last ih =>
      have length := length_answersTo cycles
      have number : last.number = UInt32.ofNat (cycles.length + 1) :=
        numbered cycles.length last (by simp)
      rw [List.flatMap_append] at found
      rcases Nat.lt_or_ge place (cycles.flatMap answersTo).length with
        inside | behind
      · rw [List.getElem?_append_left inside] at found
        refine ih ?_ found
        intro index cycle earlier
        exact numbered index cycle
          (getElem?_append_of_eq_some earlier _)
      · rw [List.getElem?_append_right behind, length,
          List.flatMap_singleton] at found
        rw [length] at behind
        obtain ⟨offset, rfl⟩ := Nat.exists_eq_add_of_le behind
        rw [Nat.add_sub_cancel_left] at found
        match offset with
        | 0 =>
            have even : (2 * cycles.length + 0) % 2 = 0 := by omega
            have half : (2 * cycles.length + 0) / 2 = cycles.length := by
              omega
            rw [reply, if_pos even, half, ← number]
            exact (Option.some.inj found).symm
        | 1 =>
            have odd : ¬(2 * cycles.length + 1) % 2 = 0 := by omega
            have half : (2 * cycles.length + 1) / 2 = cycles.length := by
              omega
            rw [reply, if_neg odd, half, ← number]
            exact (Option.some.inj found).symm
        | more + 2 => simp [answersTo] at found

/-- The answers to the cycles that a server sent are replies. -/
theorem Ledger.replied
    {server : Server} {calls : List (Option Errand)}
    {told : List (Ticket × CycleEvent)} {answers : List Receipt}
    (ledger : Ledger server calls told)
    (begins :
      answers <+:
        ((told.map Prod.snd).flatMap answersTo).map Except.ok) :
    Replied answers := by
  intro place receipt found
  obtain ⟨rest, whole⟩ := begins
  have place_found := getElem?_append_of_eq_some found rest
  rw [whole, List.getElem?_map] at place_found
  obtain ⟨message, answer, rfl⟩ := Option.map_eq_some_iff.mp place_found
  refine congrArg Except.ok (eq_reply_of_answersTo ?_ answer)
  intro index cycle sent
  rw [List.getElem?_map] at sent
  obtain ⟨⟨ticket, own⟩, entry, rfl⟩ := Option.map_eq_some_iff.mp sent
  obtain ⟨errand, _, tells⟩ := ledger.kept index ticket own entry
  exact tells.number

/-- How many answers there are, by what the call with the exchange waits for. -/
def Paced (cycles answered : Nat) : Option Transfer → Prop
  | some (.sendingCycle _) => answered + 2 = 2 * cycles
  | some (.awaiting _) =>
      answered + 2 = 2 * cycles ∨ answered + 1 = 2 * cycles
  | _ => answered = 2 * cycles

/-- What the call that has the exchange waits for. -/
def transfer? (server : Server) : Option Transfer :=
  server.holder.map (·.transfer)

/-- How a reply is judged by the call that waits for it. -/
theorem judge_reply
    {cycles answered : Nat} {number : CycleId}
    (paced : Paced cycles answered (some (.awaiting number)))
    (numbered : number = UInt32.ofNat cycles) :
    answered + 2 = 2 * cycles ∧ judge number (reply answered) = .wait ∨
      answered + 1 = 2 * cycles ∧
        judge number (reply answered) = .done := by
  rcases paced with first | second
  · have even : answered % 2 = 0 := by omega
    have half : answered / 2 + 1 = cycles := by omega
    rw [reply, if_pos even, half, ← numbered]
    exact .inl ⟨first, judge_started number⟩
  · have odd : ¬answered % 2 = 0 := by omega
    have half : answered / 2 + 1 = cycles := by omega
    rw [reply, if_neg odd, half, ← numbered]
    exact .inr ⟨second, judge_completed number⟩

section Pace

variable {server next : Server} {event : Event} {effects : List Effect}
  {calls : List (Option Errand)} {told : List (Ticket × CycleEvent)}
  {answered : Nat}

/-- A call that waits for an answer waits for one about the last cycle. -/
theorem number_of_awaiting
    (ledger : Ledger server calls told) {ticket : Ticket} {number : CycleId}
    (held : server.holder = some ⟨ticket, .awaiting number⟩) :
    number = UInt32.ofNat told.length :=
  (ledger.number_of_held (ledger.held ticket _ held)).2.1

theorem paced_begun
    {request : Request} {message : Message}
    (paced : answered = 2 * told.length)
    (begun : Begun server request next message) :
    Paced (told ++ reported next [.send .exchange message]).length answered
      next.transfer? := by
  cases begun with
  | @cycle trace scope changes errand =>
      obtain ⟨cycle, _, _, sent⟩ :=
        reported_cycle server request trace scope changes
      rw [sent]
      simp only [transfer?, Option.map_some, Paced, List.length_append,
        List.length_singleton]
      omega
  | exit errand =>
      rw [reported_exit]
      simpa [transfer?, Paced] using paced

/-- Replies keep the pace. -/
theorem paced_move
    (ledger : Ledger server calls told)
    (paced : Paced told.length answered server.transfer?)
    (move : Move server event next effects)
    (sent : ∀ error, event ≠ .callSent (.error error))
    (replied :
      ∀ result, event.answer? = some result →
        result = .ok (reply answered)) :
    Paced (told ++ reported next effects).length
      (answered + event.answer?.toList.length) next.transfer? := by
  have stays :
      (messages effects).filterMap Message.cycleEvent? = [] →
        event.answer? = none → next.transfer? = server.transfer? →
          Paced (told ++ reported next effects).length
            (answered + event.answer?.toList.length) next.transfer? := by
    intro silent unanswered same
    rw [reported_eq_nil silent, unanswered, same]
    simpa using paced
  cases move with
  | aside uncalled unanswering shown claimed numbered silent stood ended =>
      refine stays (by simp [silent.1]) ?_ rfl
      cases event <;> simp_all
  | listening unserved => exact stays rfl rfl rfl
  | failed log failure logged =>
      refine stays (by simp [(silent_of_logs logged).1]) ?_ rfl
      cases failure with
      | agreedBefore again advance => cases advance <;> rfl
      | _ => rfl
  | entered state shown advance said asked unended =>
      refine stays ?_ ?_ rfl
      · rw [said]
        exact filterMap_cycleEvent?_stageMessages ..
      · cases advance <;> rfl
  | agreed unset advance =>
      refine stays rfl ?_ rfl
      cases advance <;> rfl
  | turnedAway unset => exact stays rfl rfl rfl
  | queued found => exact stays rfl rfl rfl
  | started found free unlined begins =>
      obtain ⟨message, rfl, begun⟩ := begun_of_begin begins
      rw [transfer?, free] at paced
      exact paced_begun paced begun
  | turned free lined begins =>
      obtain ⟨message, rfl, begun⟩ := begun_of_begin begins
      rw [transfer?, free] at paced
      exact paced_begun paced begun
  | @cycleSent ticket number held =>
      rw [transfer?, held] at paced
      rw [reported_eq_nil rfl]
      simpa [transfer?, Paced] using Or.inl paced
  | @waited ticket number message held verdict =>
      have numbered := number_of_awaiting ledger held
      rw [transfer?, held] at paced
      rw [reported_eq_nil rfl, transfer?, held]
      cases replied _ rfl
      rcases judge_reply paced numbered with
        ⟨first, _⟩ | ⟨_, finished⟩
      · simpa [Paced] using Or.inr first
      · simp [verdict] at finished
  | @returned _ ticket result log ending logged =>
      have silent := (silent_of_logs logged).1
      rw [reported_eq_nil (by simp [silent])]
      cases ending with
      | cycleUnsent held => exact absurd rfl (sent _)
      | exitUnsent held => exact absurd rfl (sent _)
      | exitSent held =>
          rw [transfer?, held] at paced
          simpa [transfer?, Paced] using paced
      | unreceived held => exact absurd (replied _ rfl) (by simp)
      | @answered ticket number message held verdict =>
          have numbered := number_of_awaiting ledger held
          rw [transfer?, held] at paced
          cases replied _ rfl
          rcases judge_reply paced numbered with
            ⟨_, waits⟩ | ⟨second, _⟩
          · simp [waits] at verdict
          · simpa [transfer?, Paced] using second
      | refused held verdict =>
          have numbered := number_of_awaiting ledger held
          rw [transfer?, held] at paced
          cases replied _ rfl
          rcases judge_reply paced numbered with
            ⟨_, waits⟩ | ⟨_, finished⟩
          · simp [waits] at verdict
          · simp [finished] at verdict

/-- A call about the end of the build is no call about a cycle. -/
theorem cycle_of_sendingExit
    {ticket : Ticket} {trace : TraceContext} {scope : Scope}
    {changes : Changes} (ledger : Ledger server calls told)
    (called : calls[ticket]? = some (some (.cycle trace scope changes)))
    (held : server.holder = some ⟨ticket, .sendingExit⟩) : False := by
  obtain ⟨exit, description, other⟩ := ledger.held ticket _ held
  rw [called] at other
  cases other

/-- A call about a cycle returns once the client completed the cycle. -/
theorem ending_of_paced
    {ticket : Ticket} {result : Except ProtocolError Unit}
    {trace : TraceContext} {scope : Scope} {changes : Changes}
    (ledger : Ledger server calls told)
    (paced : Paced told.length answered server.transfer?)
    (called : calls[ticket]? = some (some (.cycle trace scope changes)))
    (ending : Return server event ticket result)
    (sent : ∀ error, event ≠ .callSent (.error error))
    (replied :
      ∀ receipt, event.answer? = some receipt →
        receipt = .ok (reply answered)) :
    result = .ok () ∧ event.answer?.isSome ∧
      answered + 1 = 2 * told.length ∧
      ∃ cycle, told[told.length - 1]? = some (ticket, cycle) := by
  cases ending with
  | cycleUnsent held => exact absurd rfl (sent _)
  | exitUnsent held => exact absurd rfl (sent _)
  | exitSent held => exact (cycle_of_sendingExit ledger called held).elim
  | unreceived held => exact absurd (replied _ rfl) (by simp)
  | answered held verdict =>
      have numbered := number_of_awaiting ledger held
      have last := (ledger.number_of_held (ledger.held ticket _ held)).2.2
      rw [transfer?, held] at paced
      cases replied _ rfl
      rcases judge_reply paced numbered with ⟨_, waits⟩ | ⟨second, _⟩
      · simp [waits] at verdict
      · exact ⟨rfl, rfl, second, last⟩
  | refused held verdict =>
      have numbered := number_of_awaiting ledger held
      rw [transfer?, held] at paced
      cases replied _ rfl
      rcases judge_reply paced numbered with ⟨_, waits⟩ | ⟨_, finished⟩
      · simp [waits] at verdict
      · simp [finished] at verdict

/-- Without a client a call about a cycle fails like the transport. -/
theorem ending_of_mute
    {ticket : Ticket} {result : Except ProtocolError Unit}
    {trace : TraceContext} {scope : Scope} {changes : Changes}
    (ledger : Ledger server calls told)
    (called : calls[ticket]? = some (some (.cycle trace scope changes)))
    (ending : Return server event ticket result)
    (sent :
      ∀ error, event = .callSent (.error error) →
        ∃ kind, error = .io kind)
    (mute :
      ∀ receipt, event.answer? = some receipt → receipt = .error .closed) :
    ∃ error, result = .error (.transport error) := by
  cases ending with
  | cycleUnsent held =>
      obtain ⟨kind, rfl⟩ := sent _ rfl
      exact ⟨.io kind, rfl⟩
  | exitUnsent held =>
      obtain ⟨kind, rfl⟩ := sent _ rfl
      exact ⟨.io kind, rfl⟩
  | exitSent held => exact (cycle_of_sendingExit ledger called held).elim
  | unreceived held =>
      cases mute _ rfl
      exact ⟨.closed, rfl⟩
  | answered held verdict => exact absurd (mute _ rfl) (by simp)
  | refused held verdict => exact absurd (mute _ rfl) (by simp)

end Pace

/-- Along every run on which the client replies the pace is kept. -/
theorem paced_run
    {options : ServerOptions} {server : Server} {events : List Event}
    {journal : List Entry}
    (ran : run noted (new options) events = some (server, journal))
    (sent : ∀ error, .callSent (.error error) ∉ events)
    (replied : Replied (answers journal)) :
    Paced (told journal).length (answers journal).length server.transfer? := by
  revert sent replied
  have whole :=
    run_invariant
      (fun server events journal =>
        Course options server journal ∧
          ((∀ error, .callSent (.error error) ∉ events) →
            Replied (answers journal) →
              Paced (told journal).length (answers journal).length
                server.transfer?))
      ⟨course_new options, fun _ _ => rfl⟩ ?_ ran
  · exact whole.2
  intro state events journal event next more kept stepped
  obtain ⟨course, paced⟩ := kept
  obtain ⟨effects, reaction, rfl⟩ := noted_eq_some_iff.mp stepped
  refine ⟨course_step course reaction, ?_⟩
  intro sent replied
  have move := move_of_step reaction
  rw [answers_append, answers_entries] at replied
  have before : Paced (told journal).length (answers journal).length
      state.transfer? := by
    apply paced
    · intro error member
      exact sent error (List.mem_append_left _ member)
    · intro place receipt found
      exact replied place receipt
        (getElem?_append_of_eq_some found _)
  rw [told_append, answers_append, told_entries, answers_entries,
    @List.length_append _ (answers journal)]
  refine paced_move course.ledger before move ?_ ?_
  · intro error same
    exact sent error (by simp [same])
  · intro receipt answered
    apply replied
    rw [List.getElem?_append_right (Nat.le_refl _), answered]
    simp

end BuildWatch.Server
