import BuildWatch.Proofs.Dialogue.Cycles

/-!
# Cycles are delivered in order

What the consumer gets is a prefix of the cycles that the server sent, and
these are what the calls of the server asked for.  A call about a cycle
returns well only once the consumer has got the cycle and has come back, and
it never fails because of an answer.

Cycles are told apart by their place among all that were sent, so that it
does not matter that their numbers wrap.
-/

namespace BuildWatch

/-- Whether an error says that the client gave an answer it must not give. -/
def ProtocolError.blamesAnswer : ProtocolError → Bool
  | .unexpectedCycleResponse _ _ => true
  | .cycleMismatch _ _ _ => true
  | .decode _ => true
  | _ => false

namespace Dialogue

/-- The cycles that the consumer got, in order. -/
def handedOut (journal : List Entry) : List CycleEvent :=
  (Consumer.followed (consumed journal)).filterMap CycleStream.handOut?

section Delivery

variable {server : ServerOptions} {client : ClientOptions}
  {request : CapabilityRequest} {dialogue : Dialogue}
  {journal : List Entry}

/-- The consumer gets the first cycles that the server sent. -/
theorem Joint.delivered
    (joint : Joint server client request dialogue journal) :
    handedOut journal <+:
      (Server.told (served journal)).map Prod.snd := by
  unfold handedOut
  cases joint.extent with
  | opening unfollowed short =>
      rw [unfollowed]
      exact List.nil_prefix
  | streaming selected staying heard said progress =>
      exact progress.delivered.trans (joint.arrivals selected heard)

/-- A cycle that a server sent is what a call asked for. -/
theorem Joint.told_eq
    (joint : Joint server client request dialogue journal)
    {index : Nat} {ticket : Ticket} {cycle : CycleEvent}
    (found :
      (Server.told (served journal))[index]? = some (ticket, cycle)) :
    ∃ session trace scope changes,
      dialogue.server.session = some session ∧
        (Server.calls (served journal))[ticket]? =
          some (some (.cycle trace scope changes)) ∧
        cycle.number = UInt32.ofNat (index + 1) ∧
        cycle.sources = changes ∧
        cycle.scope =
          if 0 < session.version.number then some scope else none := by
  obtain ⟨errand, called, tells⟩ :=
    joint.server_course.ledger.kept index ticket cycle found
  have number := tells.number
  obtain ⟨session, trace, scope, changes, known, rfl, shown⟩ := tells
  simp only [Message.cycleEvent?, Session.body_cycleMessage,
    Option.some.injEq] at shown
  subst shown
  exact ⟨session, trace, scope, changes, known, called, number, rfl,
    by simp [Version.hasScope]⟩

/-- How a call about a cycle can end. -/
inductive Ended (journal : List Entry) (ticket : Ticket) :
    Except ProtocolError Unit → Prop where
  /-- There was no client. -/
  | unconnected : Ended journal ticket (.error .notConnected)
  /-- The connection failed. -/
  | failed (error : TransportError) :
      Ended journal ticket (.error (.transport error))
  /-- The consumer got the cycle of the call and came back. -/
  | behind {index : Nat} {cycle : CycleEvent}
      (sent : (Server.told (served journal))[index]? = some (ticket, cycle))
      (past :
        CycleStream.Past (Consumer.followed (consumed journal))
          (index + 1)) :
      Ended journal ticket (.ok ())

/-- As long as the consumer stays the server keeps the pace of its replies. -/
theorem Joint.paced
    (joint : Joint server client request dialogue journal)
    (staying : dialogue.hungUp = false)
    (replies : Server.Replied (Server.answers (served journal))) :
    Server.Paced (Server.told (served journal)).length
      (Server.answers (served journal)).length
      dialogue.server.transfer? := by
  obtain ⟨events, ran, reaching⟩ := joint.reached
  refine Server.paced_run ran ?_ replies
  intro error member
  rw [(reaching error member).1] at staying
  cases staying

/-- No call about a cycle ends in any other way. -/
theorem Joint.ended
    (joint : Joint server client request dialogue journal)
    {event : Server.Event} {after : Server} {effects : List Server.Effect}
    {inward : List String}
    (fed : Feeds dialogue event.heard? inward)
    (sent : ∀ error, unsent? event = some error →
      dialogue.hungUp = true ∧ ∃ kind, error = .io kind)
    (reaction : dialogue.server.step event = some (after, effects))
    {ticket : Ticket} {result : Except ProtocolError Unit}
    {trace : TraceContext} {scope : Scope} {changes : Changes}
    (finished : .finish ticket (.result result) ∈ effects)
    (called :
      (Server.calls (served journal) ++ event.started?.toList)[ticket]? =
        some (some (.cycle trace scope changes))) :
    Ended journal ticket result := by
  have course := joint.server_course
  have move := Server.move_of_step reaction
  rcases Server.ending_of_move course.ledger move finished called with
    unset | ⟨own, equal, ending⟩
  · cases unset
    exact .unconnected
  cases equal
  rw [ending.unstarted, Option.toList_none, List.append_nil] at called
  have later := joint_server joint fed sent reaction
  have grown :
      Server.answers
          (served
            (journal ++
              (Server.entries after event effects).map .server)) =
        Server.answers (served journal) ++ event.answer?.toList := by
    rw [served_append_server, Server.answers_append, Server.answers_entries]
  cases later.answers with
  | mute ended =>
      have unsent :
          ∀ error, event = .callSent (.error error) →
            ∃ kind, error = .io kind := by
        rintro error rfl
        exact (sent error rfl).2
      have mute :
          ∀ receipt, event.answer? = some receipt →
            receipt = .error .closed := by
        intro receipt answered
        apply ended
        rw [grown, answered]
        simp
      obtain ⟨error, rfl⟩ :=
        Server.ending_of_mute course.ledger called ending unsent mute
      exact .failed error
  | replied staying progress begins replies =>
      rw [consumed_append_server] at progress begins
      rw [grown] at begins replies
      have paced := joint.paced staying fun place receipt found =>
        replies place receipt (getElem?_append_of_eq_some found _)
      have unfailed : ∀ error, event ≠ .callSent (.error error) := by
        rintro error rfl
        rw [(sent error rfl).1] at staying
        cases staying
      have replied :
          ∀ receipt, event.answer? = some receipt →
            receipt =
              .ok
                (Server.reply (Server.answers (served journal)).length) := by
        intro receipt answered
        apply replies
        rw [answered, List.getElem?_append_right (Nat.le_refl _)]
        simp
      -- The completion that ends the call is the second of the last two
      -- answers, so that the stream has sent two for every cycle.
      obtain ⟨rfl, answered, count, cycle, last⟩ :=
        Server.ending_of_paced course.ledger paced called ending unfailed
          replied
      obtain ⟨receipt, answer⟩ := Option.isSome_iff_exists.mp answered
      have bound := begins.length_le
      rw [answer, List.length_append, List.length_map, Option.toList_some,
        List.length_singleton, count] at bound
      have positive : 0 < (Server.told (served journal)).length :=
        Nat.zero_lt_of_lt (List.getElem?_eq_some_iff.mp last).1
      refine .behind last ?_
      rw [Nat.sub_add_cancel positive]
      exact progress.past _ positive bound

/-- No answer of a client makes a call about a cycle fail. -/
theorem Ended.blamesAnswer
    {ticket : Ticket} {error : ProtocolError}
    (ended : Ended journal ticket (.error error)) :
    error.blamesAnswer = false := by
  cases ended with
  | unconnected => rfl
  | failed error => rfl

end Delivery

/--
Whatever the order of all tasks, the consumer gets the cycles that the server
sent, in order and as the calls asked for them; and a call about a cycle
returns well only behind the consumer, and never fails because of an answer.
-/
theorem cycles_delivered
    {server : ServerOptions} {client : ClientOptions}
    {request : CapabilityRequest} {actions : List Action}
    {dialogue : Dialogue} {journal : List Entry}
    (ran :
      run step (new server client request) actions =
        some (dialogue, journal)) :
    handedOut journal <+: (Server.told (served journal)).map Prod.snd ∧
      (Server.told (served journal)).map Prod.snd =
        (Server.said (served journal)).filterMap Message.cycleEvent? ∧
      ((Server.told (served journal)).map Prod.fst).Pairwise (· < ·) ∧
      (∀ index ticket cycle,
        (Server.told (served journal))[index]? = some (ticket, cycle) →
          ∃ session trace scope changes,
            dialogue.server.session = some session ∧
              (Server.calls (served journal))[ticket]? =
                some (some (.cycle trace scope changes)) ∧
              cycle.number = UInt32.ofNat (index + 1) ∧
              cycle.sources = changes ∧
              cycle.scope =
                if 0 < session.version.number then some scope else none) ∧
      ∀ action next more,
        dialogue.step action = some (next, more) →
          ∀ turn ticket result trace scope changes,
            .server (turn, .inr (.finish ticket (.result result))) ∈ more →
              (Server.calls (served (journal ++ more)))[ticket]? =
                  some (some (.cycle trace scope changes)) →
                (result = .ok () →
                    ∃ index cycle,
                      (Server.told (served journal))[index]? =
                          some (ticket, cycle) ∧
                        CycleStream.Past
                          (Consumer.followed (consumed journal))
                          (index + 1)) ∧
                  ∀ error, result = .error error →
                    error.blamesAnswer = false := by
  have joint := joint_run ran
  have course := joint.server_course
  refine ⟨joint.delivered, course.cycles,
    (List.pairwise_append.mp course.ledger.ordered).1,
    fun index ticket cycle found => joint.told_eq found, ?_⟩
  intro action next more stepped turn ticket result trace scope changes
    member called
  have ended : Ended journal ticket result := by
    cases turn_of_step stepped with
    | @server event after effects inward fed sent reaction =>
        obtain ⟨entry, inside, equal⟩ := List.mem_map.mp member
        cases equal
        have finished := Server.mem_of_mem_entries inside
        rw [served_append_server, Server.calls_append,
          Server.calls_entries] at called
        exact joint.ended fed sent reaction finished called
    | consumer fed sent staying reaction => simp at member
  constructor
  · rintro rfl
    cases ended with
    | behind sent past => exact ⟨_, _, sent, past⟩
  · rintro error rfl
    exact ended.blamesAnswer

/-- A path that was deleted. -/
def deletion : Changes :=
  KeyMap.empty.insert "BUILD" none

/-- The consumer gets a cycle and stops its stream. -/
def oneDelivery : List Action :=
  [.server (.serve .none (.ok ())), .server (.accepted (.ok ())),
    .consumer (.client (.attach ⟨none, none, KeyMap.empty⟩)),
    .serverSent .reception none, .consumerReceived .client,
    .consumerSent .client, .serverReceived .reception,
    .consumerSent .client, .serverReceived .reception,
    .serverSent .reception none, .consumerReceived .client,
    .consumer (.client .awaitCycles),
    .server (.call (.cycle .none .sources deletion)),
    .consumer (.stream 0 .next), .consumerReceived (.stream 0),
    .consumerSent (.stream 0), .serverSent .exchange none,
    .serverReceived .exchange, .consumer (.stream 0 .stop)]

/-- Whether a call of the server returns without an error. -/
def Entry.returns (ticket : Ticket) : Entry → Bool
  | .server (none, .inr (.finish own (.result (.ok _)))) => own = ticket
  | _ => false

theorem Entry.eq_of_returns
    {ticket : Ticket} {entry : Entry}
    (returns : entry.returns ticket = true) :
    entry = .server (none, .inr (.finish ticket (.result (.ok ())))) := by
  unfold Entry.returns at returns
  split at returns
  · rw [of_decide_eq_true returns]
  · cases returns

theorem cycles_delivered_oneDelivery :
    ∃ dialogue journal cycle next more,
      run step
          (new ⟨"build.sock", [.first, .legacy]⟩ .default
            ⟨none, none, KeyMap.empty⟩)
          oneDelivery = some (dialogue, journal) ∧
        Server.told (served journal) = [(1, cycle)] ∧
        handedOut journal = [cycle] ∧
        cycle.number = 1 ∧
        cycle.sources = deletion ∧
        cycle.scope = some .sources ∧
        dialogue.step (.serverReceived .exchange) = some (next, more) ∧
        .server (none, .inr (.finish 1 (.result (.ok ())))) ∈ more ∧
        ∃ index own,
          (Server.told (served journal))[index]? = some (1, own) ∧
            CycleStream.Past (Consumer.followed (consumed journal))
              (index + 1) := by
  have reached :
      ((run step
          (new ⟨"build.sock", [.first, .legacy]⟩ .default
            ⟨none, none, KeyMap.empty⟩)
          oneDelivery).bind fun reached =>
        (reached.1.step (.serverReceived .exchange)).map fun after =>
          (Server.told (served reached.2), handedOut reached.2,
            after.2.any (Entry.returns 1),
            (Server.calls (served (reached.2 ++ after.2)))[1]?)) =
        some
          ([(1, ⟨1, some .sources, deletion, TraceFields.none⟩)],
            [⟨1, some .sources, deletion, TraceFields.none⟩], true,
            some (some (.cycle .none .sources deletion))) := by
    decide +kernel
  obtain ⟨⟨dialogue, journal⟩, ran, after⟩ :=
    Option.bind_eq_some_iff.mp reached
  obtain ⟨⟨next, more⟩, stepped, shown⟩ := Option.map_eq_some_iff.mp after
  obtain ⟨told, shown⟩ := Prod.mk.inj shown
  obtain ⟨got, shown⟩ := Prod.mk.inj shown
  obtain ⟨last, called⟩ := Prod.mk.inj shown
  obtain ⟨entry, finished, returns⟩ := List.any_eq_true.mp last
  cases Entry.eq_of_returns returns
  obtain ⟨_, _, _, _, returns⟩ := cycles_delivered ran
  have past :=
    (returns _ next more stepped none 1 (.ok ()) .none .sources deletion
      finished called).1 rfl
  exact ⟨dialogue, journal, _, next, more, ran, told, got, rfl, rfl, rfl,
    stepped, finished, past⟩

end Dialogue

end BuildWatch
