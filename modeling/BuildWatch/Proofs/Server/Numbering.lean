import BuildWatch.Proofs.Server.Course
import Mathlib.Data.List.Nodup

/-!
# How cycles are numbered

A cycle gets its number when the call that asks for it gets the exchange.
The line for the exchange is first come, first served, so the numbers follow
the order in which the calls started.  Only calls about a cycle that found a
client count: neither an end of the build nor a call that was turned away
uses a number up, and a cycle that cannot be sent keeps its own.
-/

namespace BuildWatch

/-- A call about a cycle, by its ticket. -/
def Request.counted? (request : Request) : Option Ticket :=
  match request.errand with
  | .cycle _ _ _ => some request.ticket
  | .exit _ _ => none

namespace Server

variable {server next : Server} {event : Event} {effects : List Effect}

/-! ## Calls that count -/

/-- The call about a cycle that an event starts, if it finds a client. -/
def admitted? (server : Server) (event : Event) : Option Ticket :=
  match event, server.session with
  | .call errand, some session =>
      Request.counted? ⟨server.nextTicket, session, errand⟩
  | _, _ => none

/-- The calls about a cycle that found a client, as they started. -/
def admitted (server : Server) (events : List Event) : List Ticket :=
  gathered noted admitted? server events

/-- The calls about a cycle that are in line. -/
def lining (server : Server) : List Ticket :=
  server.waiting.filterMap Request.counted?

@[simp]
theorem admitted?_call
    {session : Session} (errand : Errand)
    (found : server.session = some session) :
    server.admitted? (.call errand) =
      Request.counted? ⟨server.nextTicket, session, errand⟩ := by
  simp [admitted?, found]

theorem admitted?_eq_none
    (uncalled : ∀ errand, event ≠ .call errand) :
    server.admitted? event = none := by
  unfold admitted?
  split
  · exact absurd rfl (uncalled _)
  · rfl

theorem admitted?_eq_none_of_unstarted
    (unstarted : event.started? = none) : server.admitted? event = none := by
  apply admitted?_eq_none
  rintro errand rfl
  simp at unstarted

/-! ## The order of turns -/

/-- A call that gets the exchange is told by its cycle, if it has one. -/
theorem reported_of_begin
    {request : Request}
    (begins : (next, effects) = begin server request) :
    (reported next effects).map Prod.fst = request.counted?.toList ∧
      next.waiting = server.waiting := by
  obtain ⟨message, rfl, begun⟩ := begun_of_begin begins
  cases begun with
  | @cycle trace scope changes errand =>
      obtain ⟨cycle, _, _, sent⟩ :=
        reported_cycle server request trace scope changes
      simp [sent, Request.counted?, errand]
  | @exit trace description errand =>
      simp [reported_exit, Request.counted?, errand]

/--
Behind a step, the calls that sent a cycle and those in line are those that
were in line and the one that the step admits.
-/
theorem lining_move
    (move : Move server event next effects) :
    (reported next effects).map Prod.fst ++ next.lining =
      server.lining ++ (server.admitted? event).toList := by
  have unsent
      (silent : (messages effects).filterMap Message.cycleEvent? = [])
      (sameLine : next.waiting = server.waiting)
      (unadmitted : server.admitted? event = none) :
      (reported next effects).map Prod.fst ++ next.lining =
        server.lining ++ (server.admitted? event).toList := by
    rw [reported_eq_nil silent, unadmitted, lining, sameLine, lining]
    simp
  cases move with
  | aside uncalled unanswering shown claimed numbered silent stood ended =>
      exact unsent (by simp [silent.1]) rfl (admitted?_eq_none uncalled)
  | listening unserved => exact unsent rfl rfl rfl
  | failed log failure logged =>
      exact unsent (by simp [(silent_of_logs logged).1]) rfl
        (admitted?_eq_none_of_unstarted failure.unstarted)
  | entered state shown advance said asked unended =>
      refine unsent ?_ rfl (admitted?_eq_none_of_unstarted advance.unstarted)
      rw [said]
      exact filterMap_cycleEvent?_stageMessages ..
  | agreed unset advance =>
      exact unsent rfl rfl (admitted?_eq_none_of_unstarted advance.unstarted)
  | turnedAway unset => exact unsent rfl rfl (by simp [admitted?, unset])
  | @queued errand session found =>
      rw [reported_eq_nil rfl, admitted?_call errand found]
      simp only [lining, List.filterMap_append]
      cases errand <;> rfl
  | @started errand session _ _ found free unlined begins =>
      obtain ⟨told, sameLine⟩ := reported_of_begin begins
      rw [told, admitted?_call errand found, lining, sameLine, lining, unlined]
      simp
  | @turned request rest _ _ free lined begins =>
      obtain ⟨told, sameLine⟩ := reported_of_begin begins
      rw [told, lining, sameLine, lining, lined, admitted?_eq_none (by simp),
        List.filterMap_cons]
      cases request.counted? <;> simp
  | cycleSent held => exact unsent rfl rfl rfl
  | waited held verdict => exact unsent rfl rfl rfl
  | returned log ending logged =>
      exact unsent (by simp [(silent_of_logs logged).1]) rfl
        (admitted?_eq_none_of_unstarted ending.unstarted)

/-- The calls that sent a cycle are the first that were admitted. -/
theorem lining_run
    {options : ServerOptions} {events : List Event} {journal : List Entry}
    (ran : run noted (new options) events = some (server, journal)) :
    (told journal).map Prod.fst ++ server.lining =
      admitted (new options) events := by
  refine run_induction
    (fun state seen kept =>
      (told kept).map Prod.fst ++ state.lining = admitted (new options) seen)
    rfl ?_ ran
  intro state seen kept event next more reached balanced stepped
  obtain ⟨effects, reaction, rfl⟩ := noted_eq_some_iff.mp stepped
  rw [told_append, told_entries, List.map_append, List.append_assoc,
    lining_move (move_of_step reaction), ← List.append_assoc, balanced]
  exact (gathered_snoc admitted? reached event).symm

/-! ## Numbers -/

/-- The numbers of the cycles that were sent. -/
def numbers (journal : List Entry) : List CycleId :=
  (told journal).map fun sent => sent.2.number

/-- Cycles are numbered in the order in which they are sent. -/
theorem Ledger.number_eq
    {calls : List (Option Errand)} {told : List (Ticket × CycleEvent)}
    (ledger : Ledger server calls told) {place : Nat} {ticket : Ticket}
    {cycle : CycleEvent} (sent : told[place]? = some (ticket, cycle)) :
    cycle.number.toNat = (place + 1) % UInt32.size := by
  obtain ⟨errand, _, tells⟩ := ledger.kept place ticket cycle sent
  rw [tells.number]
  simp

/-- The numbers count from one, until there are no more. -/
theorem map_toNat_numbers
    {calls : List (Option Errand)} {journal : List Entry}
    (ledger : Ledger server calls (told journal)) :
    ((numbers journal).take (UInt32.size - 1)).map UInt32.toNat =
      List.range' 1 (min (UInt32.size - 1) (numbers journal).length) := by
  apply List.ext_getElem
  · simp
  · intro place inside _
    simp only [List.length_map, List.length_take, numbers] at inside
    have sent : place < (told journal).length := by omega
    have number := ledger.number_eq (List.getElem?_eq_getElem sent)
    rw [Nat.mod_eq_of_lt (by omega)] at number
    simpa [numbers, Nat.add_comm 1] using number

/-! ## Along every run -/

/-- How the cycles of a journal are numbered. -/
structure Numbered (options : ServerOptions) (events : List Event)
    (server : Server) (journal : List Entry) : Prop where
  /-- The calls that sent a cycle are the first of those that started. -/
  started :
    (told journal).map Prod.fst ++ server.lining =
      admitted (new options) events
  /-- Tickets count the starts of calls. -/
  ordered : ((told journal).map Prod.fst).Pairwise (· < ·)
  /-- The transport gets the cycles in this order, and no others. -/
  sent :
    (told journal).map Prod.snd =
      (said journal).filterMap Message.cycleEvent?
  /-- The number of a call about a cycle is its place, modulo `2 ^ 32`. -/
  placed :
    ∀ place ticket cycle, (told journal)[place]? = some (ticket, cycle) →
      (admitted (new options) events)[place]? = some ticket ∧
        cycle.number.toNat = (place + 1) % UInt32.size
  /-- Nothing else uses a number up. -/
  counted : server.lastCycle.toNat = (told journal).length % UInt32.size
  /-- There is no gap up to the last number. -/
  gapless :
    ((numbers journal).take (UInt32.size - 1)).map UInt32.toNat =
      List.range' 1 (min (UInt32.size - 1) (numbers journal).length)
  /-- No number is given twice up to the last. -/
  unrepeated : ((numbers journal).take (UInt32.size - 1)).Nodup

/--
Whatever the tasks, the transport and the client do, cycles are numbered from
one in the order in which the calls started that ask for them.
-/
theorem numbers_in_order
    {options : ServerOptions} {events : List Event} {journal : List Entry}
    (ran : run noted (new options) events = some (server, journal)) :
    Numbered options events server journal := by
  have course := course_run ran
  have started := lining_run ran
  have gapless := map_toNat_numbers course.ledger
  have ordered := (List.pairwise_append.mp course.ledger.ordered).1
  refine ⟨started, ordered, course.cycles, ?_, ?_, gapless, ?_⟩
  · intro place ticket cycle sent
    refine ⟨?_, course.ledger.number_eq sent⟩
    rw [← started]
    exact getElem?_append_of_eq_some (by simp [sent]) _
  · rw [course.ledger.counted]
    simp
  · apply List.Nodup.of_map UInt32.toNat
    rw [gapless]
    exact List.nodup_range'

/--
A call comes before the client.  Then two cycles and an end of the build are
asked for; the first cycle cannot be sent, and the client misbehaves about
the second.
-/
def mixedVisit : List Event :=
  [.call (.cycle .none .runfiles KeyMap.empty), .serve .none (.ok ()),
    .accepted (.ok ()), .handshakeSent (.ok ()),
    .handshakeReceived (.ok (Message.plain (.negotiateResponse .legacy))),
    .call (.cycle .none .runfiles KeyMap.empty), .call (.exit .none "gone"),
    .call (.cycle .none .runfiles KeyMap.empty),
    .callSent (.error .notConnected), .turn, .callSent (.ok ()), .turn,
    .callSent (.ok ()), .callReceived (.error .closed)]

theorem numbers_in_order_mixedVisit :
    ∃ server journal,
      run noted (new ⟨"build.sock", [.legacy]⟩) mixedVisit =
          some (server, journal) ∧
        (told journal).map Prod.fst = [2, 4] ∧
        (numbers journal).map UInt32.toNat = [1, 2] ∧
        Numbered ⟨"build.sock", [.legacy]⟩ mixedVisit server journal := by
  obtain ⟨server, journal, ran, tickets, numbers⟩ :
      ∃ server journal,
        run noted (new ⟨"build.sock", [.legacy]⟩) mixedVisit =
            some (server, journal) ∧
          (told journal).map Prod.fst = [2, 4] ∧
          (numbers journal).map UInt32.toNat = [1, 2] :=
    ⟨_, _, rfl, rfl, rfl⟩
  exact ⟨server, journal, ran, tickets, numbers, numbers_in_order ran⟩

end Server

end BuildWatch
