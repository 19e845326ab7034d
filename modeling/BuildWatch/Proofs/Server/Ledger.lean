import BuildWatch.CycleStream
import BuildWatch.Proofs.Server.Talk

/-!
# Which call sent which cycle

Calls are numbered as they start, and cycles as they are sent.  The ledger of
a server ties the two together: the cycles that were sent so far belong to
calls that asked for just them, each call at most once and in the order in
which the calls started.
-/

namespace BuildWatch.Server

/-! ## Journals with turns -/

/-- What a journal of a server consists of, and whose turn it is behind it. -/
abbrev Entry := Option Ticket × (Event ⊕ Effect)

/-- The call that has the exchange. -/
def turn? (server : Server) : Option Ticket :=
  server.holder.map (·.ticket)

/-- The entries of a step. -/
def entries (next : Server) (event : Event) (effects : List Effect) :
    List Entry :=
  (next.turn?, .inl event) :: effects.map fun effect =>
    (next.turn?, .inr effect)

/-- A step that keeps its event and its effects. -/
def noted (server : Server) (event : Event) : Option (Server × List Entry) :=
  (step server event).map fun reaction =>
    (reaction.1, entries reaction.1 event reaction.2)

theorem noted_eq_some_iff
    {server next : Server} {event : Event} {journal : List Entry} :
    noted server event = some (next, journal) ↔
      ∃ effects, step server event = some (next, effects) ∧
        journal = entries next event effects := by
  unfold noted
  constructor
  · intro kept
    obtain ⟨⟨state, effects⟩, stepped, equal⟩ := Option.map_eq_some_iff.mp kept
    obtain ⟨rfl, rfl⟩ := Prod.mk.inj equal
    exact ⟨effects, stepped, rfl⟩
  · rintro ⟨effects, stepped, rfl⟩
    simp [stepped]

/-- The call that an entry starts, by what it tells the client. -/
def Entry.started? : Entry → Option (Option Errand)
  | (_, .inl event) => event.started?
  | _ => none

/-- The cycle that an entry sends for a call. -/
def Entry.told? : Entry → Option (Ticket × CycleEvent)
  | (some ticket, .inr (.send _ message)) =>
      message.cycleEvent?.map (ticket, ·)
  | _ => none

/-- What an event received for a call. -/
@[simp]
def Event.answer? : Event → Option Receipt
  | .callReceived result => some result
  | _ => none

/-- What an entry received for a call. -/
def Entry.answer? : Entry → Option Receipt
  | (_, .inl event) => event.answer?
  | _ => none

/-- What the calls that started tell the client, in the order of tickets. -/
def calls (journal : List Entry) : List (Option Errand) :=
  journal.filterMap Entry.started?

/-- The cycles that were sent, each with its call. -/
def told (journal : List Entry) : List (Ticket × CycleEvent) :=
  journal.filterMap Entry.told?

/-- What was received for calls. -/
def answers (journal : List Entry) : List Receipt :=
  journal.filterMap Entry.answer?

/-- The cycles that effects send for the call whose turn it is. -/
def reported (next : Server) (effects : List Effect) :
    List (Ticket × CycleEvent) :=
  match next.turn? with
  | none => []
  | some ticket =>
      (messages effects).filterMap fun message =>
        message.cycleEvent?.map (ticket, ·)

theorem calls_append (journal more : List Entry) :
    calls (journal ++ more) = calls journal ++ calls more :=
  List.filterMap_append

theorem told_append (journal more : List Entry) :
    told (journal ++ more) = told journal ++ told more :=
  List.filterMap_append

theorem answers_append (journal more : List Entry) :
    answers (journal ++ more) = answers journal ++ answers more :=
  List.filterMap_append

/-- The only event of a step is its own. -/
theorem eq_of_mem_entries
    {next : Server} {event own : Event} {effects : List Effect}
    {turn : Option Ticket}
    (member : (turn, .inl event) ∈ entries next own effects) :
    event = own := by
  rcases List.mem_cons.mp member with first | later
  · cases first
    rfl
  · obtain ⟨effect, _, other⟩ := List.mem_map.mp later
    cases other

/-- The only effects of a step are its own. -/
theorem mem_of_mem_entries
    {next : Server} {event : Event} {effect : Effect}
    {effects : List Effect} {turn : Option Ticket}
    (member : (turn, .inr effect) ∈ entries next event effects) :
    effect ∈ effects := by
  rcases List.mem_cons.mp member with first | later
  · cases first
  · obtain ⟨own, found, same⟩ := List.mem_map.mp later
    cases same
    exact found

section Entries

variable (next : Server) (event : Event) (effects : List Effect)

/-- What the entries of a step show, if effects show nothing. -/
theorem filterMap_entries
    {α : Type} (shown : Entry → Option α)
    (hidden : ∀ turn effect, shown (turn, .inr effect) = none) :
    (entries next event effects).filterMap shown =
      (shown (next.turn?, .inl event)).toList := by
  have nothing :
      (effects.map fun effect => ((next.turn?, .inr effect) : Entry)).filterMap
        shown = [] := by
    simp [List.filterMap_map, hidden]
  rw [entries, List.filterMap_cons, nothing]
  cases shown (next.turn?, .inl event) <;> rfl

@[simp]
theorem calls_entries :
    calls (entries next event effects) = event.started?.toList :=
  filterMap_entries next event effects _ fun _ _ => rfl

@[simp]
theorem told_entries :
    told (entries next event effects) = reported next effects := by
  rw [told, entries, List.filterMap_cons, List.filterMap_map]
  have unsaid : Entry.told? (next.turn?, .inl event) = none := by
    cases next.turn? <;> rfl
  rw [unsaid]
  unfold reported
  cases next.turn? with
  | none => simp [Function.comp_def, Entry.told?]
  | some ticket =>
      simp only [messages, List.filterMap_filterMap]
      congr 1
      funext effect
      cases effect <;> rfl

@[simp]
theorem answers_entries :
    answers (entries next event effects) =
      event.answer?.toList :=
  filterMap_entries next event effects _ fun _ _ => rfl

end Entries

/-! ## The ledger -/

/-- A cycle tells the client what a call asks for. -/
def Tells (server : Server) (number : CycleId) (cycle : CycleEvent)
    (errand : Errand) : Prop :=
  ∃ session trace scope changes, server.session = some session ∧
    errand = .cycle trace scope changes ∧
    (session.cycleMessage trace number scope changes).cycleEvent? =
      some cycle

/-- What the call that has the exchange has sent, or asks for. -/
def Holds (calls : List (Option Errand))
    (told : List (Ticket × CycleEvent)) (ticket : Ticket) : Transfer → Prop
  | .sendingCycle number =>
      ∃ cycle, told.getLast? = some (ticket, cycle) ∧ cycle.number = number
  | .awaiting number =>
      ∃ cycle, told.getLast? = some (ticket, cycle) ∧ cycle.number = number
  | .sendingExit =>
      ∃ trace description,
        calls[ticket]? = some (some (.exit trace description))

/-- How the calls of a server and the cycles that it sent belong together. -/
structure Ledger (server : Server) (calls : List (Option Errand))
    (told : List (Ticket × CycleEvent)) : Prop where
  numbered : server.nextTicket = calls.length
  counted : server.lastCycle = UInt32.ofNat told.length
  kept :
    ∀ index ticket cycle, told[index]? = some (ticket, cycle) →
      ∃ errand, calls[ticket]? = some (some errand) ∧
        server.Tells (UInt32.ofNat (index + 1)) cycle errand
  lined :
    ∀ request ∈ server.waiting,
      calls[request.ticket]? = some (some request.errand)
  /-- Calls send in the order in which they started. -/
  ordered :
    (told.map Prod.fst ++ server.waiting.map Request.ticket).Pairwise
      (· < ·)
  held :
    ∀ ticket transfer, server.holder = some ⟨ticket, transfer⟩ →
      Holds calls told ticket transfer
  besides : ∀ ticket ∈ server.bystanders, calls[ticket]? = some none

section Growth

variable {server next : Server} {event : Event} {effects : List Effect}
  {calls : List (Option Errand)} {told : List (Ticket × CycleEvent)}

theorem Holds.append
    {ticket : Ticket} {transfer : Transfer}
    (holds : Holds calls told ticket transfer)
    (more : List (Option Errand)) :
    Holds (calls ++ more) told ticket transfer := by
  cases transfer with
  | sendingCycle number => exact holds
  | awaiting number => exact holds
  | sendingExit =>
      obtain ⟨trace, description, called⟩ := holds
      exact ⟨trace, description,
        getElem?_append_of_eq_some called more⟩

theorem lt_of_called
    {ticket : Ticket} {errand : Option Errand}
    (called : calls[ticket]? = some errand) : ticket < calls.length :=
  (List.getElem?_eq_some_iff.mp called).1

/-! ## What is sent -/

theorem reported_eq_nil
    (silent : (messages effects).filterMap Message.cycleEvent? = []) :
    reported next effects = [] := by
  unfold reported
  split
  · rfl
  · apply List.filterMap_eq_nil_iff.mpr
    intro message member
    have none := List.filterMap_eq_nil_iff.mp silent message member
    rw [none]
    rfl

theorem reported_cycle
    (server : Server) (request : Request) (trace : TraceContext)
    (scope : Scope) (changes : Changes) :
    ∃ cycle,
      (request.session.cycleMessage trace (server.lastCycle + 1) scope
        changes).cycleEvent? = some cycle ∧
        cycle.number = server.lastCycle + 1 ∧
        reported
          { server with
            lastCycle := server.lastCycle + 1
            holder :=
              some ⟨request.ticket, .sendingCycle (server.lastCycle + 1)⟩ }
          [.send .exchange
            (request.session.cycleMessage trace (server.lastCycle + 1)
              scope changes)] = [(request.ticket, cycle)] := by
  simp [Message.cycleEvent?, reported, turn?]

theorem reported_exit
    (server : Server) (request : Request) (trace : TraceContext)
    (description : String) :
    reported
      { server with holder := some ⟨request.ticket, .sendingExit⟩ }
      [.send .exchange
        (request.session.exitMessage trace description)] = [] := by
  simp [reported, turn?, Message.cycleEvent?]

/-- A cycle has the number that it is told by. -/
theorem Tells.number
    {number : CycleId} {cycle : CycleEvent} {errand : Errand}
    (tells : server.Tells number cycle errand) : cycle.number = number := by
  obtain ⟨session, trace, scope, changes, _, _, shown⟩ := tells
  simp only [Message.cycleEvent?, Session.body_cycleMessage,
    Option.some.injEq] at shown
  rw [← shown]

namespace Ledger

/-- Every call that sent a cycle has started. -/
theorem lt_of_told
    (ledger : Ledger server calls told) :
    ∀ ticket ∈ told.map Prod.fst, ticket < calls.length := by
  intro ticket member
  obtain ⟨⟨_, cycle⟩, sent, rfl⟩ := List.mem_map.mp member
  obtain ⟨index, found⟩ := List.getElem?_of_mem sent
  obtain ⟨errand, called, _⟩ := ledger.kept index _ cycle found
  exact lt_of_called called

/-- The call that has the exchange has started. -/
theorem lt_of_held
    (ledger : Ledger server calls told) {ticket : Ticket}
    {transfer : Transfer}
    (held : server.holder = some ⟨ticket, transfer⟩) :
    ticket < server.nextTicket := by
  have sender {cycle : CycleEvent}
      (last : told.getLast? = some (ticket, cycle)) :
      ticket < calls.length :=
    ledger.lt_of_told ticket
      (List.mem_map_of_mem (List.mem_of_getLast? last) (f := Prod.fst))
  rw [ledger.numbered]
  have holds := ledger.held ticket transfer held
  cases transfer with
  | sendingCycle number =>
      obtain ⟨cycle, last, _⟩ := holds
      exact sender last
  | awaiting number =>
      obtain ⟨cycle, last, _⟩ := holds
      exact sender last
  | sendingExit =>
      obtain ⟨trace, description, called⟩ := holds
      exact lt_of_called called

/-- The call that waits for an answer sent the last cycle. -/
theorem number_of_held
    (ledger : Ledger server calls told) {ticket : Ticket}
    {number : CycleId}
    (held : ∃ cycle, told.getLast? = some (ticket, cycle) ∧
      cycle.number = number) :
    0 < told.length ∧ number = UInt32.ofNat told.length ∧
      ∃ cycle, told[told.length - 1]? = some (ticket, cycle) := by
  obtain ⟨cycle, last, rfl⟩ := held
  rw [List.getLast?_eq_getElem?] at last
  obtain ⟨errand, _, tells⟩ := ledger.kept _ _ _ last
  have inside := (List.getElem?_eq_some_iff.mp last).1
  refine ⟨by omega, ?_, cycle, last⟩
  have index : told.length - 1 + 1 = told.length := by omega
  rw [tells.number, index]

/-- Whatever happens besides the exchange keeps the ledger. -/
theorem keep
    (ledger : Ledger server calls told) (more : List (Option Errand))
    (numbered : next.nextTicket = server.nextTicket + more.length)
    (sameCycle : next.lastCycle = server.lastCycle)
    (sameSession :
      ∀ session, server.session = some session →
        next.session = some session)
    (sameWaiting : next.waiting = server.waiting)
    (held :
      ∀ ticket transfer, next.holder = some ⟨ticket, transfer⟩ →
        Holds calls told ticket transfer)
    (besides :
      ∀ ticket ∈ next.bystanders, (calls ++ more)[ticket]? = some none) :
    Ledger next (calls ++ more) told := by
  refine ⟨?_, ?_, ?_, ?_, ?_, ?_, besides⟩
  · rw [numbered, ledger.numbered, List.length_append]
  · rw [sameCycle, ledger.counted]
  · intro index ticket cycle found
    obtain ⟨errand, called, session, trace, scope, changes, known, asked,
      shown⟩ := ledger.kept index ticket cycle found
    exact ⟨errand, getElem?_append_of_eq_some called more,
      session, trace, scope, changes, sameSession session known, asked,
      shown⟩
  · intro request member
    rw [sameWaiting] at member
    exact getElem?_append_of_eq_some
      (ledger.lined request member) more
  · rw [sameWaiting]
    exact ledger.ordered
  · intro ticket transfer holding
    exact (held ticket transfer holding).append more

/-- A call of another kind is no call that tells the client something. -/
theorem besides_of_stands
    (ledger : Ledger server calls told) {ticket : Ticket}
    (stands : server.Stands event ticket) :
    (calls ++ event.started?.toList)[ticket]? = some none := by
  rcases stands with member | ⟨rfl, started⟩
  · exact getElem?_append_of_eq_some
      (ledger.besides ticket member) _
  · rw [started, ledger.numbered]
    simp

/-- A call that gets the exchange sends what it asks for. -/
theorem begin
    {request : Request} {message : Message}
    (ledger : Ledger server calls told)
    (found : server.session = some request.session)
    (called : calls[request.ticket]? = some (some request.errand))
    (above : ∀ ticket ∈ told.map Prod.fst, ticket < request.ticket)
    (below : ∀ other ∈ server.waiting, request.ticket < other.ticket)
    (begun : Begun server request next message) :
    Ledger next calls
      (told ++ reported next [.send .exchange message]) := by
  cases begun with
  | @cycle trace scope changes errand =>
      obtain ⟨cycle, shown, number, sent⟩ :=
        reported_cycle server request trace scope changes
      have next_number :
          server.lastCycle + 1 = UInt32.ofNat (told.length + 1) := by
        rw [UInt32.ofNat_add, ← ledger.counted]
        rfl
      rw [sent]
      refine ⟨ledger.numbered, ?_, ?_, ledger.lined, ?_, ?_, ledger.besides⟩
      · simpa using next_number
      · intro index ticket own place
        rcases Nat.lt_or_ge index told.length with inside | behind
        · rw [List.getElem?_append_left inside] at place
          exact ledger.kept index ticket own place
        · rw [List.getElem?_append_right behind,
            List.getElem?_singleton] at place
          split at place
          next first =>
            obtain ⟨rfl, rfl⟩ := Prod.mk.inj (Option.some.inj place)
            have last : index = told.length := by omega
            subst last
            refine ⟨_, called, request.session, trace, scope, changes, found,
              errand, ?_⟩
            rw [← next_number]
            exact shown
          next => simp at place
      · rw [List.map_append, List.append_assoc]
        obtain ⟨sent, lined, across⟩ := List.pairwise_append.mp ledger.ordered
        refine List.pairwise_append.mpr ⟨sent, ?_, ?_⟩
        · refine List.pairwise_cons.mpr ⟨?_, lined⟩
          intro ticket member
          obtain ⟨other, waiting, rfl⟩ := List.mem_map.mp member
          exact below other waiting
        · intro ticket earlier other later
          rcases List.mem_cons.mp later with rfl | waiting
          · exact above ticket earlier
          · exact across ticket earlier other waiting
      · intro ticket transfer holding
        cases holding
        exact ⟨cycle, by simp, number⟩
  | @exit trace description errand =>
      rw [reported_exit, List.append_nil]
      refine ⟨ledger.numbered, ledger.counted, ledger.kept, ledger.lined,
        ledger.ordered, ?_, ledger.besides⟩
      intro ticket transfer holding
      cases holding
      exact ⟨trace, description, by rw [called, errand]⟩

/-- A step that sends no cycle. -/
theorem of_unsent
    (ledger : Ledger next (calls ++ event.started?.toList) told)
    (silent : (messages effects).filterMap Message.cycleEvent? = []) :
    Ledger next (calls ++ event.started?.toList)
      (told ++ reported next effects) := by
  rwa [reported_eq_nil silent, List.append_nil]

end Ledger

/-- No stage of the handshake sends a cycle. -/
theorem filterMap_cycleEvent?_stageMessages
    (supported : List Version) (trace : TraceContext)
    (stage : ServerHandshake.Stage) :
    (stageMessages supported trace stage).filterMap Message.cycleEvent? =
      [] := by
  rcases stage with (_ | ⟨_, capabilities⟩ | _) | _
  · rfl
  · simp only [stageMessages, ServerHandshake.Sending.message]
    split <;> rfl
  · rfl
  · rfl

/-- No event of the handshake starts a call. -/
theorem Advance.unstarted
    {trace : TraceContext}
    {progress : Progress ServerHandshake.Stage Session}
    (advance : Advance server event trace progress) :
    event.started? = none := by
  cases advance <;> rfl

theorem Failure.unstarted (failure : Failure server event) :
    event.started? = none := by
  cases failure with
  | agreedBefore _ advance => exact advance.unstarted
  | _ => rfl

theorem Return.unstarted
    {ticket : Ticket} {result : Except ProtocolError Unit}
    (ending : Return server event ticket result) :
    event.started? = none := by
  cases ending <;> rfl

/-- Every move keeps the ledger. -/
theorem ledger_move
    (orderly : Orderly server) (ledger : Ledger server calls told)
    (move : Move server event next effects) :
    Ledger next (calls ++ event.started?.toList)
      (told ++ reported next effects) := by
  have stays :
      ∀ more, ∀ ticket ∈ server.bystanders,
        (calls ++ more)[ticket]? = some none :=
    fun more ticket member =>
      getElem?_append_of_eq_some
        (ledger.besides ticket member) more
  cases move with
  | aside uncalled unanswering shown claimed numbered silent stood ended =>
      refine Ledger.of_unsent ?_ (by simp [silent.1])
      exact ledger.keep _ numbered rfl (fun _ => id) rfl ledger.held
        fun ticket member => ledger.besides_of_stands (stood ticket member)
  | listening unserved =>
      refine Ledger.of_unsent ?_ rfl
      exact ledger.keep _ rfl rfl (fun _ => id) rfl ledger.held (stays _)
  | failed log failure logged =>
      refine Ledger.of_unsent ?_ (by simp [(silent_of_logs logged).1])
      rw [failure.unstarted]
      exact ledger.keep [] rfl rfl (fun _ => id) rfl ledger.held (stays _)
  | entered state shown advance said asked unended =>
      refine Ledger.of_unsent ?_ ?_
      · rw [advance.unstarted]
        exact ledger.keep [] rfl rfl (fun _ => id) rfl ledger.held (stays _)
      · rw [said]
        exact filterMap_cycleEvent?_stageMessages ..
  | agreed unset advance =>
      refine Ledger.of_unsent ?_ rfl
      rw [advance.unstarted]
      exact ledger.keep [] rfl rfl (by simp [unset]) rfl ledger.held (stays _)
  | turnedAway unset =>
      refine Ledger.of_unsent ?_ rfl
      exact ledger.keep _ rfl rfl (fun _ => id) rfl ledger.held (stays _)
  | @queued errand session found =>
      refine Ledger.of_unsent ?_ rfl
      have called :
          Ledger { server with nextTicket := server.nextTicket + 1 }
            (calls ++ [some errand]) told :=
        ledger.keep _ rfl rfl (fun _ => id) rfl ledger.held (stays _)
      refine ⟨called.numbered, called.counted, called.kept, ?_, ?_,
        called.held, called.besides⟩
      · intro request member
        rcases List.mem_append.mp member with earlier | last
        · exact called.lined request earlier
        · rw [List.mem_singleton.mp last]
          simp [ledger.numbered]
      · rw [List.map_append, ← List.append_assoc]
        refine List.pairwise_append.mpr
          ⟨called.ordered, List.pairwise_singleton .., ?_⟩
        intro ticket earlier other last
        rw [List.mem_singleton.mp last]
        change ticket < server.nextTicket
        rw [ledger.numbered]
        rcases List.mem_append.mp earlier with sent | waiting
        · exact ledger.lt_of_told ticket sent
        · obtain ⟨request, inside, rfl⟩ := List.mem_map.mp waiting
          exact lt_of_called (ledger.lined request inside)
  | @started errand session _ _ found free unlined begins =>
      obtain ⟨message, rfl, begun⟩ := begun_of_begin begins
      have called :
          Ledger { server with nextTicket := server.nextTicket + 1 }
            (calls ++ [some errand]) told :=
        ledger.keep _ rfl rfl (fun _ => id) rfl ledger.held (stays _)
      refine called.begin found ?_ ?_ ?_ begun
      · simp [ledger.numbered]
      · rw [ledger.numbered]
        exact ledger.lt_of_told
      · simp [unlined]
  | @turned request rest _ _ free lined begins =>
      obtain ⟨message, rfl, begun⟩ := begun_of_begin begins
      have first : request ∈ server.waiting := by simp [lined]
      have ordered := ledger.ordered
      rw [lined] at ordered
      obtain ⟨sent, waiting, across⟩ := List.pairwise_append.mp ordered
      obtain ⟨before, later⟩ := List.pairwise_cons.mp waiting
      have shorter : Ledger { server with waiting := rest } calls told := by
        refine ⟨ledger.numbered, ledger.counted, ledger.kept, ?_, ?_,
          ledger.held, ledger.besides⟩
        · intro other member
          exact ledger.lined other (by simp [lined, member])
        · refine List.pairwise_append.mpr ⟨sent, later, ?_⟩
          intro ticket earlier other member
          exact across ticket earlier other (List.mem_cons_of_mem _ member)
      simp only [Event.started?, Option.toList_none, List.append_nil]
      refine shorter.begin (orderly.lined request first)
        (ledger.lined request first) ?_ ?_ begun
      · intro ticket earlier
        exact across ticket earlier _ List.mem_cons_self
      · intro other member
        exact before _ (List.mem_map_of_mem member)
  | @cycleSent ticket number holding =>
      refine Ledger.of_unsent ?_ rfl
      refine ledger.keep [] rfl rfl (fun _ => id) rfl ?_ (stays _)
      intro other transfer same
      cases same
      exact ledger.held ticket (.sendingCycle number) holding
  | waited holding verdict =>
      refine Ledger.of_unsent ?_ rfl
      exact ledger.keep [] rfl rfl (fun _ => id) rfl ledger.held (stays _)
  | returned log ending logged =>
      refine Ledger.of_unsent ?_ (by simp [(silent_of_logs logged).1])
      rw [ending.unstarted]
      exact ledger.keep [] rfl rfl (fun _ => id) rfl (by simp) (stays _)

/-- The cycles that a call sends are those that the server sends. -/
theorem map_reported_begun
    {request : Request} {message : Message}
    (begun : Begun server request next message) :
    (reported next [.send .exchange message]).map Prod.snd =
      [message].filterMap Message.cycleEvent? := by
  cases begun with
  | @cycle trace scope changes errand =>
      obtain ⟨cycle, shown, _, sent⟩ :=
        reported_cycle server request trace scope changes
      rw [sent, List.filterMap_cons, shown]
      rfl
  | exit errand =>
      rw [reported_exit]
      simp [Message.cycleEvent?]

/-- Every cycle that a server sends is that of a call. -/
theorem map_reported
    (move : Move server event next effects) :
    (reported next effects).map Prod.snd =
      (messages effects).filterMap Message.cycleEvent? := by
  have nothing :
      (messages effects).filterMap Message.cycleEvent? = [] →
        (reported next effects).map Prod.snd =
          (messages effects).filterMap Message.cycleEvent? := by
    intro silent
    rw [reported_eq_nil silent, silent]
    rfl
  cases move with
  | aside uncalled unanswering shown claimed numbered silent stood ended =>
      exact nothing (by simp [silent.1])
  | failed log failure logged =>
      exact nothing (by simp [(silent_of_logs logged).1])
  | entered state shown advance said asked unended =>
      refine nothing ?_
      rw [said]
      exact filterMap_cycleEvent?_stageMessages ..
  | started found free unlined begins =>
      obtain ⟨message, rfl, begun⟩ := begun_of_begin begins
      exact map_reported_begun begun
  | turned free lined begins =>
      obtain ⟨message, rfl, begun⟩ := begun_of_begin begins
      exact map_reported_begun begun
  | returned log ending logged =>
      exact nothing (by simp [(silent_of_logs logged).1])
  | listening unserved => exact nothing rfl
  | agreed unset advance => exact nothing rfl
  | turnedAway unset => exact nothing rfl
  | queued found => exact nothing rfl
  | cycleSent holding => exact nothing rfl
  | waited holding verdict => exact nothing rfl

theorem ledger_new (options : ServerOptions) : Ledger (new options) [] [] where
  numbered := rfl
  counted := rfl
  kept := by simp
  lined := by simp [new]
  ordered := .nil
  held := by simp [new]
  besides := by simp [new, bystanders]

/--
Whose end a move reports: that of a call that waits for something else or is
over at once, that of a call that finds no client, or that of the call that
has the exchange.
-/
theorem finish_of_move
    {ticket : Ticket} {outcome : Outcome}
    (move : Move server event next effects)
    (ended : .finish ticket outcome ∈ effects) :
    server.Stands event ticket ∨
      (ticket = server.nextTicket ∧
          outcome = .result (.error .notConnected)) ∨
        ∃ result, outcome = .result result ∧
          Return server event ticket result := by
  cases move with
  | aside uncalled unanswering shown claimed numbered silent stood ends =>
      exact .inl (ends ticket outcome ended)
  | listening unserved =>
      simp only [List.mem_cons, reduceCtorEq, Effect.finish.injEq,
        List.not_mem_nil, or_false, false_or] at ended
      exact .inl (.inr ⟨ended.1, rfl⟩)
  | failed log failure logged =>
      rcases List.mem_append.mp ended with inside | last
      · obtain ⟨entry, equal⟩ := logged _ inside
        cases equal
      · simp at last
  | entered state shown advance said asked unended =>
      exact absurd ended (unended ticket outcome)
  | agreed unset advance => simp at ended
  | turnedAway unset =>
      obtain ⟨rfl, rfl⟩ := Effect.finish.inj (List.mem_singleton.mp ended)
      exact .inr (.inl ⟨rfl, rfl⟩)
  | queued found => simp at ended
  | started found free unlined begins =>
      obtain ⟨message, rfl, begun⟩ := begun_of_begin begins
      simp at ended
  | turned free lined begins =>
      obtain ⟨message, rfl, begun⟩ := begun_of_begin begins
      simp at ended
  | cycleSent holding => simp at ended
  | waited holding verdict => simp at ended
  | returned log ending logged =>
      rcases List.mem_append.mp ended with inside | last
      · obtain ⟨entry, equal⟩ := logged _ inside
        cases equal
      · obtain ⟨rfl, rfl⟩ := Effect.finish.inj (List.mem_singleton.mp last)
        exact .inr (.inr ⟨_, rfl, ending⟩)

/-- How a call ends that tells the client something. -/
theorem ending_of_move
    {ticket : Ticket} {outcome : Outcome} {errand : Errand}
    (ledger : Ledger server calls told)
    (move : Move server event next effects)
    (ended : .finish ticket outcome ∈ effects)
    (called :
      (calls ++ event.started?.toList)[ticket]? = some (some errand)) :
    outcome = .result (.error .notConnected) ∨
      ∃ result, outcome = .result result ∧
        Return server event ticket result := by
  rcases finish_of_move move ended with stands | ⟨_, refused⟩ | returned
  · rw [ledger.besides_of_stands stands] at called
    cases called
  · exact .inl refused
  · exact .inr returned

/-- Every run keeps a ledger. -/
theorem ledger_run
    {options : ServerOptions} {events : List Event}
    (ran : run step (new options) events = some (server, effects)) :
    Orderly server ∧ ∃ calls told, Ledger server calls told := by
  refine run_invariant
    (fun state _ _ =>
      Orderly state ∧ ∃ calls told, Ledger state calls told)
    ⟨orderly_new options, [], [], ledger_new options⟩ ?_ ran
  rintro state events earlier event next more
    ⟨orderly, calls, told, ledger⟩ stepped
  have move := move_of_step stepped
  exact ⟨orderly_move orderly move, _, _, ledger_move orderly ledger move⟩

end Growth

end BuildWatch.Server
