import BuildWatch.CycleStream
import BuildWatch.Proofs.Runs
import Mathlib.Data.List.Basic

/-!
# Every cycle is acknowledged once

The journal of a stream falls into blocks.  A visit is the block of a cycle:
the cycle arrives, the stream says that it is started, hands it out, and says
that it is completed when the consumer comes back.  All other blocks send
nothing and hand nothing out.  Only the last visit may be unfinished, and none
is once the stream is over.
-/

namespace BuildWatch

/-- The message that a server tells of a cycle by. -/
def CycleEvent.message (cycle : CycleEvent) : Message :=
  ⟨cycle.trace, .cycle cycle.number cycle.scope cycle.sources⟩

theorem Message.cycleEvent?_eq_some_iff
    {message : Message} {cycle : CycleEvent} :
    message.cycleEvent? = some cycle ↔ message = cycle.message := by
  constructor
  · intro told
    obtain ⟨trace, body⟩ := message
    cases body with
    | cycle number scope sources =>
        cases told
        rfl
    | _ => cases told
  · rintro rfl
    rfl

namespace CycleStream

/-- What a journal of a stream consists of. -/
abbrev Entry := Event ⊕ Effect

/-! ## Blocks -/

/-- How the consumer is done with a cycle. -/
inductive Ending where
  | next
  | stop
  | drop

/-- The call by which the consumer is done. -/
def Ending.entries : Ending → List Entry
  | .next => [.inl .next]
  | .stop => [.inl .stop]
  | .drop => [.inl (.drop false), .inr .dropped]

/-- How far the stream got with a cycle. -/
inductive Care where
  /-- The answer that the cycle is started is on its way. -/
  | starting
  /-- That answer was not sent. -/
  | refused (error : TransportError)
  /-- The cycle is handed out. -/
  | held
  /-- The consumer was done with it, and the stream tried to say so. -/
  | completed (ending : Ending)

namespace Care

/-- What follows the attempt to say that a cycle is started. -/
def entries (cycle : CycleEvent) : Care → List Entry
  | .starting => []
  | .refused error =>
      [.inl (.sent (.error error)),
        .inr (.yield (some (.error (ProtocolError.ofTransport error))))]
  | .held => [.inl (.sent (.ok ())), .inr (.yield (some (.ok cycle)))]
  | .completed ending =>
      .inl (.sent (.ok ())) :: .inr (.yield (some (.ok cycle))) ::
        (ending.entries ++
          [.inr (.send
            (Message.plain (.acknowledgment .completed cycle.number)))])

/-- Whether the cycle is handed out. -/
def handedOut : Care → Bool
  | .held => true
  | .completed _ => true
  | _ => false

/-- Whether the cycle is handed out and not completed. -/
def unacknowledged : Care → Bool
  | .held => true
  | _ => false

/-- Whether nothing is left to do. -/
def settled : Care → Bool
  | .refused _ => true
  | .completed _ => true
  | _ => false

/-- The messages that the stream tried to send. -/
def attempts (cycle : CycleEvent) : Care → List Message
  | .completed _ =>
      [Message.plain (.acknowledgment .started cycle.number),
        Message.plain (.acknowledgment .completed cycle.number)]
  | _ => [Message.plain (.acknowledgment .started cycle.number)]

end Care

/-- All that happens about a cycle. -/
structure Visit where
  /-- The cycle that arrives. -/
  cycle : CycleEvent
  /-- How far the stream got with it. -/
  care : Care

/-- The cycle arrives, the stream says that it is started, and so on. -/
def Visit.entries (visit : Visit) : List Entry :=
  .inl (.received (.ok visit.cycle.message)) ::
    .inr (.send
        (Message.plain (.acknowledgment .started visit.cycle.number))) ::
      visit.care.entries visit.cycle

/-- What is written to the log about a message that the stream skips. -/
def skipLog : Except TransportError Message → Option LogEntry
  | .error (.decode _) => some .undecodableIgnored
  | .error _ => none
  | .ok ⟨_, .cycle _ _ _⟩ => none
  | .ok _ => some .messageIgnored

theorem skipLog_of_cycleEvent?_eq_none
    {message : Message} (unknown : message.cycleEvent? = none) :
    skipLog (.ok message) = some .messageIgnored := by
  obtain ⟨trace, body⟩ := message
  cases body with
  | cycle number scope sources => cases unknown
  | _ => rfl

/-- Whether an entry neither sends, nor hands out, nor brings a message. -/
def quiet : Entry → Bool
  | .inl (.received (.ok _)) => false
  | .inl (.received (.error (.decode _))) => false
  | .inr (.send _) => false
  | .inr (.yield (some (.ok _))) => false
  | _ => true

/-- What a journal falls into. -/
inductive Block where
  /-- Nothing that concerns a message. -/
  | aside (entries : List Entry) (hushed : ∀ entry ∈ entries, quiet entry)
  /-- A message that is skipped. -/
  | skipped (result : Except TransportError Message) (entry : LogEntry)
      (foreign : skipLog result = some entry)
  /-- A cycle. -/
  | visited (visit : Visit)

namespace Block

def entries : Block → List Entry
  | .aside entries _ => entries
  | .skipped result entry _ =>
      [.inl (.received result), .inr (.log entry), .inr .receive]
  | .visited visit => visit.entries

def visit? : Block → Option Visit
  | .visited visit => some visit
  | _ => none

/-- Whether nothing is left to do. -/
def settled : Block → Bool
  | .visited visit => visit.care.settled
  | _ => true

end Block

/-- The cycles of a journal. -/
def visits (blocks : List Block) : List Visit :=
  blocks.filterMap Block.visit?

/-- The journal that blocks make up. -/
def story (blocks : List Block) : List Entry :=
  blocks.flatMap Block.entries

/-! ## What a journal shows -/

/-- The message that the stream tries to send. -/
def attempt? : Entry → Option Message
  | .inr (.send message) => some message
  | _ => none

/-- The cycle that arrives. -/
def arrival? : Entry → Option CycleEvent
  | .inl (.received (.ok ⟨trace, .cycle number scope sources⟩)) =>
      some ⟨number, scope, sources, trace⟩
  | _ => none

/-- The cycle that is handed out. -/
def handOut? : Entry → Option CycleEvent
  | .inr (.yield (some (.ok cycle))) => some cycle
  | _ => none

/-- Whether the stream is over: stopped, dropped, or out of items. -/
def ends : Entry → Bool
  | .inl .stop => true
  | .inl (.drop _) => true
  | .inr (.yield none) => true
  | .inr (.yield (some (.error _))) => true
  | _ => false

/-- What arrives is what the message is about. -/
theorem arrival?_received (message : Message) :
    arrival? (.inl (.received (.ok message))) = message.cycleEvent? := by
  obtain ⟨trace, body⟩ := message
  cases body <;> rfl

theorem attempt?_of_quiet (entry : Entry) (hushed : quiet entry) :
    attempt? entry = none := by
  unfold attempt?
  split
  · simp [quiet] at hushed
  · rfl

theorem arrival?_of_quiet (entry : Entry) (hushed : quiet entry) :
    arrival? entry = none := by
  unfold arrival?
  split
  · simp [quiet] at hushed
  · rfl

theorem handOut?_of_quiet (entry : Entry) (hushed : quiet entry) :
    handOut? entry = none := by
  unfold handOut?
  split
  · simp [quiet] at hushed
  · rfl

theorem arrival?_of_skipLog
    {result : Except TransportError Message} {entry : LogEntry}
    (foreign : skipLog result = some entry) :
    arrival? (.inl (.received result)) = none := by
  cases result with
  | error error => rfl
  | ok message =>
      obtain ⟨trace, body⟩ := message
      cases body with
      | cycle number scope sources => cases foreign
      | _ => rfl

/-- What a story shows, if only its visits show anything. -/
theorem filterMap_story
    {α : Type} (shown : Entry → Option α)
    (hidden : ∀ entry, quiet entry → shown entry = none)
    (unseen : ∀ result entry, skipLog result = some entry →
      [.inl (.received result), .inr (.log entry), .inr .receive].filterMap
        shown = [])
    (blocks : List Block) :
    (story blocks).filterMap shown =
      (visits blocks).flatMap fun visit => visit.entries.filterMap shown := by
  induction blocks with
  | nil => rfl
  | cons block rest ih =>
      rw [story, List.flatMap_cons, List.filterMap_append, ← story, ih]
      cases block with
      | aside entries hushed =>
          have nothing : entries.filterMap shown = [] := by
            apply List.filterMap_eq_nil_iff.mpr
            intro entry member
            exact hidden entry (hushed entry member)
          rw [Block.entries, nothing]
          rfl
      | skipped result entry foreign =>
          rw [Block.entries, unseen result entry foreign]
          rfl
      | visited visit => rfl

/-- The attempts of a story are those of its visits. -/
theorem attempts_story (blocks : List Block) :
    (story blocks).filterMap attempt? =
      (visits blocks).flatMap fun visit =>
        visit.care.attempts visit.cycle := by
  rw [filterMap_story attempt? attempt?_of_quiet (fun _ _ _ => rfl)]
  apply List.flatMap_congr
  rintro ⟨cycle, care⟩ _
  rcases care with _ | error | _ | (_ | _ | _) <;> rfl

/-- The cycles that arrive are those of the visits. -/
theorem arrivals_story (blocks : List Block) :
    (story blocks).filterMap arrival? =
      (visits blocks).map fun visit => visit.cycle := by
  rw [filterMap_story arrival? arrival?_of_quiet, List.map_eq_flatMap]
  · apply List.flatMap_congr
    rintro ⟨cycle, care⟩ _
    rcases care with _ | error | _ | (_ | _ | _) <;> rfl
  · intro result entry foreign
    rw [List.filterMap_cons_none (arrival?_of_skipLog foreign)]
    rfl

/-- The cycles that are handed out are those of the visits that got there. -/
theorem handOuts_story (blocks : List Block) :
    (story blocks).filterMap handOut? =
      ((visits blocks).filter fun visit => visit.care.handedOut).map
        fun visit => visit.cycle := by
  rw [filterMap_story handOut? handOut?_of_quiet (fun _ _ _ => rfl)]
  induction visits blocks with
  | nil => rfl
  | cons visit rest ih =>
      rw [List.flatMap_cons, ih]
      obtain ⟨cycle, care⟩ := visit
      rcases care with _ | error | _ | (_ | _ | _) <;> rfl

/-! ## The last visit -/

/-- A stream that has nothing to say about a cycle. -/
structure Vacant (stream : CycleStream) : Prop where
  cleared : stream.pending = none
  unstarted : ∀ cycle, stream.activity ≠ .starting cycle
  /-- A stream that ended asks for nothing. -/
  live :
    stream.activity = .completing ∨ stream.activity = .receiving →
      stream.ended = false

/-- The visit that is not settled, if there is one, and the stream in it. -/
inductive Unfinished (stream : CycleStream) : List Visit → Prop where
  | nothing (vacant : Vacant stream) : Unfinished stream []
  | starting {visit : Visit}
      (care : visit.care = .starting)
      (active : stream.activity = .starting visit.cycle)
      (cleared : stream.pending = none)
      (live : stream.ended = false) :
      Unfinished stream [visit]
  | held {visit : Visit}
      (care : visit.care = .held)
      (idle : stream.activity = .idle)
      (pending : stream.pending = some visit.cycle.number)
      (live : stream.ended = false) :
      Unfinished stream [visit]

/-- Whether the stream is over. -/
def Over (stream : CycleStream) : Prop :=
  stream.ended = true ∨ stream.activity = .dropping ∨ stream.activity = .gone

theorem Unfinished.eq_nil_of_over
    {stream : CycleStream} {tail : List Visit}
    (unfinished : Unfinished stream tail) (closed : stream.Over) :
    tail = [] := by
  cases unfinished with
  | nothing vacant => rfl
  | starting care active cleared live => simp [Over, live, active] at closed
  | held care idle pending live => simp [Over, live, idle] at closed

/-- How the journal of a stream falls into blocks. -/
structure Told (stream : CycleStream) (journal : List Entry)
    (blocks : List Block) (tail : List Visit) : Prop where
  /-- The blocks make up the journal. -/
  parts : journal = story blocks ++ story (tail.map .visited)
  settled : ∀ block ∈ blocks, block.settled
  /-- The last visit is the one that the stream is in. -/
  unfinished : Unfinished stream tail
  /-- A stream that ended stays so. -/
  closed : (∃ entry ∈ journal, ends entry) → stream.Over

theorem story_append (first second : List Block) :
    story (first ++ second) = story first ++ story second :=
  List.flatMap_append

section Growth

variable {stream next : CycleStream} {journal more : List Entry}
  {blocks : List Block} {tail : List Visit}

/-- More entries that settle the last visit, or go on with it. -/
theorem Told.append
    (told : Told stream journal blocks tail)
    (added : List Block) (remaining : List Visit)
    (parts :
      story (tail.map .visited) ++ more =
        story added ++ story (remaining.map .visited))
    (settled : ∀ block ∈ added, block.settled)
    (unfinished : Unfinished next remaining)
    (closed : (stream.Over ∨ ∃ entry ∈ more, ends entry) → next.Over) :
    ∃ blocks tail, Told next (journal ++ more) blocks tail := by
  refine ⟨blocks ++ added, remaining, ?_, ?_, unfinished, ?_⟩
  · rw [told.parts, List.append_assoc, parts, story_append,
      List.append_assoc]
  · intro block member
    rcases List.mem_append.mp member with earlier | last
    · exact told.settled block earlier
    · exact settled block last
  · rintro ⟨entry, member, ending⟩
    rcases List.mem_append.mp member with earlier | last
    · exact closed (.inl (told.closed ⟨entry, earlier, ending⟩))
    · exact closed (.inr ⟨entry, last, ending⟩)

/-- Entries that concern no message. -/
theorem Told.aside
    (told : Told stream journal blocks [])
    (hushed : ∀ entry ∈ more, quiet entry)
    (vacant : Vacant next)
    (closed : (stream.Over ∨ ∃ entry ∈ more, ends entry) → next.Over) :
    ∃ blocks tail, Told next (journal ++ more) blocks tail := by
  refine told.append [.aside more hushed] [] ?_ ?_
    (.nothing vacant) closed
  · simp [story, Block.entries]
  · simp [Block.settled]

/-- A message that is skipped. -/
theorem Told.skip
    {result : Except TransportError Message} {entry : LogEntry}
    (told : Told stream journal blocks [])
    (foreign : skipLog result = some entry)
    (vacant : Vacant stream) :
    ∃ blocks tail,
      Told stream
        (journal ++
          [.inl (.received result), .inr (.log entry), .inr .receive])
        blocks tail := by
  refine told.append [.skipped result entry foreign] [] ?_ ?_
    (.nothing vacant) ?_
  · simp [story, Block.entries]
  · simp [Block.settled]
  · rintro (closed | ending)
    · exact closed
    · simp [ends] at ending

/-- The last visit goes on. -/
theorem Told.proceed
    {visit : Visit}
    (told : Told stream journal blocks [visit]) (care : Care)
    (grown :
      visit.care.entries visit.cycle ++ more = care.entries visit.cycle)
    (unfinished : Unfinished next [{ visit with care }])
    (lively : ∀ entry ∈ more, ends entry = false) :
    ∃ blocks tail, Told next (journal ++ more) blocks tail := by
  refine told.append [] [{ visit with care }] ?_ (by simp) unfinished ?_
  · simp [story, Block.entries, Visit.entries, ← grown]
  · rintro (closed | ⟨entry, member, ending⟩)
    · exact absurd (told.unfinished.eq_nil_of_over closed) (by simp)
    · simp [lively entry member] at ending

/-- The last visit is settled. -/
theorem Told.settle
    {visit : Visit}
    (told : Told stream journal blocks [visit]) (care : Care)
    (grown :
      visit.care.entries visit.cycle ++ more = care.entries visit.cycle)
    (settled : care.settled = true)
    (vacant : Vacant next)
    (closed : (∃ entry ∈ more, ends entry) → next.Over) :
    ∃ blocks tail, Told next (journal ++ more) blocks tail := by
  refine told.append [.visited { visit with care }] [] ?_ ?_
    (.nothing vacant) ?_
  · simp [story, Block.entries, Visit.entries, ← grown]
  · simpa [Block.settled] using settled
  · rintro (past | ending)
    · exact absurd (told.unfinished.eq_nil_of_over past) (by simp)
    · exact closed ending

end Growth

/-! ## Steps -/

section Steps

variable {stream next : CycleStream} {event : Event}
  {effects : List Effect} {journal : List Entry} {blocks : List Block}

/-- Between two visits a message may arrive, and calls may come and go. -/
theorem told_step_of_vacant
    (told : Told stream journal blocks []) (vacant : Vacant stream)
    (stepped : stream.step event = some (next, effects)) :
    ∃ blocks tail,
      Told next (journal ++ .inl event :: effects.map .inr) blocks tail := by
  obtain ⟨cleared, unstarted, live⟩ := vacant
  cases event with
  | next =>
      simp only [step, CycleStream.next, cleared, await] at stepped
      split at stepped
      next idle =>
        split at stepped
        next ended =>
          obtain ⟨rfl, rfl⟩ := Prod.mk.inj (Option.some.inj stepped)
          exact told.aside (by simp [quiet]) ⟨cleared, unstarted, live⟩
            fun _ => .inl ended
        next lively =>
          obtain ⟨rfl, rfl⟩ := Prod.mk.inj (Option.some.inj stepped)
          refine told.aside (by simp [quiet])
            ⟨rfl, by simp, fun _ => by simpa using lively⟩ ?_
          simp [ends, Over, lively, idle]
      next => simp at stepped
  | stop =>
      simp only [step, stop, cleared] at stepped
      split at stepped
      next idle =>
        obtain ⟨rfl, rfl⟩ := Prod.mk.inj (Option.some.inj stepped)
        exact told.aside (by simp [quiet])
          ⟨rfl, unstarted, by simp [idle]⟩ fun _ => .inl rfl
      next => simp at stepped
  | drop orphaned =>
      simp only [step, drop, cleared] at stepped
      split at stepped
      next idle =>
        obtain ⟨rfl, rfl⟩ := Prod.mk.inj (Option.some.inj stepped)
        exact told.aside (by simp [quiet]) ⟨rfl, by simp, by simp⟩
          fun _ => .inr (.inr rfl)
      next => simp at stepped
  | sent result =>
      simp only [step, sent] at stepped
      split at stepped
      next active =>
        obtain ⟨rfl, rfl⟩ := Prod.mk.inj (Option.some.inj stepped)
        cases result <;>
          refine told.aside (by simp [quiet, completionLog, await])
            ⟨cleared, by simp [await], fun _ => live (.inl active)⟩ ?_ <;>
              simp [ends, completionLog, Over, active, await,
                live (.inl active)]
      next cycle active => exact absurd active (unstarted cycle)
      next active =>
        obtain ⟨rfl, rfl⟩ := Prod.mk.inj (Option.some.inj stepped)
        refine told.aside (by simp [quiet]) ⟨cleared, by simp, by simp⟩ ?_
        simp [ends, Over, active]
      next active =>
        obtain ⟨rfl, rfl⟩ := Prod.mk.inj (Option.some.inj stepped)
        cases result <;>
          exact told.aside (by simp [quiet, completionLog])
            ⟨cleared, by simp, by simp⟩ fun _ => .inr (.inr rfl)
      next => simp at stepped
  | received result =>
      simp only [step] at stepped
      split at stepped
      next active =>
        have lively := live (.inr active)
        simp only [receive, skip, fail, Option.some.injEq] at stepped
        split at stepped
        next error =>
          obtain ⟨rfl, rfl⟩ := Prod.mk.inj stepped
          exact told.skip rfl ⟨cleared, unstarted, live⟩
        next error undecoded =>
          obtain ⟨rfl, rfl⟩ := Prod.mk.inj stepped
          refine told.aside ?_ ⟨cleared, by simp, by simp⟩
            fun _ => .inl rfl
          cases error <;> simp_all [quiet]
        next message =>
          split at stepped
          next unknown =>
            obtain ⟨rfl, rfl⟩ := Prod.mk.inj stepped
            exact told.skip (skipLog_of_cycleEvent?_eq_none unknown)
              ⟨cleared, unstarted, live⟩
          next cycle known =>
            obtain ⟨rfl, rfl⟩ := Prod.mk.inj stepped
            obtain rfl := Message.cycleEvent?_eq_some_iff.mp known
            refine told.append [] [⟨cycle, .starting⟩]
              rfl (by simp) (.starting rfl rfl cleared lively) ?_
            simp [ends, Over, lively, active]
      next => simp at stepped

/-- Behind the attempt to say that a cycle is started stands its result. -/
theorem told_step_of_starting
    {visit : Visit} (told : Told stream journal blocks [visit])
    (care : visit.care = .starting)
    (active : stream.activity = .starting visit.cycle)
    (cleared : stream.pending = none) (live : stream.ended = false)
    (stepped : stream.step event = some (next, effects)) :
    ∃ blocks tail,
      Told next (journal ++ .inl event :: effects.map .inr) blocks tail := by
  cases event with
  | next => simp [step, active] at stepped
  | stop => simp [step, active] at stepped
  | drop orphaned => simp [step, active] at stepped
  | received result => simp [step, active] at stepped
  | sent result =>
      simp only [step, sent, active] at stepped
      cases result with
      | error error =>
          simp only [fail, Option.some.injEq, Prod.mk.injEq] at stepped
          obtain ⟨rfl, rfl⟩ := stepped
          exact told.settle (.refused error) (by rw [care]; rfl) rfl
            ⟨cleared, by simp, by simp⟩ fun _ => .inl rfl
      | ok sent =>
          simp only [Option.some.injEq, Prod.mk.injEq] at stepped
          obtain ⟨rfl, rfl⟩ := stepped
          exact told.proceed .held (by rw [care]; rfl)
            (.held rfl rfl rfl live) (by simp [ends])

/-- Behind a cycle that is handed out stands the call that completes it. -/
theorem told_step_of_held
    {visit : Visit} (told : Told stream journal blocks [visit])
    (care : visit.care = .held) (idle : stream.activity = .idle)
    (pending : stream.pending = some visit.cycle.number)
    (live : stream.ended = false)
    (sheltered : event ≠ .drop true)
    (stepped : stream.step event = some (next, effects)) :
    ∃ blocks tail,
      Told next (journal ++ .inl event :: effects.map .inr) blocks tail := by
  cases event with
  | sent result => simp [step, sent, idle] at stepped
  | received result => simp [step, idle] at stepped
  | next =>
      simp only [step, CycleStream.next, idle, live, pending, if_pos,
        Option.some.injEq] at stepped
      obtain ⟨rfl, rfl⟩ := Prod.mk.inj stepped
      exact told.settle (.completed .next) (by rw [care]; rfl) rfl
        ⟨rfl, by simp, fun _ => rfl⟩ (by simp [ends])
  | stop =>
      simp only [step, stop, idle, pending, if_pos,
        Option.some.injEq] at stepped
      obtain ⟨rfl, rfl⟩ := Prod.mk.inj stepped
      exact told.settle (.completed .stop) (by rw [care]; rfl) rfl
        ⟨rfl, by simp, by simp⟩ fun _ => .inl rfl
  | drop orphaned =>
      cases orphaned with
      | true => exact absurd rfl sheltered
      | false =>
          simp only [step, drop, idle, pending, if_pos,
            Option.some.injEq] at stepped
          obtain ⟨rfl, rfl⟩ := Prod.mk.inj stepped
          exact told.settle (.completed .drop) (by rw [care]; rfl) rfl
            ⟨rfl, by simp, by simp⟩ fun _ => .inr (.inl rfl)

theorem told_step
    {tail : List Visit} (told : Told stream journal blocks tail)
    (sheltered : event ≠ .drop true)
    (stepped : stream.step event = some (next, effects)) :
    ∃ blocks tail,
      Told next (journal ++ .inl event :: effects.map .inr) blocks tail := by
  cases told.unfinished with
  | nothing vacant => exact told_step_of_vacant told vacant stepped
  | starting care active cleared live =>
      exact told_step_of_starting told care active cleared live stepped
  | held care idle pending live =>
      exact told_step_of_held told care idle pending live sheltered stepped

end Steps

/-! ## Runs -/

theorem visits_append_visited (blocks : List Block) (tail : List Visit) :
    visits (blocks ++ tail.map .visited) = visits blocks ++ tail := by
  rw [visits, List.filterMap_append, ← visits]
  congr 1
  induction tail with
  | nil => rfl
  | cons visit rest ih => simpa [Block.visit?] using ih

/-- A settled cycle is not unacknowledged. -/
theorem countP_unacknowledged_of_settled
    {blocks : List Block} (settled : ∀ block ∈ blocks, block.settled) :
    ((visits blocks).countP fun visit => visit.care.unacknowledged) = 0 := by
  apply List.countP_eq_zero.mpr
  intro visit member
  obtain ⟨block, inside, shown⟩ := List.mem_filterMap.mp member
  cases block with
  | aside entries hushed => simp [Block.visit?] at shown
  | skipped result entry foreign => simp [Block.visit?] at shown
  | visited own =>
      cases shown
      have closed := settled _ inside
      cases care : visit.care <;>
        simp_all [Block.settled, Care.settled, Care.unacknowledged]

theorem told_run
    {connection : ConnectionId} {events : List Event}
    {stream : CycleStream} {journal : List Entry}
    (ran :
      run (recorded step) (new connection) events = some (stream, journal))
    (sheltered : .drop true ∉ events) :
    ∃ blocks tail, Told stream journal blocks tail := by
  revert sheltered
  refine run_invariant
    (fun stream events journal =>
      .drop true ∉ events → ∃ blocks tail, Told stream journal blocks tail)
    ?_ ?_ ran
  · intro _
    exact ⟨[], [], rfl, by simp, .nothing ⟨rfl, by simp [new], by simp [new]⟩,
      by simp⟩
  · intro stream events journal event next entries kept stepped sheltered
    obtain ⟨effects, reaction, rfl⟩ := recorded_eq_some_iff.mp stepped
    simp only [List.mem_append, List.mem_singleton, not_or] at sheltered
    obtain ⟨blocks, tail, told⟩ := kept sheltered.1
    exact told_step told (Ne.symm sheltered.2) reaction

/--
The journal of a stream falls into blocks of which only the last may be
unsettled: what arrives, what is sent and what is handed out is what its visits
tell, at most one cycle is unacknowledged, and none is once the stream is over.
-/
theorem cycles_acknowledged
    {connection : ConnectionId} {events : List Event}
    {stream : CycleStream} {journal : List Entry}
    (ran :
      run (recorded step) (new connection) events = some (stream, journal))
    (sheltered : .drop true ∉ events) :
    ∃ blocks : List Block,
      journal = story blocks ∧
        (∀ block ∈ blocks.dropLast, block.settled) ∧
        (journal.filterMap arrival? =
          (visits blocks).map fun visit => visit.cycle) ∧
        (journal.filterMap attempt? =
          (visits blocks).flatMap fun visit =>
            visit.care.attempts visit.cycle) ∧
        (journal.filterMap handOut? =
          ((visits blocks).filter fun visit => visit.care.handedOut).map
            fun visit => visit.cycle) ∧
        ((visits blocks).countP fun visit =>
          visit.care.unacknowledged) ≤ 1 ∧
        ((∃ entry ∈ journal, ends entry) ∨ stream.ended = true →
          ∀ block ∈ blocks, block.settled) := by
  obtain ⟨blocks, tail, told⟩ := told_run ran sheltered
  have parts : journal = story (blocks ++ tail.map .visited) := by
    rw [story_append, told.parts]
  have short : tail.length ≤ 1 := by
    cases told.unfinished <;> simp
  refine ⟨blocks ++ tail.map .visited, parts, ?_, ?_, ?_, ?_, ?_, ?_⟩
  · intro block member
    apply told.settled
    rcases tail with _ | ⟨visit, _ | _⟩
    · exact List.dropLast_subset _ (by simpa using member)
    · simpa using member
    · simp at short
  · rw [parts, arrivals_story]
  · rw [parts, attempts_story]
  · rw [parts, handOuts_story]
  · rw [visits_append_visited, List.countP_append,
      countP_unacknowledged_of_settled told.settled, Nat.zero_add]
    exact Nat.le_trans List.countP_le_length short
  · intro finished block member
    have closed : stream.Over := by
      rcases finished with ending | ended
      · exact told.closed ending
      · exact .inl ended
    rw [told.unfinished.eq_nil_of_over closed] at member
    exact told.settled block (by simpa using member)

/-- A consumer gets a cycle and stops. -/
def oneCycle : List Event :=
  [.next, .received (.ok (Message.plain (.cycle 1 none KeyMap.empty))),
    .sent (.ok ()), .stop, .sent (.ok ())]

theorem cycles_acknowledged_oneCycle :
    ∃ stream journal,
      run (recorded step) (new 0) oneCycle = some (stream, journal) ∧
        journal.filterMap attempt? =
          [Message.plain (.acknowledgment .started 1),
            Message.plain (.acknowledgment .completed 1)] ∧
        ∃ blocks : List Block, journal = story blocks ∧
          ∀ block ∈ blocks, block.settled := by
  obtain ⟨stream, journal, ran, attempts, ended⟩ :
      ∃ stream journal,
        run (recorded step) (new 0) oneCycle = some (stream, journal) ∧
          journal.filterMap attempt? =
            [Message.plain (.acknowledgment .started 1),
              Message.plain (.acknowledgment .completed 1)] ∧
          stream.ended = true :=
    ⟨_, _, rfl, rfl, rfl⟩
  obtain ⟨blocks, parts, _, _, _, _, _, settled⟩ :=
    cycles_acknowledged ran (by simp [oneCycle])
  exact ⟨stream, journal, ran, attempts, blocks, parts,
    settled (.inr ended)⟩

end CycleStream

end BuildWatch
