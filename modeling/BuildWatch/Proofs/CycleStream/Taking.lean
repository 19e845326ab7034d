import BuildWatch.Proofs.CycleStream.Moves
import BuildWatch.Proofs.CycleStream.Taker

/-!
# Taking items from a stream

A taker of a stream is either in a call for the next cycle or has dropped the
stream.  It is never stuck, gets as many items as it wants unless they end
before, and leaves no cycle behind that is handed out and not completed.
-/

namespace BuildWatch

namespace CycleStream

variable {stream next : CycleStream} {event : Event} {effects : List Effect}

/-! ## Streams in order -/

/-- A call for the next cycle is under way. -/
def Fetching (stream : CycleStream) : Prop :=
  stream.activity = .completing ∨ stream.activity = .receiving ∨
    ∃ cycle, stream.activity = .starting cycle

/-- A stream that ended waits for no cycle, and keeps none. -/
structure Orderly (stream : CycleStream) : Prop where
  cleared : stream.activity ≠ .idle → stream.pending = none
  vacant : stream.ended = true → stream.pending = none
  lively : Fetching stream → stream.ended = false

theorem Orderly.of_step
    (orderly : Orderly stream)
    (stepped : stream.step event = some (next, effects)) : Orderly next := by
  obtain ⟨cleared, vacant, lively⟩ := orderly
  cases move_of_step stepped <;>
    constructor <;> simp_all [Fetching]

theorem Orderly.of_run
    {later : List Event} (orderly : Orderly stream)
    (ran : run step stream later = some (next, effects)) : Orderly next := by
  refine run_invariant (fun stream _ _ => Orderly stream) orderly ?_ ran
  intro stream events effects event next more orderly stepped
  exact orderly.of_step stepped

theorem orderly_new (connection : ConnectionId) : Orderly (new connection) where
  cleared := fun _ => rfl
  vacant := fun _ => rfl
  lively := fun _ => rfl

/-- There is no item left only if the stream is asked behind its end. -/
theorem over_of_isLast
    (stepped : stream.step event = some (next, effects))
    (last : effects.any CycleSequence.isLast = true) :
    event = .next ∧ stream.activity = .idle ∧ stream.ended = true ∧
      next = stream ∧ effects = [.yield none] := by
  cases move_of_step stepped with
  | beyond idle ended => exact ⟨rfl, idle, ended, rfl, rfl⟩
  | @completed result active =>
      cases result <;> simp [completionLog, CycleSequence.isLast] at last
  | @parted result active =>
      cases result <;> simp [completionLog, CycleSequence.isLast] at last
  | _ => simp [CycleSequence.isLast] at last

/-- A call that hands out nothing yet goes on. -/
theorem fetching_of_step
    (under : event = .next ∨ Fetching stream)
    (stepped : stream.step event = some (next, effects))
    (last : effects.any CycleSequence.isLast = false)
    (item : effects.any Taker.isItem = false) : Fetching next := by
  cases move_of_step stepped <;>
    simp_all [Fetching, CycleSequence.isLast, Taker.isItem]

/-- An item ends the call for it, and comes alone. -/
theorem alone_of_isItem
    (stepped : stream.step event = some (next, effects))
    (some : effects.any Taker.isItem = true) :
    next.activity = .idle ∧ ∃ item, effects = [.yield (.some item)] := by
  cases move_of_step stepped with
  | unstarted active => exact ⟨rfl, _, rfl⟩
  | started active => exact ⟨rfl, _, rfl⟩
  | unreceived active broken => exact ⟨rfl, _, rfl⟩
  | @completed result active =>
      cases result <;> simp [completionLog, Taker.isItem] at some
  | @parted result active =>
      cases result <;> simp [completionLog, Taker.isItem] at some
  | _ => simp [Taker.isItem] at some

/-! ## Acknowledgments of what is handed out -/

/-- The cycle that is handed out, or that the stream says is completed. -/
def mark? : Effect → Option (CycleId ⊕ CycleId)
  | .yield (some (.ok cycle)) => some (.inl cycle.number)
  | .send ⟨_, .acknowledgment .completed number⟩ => some (.inr number)
  | _ => none

/-- A cycle is handed out, and the stream says once that it is completed. -/
def both (number : CycleId) : List (CycleId ⊕ CycleId) :=
  [.inl number, .inr number]

/--
All cycles that were handed out are completed but the one that is pending,
and so is the one that was pending before.
-/
def Settles (stream next : CycleStream) (effects : List Effect) : Prop :=
  ∃ cycles : List CycleId,
    stream.pending.toList.map .inl ++ effects.filterMap mark? =
      cycles.flatMap both ++ next.pending.toList.map .inl

theorem Settles.refl (stream : CycleStream) : Settles stream stream [] :=
  ⟨[], by simp⟩

theorem Settles.trans
    {final : CycleStream} {more : List Effect}
    (first : Settles stream next effects) (second : Settles next final more) :
    Settles stream final (effects ++ more) := by
  obtain ⟨before, early⟩ := first
  obtain ⟨after, late⟩ := second
  refine ⟨before ++ after, ?_⟩
  rw [List.filterMap_append, ← List.append_assoc, early, List.append_assoc,
    late, List.flatMap_append, List.append_assoc]

theorem settles_of_step
    (orderly : Orderly stream) (sheltered : event ≠ .drop true)
    (stepped : stream.step event = some (next, effects)) :
    Settles stream next effects := by
  have busy := orderly.cleared
  cases move_of_step stepped with
  | beyond idle ended => exact ⟨[], by simp [mark?]⟩
  | asked idle live vacant => exact ⟨[], by simp [vacant, mark?]⟩
  | @returned number idle live held =>
      exact ⟨[number], by simp [held, both, mark?, completedMessage,
        Message.plain]⟩
  | stopped idle vacant => exact ⟨[], by simp [vacant, mark?]⟩
  | @stopping number idle held =>
      exact ⟨[number], by simp [held, both, mark?, completedMessage,
        Message.plain]⟩
  | dropped idle vacant => exact ⟨[], by simp [vacant, mark?]⟩
  | orphaned idle held => exact absurd rfl sheltered
  | @dropping number idle held =>
      exact ⟨[number], by simp [held, both, mark?, completedMessage,
        Message.plain, List.filterMap_cons]⟩
  | @completed result active =>
      refine ⟨[], ?_⟩
      cases result <;> simp [completionLog, mark?]
  | unstarted active => exact ⟨[], by simp [mark?]⟩
  | @started cycle active =>
      have vacant : stream.pending = none := busy (by simp [active])
      exact ⟨[], by simp [vacant, mark?]⟩
  | settled active => exact ⟨[], by simp [mark?]⟩
  | @parted result active =>
      refine ⟨[], ?_⟩
      cases result <;> simp [completionLog, mark?]
  | skipped active foreign => exact ⟨[], by simp [mark?]⟩
  | unreceived active broken => exact ⟨[], by simp [mark?]⟩
  | arrived active known =>
      exact ⟨[], by simp [mark?, startedMessage, Message.plain]⟩

theorem settles_of_run
    {later : List Event} (orderly : Orderly stream)
    (sheltered : .drop true ∉ later)
    (ran : run step stream later = some (next, effects)) :
    Settles stream next effects := by
  revert sheltered
  refine run_induction
    (fun next later effects =>
      .drop true ∉ later → Settles stream next effects)
    (fun _ => .refl stream) ?_ ran
  intro reached later effects event next more ran kept stepped sheltered
  simp only [List.mem_append, List.mem_singleton, not_or] at sheltered
  exact (kept sheltered.1).trans
    (settles_of_step (orderly.of_run ran) (Ne.symm sheltered.2) stepped)

/-! ## A stream as a source of items -/

/-- A stream does what a sequence asks it to do. -/
def supply (stream : CycleStream) (event : CycleSequence.Event) :
    Option Reaction :=
  stream.step event.onStream

theorem run_supply (stream : CycleStream) (events : List CycleSequence.Event) :
    run supply stream events =
      run step stream (events.map CycleSequence.Event.onStream) := by
  induction events generalizing stream with
  | nil => rfl
  | cons event rest ih => simp [run, ih, supply]

theorem run_of_leads
    {orphaned : Bool}
    (leads : Taker.Leads supply orphaned stream next effects) :
    ∃ later, run step stream later = some (next, effects) ∧
      .drop (!orphaned) ∉ later := by
  obtain ⟨events, ran, only⟩ := leads
  refine ⟨_, run_supply stream events ▸ ran, ?_⟩
  intro member
  obtain ⟨event, inside, same⟩ := List.mem_map.mp member
  cases event with
  | drop other =>
      cases same
      exact only inside
  | pull => simp [CycleSequence.Event.onStream] at same
  | sent result => simp [CycleSequence.Event.onStream] at same
  | received result => simp [CycleSequence.Event.onStream] at same

theorem Orderly.of_leads
    {orphaned : Bool} (orderly : Orderly stream)
    (leads : Taker.Leads supply orphaned stream next effects) :
    Orderly next := by
  obtain ⟨later, ran, _⟩ := run_of_leads leads
  exact orderly.of_run ran

end CycleStream

namespace Taker

open CycleStream (Effect Fetching Orderly supply)
open CycleSequence (isLast)

variable {orphaned : Bool} {stream next : CycleStream} {more : Nat}
  {taker : Taker CycleStream} {effects : List Effect}

/-! ## How a taker stands -/

/-- How a taker stands that wanted so many items, with what came of it. -/
inductive Stands (wanted : Nat) : Taker CycleStream → List Effect → Prop where
  | waiting {stream : CycleStream} {more : Nat} {effects : List Effect}
      (fetching : Fetching stream)
      (counted : effects.countP isItem + (more + 1) = wanted) :
      Stands wanted (.waiting stream more) effects
  /-- It got what it wanted, unless the items ended before. -/
  | done {stream : CycleStream} {effects : List Effect}
      (parted : stream.activity = .dropping ∨ stream.activity = .gone)
      (counted :
        effects.countP isItem = wanted ∨
          effects.countP isItem < wanted ∧ effects.any isLast = true) :
      Stands wanted (.done stream) effects

/-- Whoever got items before wanted as many more. -/
theorem Stands.behind
    {wanted : Nat} (before : List Effect)
    (stands : Stands wanted taker effects) :
    Stands (before.countP isItem + wanted) taker (before ++ effects) := by
  cases stands with
  | waiting fetching counted =>
      refine .waiting fetching ?_
      rw [List.countP_append]
      omega
  | done parted counted =>
      refine .done parted ?_
      rw [List.countP_append, List.any_append, Bool.or_eq_true]
      exact counted.imp (by omega) fun ⟨fewer, last⟩ => ⟨by omega, .inr last⟩

/-- Whoever leaves gets no item any more. -/
theorem parted_of_leave
    (left : leave supply orphaned stream = some (taker, effects)) :
    effects.countP isItem = 0 ∧
      ∃ source, taker = .done source ∧
        (source.activity = .dropping ∨ source.activity = .gone) := by
  obtain ⟨⟨next, more⟩, stepped, equal⟩ := Option.map_eq_some_iff.mp left
  obtain ⟨rfl, rfl⟩ := Prod.mk.inj equal
  cases CycleStream.move_of_step stepped with
  | dropped idle vacant => exact ⟨rfl, _, rfl, .inr rfl⟩
  | orphaned idle held => exact ⟨rfl, _, rfl, .inr rfl⟩
  | dropping idle held => exact ⟨rfl, _, rfl, .inl rfl⟩

theorem stands_of_proceed
    {event : CycleStream.Event} {again : CycleStream → Option _}
    {ahead : List Effect}
    (under : event = .next ∨ Fetching stream)
    (stepped : stream.step event = some (next, effects))
    (stands : ∀ taker effects,
      again next = some (taker, effects) → Stands more taker effects)
    (went :
      proceed supply orphaned again more (next, effects) =
        some (taker, ahead)) :
    Stands (more + 1) taker ahead := by
  obtain ⟨further, rfl, ⟨last, left⟩ | ⟨item, found⟩ |
      ⟨last, item, rfl, rfl⟩⟩ := proceed_cases went
  · obtain ⟨_, _, _, _, rfl⟩ := CycleStream.over_of_isLast stepped last
    obtain ⟨none, source, rfl, parted⟩ := parted_of_leave left
    exact .done parted (.inr (by simp [none, isItem, isLast]))
  · obtain ⟨_, own, rfl⟩ := CycleStream.alone_of_isItem stepped item
    rw [Nat.add_comm]
    exact (stands taker further found).behind [.yield (some own)]
  · refine .waiting (CycleStream.fetching_of_step under stepped last item) ?_
    have none : effects.countP isItem = 0 := by
      simpa [List.countP_eq_zero] using item
    simp [none]

theorem stands_of_ask
    (asked : ask supply orphaned more stream = some (taker, effects)) :
    Stands more taker effects := by
  induction more generalizing stream taker effects with
  | zero =>
      obtain ⟨none, source, rfl, parted⟩ := parted_of_leave asked
      exact .done parted (.inl none)
  | succ more ih =>
      obtain ⟨⟨next, before⟩, pulled, went⟩ :=
        Option.bind_eq_some_iff.mp asked
      exact stands_of_proceed (.inl rfl) pulled (fun _ _ => ih) went

/-- A stream that was dropped hands out nothing, and stays dropped. -/
theorem parted_of_answer
    {answer : Answer}
    (parted : stream.activity = .dropping ∨ stream.activity = .gone)
    (stepped : supply stream answer.event = some (next, effects)) :
    effects.countP isItem = 0 ∧
      (next.activity = .dropping ∨ next.activity = .gone) := by
  cases answer with
  | sent result =>
      cases result <;> cases CycleStream.move_of_step stepped <;>
        simp_all [CycleStream.completionLog, isItem]
  | received result =>
      cases CycleStream.move_of_step stepped <;> simp_all

theorem stands_of_react
    {start : Taker CycleStream} {answer : Answer} {wanted : Nat}
    {before : List Effect} (stands : Stands wanted start before)
    (reacted : react supply orphaned start answer = some (taker, effects)) :
    Stands wanted taker (before ++ effects) := by
  cases stands with
  | waiting fetching counted =>
      obtain ⟨⟨next, earlier⟩, stepped, went⟩ :=
        Option.bind_eq_some_iff.mp reacted
      rw [← counted]
      exact (stands_of_proceed (.inr fetching) stepped
        (fun _ _ => stands_of_ask) went).behind before
  | done parted counted =>
      obtain ⟨⟨next, more⟩, stepped, equal⟩ :=
        Option.map_eq_some_iff.mp reacted
      obtain ⟨rfl, rfl⟩ := Prod.mk.inj equal
      obtain ⟨none, still⟩ := parted_of_answer parted stepped
      refine .done still ?_
      rw [List.countP_append, none, Nat.add_zero, List.any_append,
        Bool.or_eq_true]
      exact counted.imp id fun ⟨fewer, last⟩ => ⟨fewer, .inl last⟩

theorem stands_of_take
    {count : Nat} {answers : List Answer}
    (took : take supply orphaned count stream answers = some (taker, effects)) :
    Stands count taker effects := by
  obtain ⟨start, before, after, asked, ran, rfl⟩ := take_eq_some_iff.mp took
  refine run_invariant
    (fun taker _ after => Stands count taker (before ++ after))
    (by simpa using stands_of_ask asked) ?_ ran
  intro taker answers after answer next more stands reacted
  rw [← List.append_assoc]
  exact stands_of_react stands reacted

/-! ## A taker is never stuck -/

theorem leave_isSome (orphaned : Bool) (idle : stream.activity = .idle) :
    (leave supply orphaned stream).isSome := by
  simp [leave, supply, CycleSequence.Event.onStream, CycleStream.step, idle]

theorem proceed_isSome
    {event : CycleStream.Event} {again : CycleStream → Option _}
    (stepped : stream.step event = some (next, effects))
    (asks : next.activity = .idle → (again next).isSome) :
    (proceed supply orphaned again more (next, effects)).isSome := by
  simp only [proceed, Option.isSome_map]
  split
  next last =>
    obtain ⟨_, idle, _, rfl, _⟩ := CycleStream.over_of_isLast stepped last
    exact leave_isSome orphaned idle
  next =>
    split
    next item => exact asks (CycleStream.alone_of_isItem stepped item).1
    next => rfl

theorem ask_isSome (orphaned : Bool) (idle : stream.activity = .idle) :
    (ask supply orphaned more stream).isSome := by
  induction more generalizing stream with
  | zero => exact leave_isSome orphaned idle
  | succ more ih =>
      have pulled : stream.step .next = some stream.next := by
        simp [CycleStream.step, idle]
      have called : supply stream .pull = some stream.next := pulled
      rw [ask, called]
      exact proceed_isSome pulled ih

/-- A taker that waits goes on with any answer of one kind. -/
theorem react_isSome (orphaned : Bool) (fetching : Fetching stream) :
    (∀ result,
        (react supply orphaned (.waiting stream more)
          (.sent result)).isSome) ∨
      ∀ result,
        (react supply orphaned (.waiting stream more)
          (.received result)).isSome := by
  have goes :
      ∀ answer : Answer, (supply stream answer.event).isSome →
        (react supply orphaned (.waiting stream more) answer).isSome := by
    intro answer some
    obtain ⟨⟨next, effects⟩, stepped⟩ := Option.isSome_iff_exists.mp some
    rw [react, stepped]
    exact proceed_isSome stepped (ask_isSome orphaned)
  rcases fetching with active | active | ⟨cycle, active⟩
  · refine .inl fun result => goes (.sent result) ?_
    simp [supply, Answer.event, CycleSequence.Event.onStream,
      CycleStream.step, CycleStream.sent, active]
  · refine .inr fun result => goes (.received result) ?_
    simp [supply, Answer.event, CycleSequence.Event.onStream,
      CycleStream.step, active]
  · refine .inl fun result => goes (.sent result) ?_
    cases result <;>
      simp [supply, Answer.event, CycleSequence.Event.onStream,
        CycleStream.step, CycleStream.sent, active]

end Taker

end BuildWatch
