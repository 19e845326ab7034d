import BuildWatch.CycleStream.Sequence
import BuildWatch.Proofs.Runs

/-!
# Takers of items

A taker wants some number of items.  It asks for them one by one, up to that
number or the end of the items, and then drops where they come from.  All that
it does to its source is one run of it.
-/

namespace BuildWatch

/-- Takes items from a source. -/
inductive Taker (σ : Type) where
  /-- Waits for an item, and wants some number of items behind it. -/
  | waiting (source : σ) (more : Nat)
  /-- Has dropped the source. -/
  | done (source : σ)
deriving DecidableEq

namespace Taker

open CycleStream (Effect)
open CycleSequence (isLast)

/-- What a transport answers. -/
inductive Answer where
  | sent (result : Except TransportError Unit)
  | received (result : Except TransportError Message)

/-- The event that an answer is for a source. -/
def Answer.event : Answer → CycleSequence.Event
  | .sent result => .sent result
  | .received result => .received result

/-- Whether an effect hands out an item. -/
def isItem : Effect → Bool
  | .yield (some _) => true
  | _ => false

section Definitions

variable {σ τ : Type}

abbrev Reaction (σ : Type) := Taker σ × List Effect

def source : Taker σ → σ
  | .waiting source _ => source
  | .done source => source

/-- The same taker with another source. -/
def map (other : σ → τ) : Taker σ → Taker τ
  | .waiting source more => .waiting (other source) more
  | .done source => .done (other source)

variable (step : σ → CycleSequence.Event → Option (σ × List Effect))
  (orphaned : Bool)

def leave (source : σ) : Option (Reaction σ) :=
  (step source (.drop orphaned)).map fun reaction =>
    (.done reaction.1, reaction.2)

/-- Goes on behind a step of the source, and asks `again` behind an item. -/
def proceed (again : σ → Option (Reaction σ)) (more : Nat)
    (reaction : σ × List Effect) : Option (Reaction σ) :=
  Option.map (fun ahead => (ahead.1, reaction.2 ++ ahead.2)) <|
    if reaction.2.any isLast then leave step orphaned reaction.1
    else if reaction.2.any isItem then again reaction.1
    else some (.waiting reaction.1 more, [])

/-- Asks for an item, unless no more of them are wanted. -/
def ask : Nat → σ → Option (Reaction σ)
  | 0, source => leave step orphaned source
  | more + 1, source =>
      (step source .pull).bind (proceed step orphaned (ask more) more)

def react : Taker σ → Answer → Option (Reaction σ)
  | .waiting source more, answer =>
      (step source answer.event).bind
        (proceed step orphaned (ask step orphaned more) more)
  | .done source, answer =>
      (step source answer.event).map fun reaction =>
        (.done reaction.1, reaction.2)

/-- Takes at most so many items while the transport answers. -/
def take (count : Nat) (source : σ) (answers : List Answer) :
    Option (Reaction σ) :=
  (ask step orphaned count source).bind fun begun =>
    (run (react step orphaned) begun.1 answers).map fun ended =>
      (ended.1, begun.2 ++ ended.2)

end Definitions

/-! ## What a taker does is a run of its source -/

section Runs

variable {σ : Type}
  {step : σ → CycleSequence.Event → Option (σ × List Effect)}
  {orphaned : Bool} {more : Nat} {source next : σ} {taker : Taker σ}
  {effects ahead : List Effect}

/-- A source gets somewhere, and is dropped on the way in one manner only. -/
def Leads (step : σ → CycleSequence.Event → Option (σ × List Effect))
    (orphaned : Bool) (source next : σ) (effects : List Effect) : Prop :=
  ∃ events,
    run step source events = some (next, effects) ∧
      .drop (!orphaned) ∉ events

theorem Leads.refl (source : σ) : Leads step orphaned source source [] :=
  ⟨[], rfl, by simp⟩

theorem Leads.trans
    {final : σ}
    (first : Leads step orphaned source next effects)
    (second : Leads step orphaned next final ahead) :
    Leads step orphaned source final (effects ++ ahead) := by
  obtain ⟨before, started, only⟩ := first
  obtain ⟨after, ended, also⟩ := second
  refine ⟨before ++ after, ?_, by simp [only, also]⟩
  exact run_append_eq_some_iff.mpr
    ⟨next, effects, ahead, started, ended, rfl⟩

theorem Leads.of_step
    {event : CycleSequence.Event} (other : event ≠ .drop (!orphaned))
    (stepped : step source event = some (next, effects)) :
    Leads step orphaned source next effects := by
  refine ⟨[event], ?_, by simpa using Ne.symm other⟩
  rw [run_singleton, stepped]

theorem leads_of_leave
    (left : leave step orphaned source = some (taker, effects)) :
    Leads step orphaned source taker.source effects := by
  obtain ⟨⟨next, more⟩, stepped, equal⟩ := Option.map_eq_some_iff.mp left
  obtain ⟨rfl, rfl⟩ := Prod.mk.inj equal
  exact .of_step (by cases orphaned <;> simp) stepped

/-- How a taker goes on behind a step of its source. -/
theorem proceed_cases
    {again : σ → Option (Reaction σ)}
    (went :
      proceed step orphaned again more (next, effects) =
        some (taker, ahead)) :
    ∃ further, ahead = effects ++ further ∧
      (effects.any isLast = true ∧
          leave step orphaned next = some (taker, further) ∨
        effects.any isItem = true ∧ again next = some (taker, further) ∨
        effects.any isLast = false ∧ effects.any isItem = false ∧
          taker = .waiting next more ∧ further = []) := by
  obtain ⟨⟨reached, further⟩, found, equal⟩ :=
    Option.map_eq_some_iff.mp went
  obtain ⟨rfl, rfl⟩ := Prod.mk.inj equal
  refine ⟨further, rfl, ?_⟩
  split at found
  next last => exact .inl ⟨last, found⟩
  next others =>
    split at found
    next item => exact .inr (.inl ⟨item, found⟩)
    next none =>
      obtain ⟨rfl, rfl⟩ := Prod.mk.inj (Option.some.inj found)
      exact .inr (.inr ⟨by simpa using others, by simpa using none, rfl, rfl⟩)

theorem leads_of_proceed
    {again : σ → Option (Reaction σ)}
    (leads : ∀ taker effects,
      again next = some (taker, effects) →
        Leads step orphaned next taker.source effects)
    (went :
      proceed step orphaned again more (next, effects) =
        some (taker, ahead)) :
    ∃ further, ahead = effects ++ further ∧
      Leads step orphaned next taker.source further := by
  obtain ⟨further, rfl, ⟨_, left⟩ | ⟨_, found⟩ | ⟨_, _, rfl, rfl⟩⟩ :=
    proceed_cases went
  · exact ⟨further, rfl, leads_of_leave left⟩
  · exact ⟨further, rfl, leads taker further found⟩
  · exact ⟨[], rfl, .refl next⟩

theorem leads_of_ask
    (asked : ask step orphaned more source = some (taker, effects)) :
    Leads step orphaned source taker.source effects := by
  induction more generalizing source taker effects with
  | zero => exact leads_of_leave asked
  | succ more ih =>
      obtain ⟨⟨next, before⟩, pulled, went⟩ :=
        Option.bind_eq_some_iff.mp asked
      obtain ⟨further, rfl, leads⟩ := leads_of_proceed (fun _ _ => ih) went
      exact (Leads.of_step (by simp) pulled).trans leads

theorem leads_of_react
    {start : Taker σ} {answer : Answer}
    (reacted : react step orphaned start answer = some (taker, effects)) :
    Leads step orphaned start.source taker.source effects := by
  have other : answer.event ≠ .drop (!orphaned) := by
    cases answer <;> simp [Answer.event]
  cases start with
  | waiting source more =>
      obtain ⟨⟨next, before⟩, stepped, went⟩ :=
        Option.bind_eq_some_iff.mp reacted
      obtain ⟨further, rfl, leads⟩ :=
        leads_of_proceed (fun _ _ => leads_of_ask) went
      exact (Leads.of_step other stepped).trans leads
  | done source =>
      obtain ⟨⟨next, before⟩, stepped, equal⟩ :=
        Option.map_eq_some_iff.mp reacted
      obtain ⟨rfl, rfl⟩ := Prod.mk.inj equal
      exact .of_step other stepped

theorem leads_of_run
    {start : Taker σ} {answers : List Answer}
    (ran : run (react step orphaned) start answers = some (taker, effects)) :
    Leads step orphaned start.source taker.source effects := by
  refine run_invariant
    (fun taker _ effects =>
      Leads step orphaned start.source taker.source effects)
    (.refl _) ?_ ran
  intro taker answers effects answer next more leads reacted
  exact leads.trans (leads_of_react reacted)

theorem take_eq_some_iff
    {count : Nat} {answers : List Answer} :
    take step orphaned count source answers = some (taker, effects) ↔
      ∃ start before after,
        ask step orphaned count source = some (start, before) ∧
          run (react step orphaned) start answers = some (taker, after) ∧
          effects = before ++ after := by
  unfold take
  constructor
  · intro took
    obtain ⟨⟨start, before⟩, asked, rest⟩ := Option.bind_eq_some_iff.mp took
    obtain ⟨⟨final, after⟩, ran, equal⟩ := Option.map_eq_some_iff.mp rest
    obtain ⟨rfl, rfl⟩ := Prod.mk.inj equal
    exact ⟨start, before, after, asked, ran, rfl⟩
  · rintro ⟨start, before, after, asked, ran, rfl⟩
    simp [asked, ran]

theorem take_nil_isSome
    {count : Nat} (asks : (ask step orphaned count source).isSome) :
    (take step orphaned count source []).isSome := by
  obtain ⟨⟨start, before⟩, asked⟩ := Option.isSome_iff_exists.mp asks
  exact Option.isSome_iff_exists.mpr
    ⟨_, take_eq_some_iff.mpr ⟨start, before, [], asked, rfl, rfl⟩⟩

/-- Whoever can react to one more answer takes one more answer. -/
theorem take_snoc_isSome
    {count : Nat} {answers : List Answer} {answer : Answer}
    (took : take step orphaned count source answers = some (taker, effects))
    (reacts : (react step orphaned taker answer).isSome) :
    (take step orphaned count source (answers ++ [answer])).isSome := by
  obtain ⟨start, before, after, asked, ran, rfl⟩ := take_eq_some_iff.mp took
  obtain ⟨⟨next, more⟩, reacted⟩ := Option.isSome_iff_exists.mp reacts
  have further :
      run (react step orphaned) start (answers ++ [answer]) =
        some (next, after ++ more) :=
    run_snoc_eq_some_iff.mpr ⟨taker, after, more, ran, reacted, rfl⟩
  exact Option.isSome_iff_exists.mpr
    ⟨_, take_eq_some_iff.mpr ⟨start, before, _, asked, further, rfl⟩⟩

theorem leads_of_take
    {count : Nat} {answers : List Answer}
    (took :
      take step orphaned count source answers = some (taker, effects)) :
    Leads step orphaned source taker.source effects := by
  obtain ⟨start, before, after, asked, ran, rfl⟩ := take_eq_some_iff.mp took
  exact (leads_of_ask asked).trans (leads_of_run ran)

end Runs

end Taker

end BuildWatch
