import BuildWatch.Run
import Mathlib.Data.List.Induction

/-!
# Invariants of runs

What holds at the start of a run and is kept by every step holds at its end.
An invariant may speak of the events and effects so far, so that a property
of a whole history is proved by one case for each step.
-/

namespace BuildWatch

variable {σ ε φ : Type} {step : σ → ε → Option (σ × List φ)}

/-- A run over two lists of events is two runs in turn. -/
theorem run_append_eq_some_iff
    {initial final : σ} {first second : List ε} {effects : List φ} :
    run step initial (first ++ second) = some (final, effects) ↔
      ∃ state before after,
        run step initial first = some (state, before) ∧
          run step state second = some (final, after) ∧
          effects = before ++ after := by
  rw [run_append]
  constructor
  · intro ran
    obtain ⟨⟨state, before⟩, started, rest⟩ := Option.bind_eq_some_iff.mp ran
    obtain ⟨⟨reached, after⟩, ended, equal⟩ := Option.map_eq_some_iff.mp rest
    simp only [Prod.mk.injEq] at equal
    obtain ⟨rfl, rfl⟩ := equal
    exact ⟨state, before, after, started, ended, rfl⟩
  · rintro ⟨state, before, after, started, ended, rfl⟩
    simp [started, ended]

/-- A run over one event is a step. -/
@[simp]
theorem run_singleton (state : σ) (event : ε) :
    run step state [event] = step state event := by
  cases stepped : step state event <;> simp [run, stepped]

/-- The first step of a run, in front of the run behind it. -/
theorem run_cons_eq_some_iff
    {initial final : σ} {event : ε} {events : List ε} {effects : List φ} :
    run step initial (event :: events) = some (final, effects) ↔
      ∃ state before after,
        step initial event = some (state, before) ∧
          run step state events = some (final, after) ∧
          effects = before ++ after := by
  rw [← List.singleton_append]
  simp only [run_append_eq_some_iff, run_singleton]

/-- The last step of a run, behind the run up to it. -/
theorem run_snoc_eq_some_iff
    {initial final : σ} {events : List ε} {event : ε} {effects : List φ} :
    run step initial (events ++ [event]) = some (final, effects) ↔
      ∃ state before after,
        run step initial events = some (state, before) ∧
          step state event = some (final, after) ∧
          effects = before ++ after := by
  simp only [run_append_eq_some_iff, run_singleton]

/-! ## States that a run leads to -/

theorem Reachable.refl (state : σ) : Reachable step state state :=
  ⟨[], [], rfl⟩

theorem Reachable.trans
    {initial state final : σ} (first : Reachable step initial state)
    (second : Reachable step state final) : Reachable step initial final := by
  obtain ⟨events, effects, ran⟩ := first
  obtain ⟨later, more, went⟩ := second
  exact ⟨events ++ later, effects ++ more,
    run_append_eq_some_iff.mpr ⟨state, effects, more, ran, went, rfl⟩⟩

theorem reachable_of_step
    {state next : σ} {event : ε} {effects : List φ}
    (stepped : step state event = some (next, effects)) :
    Reachable step state next :=
  ⟨[event], effects, (run_singleton state event).trans stepped⟩

/-! ## What a run keeps -/

/-- What every step keeps behind a run holds at the end of every run. -/
theorem run_induction
    {initial : σ} (holds : σ → List ε → List φ → Prop)
    (base : holds initial [] [])
    (kept : ∀ state events effects event next more,
      run step initial events = some (state, effects) →
        holds state events effects →
          step state event = some (next, more) →
            holds next (events ++ [event]) (effects ++ more))
    {events : List ε} {state : σ} {effects : List φ}
    (ran : run step initial events = some (state, effects)) :
    holds state events effects := by
  induction events using List.reverseRecOn generalizing state effects with
  | nil =>
      simp only [run, Option.some.injEq, Prod.mk.injEq] at ran
      obtain ⟨rfl, rfl⟩ := ran
      exact base
  | append_singleton events event ih =>
      obtain ⟨before, earlier, more, first, last, rfl⟩ :=
        run_snoc_eq_some_iff.mp ran
      exact kept before events earlier event state more first (ih first) last

/-- An invariant of states and histories holds at the end of every run. -/
theorem run_invariant
    {initial : σ} (holds : σ → List ε → List φ → Prop)
    (base : holds initial [] [])
    (kept : ∀ state events effects event next more,
      holds state events effects →
        step state event = some (next, more) →
          holds next (events ++ [event]) (effects ++ more))
    {events : List ε} {state : σ} {effects : List φ}
    (ran : run step initial events = some (state, effects)) :
    holds state events effects :=
  run_induction holds base
    (fun state events effects event next more _ =>
      kept state events effects event next more)
    ran

/-! ## What the states of a run show -/

/-- What the events of a run show, each in the state that it happens in. -/
def gathered {α : Type} (step : σ → ε → Option (σ × List φ))
    (shown : σ → ε → Option α) : σ → List ε → List α
  | _, [] => []
  | state, event :: rest =>
      (shown state event).toList ++
        ((step state event).map fun reaction =>
          gathered step shown reaction.1 rest).getD []

/-- The last event of a run shows something in the state up to it. -/
theorem gathered_snoc
    {α : Type} (shown : σ → ε → Option α) {initial state : σ}
    {events : List ε} {effects : List φ}
    (ran : run step initial events = some (state, effects)) (event : ε) :
    gathered step shown initial (events ++ [event]) =
      gathered step shown initial events ++ (shown state event).toList := by
  induction events generalizing initial effects with
  | nil =>
      obtain ⟨rfl, rfl⟩ := Prod.mk.inj (Option.some.inj ran)
      cases reaction : step initial event <;> simp [gathered, reaction]
  | cons first rest ih =>
      obtain ⟨reached, before, after, stepped, following, rfl⟩ :=
        run_cons_eq_some_iff.mp ran
      simp [gathered, stepped, ih following]

/-! ## Journals -/

/-- What stands at a place stays there as a history grows. -/
theorem getElem?_append_of_eq_some
    {α : Type} {items : List α} {item : α} {index : Nat}
    (found : items[index]? = some item) (more : List α) :
    (items ++ more)[index]? = some item := by
  obtain ⟨inside, _⟩ := List.getElem?_eq_some_iff.mp found
  rw [List.getElem?_append_left inside, found]

/-- A history shows in the end what its last item shows. -/
theorem filterMap_snoc
    {α β : Type} (shown : α → Option β) (items : List α) (item : α) :
    (items ++ [item]).filterMap shown =
      items.filterMap shown ++ (shown item).toList := by
  rw [List.filterMap_append]
  cases seen : shown item <;> simp [seen]

/-- A step that keeps the event in front of its effects. -/
def recorded (step : σ → ε → Option (σ × List φ)) (state : σ) (event : ε) :
    Option (σ × List (ε ⊕ φ)) :=
  (step state event).map fun reaction =>
    (reaction.1, .inl event :: reaction.2.map .inr)

theorem recorded_eq_some_iff
    {state next : σ} {event : ε} {entries : List (ε ⊕ φ)} :
    recorded step state event = some (next, entries) ↔
      ∃ effects, step state event = some (next, effects) ∧
        entries = .inl event :: effects.map .inr := by
  unfold recorded
  constructor
  · intro kept
    obtain ⟨⟨state, effects⟩, stepped, equal⟩ := Option.map_eq_some_iff.mp kept
    obtain ⟨rfl, rfl⟩ := Prod.mk.inj equal
    exact ⟨effects, stepped, rfl⟩
  · rintro ⟨effects, stepped, rfl⟩
    simp [stepped]

end BuildWatch
