/-!
# Runs

A machine reacts to an event with a new state and effects, or the event
cannot happen in its state.  A run reacts to the events of a list in turn.
Every order in which concurrent tasks can interleave is such a list.
-/

namespace BuildWatch

variable {σ ε φ : Type}

/-- Reacts to events in turn; the effects are those of all of them. -/
def run (step : σ → ε → Option (σ × List φ)) :
    σ → List ε → Option (σ × List φ)
  | state, [] => some (state, [])
  | state, event :: rest => do
      let (next, effects) ← step state event
      let (final, more) ← run step next rest
      some (final, effects ++ more)

/-- The states that some run leads to. -/
def Reachable (step : σ → ε → Option (σ × List φ)) (initial state : σ) :
    Prop :=
  ∃ events effects, run step initial events = some (state, effects)

theorem run_append
    {step : σ → ε → Option (σ × List φ)} {state : σ} {first second : List ε} :
    run step state (first ++ second) =
      (run step state first).bind fun middle =>
        (run step middle.1 second).map fun final =>
          (final.1, middle.2 ++ final.2) := by
  induction first generalizing state with
  | nil =>
      cases found : run step state second <;> simp [run, found]
  | cons event rest ih =>
      cases reaction : step state event with
      | none => simp [run, reaction]
      | some next =>
          cases following : run step next.1 rest with
          | none => simp [run, reaction, ih, following]
          | some middle =>
              cases found : run step middle.1 second <;>
                simp [run, reaction, ih, following, found]

end BuildWatch
