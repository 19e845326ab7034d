import BuildWatch.Run
import BuildWatch.Transport

/-!
# Machines on a transport

A hosted machine is a machine together with the operations that it has asked
its transport for.  It goes on by itself as long as the transport does not
have to wait: of the operations that can be done, the one that was asked for
first is done next, and what it comes to is an event of the machine.  When
every operation has to wait, the machine may still have events of its own.
-/

namespace BuildWatch

/-- An operation that was asked for and is not done. -/
structure Pending (Operation : Type) where
  operation : Operation
  /-- Whether it was tried before. -/
  attempt : Attempt

/-- How a machine with states `σ`, events `ε` and effects `φ` is hosted. -/
structure Host (World σ ε φ Operation : Type) where
  step : σ → ε → Option (σ × List φ)
  operation? : φ → Option Operation
  /-- Tries an operation; gives the event of its result unless it waits. -/
  attempt : σ → Operation → Attempt → World → Option ε × World
  /-- The event that is next when every operation waits. -/
  internal? : σ → Option ε

/-- A machine and what it has asked its transport for. -/
structure Hosted (σ φ Operation : Type) where
  machine : σ
  /-- What is not done yet, in the order in which it was asked for. -/
  pending : List (Pending Operation)
  /-- All effects that are no operations, in the order in which they came. -/
  emitted : List φ

namespace Hosted

variable {World σ ε φ Operation : Type}

/-- A machine that has asked for nothing. -/
def new (machine : σ) : Hosted σ φ Operation := ⟨machine, [], []⟩

/-- The same machine with its effects so far forgotten. -/
def quiet (hosted : Hosted σ φ Operation) : Hosted σ φ Operation :=
  { hosted with emitted := [] }

/-- Lets an event happen, if it can. -/
def react (host : Host World σ ε φ Operation)
    (hosted : Hosted σ φ Operation) (event : ε) : Hosted σ φ Operation :=
  match host.step hosted.machine event with
  | none => hosted
  | some (machine, effects) =>
      { machine
        pending :=
          hosted.pending
            ++ (effects.filterMap host.operation?).map (⟨·, .first⟩)
        emitted :=
          hosted.emitted
            ++ effects.filter fun effect => (host.operation? effect).isNone }

/--
Tries operations in turn, up to the first that does not wait.  Gives its
event, the operations that are left, and the world behind all attempts.
-/
def firstReady (host : Host World σ ε φ Operation) (machine : σ) :
    List (Pending Operation) → World →
      Option ε × List (Pending Operation) × World
  | [], world => (none, [], world)
  | pending :: rest, world =>
      match host.attempt machine pending.operation pending.attempt world with
      | (some event, after) => (some event, rest, after)
      | (none, after) =>
          let (event, left, final) := firstReady host machine rest after
          (event, ⟨pending.operation, .again⟩ :: left, final)

/-- Goes one step on, if there is one; the world may change all the same. -/
def advance (host : Host World σ ε φ Operation)
    (hosted : Hosted σ φ Operation) (world : World) :
    Bool × Hosted σ φ Operation × World :=
  let (event, left, after) :=
    firstReady host hosted.machine hosted.pending world
  let tried := { hosted with pending := left }
  match event <|> host.internal? hosted.machine with
  | some event => (true, tried.react host event, after)
  | none => (false, tried, after)

/-- Goes on until every operation waits, or for so many steps. -/
def settle (host : Host World σ ε φ Operation) :
    (steps : Nat) → Hosted σ φ Operation → World →
      Hosted σ φ Operation × World
  | 0, hosted, world => (hosted, world)
  | steps + 1, hosted, world =>
      match advance host hosted world with
      | (true, next, after) => settle host steps next after
      | (false, next, after) => (next, after)

end Hosted

end BuildWatch
