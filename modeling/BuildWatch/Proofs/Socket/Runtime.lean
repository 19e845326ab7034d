import BuildWatch.Proofs.Socket.Closing
import BuildWatch.Socket.Runtime

/-!
# Two tasks take the turns of tasks

A runtime decides who goes on, and for how long.  Whatever it decides, what
becomes of the transport is what some turns of its tasks make of it, in some
order.  So what holds for every order of turns holds for a runtime, whatever
it prefers and however often its tasks may use the transport in a row.
-/

namespace BuildWatch

namespace SharedSocket

variable {shared after : SharedSocket} {ticket : Nat} {effects : List Effect}

/-- A turn lets the task go on, or tells it that the transport is closed. -/
theorem reachable_turn
    {preference : Preference}
    (went : shared.turn preference ticket = some (after, effects)) :
    Reachable step shared after := by
  have resumed
      (kept :
        (shared.step (.resume ticket)).filter
            (fun reached => !starves ticket shared reached.1) =
          some (after, effects)) :
      Reachable step shared after :=
    reachable_of_step (Option.filter_eq_some_iff.mp kept).1
  cases preference with
  | interruption =>
      simp only [turn, Option.orElse_eq_orElse, Option.orElse_eq_or,
        Option.or_eq_some_iff] at went
      rcases went with told | ⟨_, kept⟩
      · exact reachable_of_step told
      · exact resumed kept
  | progress =>
      simp only [turn, Option.orElse_eq_orElse, Option.orElse_eq_or,
        Option.or_eq_some_iff] at went
      rcases went with kept | ⟨_, told⟩
      · exact resumed kept
      · exact reachable_of_step told

/-- A task that goes on takes turn after turn. -/
theorem reachable_advance
    (preference : Preference) (ticket turns : Nat) (shared : SharedSocket) :
    Reachable step shared (shared.advance preference ticket turns).2 := by
  induction turns generalizing shared with
  | zero => exact .refl shared
  | succ turns ih =>
      unfold advance
      split
      next => exact .refl shared
      next after effects went =>
        split
        next => exact reachable_turn went
        next => exact (reachable_turn went).trans (ih after)

/-! ## Closed for ever -/

theorem closed_of_step
    {event : Event} (closed : shared.server.channel.closed = true)
    (stepped : step shared event = some (after, effects)) :
    after.server.channel.closed = true := by
  have turned
      (alone :
        (∃ ticket, event = .resume ticket) ∨
          ∃ ticket, event = .interrupt ticket) :
      after.server.channel.closed = true := by
    obtain ⟨_, task, _, turn, turned, equal⟩ := turned_of_step alone stepped
    rw [show after = _ from congrArg Prod.fst equal, server_proceed,
      turned.closed, closed]
  cases event with
  | resume ticket => exact turned (.inl ⟨ticket, rfl⟩)
  | interrupt ticket => exact turned (.inr ⟨ticket, rfl⟩)
  | serve path =>
      obtain ⟨rfl, rfl⟩ := Prod.mk.inj (Option.some.inj stepped)
      exact
        (congrArg LineChannel.closed
          (SocketServer.channel_bind path shared.server shared.network)).trans
          closed
  | accept =>
      simp only [step] at stepped
      split at stepped <;>
        (obtain ⟨rfl, rfl⟩ := Prod.mk.inj (Option.some.inj stepped)
         exact closed)
  | close =>
      obtain ⟨rfl, rfl⟩ := Prod.mk.inj (Option.some.inj stepped)
      rfl
  | send | receive | outside =>
      obtain ⟨rfl, rfl⟩ := Prod.mk.inj (Option.some.inj stepped)
      exact closed

/-- A transport that is marked as closed stays so. -/
theorem closed_of_reachable
    (closed : shared.server.channel.closed = true)
    (reachable : Reachable step shared after) :
    after.server.channel.closed = true := by
  obtain ⟨events, effects, ran⟩ := reachable
  exact run_invariant
    (fun state _ _ => state.server.channel.closed = true) closed
    (fun _ _ _ _ _ _ still stepped => closed_of_step still stepped)
    ran

end SharedSocket

namespace Loopback

/-- The peer that hangs up is somebody else to the transport. -/
theorem shared_dropPeer (loopback : Loopback) :
    loopback.dropPeer.shared =
      { loopback.shared with network := loopback.dropPeer.network } := by
  unfold dropPeer
  split <;> rfl

theorem reachable_connectPeer
    {loopback after : Loopback} {result : Except IoKind Unit}
    (connected : loopback.connectPeer = (result, after)) :
    Reachable SharedSocket.step loopback.shared after.shared := by
  unfold connectPeer at connected
  split at connected
  next =>
    cases connected
    exact .refl _
  next endpoint network _ =>
    cases connected
    refine ⟨[.outside fun _ =>
      (loopback.withNetwork network).dropPeer.network], [], ?_⟩
    rw [run_singleton]
    exact congrArg (fun shared => some (shared, []))
      (shared_dropPeer (loopback.withNetwork network)).symm

end Loopback

namespace Runtime

open SharedSocket (Event Outcome)

variable {runtime after : Runtime} {preference : Preference}

/-- Some turns of the tasks lead from one state of a runtime to another. -/
def Follows (runtime after : Runtime) : Prop :=
  Reachable SharedSocket.step runtime.shared after.shared

theorem follows_runAcceptor (preference : Preference) (runtime : Runtime) :
    Follows runtime (runtime.runAcceptor preference) := by
  unfold runAcceptor
  split
  next => exact .refl _
  next ticket _ =>
    have advanced :=
      SharedSocket.reachable_advance preference ticket
        SharedSocket.acceptTurns runtime.shared
    split
    next found =>
      rw [found] at advanced
      exact advanced
    next found =>
      rw [found] at advanced
      exact advanced

theorem follows_yield (preference : Preference) (runtime : Runtime) :
    Follows runtime (runtime.yield preference) := by
  unfold yield
  split
  next => exact follows_runAcceptor preference runtime
  next => exact .refl _

theorem follows_spend
    (preference : Preference) (uses : Nat) (runtime : Runtime) :
    Follows runtime (runtime.spend preference uses) := by
  unfold spend
  split
  next => exact .refl _
  next => exact follows_yield preference runtime

theorem follows_giveWay
    (preference : Preference) (wait : SocketWait) (runtime : Runtime) :
    Follows runtime (runtime.giveWay preference wait) := by
  unfold giveWay
  split
  next => exact follows_yield preference runtime
  next => exact .refl _

/-- Whoever waits lets the other task go on, and then goes on. -/
theorem follows_drive
    (preference : Preference) (ticket turns : Nat) (runtime : Runtime) :
    Follows runtime (runtime.drive preference ticket turns).2 := by
  induction turns generalizing runtime with
  | zero => exact .refl _
  | succ turns ih =>
      unfold drive
      split
      next => exact .refl _
      next wait _ =>
        have ready :=
          (follows_giveWay preference wait runtime).trans
            (follows_spend preference
              ((runtime.giveWay preference wait).shared.uses preference
                ticket) _)
        dsimp only
        split
        next shared effects went =>
          have further := ready.trans (SharedSocket.reachable_turn went)
          split
          next => exact further
          next => exact further.trans (ih (withShared _ shared))
        next =>
          split
          next => exact (ready.trans (follows_yield _ _)).trans (ih _)
          next => exact ready

theorem follows_call
    {event : Event} {outcome : Option Outcome}
    (called : runtime.call preference event = some (outcome, after)) :
    Follows runtime after := by
  obtain ⟨⟨shared, effects⟩, stepped, rest⟩ :=
    Option.bind_eq_some_iff.mp called
  have started := reachable_of_step stepped
  dsimp only at rest
  split at rest
  next =>
    cases rest
    exact started
  next =>
    have driven : (drive _ _ _ _).2 = after :=
      congrArg Prod.snd (Option.some.inj rest)
    rw [← driven]
    exact started.trans (follows_drive _ _ _ (runtime.withShared shared))

theorem follows_startAcceptor
    (started : runtime.startAcceptor preference = some after) :
    Follows runtime after := by
  obtain ⟨⟨shared, effects⟩, stepped, rest⟩ :=
    Option.bind_eq_some_iff.mp started
  have begun := reachable_of_step stepped
  dsimp only at rest
  split at rest
  next =>
    cases rest
    exact begun
  next =>
    cases rest
    exact begun.trans
      (follows_runAcceptor preference
        { runtime.withShared shared with
          budget := budgetOfTurn
          acceptor := some runtime.shared.nextTicket
          accepted := none })

/-- The peer connects while the tasks wait. -/
theorem follows_connectPeer (preference : Preference) (runtime : Runtime) :
    Follows runtime (runtime.connectPeer preference).2 := by
  unfold connectPeer
  split
  next => exact .refl _
  next loopback connected =>
    exact (Loopback.reachable_connectPeer connected).trans
      (follows_yield preference { runtime with loopback })

/-! ## Histories of a runtime -/

/-- What a runtime comes to; each operation has a preference of its own. -/
inductive Reached (start : Runtime) : Runtime → Prop where
  | start : Reached start start
  | called {runtime after : Runtime} {preference : Preference}
      {event : Event} {outcome : Option Outcome}
      (reached : Reached start runtime)
      (called : runtime.call preference event = some (outcome, after)) :
      Reached start after
  | started {runtime after : Runtime} {preference : Preference}
      (reached : Reached start runtime)
      (started : runtime.startAcceptor preference = some after) :
      Reached start after
  | joined {runtime : Runtime} (preference : Preference)
      (reached : Reached start runtime) :
      Reached start (runtime.joinAcceptor preference).2
  | connected {runtime : Runtime} (preference : Preference)
      (reached : Reached start runtime) :
      Reached start (runtime.connectPeer preference).2
  /-- Somebody else on the machine does something. -/
  | changed {runtime : Runtime} (change : Network → Network)
      (reached : Reached start runtime) :
      Reached start
        (runtime.withShared
          { runtime.shared with network := change runtime.shared.network })

/-- All that a runtime comes to is what turns of its tasks lead to. -/
theorem follows_of_reached
    {start : Runtime} (reached : Reached start runtime) :
    Follows start runtime := by
  induction reached with
  | start => exact .refl _
  | called _ called ih => exact ih.trans (follows_call called)
  | started _ started ih => exact ih.trans (follows_startAcceptor started)
  | @joined runtime preference _ ih =>
      exact ih.trans (follows_runAcceptor preference runtime)
  | @connected runtime preference _ ih =>
      exact ih.trans (follows_connectPeer preference runtime)
  | @changed runtime change _ ih =>
      have changed :
          runtime.shared.step (.outside change) =
            some
              ({ runtime.shared with
                  network := change runtime.shared.network },
                []) :=
        rfl
      exact ih.trans (reachable_of_step changed)

/-- However a runtime goes on, a closed transport has no connection. -/
theorem hasConnection_eq_false_of_reached
    {start : Runtime} (closed : start.shared.server.channel.closed = true)
    (reached : Reached start runtime) :
    runtime.shared.hasConnection = false := by
  have still :=
    SharedSocket.closed_of_reachable closed (follows_of_reached reached)
  simp [SharedSocket.hasConnection, LineChannel.isConnected, still]

end Runtime

end BuildWatch
