import BuildWatch.Socket.Loopback

/-!
# Two tasks on one thread

Whoever calls the transport of a loopback is a task, and another one may
accept the peer meanwhile.  They share one thread.  A task goes on until it
has to wait, and then the other one can go on.  It also has to wait when it
used the transport too often in a row.

A half of the connection goes to whoever wanted it first.  A task that has
what it waited for, and also sees that the transport is closed, goes on with
either: every call says what is preferred then.
-/

namespace BuildWatch

/-- What a task goes on with that could go on with either. -/
inductive Preference where
  /-- That the transport is closed. -/
  | interruption
  /-- What it waited for. -/
  | progress

namespace SharedSocket

/-- What a task waits for, if it is not done. -/
def wait? (ticket : Nat) (shared : SharedSocket) : Option SocketWait :=
  (shared.find? ticket).map (·.wait)

/-- What a task came to, if it is done. -/
def outcome? (ticket : Nat) (effects : List Effect) : Option Outcome :=
  effects.findSome? fun
    | .finish own outcome => if own = ticket then some outcome else none
    | _ => none

/-- How many bytes can be received without waiting. -/
def unread (shared : SharedSocket) : Nat :=
  (shared.server.channel.reader.map (·.available shared.network)).getD 0

/-- Whether a task that waits for a line still waits, with no more of it. -/
def starves (ticket : Nat) (before after : SharedSocket) : Bool :=
  match before.wait? ticket, after.wait? ticket with
  | some .line, some .line => after.unread = before.unread
  | _, _ => false

/-- A turn of a task, if it does not have to wait. -/
def turn (preference : Preference) (ticket : Nat) (shared : SharedSocket) :
    Option (SharedSocket × List Effect) :=
  let interrupted := shared.step (.interrupt ticket)
  let resumed := (shared.step (.resume ticket)).filter fun (after, _) =>
    !starves ticket shared after
  match preference with
  | .interruption => interrupted <|> resumed
  | .progress => resumed <|> interrupted

/-- Lets a task go on until it has to wait, or for so many turns. -/
def advance (preference : Preference) (ticket : Nat) :
    (turns : Nat) → SharedSocket → Option Outcome × SharedSocket
  | 0, shared => (none, shared)
  | turns + 1, shared =>
      match shared.turn preference ticket with
      | none => (none, shared)
      | some (after, effects) =>
          match outcome? ticket effects with
          | some outcome => (some outcome, after)
          | none => advance preference ticket turns after

/-- How many turns a task takes that accepts a peer, at most. -/
def acceptTurns : Nat := 3

/-- How often a task uses the transport in its next turn. -/
def uses (preference : Preference) (ticket : Nat) (shared : SharedSocket) :
    Nat :=
  let inbox (shared : SharedSocket) : Nat :=
    (shared.server.channel.readEnd.map fun endpoint =>
      (shared.network.terminal endpoint).inbox.length).getD 0
  match shared.wait? ticket, shared.turn preference ticket with
  | some .line, some (after, _) =>
      (inbox shared - inbox after + Network.chunk - 1) / Network.chunk
  | some .line, none => 0
  | _, _ => 1

end SharedSocket

/-- A loopback and how its two tasks stand. -/
structure Runtime where
  loopback : Loopback
  /-- The task that accepts, while it is not done. -/
  acceptor : Option Nat
  /-- Whether it was told that somebody connected. -/
  awake : Bool
  /-- What it came to. -/
  accepted : Option (Except TransportError Unit)
  /-- How often the caller can use the transport until it has to wait. -/
  budget : Nat

namespace Runtime

open SharedSocket

/-- How often in a row a task can use the transport. -/
def budgetOfTurn : Nat := 128

/-- A loopback that nobody uses yet. -/
def new (loopback : Loopback) : Runtime :=
  ⟨loopback, none, false, none, budgetOfTurn⟩

/-- The transport and its tasks. -/
def shared (runtime : Runtime) : SharedSocket := runtime.loopback.shared

/-- The runtime with another state of the transport and its tasks. -/
def withShared (runtime : Runtime) (shared : SharedSocket) : Runtime :=
  { runtime with loopback := { runtime.loopback with shared } }

/-- What the task that accepts waits for. -/
def acceptorWait? (runtime : Runtime) : Option SocketWait :=
  runtime.acceptor.bind fun ticket => runtime.shared.wait? ticket

/-- Whether the task that accepts goes on once the caller waits. -/
def eager (runtime : Runtime) : Bool :=
  match runtime.acceptorWait? with
  | some (.peer _) => runtime.awake
  | other => other.isSome

/-- Whether the task that accepts wanted a half first that a task wants. -/
def outrun (runtime : Runtime) (wait : SocketWait) : Bool :=
  match wait, runtime.acceptorWait? with
  | .receive, some (.attachReader _ _) => true
  | .dropReader, some (.attachReader _ _) => true
  | .send _, some (.attachWriter _ _) => true
  | .dropWriter, some (.attachWriter _ _) => true
  | _, _ => false

section Turns

variable (preference : Preference)

/-- Lets the task that accepts go on as far as it can. -/
def runAcceptor (runtime : Runtime) : Runtime :=
  match runtime.acceptor with
  | none => runtime
  | some ticket =>
      match runtime.shared.advance preference ticket acceptTurns with
      | (some (.accepted result), shared) =>
          { runtime.withShared shared with
            acceptor := none, awake := false, accepted := some result }
      | (_, shared) => { runtime.withShared shared with awake := false }

/-- Lets the caller wait, so that the other task can go on. -/
def yield (runtime : Runtime) : Runtime :=
  { (if runtime.eager then runtime.runAcceptor preference else runtime) with
    budget := budgetOfTurn }

/-- Lets the caller use the transport, and wait if that is too often. -/
def spend (uses : Nat) (runtime : Runtime) : Runtime :=
  if uses ≤ runtime.budget then
    { runtime with budget := runtime.budget - uses }
  else
    { runtime.yield preference with
      budget := budgetOfTurn - (uses - runtime.budget) }

/-- Lets the other task have a half that it wanted first. -/
def giveWay (wait : SocketWait) (runtime : Runtime) : Runtime :=
  if runtime.outrun wait then runtime.yield preference else runtime

/-- Lets the caller go on until it is done, or has to wait for good. -/
def drive (ticket : Nat) :
    (turns : Nat) → Runtime → Option Outcome × Runtime
  | 0, runtime => (none, runtime)
  | turns + 1, runtime =>
      match runtime.shared.wait? ticket with
      | none => (none, runtime)
      | some wait =>
          let first := runtime.giveWay preference wait
          let ready :=
            first.spend preference (first.shared.uses preference ticket)
          match ready.shared.turn preference ticket with
          | some (shared, effects) =>
              match outcome? ticket effects with
              | some outcome => (some outcome, ready.withShared shared)
              | none => drive ticket turns (ready.withShared shared)
          | none =>
              if ready.eager then
                drive ticket turns (ready.yield preference)
              else (none, ready)

/-- Calls the transport, and goes on until the call is done or stuck. -/
def call (event : SharedSocket.Event) (runtime : Runtime) :
    Option (Option Outcome × Runtime) := do
  let ticket := runtime.shared.nextTicket
  let (shared, effects) ← runtime.shared.step event
  match outcome? ticket effects with
  | some outcome => some (some outcome, runtime.withShared shared)
  | none =>
      let turns := runtime.shared.unread + 2 * acceptTurns
      some (drive preference ticket turns (runtime.withShared shared))

/-- Starts a task that accepts, and lets it go on as far as it can. -/
def startAcceptor (runtime : Runtime) : Option Runtime := do
  let ticket := runtime.shared.nextTicket
  let (shared, effects) ← runtime.shared.step .accept
  let started := { runtime.withShared shared with budget := budgetOfTurn }
  match outcome? ticket effects with
  | some (.accepted result) =>
      some { started with acceptor := none, accepted := some result }
  | _ =>
      some (({ started with
        acceptor := some ticket, accepted := none }).runAcceptor preference)

/-- Waits for the task that accepts, and takes what it came to. -/
def joinAcceptor (runtime : Runtime) :
    Option (Except TransportError Unit) × Runtime :=
  let after := runtime.runAcceptor preference
  (after.accepted, { after with accepted := none, budget := budgetOfTurn })

/-- Connects the peer, for which the caller waits. -/
def connectPeer (runtime : Runtime) : Except IoKind Unit × Runtime :=
  match runtime.loopback.connectPeer with
  | (.error kind, _) => (.error kind, runtime)
  | (.ok (), loopback) =>
      let after :=
        ({ runtime with loopback }.yield preference)
      (.ok (), { after with awake := after.acceptor.isSome })

end Turns

end Runtime

end BuildWatch
