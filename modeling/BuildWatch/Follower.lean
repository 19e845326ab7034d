import BuildWatch.Watcher

/-!
# Following a build

A follower connects, asks for the stream of cycles, takes cycles until there
is an error or it has enough, leaves the stream and disconnects.  It goes on
whenever the call that it waits for has ended.
-/

namespace BuildWatch

/-- How a follower leaves its stream. -/
inductive Farewell where
  | stops
  | drops
deriving DecidableEq

/-- How far a follower is. -/
inductive FollowerPhase where
  | connecting
  | awaiting
  | following
  | left
deriving DecidableEq

/-- Someone who follows a build. -/
structure Follower where
  /-- How many cycles it takes at most. -/
  limit : Option Nat
  farewell : Farewell
  phase : FollowerPhase
  /-- The version that it found once it was connected. -/
  version : Option Version
  /-- The capabilities that it found once it was connected. -/
  capabilities : Option Capabilities
deriving DecidableEq

namespace Follower

variable {World : Type}

/-- A follower that is to connect. -/
def new (limit : Option Nat) (farewell : Farewell) : Follower :=
  ⟨limit, farewell, .connecting, none, none⟩

/-- Whether a follower has enough cycles. -/
def satisfied (follower : Follower) (taken : Nat) : Bool :=
  follower.limit.any (· ≤ taken)

/-- The only stream of a follower. -/
def stream : Nat := 0

/-- Leaves the stream and disconnects. -/
def leave (channels : ConnectionId → Channel World) (follower : Follower)
    (watcher : Watcher) (world : World) : Follower × Watcher × World :=
  let farewell : CycleStream.Event := match follower.farewell with
    | .stops => .stop
    | .drops => .drop false
  let (parted, before) :=
    Watcher.call channels watcher (.stream stream farewell) world
  let (gone, after) :=
    Watcher.call channels parted (.client .disconnect) before
  ({ follower with phase := .left }, gone, after)

/-- Asks for the next cycle, unless there are enough. -/
def want (channels : ConnectionId → Channel World) (follower : Follower)
    (watcher : Watcher) (world : World) : Follower × Watcher × World :=
  if follower.satisfied watcher.items.length then
    leave channels follower watcher world
  else
    let (asked, after) :=
      Watcher.call channels watcher (.stream stream .next) world
    ({ follower with phase := .following }, asked, after)

/-- Whether the stream waits for nothing. -/
def ready (watcher : Watcher) : Bool :=
  watcher.machine.streams[stream]?.any fun found =>
    found.activity = .idle

/-- Goes on if the call that the follower waits for has ended. -/
def advance (channels : ConnectionId → Channel World) (follower : Follower)
    (watcher : Watcher) (world : World) : Follower × Watcher × World :=
  match follower.phase, watcher.outcomes.getLast? with
  | .connecting, some (.attached (.ok ())) =>
      let (asked, after) :=
        Watcher.call channels watcher (.client .awaitCycles) world
      ({ follower with
          phase := .awaiting
          version := watcher.machine.client.version
          capabilities := watcher.machine.client.capabilities },
        asked, after)
  | .connecting, some (.attached (.error _)) =>
      ({ follower with phase := .left }, watcher, world)
  | .awaiting, some (.awaited (.ok _)) =>
      want channels follower watcher world
  | .awaiting, some (.awaited (.error _)) =>
      let (gone, after) :=
        Watcher.call channels watcher (.client .disconnect) world
      ({ follower with phase := .left }, gone, after)
  | .following, _ =>
      if ready watcher then
        match watcher.items.getLast? with
        | some (some (.ok _)) => want channels follower watcher world
        | _ => leave channels follower watcher world
      else (follower, watcher, world)
  | _, _ => (follower, watcher, world)

end Follower

end BuildWatch
