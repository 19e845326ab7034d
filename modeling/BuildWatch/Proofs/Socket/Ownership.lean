import BuildWatch.Proofs.Runs
import BuildWatch.Proofs.Socket.Files
import BuildWatch.Socket.Machine

/-!
# Whose socket is at a path

A transport remembers the path that it bound last until it is closed, and no
more than that: whoever binds the same path later takes it over, and the first
one does not notice.  Closing a transport removes what is at that path and
nothing else.  So it spares the sockets of all other transports, except one
that took over the very path.
-/

namespace BuildWatch

namespace SharedMachine

variable {machine next : SharedMachine} {event : Event} {effect : Effect}
  {effects more : List Effect} {count number : Nat} {path : String}
  {socket : Nat}

/-! ## What a history tells of a transport -/

/-- The transport that an effect is of. -/
def Effect.owner : Effect → Nat
  | .bound owner _ _ => owner
  | .refused owner _ _ => owner
  | .closed owner _ => owner

/-- The socket that was bound. -/
def Effect.socket? : Effect → Option Nat
  | .bound _ _ socket => some socket
  | _ => none

/-- Whether a transport was closed. -/
def Effect.closes (number : Nat) : Effect → Bool
  | .closed owner _ => owner = number
  | _ => false

/-- What a transport holds from then on, if an effect changes that. -/
def Effect.hold? (number : Nat) : Effect → Option (Option (String × Nat))
  | .bound owner path socket =>
      if owner = number then some (some (path, socket)) else none
  | .refused _ _ _ => none
  | .closed owner _ => if owner = number then some none else none

/--
What a transport bound last, unless it was closed since: a path, and the
socket that it bound to it.
-/
def held (number : Nat) (effects : List Effect) : Option (String × Nat) :=
  (effects.filterMap (Effect.hold? number)).getLast?.join

/-- The sockets that were bound, in order. -/
def sockets (effects : List Effect) : List Nat :=
  effects.filterMap Effect.socket?

theorem sockets_snoc (effects : List Effect) (effect : Effect) :
    sockets (effects ++ [effect]) =
      sockets effects ++ effect.socket?.toList :=
  filterMap_snoc Effect.socket? effects effect

/-- What a transport is after a history. -/
def recalled (number : Nat) (effects : List Effect) : SocketServer where
  path := (held number effects).map Prod.fst
  listener := (held number effects).map Prod.snd
  accepting := none
  channel :=
    if effects.any (Effect.closes number) then LineChannel.detached.markClosed
    else LineChannel.detached

theorem held_snoc (number : Nat) (effects : List Effect) (effect : Effect) :
    held number (effects ++ [effect]) =
      (effect.hold? number).getD (held number effects) := by
  rw [held, filterMap_snoc]
  cases effect.hold? number <;> simp [held]

/-- What others do changes nothing about a transport. -/
theorem recalled_snoc_of_ne
    {other : Nat} (different : effect.owner ≠ other)
    (effects : List Effect) :
    recalled other (effects ++ [effect]) = recalled other effects := by
  have still : effect.hold? other = none := by
    cases effect <;> simp_all [Effect.hold?, Effect.owner]
  have unclosed : effect.closes other = false := by
    cases effect <;> simp_all [Effect.closes, Effect.owner]
  simp [recalled, held_snoc, still, unclosed]

/-- A transport that is not bound anywhere hangs up on nobody. -/
theorem shutdown_recalled
    (number : Nat) (effects : List Effect) (network : Network) :
    (recalled number effects).channel.shutdown network =
      (LineChannel.detached.markClosed, network) := by
  unfold recalled
  dsimp only
  split <;> rfl

theorem recalled_bound
    (number : Nat) (path : String) (socket : Nat) (effects : List Effect) :
    recalled number (effects ++ [.bound number path socket]) =
      { recalled number effects with
        path := some path, listener := some socket } := by
  simp [recalled, held_snoc, Effect.hold?, Effect.closes]

theorem recalled_refused
    (number : Nat) (path : String) (error : TransportError)
    (effects : List Effect) :
    recalled number (effects ++ [.refused number path error]) =
      recalled number effects := by
  simp [recalled, held_snoc, Effect.hold?, Effect.closes]

theorem recalled_closed
    (number : Nat) (result : Except TransportError Unit)
    (effects : List Effect) (network : Network) :
    recalled number (effects ++ [.closed number result]) =
      ((recalled number effects).close network).2.1 := by
  rw [SocketServer.close_eq_removePath, SocketServer.server_removePath,
    SocketServer.deafened, shutdown_recalled]
  simp [recalled, held_snoc, Effect.hold?, Effect.closes]

/-- A transport holds nothing that it did not bind. -/
theorem bound_mem_of_held
    (holds : held number effects = some (path, socket)) :
    .bound number path socket ∈ effects := by
  have last := List.mem_of_getLast? (Option.join_eq_some_iff.mp holds)
  obtain ⟨effect, member, tells⟩ := List.mem_filterMap.mp last
  cases effect with
  | bound owner bound socket =>
      simp only [Effect.hold?, Option.ite_none_right_eq_some,
        Option.some.injEq, Prod.mk.injEq] at tells
      obtain ⟨rfl, rfl, rfl⟩ := tells
      exact member
  | refused => cases tells
  | closed => simp [Effect.hold?] at tells

/-- What a transport holds, it bound since, or it has held it since. -/
theorem held_append
    {before later : List Effect}
    (holds : held number (before ++ later) = some (path, socket)) :
    .bound number path socket ∈ later ∨
      held number before = some (path, socket) ∧
        ∀ effect ∈ later, effect.hold? number = none := by
  cases silent : later.filterMap (Effect.hold? number) with
  | nil =>
      refine .inr ⟨?_, List.filterMap_eq_nil_iff.mp silent⟩
      simpa [held, List.filterMap_append, silent] using holds
  | cons first rest =>
      refine .inl (bound_mem_of_held ?_)
      rw [← holds, held, held, List.filterMap_append, silent,
        List.getLast?_append, List.getLast?_cons, Option.some_or]

/-- The machine after a history when a transport is closed. -/
def closed (number : Nat) (effects : List Effect) (machine : SharedMachine) :
    SharedMachine :=
  machine.replace number
    ((recalled number effects).close machine.network).2.1
    ((recalled number effects).close machine.network).2.2

theorem node?_closed
    (number : Nat) (effects : List Effect) (machine : SharedMachine)
    (path : String) :
    (machine.closed number effects).node? path =
      if (held number effects).map Prod.fst = some path ∧
          machine.node? path ≠ some .directory then none
      else machine.node? path :=
  SocketServer.get?_nodes_close (recalled number effects) machine.network path

/-- Whatever socket the path names that a transport holds is removed. -/
theorem node?_closed_of_held
    {own : Nat} (holds : held number effects = some (path, own))
    (named : machine.node? path = some (.socket socket)) :
    (machine.closed number effects).node? path = none := by
  simp [node?_closed, holds, named]

/-! ## What the machine shows of a history -/

/-- The machine as a history tells of it. -/
structure Recorded (count : Nat) (machine : SharedMachine)
    (effects : List Effect) : Prop where
  servers :
    ∀ number, machine.servers[number]? =
      if number < count then some (recalled number effects) else none
  /-- Sockets are numbered in the order in which they were bound. -/
  ascending : (sockets effects).Pairwise (· < ·)
  numbered :
    ∀ socket ∈ sockets effects, socket < machine.network.listeners.length
  /-- A path that was bound names the socket bound to it last, or nothing. -/
  latest :
    ∀ number path earlier, .bound number path earlier ∈ effects →
      machine.node? path = none ∨
        ∃ owner socket, .bound owner path socket ∈ effects ∧
          machine.node? path = some (.socket socket) ∧ earlier ≤ socket

theorem recorded_new (count : Nat) (network : Network) :
    Recorded count (new count network) [] where
  servers := by
    intro number
    simp [new, List.getElem?_replicate, recalled, held, SocketServer.new]
  ascending := List.Pairwise.nil
  numbered := by simp [sockets]
  latest := by simp

theorem mem_sockets_of_bound
    (bound : .bound number path socket ∈ effects) :
    socket ∈ sockets effects :=
  List.mem_filterMap.mpr ⟨_, bound, rfl⟩

namespace Recorded

theorem server_eq
    {server : SocketServer} (recorded : Recorded count machine effects)
    (found : machine.servers[number]? = some server) :
    number < count ∧ server = recalled number effects := by
  rw [recorded.servers number] at found
  split at found
  next known => exact ⟨known, (Option.some.inj found).symm⟩
  next => cases found

/-- A transport that is changed is recalled if its change is. -/
theorem servers_replace
    {server after : SocketServer} {network : Network}
    (recorded : Recorded count machine effects) (effect : Effect)
    (found : machine.servers[effect.owner]? = some server)
    (told : after = recalled effect.owner (effects ++ [effect]))
    (other : Nat) :
    (machine.replace effect.owner after network).servers[other]? =
      if other < count then some (recalled other (effects ++ [effect]))
      else none := by
  have known := (recorded.server_eq found).1
  by_cases same : effect.owner = other
  · subst same
    obtain ⟨inside, _⟩ := List.getElem?_eq_some_iff.mp found
    simp [replace, inside, known, told]
  · rw [recalled_snoc_of_ne same, ← recorded.servers other]
    simp [replace, same]

/-- What binds no socket leaves the record of the sockets as it is. -/
theorem of_unbound
    {after : SharedMachine} (recorded : Recorded count machine effects)
    (servers :
      ∀ number, after.servers[number]? =
        if number < count then some (recalled number (effects ++ [effect]))
        else none)
    (unbound : effect.socket? = none)
    (nodes :
      ∀ path, after.node? path = machine.node? path ∨
        after.node? path = none)
    (same :
      after.network.listeners.length = machine.network.listeners.length) :
    Recorded count after (effects ++ [effect]) where
  servers := servers
  ascending := by
    rw [sockets_snoc, unbound]
    simpa using recorded.ascending
  numbered := by
    rw [sockets_snoc, unbound, same]
    simpa using recorded.numbered
  latest := by
    intro number path earlier bound
    have before : .bound number path earlier ∈ effects := by
      rcases List.mem_append.mp bound with before | last
      · exact before
      · rw [← List.mem_singleton.mp last] at unbound
        cases unbound
    rcases nodes path with kept | removed
    · rw [kept]
      refine (recorded.latest number path earlier before).imp_right ?_
      rintro ⟨owner, socket, member, named⟩
      exact ⟨owner, socket, List.mem_append_left _ member, named⟩
    · exact .inl removed

/-- A socket that is bound is newer than all others. -/
theorem of_bound
    {server : SocketServer} {after : Network}
    (recorded : Recorded count machine effects)
    (found : machine.servers[number]? = some server)
    (nodes :
      ∀ other, after.nodes.get? other =
        if other = path then some (.socket machine.network.listeners.length)
        else machine.node? other)
    (more :
      after.listeners.length = machine.network.listeners.length + 1) :
    Recorded count
      (machine.replace number
        { server with
          path := some path
          listener := some machine.network.listeners.length }
        after)
      (effects ++ [.bound number path machine.network.listeners.length])
    where
  servers := by
    refine recorded.servers_replace
      (.bound number path machine.network.listeners.length) found ?_
    rw [(recorded.server_eq found).2]
    exact (recalled_bound ..).symm
  ascending := by
    rw [sockets_snoc]
    refine List.pairwise_append.mpr
      ⟨recorded.ascending, List.pairwise_singleton _ _, ?_⟩
    intro earlier member last isLast
    rw [List.mem_singleton.mp isLast]
    exact recorded.numbered earlier member
  numbered := by
    intro socket member
    have room : socket < machine.network.listeners.length + 1 := by
      rw [sockets_snoc] at member
      rcases List.mem_append.mp member with before | last
      · exact Nat.lt_succ_of_lt (recorded.numbered socket before)
      · rw [List.mem_singleton.mp last]
        exact Nat.lt_succ_self _
    exact more ▸ room
  latest := by
    intro owner other earlier bound
    rw [node?, replace, nodes]
    split
    next same =>
      subst same
      have own :
          Effect.bound number other machine.network.listeners.length ∈
            effects ++
              [.bound number other machine.network.listeners.length] :=
        List.mem_append_right _ (List.mem_singleton.mpr rfl)
      refine .inr ⟨number, _, own, rfl, ?_⟩
      rcases List.mem_append.mp bound with before | last
      · exact Nat.le_of_lt
          (recorded.numbered earlier (mem_sockets_of_bound before))
      · cases List.mem_singleton.mp last
        exact Nat.le_refl _
    next different =>
      have before : .bound owner other earlier ∈ effects := by
        rcases List.mem_append.mp bound with before | last
        · exact before
        · cases List.mem_singleton.mp last
          exact absurd rfl different
      refine (recorded.latest owner other earlier before).imp_right ?_
      rintro ⟨holder, socket, member, named⟩
      exact ⟨holder, socket, List.mem_append_left _ member, named⟩

theorem step_close
    (recorded : Recorded count machine effects) (known : number < count) :
    machine.step (.close number) =
      some (machine.closed number effects,
        [.closed number
          ((recalled number effects).close machine.network).1]) := by
  simp [SharedMachine.step, closed, recorded.servers number, known]

/-- Every call keeps the record. -/
theorem step
    (recorded : Recorded count machine effects)
    (stepped : machine.step event = some (next, more)) :
    Recorded count next (effects ++ more) := by
  cases event with
  | serve number path =>
      obtain ⟨server, found, bound⟩ := Option.bind_eq_some_iff.mp stepped
      have binding :=
        SocketServer.binding_bind path server machine.network
      generalize server.bind path machine.network = reached
        at bound binding
      cases binding with
      | @refused error after nodes same =>
          obtain ⟨rfl, rfl⟩ := Prod.mk.inj (Option.some.inj bound)
          have told :
              server =
                recalled number (effects ++ [.refused number path error]) :=
            (recorded.server_eq found).2.trans (recalled_refused ..).symm
          exact recorded.of_unbound
            (recorded.servers_replace (.refused number path error) found told)
            rfl (fun other => (nodes other).imp_right And.right) same
      | bound nodes room =>
          obtain ⟨rfl, rfl⟩ := Prod.mk.inj (Option.some.inj bound)
          exact recorded.of_bound found nodes room
  | close number =>
      obtain ⟨server, found, _⟩ := Option.bind_eq_some_iff.mp stepped
      obtain ⟨known, rfl⟩ := recorded.server_eq found
      rw [recorded.step_close known] at stepped
      obtain ⟨rfl, rfl⟩ := Prod.mk.inj (Option.some.inj stepped)
      refine recorded.of_unbound
        (recorded.servers_replace (.closed number _) found
          (recalled_closed ..).symm) rfl (fun path => ?_)
        (SocketServer.length_listeners_close ..)
      rw [node?_closed]
      split
      · exact .inr rfl
      · exact .inl rfl

end Recorded

theorem recorded_run
    {network : Network} {events : List Event}
    (ran : run step (new count network) events = some (machine, effects)) :
    Recorded count machine effects :=
  run_invariant (fun machine _ effects => Recorded count machine effects)
    (recorded_new count network)
    (fun _ _ _ _ _ _ recorded stepped => recorded.step stepped)
    ran

namespace Recorded

/-! ## Sockets in the order in which they were bound -/

/-- What was bound before a socket has a smaller number. -/
theorem lt_of_before
    {before later : List Effect} {owner earlier : Nat} {other : String}
    (recorded : Recorded count machine effects)
    (split : effects = before ++ .bound number path socket :: later)
    (bound : .bound owner other earlier ∈ before) : earlier < socket := by
  have ascending := recorded.ascending
  rw [split, sockets, List.filterMap_append] at ascending
  exact (List.pairwise_append.mp ascending).2.2 earlier
    (mem_sockets_of_bound bound) socket
    (mem_sockets_of_bound List.mem_cons_self)

/-- What was bound after a socket has a larger number. -/
theorem lt_of_later
    {before later : List Effect} {owner newer : Nat} {other : String}
    (recorded : Recorded count machine effects)
    (split : effects = before ++ .bound number path socket :: later)
    (bound : .bound owner other newer ∈ later) : socket < newer := by
  have ascending := recorded.ascending
  rw [split, sockets, List.filterMap_append] at ascending
  have behind := (List.pairwise_append.mp ascending).2.1
  exact (List.pairwise_cons.mp behind).1 newer (mem_sockets_of_bound bound)

/-- A socket was bound once. -/
theorem bound_unique
    {owner : Nat} {other : String}
    (recorded : Recorded count machine effects)
    (bound : .bound number path socket ∈ effects)
    (again : .bound owner other socket ∈ effects) : owner = number := by
  obtain ⟨before, later, split⟩ := List.append_of_mem bound
  rw [split] at again
  rcases List.mem_append.mp again with earlier | behind
  · exact absurd (recorded.lt_of_before split earlier) (Nat.lt_irrefl _)
  · rcases List.mem_cons.mp behind with same | newer
    · cases same
      rfl
    · exact absurd (recorded.lt_of_later split newer) (Nat.lt_irrefl _)

end Recorded

/-! ## Closing a transport -/

/--
A transport bound a socket to the path that another one holds, after that one
did.
-/
def TookOver (other number : Nat) (path : String) (socket : Nat)
    (effects : List Effect) : Prop :=
  ∃ own before later, other ≠ number ∧
    effects = before ++ .bound other path socket :: later ∧
    held number before = some (path, own) ∧
    held number effects = some (path, own)

theorem TookOver.bound
    {other : Nat} (took : TookOver other number path socket effects) :
    .bound other path socket ∈ effects := by
  obtain ⟨own, before, later, _, rfl, _⟩ := took
  exact List.mem_append_right _ List.mem_cons_self

/-- A path that a transport holds names its socket, or one that took over. -/
theorem Recorded.node_of_held
    {own : Nat} (recorded : Recorded count machine effects)
    (holds : held number effects = some (path, own)) :
    machine.node? path = none ∨
      ∃ found, machine.node? path = some (.socket found) ∧
        (found = own ∨ ∃ other, TookOver other number path found effects) := by
  refine (recorded.latest number path own (bound_mem_of_held holds)).imp_right
    ?_
  rintro ⟨owner, found, bound, named, above⟩
  refine ⟨found, named, ?_⟩
  obtain ⟨before, later, split⟩ := List.append_of_mem bound
  rcases held_append (split ▸ holds) with since | ⟨already, silent⟩
  · rcases List.mem_cons.mp since with same | newer
    · cases same
      exact .inl rfl
    · exact absurd above (Nat.not_le.mpr (recorded.lt_of_later split newer))
  · have different : owner ≠ number := by
      rintro rfl
      simpa [Effect.hold?] using silent _ List.mem_cons_self
    exact .inr ⟨owner, own, before, later, different, split, already, holds⟩

/-- What closing a transport does to the files and the transports. -/
structure Spares (number : Nat) (effects : List Effect)
    (machine after : SharedMachine) : Prop where
  /-- The socket that it bound last is removed from its path. -/
  own :
    ∀ path socket, held number effects = some (path, socket) →
      machine.node? path = some (.socket socket) → after.node? path = none
  /-- What is removed is that socket, or one that took its path over. -/
  removed :
    ∀ path, after.node? path ≠ machine.node? path →
      ∃ socket, machine.node? path = some (.socket socket) ∧
        (held number effects = some (path, socket) ∨
          ∃ other, TookOver other number path socket effects)
  /-- The sockets of the others stay, unless they took its path over. -/
  others :
    ∀ path socket other, other ≠ number →
      .bound other path socket ∈ effects →
        machine.node? path = some (.socket socket) →
          after.node? path = some (.socket socket) ∨
            TookOver other number path socket effects
  unbound :
    (∀ path socket, .bound number path socket ∉ effects) →
      after.network = machine.network
  /-- Closing it again changes nothing until it binds another socket. -/
  again :
    ∀ before result later, effects = before ++ .closed number result :: later →
      (∀ path socket, .bound number path socket ∉ later) → after = machine

/-- A transport that was closed holds nothing until it binds again. -/
theorem held_eq_none_of_closed
    {before later : List Effect} {result : Except TransportError Unit}
    (split : effects = before ++ .closed number result :: later)
    (since : ∀ path socket, .bound number path socket ∉ later) :
    held number effects = none := by
  cases holds : held number effects with
  | none => rfl
  | some own =>
      obtain ⟨path, socket⟩ := own
      rcases held_append (split ▸ holds) with bound | ⟨_, silent⟩
      · have newer := (List.mem_cons.mp bound).resolve_left (by simp)
        exact absurd newer (since path socket)
      · simpa [Effect.hold?] using silent _ List.mem_cons_self

/-- Closing a transport that holds nothing leaves the machine as it is. -/
theorem network_close_of_released
    (released : held number effects = none) (network : Network) :
    ((recalled number effects).close network).2.2 = network := by
  have forgotten :
      ((recalled number effects).deafened network).path = none := by
    simp [SocketServer.deafened, recalled, released]
  rw [SocketServer.close_eq_removePath,
    SocketServer.removePath_of_forgotten forgotten,
    SocketServer.silenced, shutdown_recalled]
  simp [recalled, released, SocketServer.stopListening]

/-- Closing a transport again leaves it as it is. -/
theorem recalled_closed_again
    {before later : List Effect} {result : Except TransportError Unit}
    (split : effects = before ++ .closed number result :: later)
    (released : held number effects = none)
    (more : Except TransportError Unit) :
    recalled number (effects ++ [.closed number more]) =
      recalled number effects := by
  have closed : effects.any (Effect.closes number) = true := by
    simp [split, Effect.closes]
  simp [recalled, held_snoc, Effect.hold?, released, closed]

namespace Recorded

/-- What is removed is at the path that the transport holds. -/
theorem removed_closed
    (recorded : Recorded count machine effects)
    (changed :
      (machine.closed number effects).node? path ≠ machine.node? path) :
    ∃ socket, machine.node? path = some (.socket socket) ∧
      (held number effects = some (path, socket) ∨
        ∃ other, TookOver other number path socket effects) := by
  rw [node?_closed] at changed
  split at changed
  next gone =>
    obtain ⟨⟨bound, own⟩, holds, rfl⟩ := Option.map_eq_some_iff.mp gone.1
    obtain ⟨found, named, whose⟩ :=
      (recorded.node_of_held holds).resolve_left (Ne.symm changed)
    refine ⟨found, named, whose.imp_left ?_⟩
    rintro rfl
    exact holds
  next => exact absurd rfl changed

/-- A transport that was closed and has bound nothing since is at rest. -/
theorem closed_again
    {before later : List Effect} {result : Except TransportError Unit}
    (recorded : Recorded count machine effects) (known : number < count)
    (split : effects = before ++ .closed number result :: later)
    (since : ∀ path socket, .bound number path socket ∉ later) :
    machine.closed number effects = machine := by
  have released := held_eq_none_of_closed split since
  have found := recorded.servers number
  rw [if_pos known] at found
  obtain ⟨inside, own⟩ := List.getElem?_eq_some_iff.mp found
  rw [closed, network_close_of_released released,
    ← recalled_closed number (.ok ()), recalled_closed_again split released,
    replace, ← own, List.set_getElem_self inside]

theorem spares
    (recorded : Recorded count machine effects) (known : number < count) :
    Spares number effects machine (machine.closed number effects) where
  own := fun path socket holds named => node?_closed_of_held holds named
  removed := fun path changed => recorded.removed_closed changed
  others := by
    intro path socket other different bound named
    by_cases changed :
        (machine.closed number effects).node? path = machine.node? path
    · exact .inl (changed.trans named)
    · obtain ⟨found, again, whose⟩ := recorded.removed_closed changed
      obtain rfl : found = socket := by
        simpa [named] using again.symm
      rcases whose with holds | ⟨owner, took⟩
      · have own := bound_mem_of_held holds
        exact absurd (recorded.bound_unique own bound) different
      · exact .inr (recorded.bound_unique bound took.bound ▸ took)
  unbound := by
    intro never
    refine network_close_of_released ?_ machine.network
    cases holds : held number effects with
    | none => rfl
    | some own => exact absurd (bound_mem_of_held holds) (never _ _)
  again := fun before result later => recorded.closed_again known

end Recorded

/--
After any calls to the transports on a machine, closing one of them removes
the socket that it bound last from its path, and nothing else: the sockets of
the others stay, unless they were bound to that very path in its place.  A
transport that never bound a socket removes nothing, and closing one again
changes nothing until it binds another socket.
-/
theorem close_removes_own
    {network : Network} {events : List Event}
    (ran : run step (new count network) events = some (machine, effects))
    (known : number < count) :
    ∃ result after,
      machine.step (.close number) = some (after, [.closed number result]) ∧
        Spares number effects machine after := by
  have recorded := recorded_run ran
  exact ⟨_, _, recorded.step_close known, recorded.spares known⟩

/-- A server moves on from a path that another one took over. -/
def movedOn : List Event :=
  [.serve 0 "build.sock", .serve 1 "test.sock", .serve 2 "build.sock",
    .serve 0 "lint.sock"]

theorem close_removes_own_movedOn :
    ∃ machine effects result after,
      run step (new 3 (Network.empty.place "build.sock" .file)) movedOn =
          some (machine, effects) ∧
        machine.step (.close 0) = some (after, [.closed 0 result]) ∧
        machine.node? "lint.sock" = some (.socket 3) ∧
        after.node? "lint.sock" = none ∧
        after.node? "build.sock" = some (.socket 2) := by
  have shown :
      ((run step (new 3 (Network.empty.place "build.sock" .file)) movedOn).map
          fun reached =>
            (reached.2, reached.1.node? "lint.sock",
              reached.1.node? "build.sock")) =
        some
          ([.bound 0 "build.sock" 0, .bound 1 "test.sock" 1,
              .bound 2 "build.sock" 2, .bound 0 "lint.sock" 3],
            some (.socket 3), some (.socket 2)) := by
    have addresses :
        ∀ path ∈ ["build.sock", "test.sock", "lint.sock"],
          Network.isAddress path = true := by
      simp only [Network.isAddress_iff]
      decide
    simp only [List.forall_mem_cons] at addresses
    simp only [run, movedOn, step, SocketServer.bind, Network.bind, addresses,
      Bool.not_true, Bool.false_eq_true, if_false]
    rfl
  obtain ⟨⟨machine, effects⟩, ran, equal⟩ := Option.map_eq_some_iff.mp shown
  simp only [Prod.mk.injEq] at equal
  obtain ⟨rfl, lint, build⟩ := equal
  have known : 0 < 3 := by decide
  obtain ⟨result, after, closed, spares⟩ := close_removes_own ran known
  refine ⟨machine, _, result, after, ran, closed, lint,
    spares.own "lint.sock" 3 rfl lint, ?_⟩
  have stays :=
    spares.others "build.sock" 2 2 (by decide) (by simp) build
  refine stays.resolve_right ?_
  rintro ⟨own, before, later, _, _, _, holds⟩
  simp [held, Effect.hold?] at holds

/--
A server that is closed after another one took its path over removes the
socket of that one, which was never closed.
-/
theorem removed_after_takeover :
    ∃ machine effects after more,
      run step (new 2 Network.empty)
          [.serve 0 "build.sock", .serve 1 "build.sock"] =
          some (machine, effects) ∧
        .bound 1 "build.sock" 1 ∈ effects ∧
        (∀ result, .closed 1 result ∉ effects) ∧
        machine.node? "build.sock" = some (.socket 1) ∧
        machine.step (.close 0) = some (after, more) ∧
        after.node? "build.sock" = none := by
  have shown :
      ((run step (new 2 Network.empty)
            [.serve 0 "build.sock", .serve 1 "build.sock"]).bind
          fun reached => (reached.1.step (.close 0)).map fun last =>
            (reached.2, reached.1.node? "build.sock",
              last.1.node? "build.sock")) =
        some ([.bound 0 "build.sock" 0, .bound 1 "build.sock" 1],
          some (.socket 1), none) := by
    have address : Network.isAddress "build.sock" = true :=
      Network.isAddress_iff.mpr (by decide)
    simp only [run, step, SocketServer.bind, Network.bind, address,
      Bool.not_true, Bool.false_eq_true, if_false]
    rfl
  obtain ⟨⟨machine, effects⟩, ran, rest⟩ := Option.bind_eq_some_iff.mp shown
  obtain ⟨⟨after, more⟩, closed, equal⟩ := Option.map_eq_some_iff.mp rest
  simp only [Prod.mk.injEq] at equal
  obtain ⟨rfl, named, left⟩ := equal
  exact
    ⟨machine, _, after, more, ran, by simp, by simp, named, closed, left⟩

end SharedMachine

end BuildWatch
