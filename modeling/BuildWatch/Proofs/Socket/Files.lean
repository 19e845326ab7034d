import BuildWatch.Proofs.KeyMap
import BuildWatch.Socket.Server

/-!
# What transports do to files

Of all that happens on a machine only removing a file and binding a socket
change what the paths name.  A transport that binds a path changes nothing at
any other path, and one that is closed nothing but at the path that it has.
-/

namespace BuildWatch

namespace Network

variable {network after : Network} {path : String}

/-! ## Files and sockets of a machine -/

/-- The machine has the files that it had, and as many sockets. -/
structure Keeps (network after : Network) : Prop where
  nodes : after.nodes = network.nodes
  count : after.listeners.length = network.listeners.length

theorem Keeps.refl (network : Network) : Keeps network network :=
  ⟨rfl, rfl⟩

theorem Keeps.trans
    {last : Network} (first : Keeps network after)
    (second : Keeps after last) : Keeps network last :=
  ⟨second.nodes.trans first.nodes, second.count.trans first.count⟩

theorem keeps_hangUp (network : Network) (endpoint : Endpoint)
    (reset : Bool) : Keeps network (network.hangUp endpoint reset) :=
  ⟨rfl, rfl⟩

theorem keeps_endOutput (network : Network) (endpoint : Endpoint) :
    Keeps network (network.endOutput endpoint) :=
  ⟨rfl, rfl⟩

theorem keeps_stopListening (network : Network) (listener : Nat) :
    Keeps network (network.stopListening listener) := by
  have resets (connections : List Nat) (before : Network) :
      Keeps before
        (connections.foldl
          (fun rest connection => rest.hangUp ⟨connection, .server⟩ true)
          before) := by
    induction connections generalizing before with
    | nil => exact .refl before
    | cons connection rest ih =>
        exact (keeps_hangUp before _ true).trans (ih _)
  have silenced :
      Keeps network
        { network with
          listeners := network.listeners.set listener ⟨[], false⟩ } :=
    ⟨rfl, by simp⟩
  exact silenced.trans (resets _ _)

/-- Of the files at most the one at a path is removed. -/
structure Clears (path : String) (network after : Network) : Prop where
  /-- The path is free then, unless a directory is there. -/
  nodes :
    ∀ other,
      after.nodes.get? other =
        if other = path ∧ network.nodes.get? path ≠ some .directory then none
        else network.nodes.get? other
  count : after.listeners.length = network.listeners.length

/-- A path is cleared, whatever else happens that changes no files. -/
theorem Clears.within
    {before cleared : Network} (first : Keeps network before)
    (clears : Clears path before cleared) (last : Keeps cleared after) :
    Clears path network after where
  nodes := by
    intro other
    rw [last.nodes, clears.nodes, first.nodes]
  count := last.count.trans (clears.count.trans first.count)

/-- A path that names nothing is clear. -/
theorem clears_of_missing (missing : network.nodes.get? path = none) :
    Clears path network network := by
  refine ⟨fun other => ?_, rfl⟩
  by_cases same : other = path
  · simp [same, missing]
  · simp [same]

theorem clears_removeFile (path : String) (network : Network) :
    Clears path network (network.removeFile path).2 := by
  unfold removeFile
  split
  next missing => exact clears_of_missing missing
  next directory => exact ⟨fun other => by simp [directory], rfl⟩
  next node proper file =>
    refine ⟨fun other => ?_, rfl⟩
    have isFile : node ≠ .directory := fun equal => proper equal
    simp [file, isFile, KeyMap.get?_erase]

/-- Binding a path either fails or makes it name a socket that is new. -/
theorem bind_cases (path : String) (network : Network) :
    (∃ kind, network.bind path = (.error kind, network)) ∨
      ∃ after,
        network.bind path = (.ok network.listeners.length, after) ∧
          (∀ other, after.nodes.get? other =
            if other = path then some (.socket network.listeners.length)
            else network.nodes.get? other) ∧
          after.listeners.length = network.listeners.length + 1 := by
  unfold bind
  split
  · exact .inl ⟨_, rfl⟩
  · split
    · exact .inl ⟨_, rfl⟩
    · exact .inr ⟨_, rfl, fun other => KeyMap.get?_insert .., by simp⟩

end Network

namespace LineChannel

theorem keeps_dropWriter (channel : LineChannel) (network : Network) :
    network.Keeps (channel.dropWriter network).2 := by
  unfold dropWriter
  split
  · exact .refl network
  · dsimp only
    split
    · exact Network.keeps_endOutput network _
    · exact (Network.keeps_endOutput network _).trans
        (Network.keeps_hangUp _ _ false)

theorem keeps_dropReader (channel : LineChannel) (network : Network) :
    network.Keeps (channel.dropReader network).2 := by
  unfold dropReader
  split
  · exact .refl network
  · dsimp only
    split
    · exact .refl network
    · exact Network.keeps_hangUp network _ false

theorem keeps_shutdown (channel : LineChannel) (network : Network) :
    network.Keeps (channel.shutdown network).2 :=
  (keeps_dropWriter _ _).trans (keeps_dropReader _ _)

end LineChannel

namespace SocketServer

variable {server : SocketServer} {network : Network}

theorem keeps_stopListening (listener : Option Nat) (network : Network) :
    network.Keeps (stopListening listener network) := by
  cases listener with
  | none => exact .refl network
  | some listener => exact Network.keeps_stopListening network listener

/-! ## Binding a path -/

theorem clears_clearPath (path : String) (network : Network) :
    network.Clears path (clearPath path network).2 := by
  unfold clearPath
  split
  next => exact Network.clears_removeFile path network
  next missing =>
    have nothing : network.nodes.get? path = none := by
      simpa [Network.pathExists] using missing
    exact Network.clears_of_missing nothing

/-- What binding a path comes to, and what it leaves. -/
inductive Binding (path : String) (server : SocketServer)
    (network : Network) :
    Except TransportError Unit × SocketServer × Network → Prop where
  /-- The transport is as it was, but what was at the path may be gone. -/
  | refused {error : TransportError} {after : Network}
      (nodes :
        ∀ other, after.nodes.get? other = network.nodes.get? other ∨
          other = path ∧ after.nodes.get? other = none)
      (count : after.listeners.length = network.listeners.length) :
      Binding path server network (.error error, server, after)
  /-- The path names a socket that is new. -/
  | bound {after : Network}
      (nodes :
        ∀ other, after.nodes.get? other =
          if other = path then some (.socket network.listeners.length)
          else network.nodes.get? other)
      (count :
        after.listeners.length = network.listeners.length + 1) :
      Binding path server network
        (.ok (),
          { server with
            path := some path, listener := some network.listeners.length },
          after)

theorem binding_bind
    (path : String) (server : SocketServer) (network : Network) :
    Binding path server network (server.bind path network) := by
  have clears := clears_clearPath path network
  unfold bind
  generalize clearPath path network = reached at clears
  obtain ⟨result, cleared⟩ := reached
  have freed (other : String) :
      cleared.nodes.get? other = network.nodes.get? other ∨
        other = path ∧ cleared.nodes.get? other = none := by
    have found := clears.nodes other
    split at found
    next gone => exact .inr ⟨gone.1, found⟩
    next => exact .inl found
  rcases result with kind | ⟨⟩
  · exact .refused freed clears.count
  · rcases Network.bind_cases path cleared with
      ⟨kind, failed⟩ | ⟨after, done, nodes, count⟩
    · simp only [failed]
      exact .refused freed clears.count
    · have silenced := keeps_stopListening server.listener after
      have same : cleared.listeners.length = network.listeners.length :=
        clears.count
      simp only [done]
      rw [same] at nodes count ⊢
      refine .bound (fun other => ?_) (silenced.count.trans count)
      rw [silenced.nodes, nodes]
      split
      next => rfl
      next elsewhere => simpa [elsewhere] using clears.nodes other

/-! ## Closing -/

theorem server_removePath (server : SocketServer) (network : Network) :
    (server.removePath network).2.1 = { server with path := none } := by
  unfold removePath
  split
  · rfl
  · split <;> rfl

/-- Without a path there is nothing to remove. -/
theorem removePath_of_forgotten (forgotten : server.path = none) :
    server.removePath network =
      (.ok (), { server with path := none }, network) := by
  simp [removePath, forgotten]

/-- The path that a transport has is cleared. -/
theorem clears_removePath
    {path : String} (bound : server.path = some path) :
    network.Clears path (server.removePath network).2.2 := by
  have clears := Network.clears_removeFile path network
  unfold removePath
  simp only [bound]
  generalize network.removeFile path = reached at clears ⊢
  obtain ⟨result, after⟩ := reached
  split <;> simp_all

/-- A transport that hung up and is deaf has only its path left. -/
def deafened (server : SocketServer) (network : Network) : SocketServer :=
  { server with
    listener := none
    channel := (server.channel.shutdown network).1 }

/-- The machine when a transport hung up and is deaf. -/
def silenced (server : SocketServer) (network : Network) : Network :=
  stopListening server.listener (server.channel.shutdown network).2

/-- Closing a transport hangs up, and then removes what is at its path. -/
theorem close_eq_removePath (server : SocketServer) (network : Network) :
    server.close network =
      (server.deafened network).removePath (server.silenced network) :=
  rfl

theorem keeps_silenced (server : SocketServer) (network : Network) :
    network.Keeps (server.silenced network) :=
  (LineChannel.keeps_shutdown _ _).trans (keeps_stopListening _ _)

/-- A transport that is closed without a path leaves all files alone. -/
theorem keeps_close (forgotten : server.path = none) :
    network.Keeps (server.close network).2.2 := by
  have kept : (server.deafened network).path = none := forgotten
  rw [close_eq_removePath, removePath_of_forgotten kept]
  exact keeps_silenced server network

/-- A transport that is closed clears the path that it has. -/
theorem clears_close
    {path : String} (bound : server.path = some path) :
    network.Clears path (server.close network).2.2 := by
  have kept : (server.deafened network).path = some path := bound
  have clears :
      (server.silenced network).Clears path (server.close network).2.2 :=
    clears_removePath kept
  exact clears.within (keeps_silenced server network) (.refl _)

/-- What a path names when a transport is closed. -/
theorem get?_nodes_close
    (server : SocketServer) (network : Network) (path : String) :
    (server.close network).2.2.nodes.get? path =
      if server.path = some path ∧
          network.nodes.get? path ≠ some .directory then none
      else network.nodes.get? path := by
  cases bound : server.path with
  | none => simp [(keeps_close bound).nodes]
  | some own =>
      rw [(clears_close bound).nodes path]
      by_cases same : own = path
      · simp [same]
      · simp [same, Ne.symm same]

theorem length_listeners_close (server : SocketServer) (network : Network) :
    (server.close network).2.2.listeners.length =
      network.listeners.length := by
  cases bound : server.path with
  | none => exact (keeps_close bound).count
  | some own => exact (clears_close bound).count

end SocketServer

end BuildWatch
