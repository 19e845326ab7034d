import BuildWatch.Socket.Server
import BuildWatch.Transport.Script

/-!
# What a server may rely on

A server has one peer in its life.  Only accepting makes a connection, and
closing ends it for ever, whatever happens in the world of the transport
otherwise.  Both the sockets and the scripted transports keep to that.
-/

namespace BuildWatch

namespace Listener

variable {World : Type}

/-- How a world changes without a peer being waited for. -/
inductive Touched (listener : Listener World)
    (outside : World → World → Prop) (world : World) : World → Prop where
  | sent (message : Message) :
      Touched listener outside world (listener.send message world).2
  | received (attempt : Attempt) :
      Touched listener outside world (listener.receive attempt world).2
  | closed : Touched listener outside world (listener.close world).2
  | bound (address : String) :
      Touched listener outside world (listener.bind address world).2
  | abandoned : Touched listener outside world (listener.abandon world)
  /-- Somebody else did something. -/
  | outside {after : World} (changed : outside world after) :
      Touched listener outside world after

/-- The laws of a transport that has one peer in its life. -/
structure Lawful (listener : Listener World)
    (outside : World → World → Prop) (shut : World → Prop) : Prop where
  shuts : ∀ world, shut (listener.close world).2
  disconnected :
    ∀ world, shut world → listener.hasConnection world = false
  stays_shut :
    ∀ world after, listener.Touched outside world after → shut world →
      shut after
  stays_shut_accept :
    ∀ attempt world, shut world → shut (listener.accept attempt world).2
  connected :
    ∀ world after, listener.Touched outside world after →
      listener.hasConnection after = true →
        listener.hasConnection world = true
  connected_accept :
    ∀ attempt world,
      listener.hasConnection (listener.accept attempt world).2 = true →
        listener.hasConnection world = true ∨
          (listener.accept attempt world).1 = some (.ok ())

/-- A transport that makes nobody wait once it is shut. -/
structure Releasing (listener : Listener World) (shut : World → Prop) :
    Prop where
  unsent :
    ∀ message world, shut world →
      (listener.send message world).1 = .error .notConnected
  unreceived :
    ∀ world, shut world →
      (listener.receive .first world).1 = some (.error .notConnected)
  /-- Whoever waited for a message before learns that nothing will come. -/
  ended :
    ∀ world, shut world →
      (listener.receive .again world).1 = some (.error .closed)
  unaccepted :
    ∀ attempt world, shut world →
      (listener.accept attempt world).1.isSome = true

end Listener

/-! ## Scripted transports -/

namespace Script

/-- The script may go on, and it may be told to fail. -/
def Continued (script after : Script) : Prop :=
  after.accepted = script.accepted ∧ after.closed = script.closed

theorem continued_receive (attempt : Attempt) (script : Script) :
    Continued script (script.receive attempt).2 := by
  unfold receive
  split
  · cases attempt <;> exact ⟨rfl, rfl⟩
  · split <;> exact ⟨rfl, rfl⟩

theorem continued_send (message : Message) (script : Script) :
    Continued script (script.send message).2 := by
  unfold send
  split
  · exact ⟨rfl, rfl⟩
  · split <;> exact ⟨rfl, rfl⟩

theorem continued_bind (address : String) (script : Script) :
    Continued script (script.bind address).2 := by
  unfold bind
  split <;> exact ⟨rfl, rfl⟩

/-- Whatever happens but closing leaves the peer where it is. -/
theorem continued_or_close_of_touched
    {script after : Script}
    (touched : listener.Touched Continued script after) :
    Continued script after ∨ after = (script.close).2 := by
  cases touched with
  | sent message => exact .inl (continued_send message script)
  | received attempt => exact .inl (continued_receive attempt script)
  | closed => exact .inr rfl
  | bound address => exact .inl (continued_bind address script)
  | abandoned => exact .inl ⟨rfl, rfl⟩
  | outside changed => exact .inl changed

theorem lawful : listener.Lawful Continued fun script => script.closed where
  shuts := fun _ => rfl
  disconnected := by
    intro script closed
    simp [listener, hasConnection, closed]
  stays_shut := by
    intro script after touched closed
    rcases continued_or_close_of_touched touched with continued | rfl
    · exact continued.2.trans closed
    · rfl
  stays_shut_accept := by
    intro attempt script closed
    simp [listener, accept, closed]
  connected := by
    intro script after touched connected
    rcases continued_or_close_of_touched touched with continued | rfl
    · simpa [listener, hasConnection, continued.1, continued.2]
        using connected
    · simp [listener, hasConnection, close] at connected
  connected_accept := by
    intro attempt script connected
    simp only [listener, accept] at connected ⊢
    split
    next closed => simp [hasConnection, closed] at connected
    next live =>
      cases accepting : script.accepting with
      | allowed => exact .inr rfl
      | refused => simp_all
      | failing => simp_all
      | waits => simp_all

theorem releasing : listener.Releasing fun script => script.closed where
  unsent := by
    intro message script closed
    simp [listener, send, closed]
  unreceived := by
    intro script closed
    simp [listener, receive, closed]
  ended := by
    intro script closed
    simp [listener, receive, closed]
  unaccepted := by
    intro attempt script closed
    simp [listener, accept, closed]

end Script

/-! ## Sockets -/

namespace LineChannel

/-- What an operation on a connection leaves of it. -/
structure Follows (channel after : LineChannel) : Prop where
  closed : after.closed = channel.closed
  connected : after.connected = true → channel.connected = true

theorem Follows.refl (channel : LineChannel) : Follows channel channel :=
  ⟨rfl, id⟩

theorem follows_send
    (message : Message) (channel : LineChannel) (network : Network) :
    Follows channel (channel.send message network).2.1 := by
  unfold send
  split
  · exact .refl channel
  · split
    · exact .refl channel
    · exact ⟨rfl, by simp⟩

theorem follows_receiveLines
    (fuel : Nat) (reader : Reader) (channel : LineChannel)
    (network : Network) :
    Follows channel (receiveLines fuel reader channel network).2.1 := by
  induction fuel generalizing reader network with
  | zero => exact ⟨rfl, id⟩
  | succ fuel ih =>
      unfold receiveLines
      split
      · exact ⟨rfl, id⟩
      · exact ⟨rfl, id⟩
      · exact ⟨rfl, by simp⟩
      · split
        · exact ih _ _
        · exact ⟨rfl, id⟩

theorem follows_receive
    (attempt : Attempt) (channel : LineChannel) (network : Network) :
    Follows channel (channel.receive attempt network).2.1 := by
  unfold receive
  split
  · exact .refl channel
  · split
    · exact .refl channel
    · split
      · exact .refl channel
      · exact follows_receiveLines ..

theorem follows_dropWriter (channel : LineChannel) (network : Network) :
    Follows channel (channel.dropWriter network).1 := by
  unfold dropWriter
  split
  · exact .refl channel
  · exact ⟨rfl, id⟩

theorem follows_dropReader (channel : LineChannel) (network : Network) :
    Follows channel (channel.dropReader network).1 := by
  unfold dropReader
  split
  · exact .refl channel
  · exact ⟨rfl, id⟩

end LineChannel

namespace SocketServer

/-- What others do on the machine does not change the server itself. -/
def Untouched (world after : World) : Prop :=
  after.1 = world.1

/-- Whether the server hung up. -/
def Shut (world : World) : Prop :=
  world.1.channel.closed = true

theorem channel_bind
    (path : String) (server : SocketServer) (network : Network) :
    (server.bind path network).2.1.channel = server.channel := by
  unfold bind
  split
  · rfl
  · split <;> rfl

theorem channel_removePath (server : SocketServer) (network : Network) :
    (server.removePath network).2.1.channel = server.channel := by
  unfold removePath
  split
  · rfl
  · split <;> rfl

/-- What is left of the connection when a transport is closed. -/
theorem channel_finishClosing (server : SocketServer) (network : Network) :
    (server.finishClosing network).2.1.channel =
      (server.channel.dropReader network).1 := by
  unfold finishClosing
  rw [channel_removePath]
  rfl

theorem closed_close (server : SocketServer) (network : Network) :
    (server.close network).2.1.channel.closed = true := by
  have half :=
    LineChannel.follows_dropWriter server.channel.markClosed network
  have whole :=
    LineChannel.follows_dropReader
      (server.channel.markClosed.dropWriter network).1
      (server.channel.markClosed.dropWriter network).2
  unfold close
  rw [channel_finishClosing]
  exact whole.closed.trans half.closed

/-- Whatever happens but closing leaves no more of the peer than there was. -/
theorem follows_or_closed_of_touched
    {world after : World}
    (touched : transport.Touched Untouched world after) :
    world.1.channel.Follows after.1.channel ∨ Shut after := by
  cases touched with
  | sent message => exact .inl (LineChannel.follows_send message _ _)
  | received attempt => exact .inl (LineChannel.follows_receive attempt _ _)
  | closed => exact .inr (closed_close world.1 world.2)
  | bound address =>
      have same := channel_bind address world.1 world.2
      refine .inl ?_
      change world.1.channel.Follows
        (world.1.bind address world.2).2.1.channel
      rw [same]
      exact .refl _
  | abandoned => exact .inl (.refl _)
  | outside changed =>
      refine .inl ?_
      rw [changed]
      exact .refl _

theorem hasConnection_eq_false
    {world : World} (shut : Shut world) :
    transport.hasConnection world = false := by
  have closed : world.1.channel.closed = true := shut
  simp [transport, LineChannel.isConnected, closed]

/-- Nobody is accepted by a server that hung up. -/
theorem closed_acceptPeer
    {server : SocketServer} (network : Network)
    (closed : server.channel.closed = true) :
    (server.acceptPeer network).2.1.channel.closed = true := by
  unfold acceptPeer
  split
  · exact closed
  · simp [closed, stopAccepting]

theorem isConnected_acceptPeer
    {server : SocketServer} {network : Network}
    (connected :
      (server.acceptPeer network).2.1.channel.isConnected = true) :
    server.channel.isConnected = true ∨
      (server.acceptPeer network).1 = some (.ok ()) := by
  unfold acceptPeer at connected ⊢
  split
  · simp_all
  · split
    · simp_all [stopAccepting]
    · split
      · simp_all
      · exact .inr rfl

theorem lawful : transport.Lawful Untouched Shut where
  shuts := fun world => closed_close world.1 world.2
  disconnected := fun _ => hasConnection_eq_false
  stays_shut := by
    intro world after touched shut
    rcases follows_or_closed_of_touched touched with follows | closed
    · exact follows.closed.trans shut
    · exact closed
  stays_shut_accept := by
    intro attempt world shut
    change (world.1.accept attempt world.2).2.1.channel.closed = true
    unfold accept
    split
    · exact closed_acceptPeer world.2 shut
    · exact shut
    · exact @closed_acceptPeer world.1.startAccepting world.2 shut
  connected := by
    intro world after touched connected
    rcases follows_or_closed_of_touched touched with follows | closed
    · simp only [transport, LineChannel.isConnected, Bool.and_eq_true,
        Bool.not_eq_true'] at connected ⊢
      exact ⟨follows.connected connected.1,
        follows.closed.symm.trans connected.2⟩
    · simp [hasConnection_eq_false closed] at connected
  connected_accept := by
    intro attempt world connected
    change (world.1.accept attempt world.2).2.1.channel.isConnected = true
      at connected
    change world.1.channel.isConnected = true ∨
      (world.1.accept attempt world.2).1 = some (.ok ())
    cases attempt with
    | again => exact isConnected_acceptPeer connected
    | first =>
        cases listening : world.1.listener with
        | none =>
            simp only [accept, listening] at connected
            exact .inl connected
        | some socket =>
            simp only [accept, listening] at connected ⊢
            exact @isConnected_acceptPeer world.1.startAccepting world.2
              connected

end SocketServer

end BuildWatch
