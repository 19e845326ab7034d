import BuildWatch.Proofs.Runs
import BuildWatch.Socket.Tasks

/-!
# A task that is alone with a transport

A task that nobody interrupts does what the transport does at once: between
its turns nothing happens.
-/

namespace BuildWatch

namespace SharedSocket

variable {server : SocketServer} {network : Network} {ticket : Nat}

/-- What a call comes to if only its own task goes on. -/
def Does (shared : SharedSocket) (call : Event) (final : SharedSocket)
    (effects : List Effect) : Prop :=
  ∃ turns : List Event,
    (∀ turn ∈ turns,
      turn = .resume shared.nextTicket ∨
        turn = .interrupt shared.nextTicket) ∧
      run step shared (call :: turns) = some (final, effects)

theorem does_send (message : Message) :
    Does ⟨server, network, [], ticket⟩ (.send message)
      ⟨{ server with channel := (server.channel.send message network).2.1 },
        (server.channel.send message network).2.2, [], ticket + 1⟩
      [.finish ticket (.sent (server.channel.send message network).1)] := by
  cases found : server.channel.writer with
  | none =>
      refine ⟨[.resume ticket], by simp, ?_⟩
      simp [run, step, start, find?, resume, free, SocketWait.holds, proceed,
        LineChannel.send, found]
  | some endpoint =>
      refine ⟨[.resume ticket, .resume ticket], by simp, ?_⟩
      cases written :
          network.write endpoint (LineChannel.messageLine message) with
      | mk result after =>
          cases result <;>
            simp [run, step, start, find?, resume, free, SocketWait.holds,
              proceed, LineChannel.send, found, written]

theorem does_close :
    Does ⟨server, network, [], ticket⟩ .close
      ⟨(server.close network).2.1, (server.close network).2.2, [],
        ticket + 1⟩
      [.closing, .dropped .writing, .dropped .reading,
        .finish ticket (.closed (server.close network).1)] := by
  refine ⟨[.resume ticket, .resume ticket], by simp, ?_⟩
  simp [run, step, start, find?, resume, free, SocketWait.holds, proceed,
    SocketServer.close, SocketServer.startClosing]

/-- The task that accepts, as long as it has to wait. -/
def acceptTask (ticket listener : Nat) :
    Option (Except TransportError Unit) → List SocketTask
  | none => [⟨ticket, .peer listener⟩]
  | some _ => []

/-- What is seen of a task that accepts whoever is first in line. -/
def acceptEffects (ticket : Nat) (peer : Option Endpoint) :
    Option (Except TransportError Unit) → List Effect
  | none => []
  | some (.error error) => [.finish ticket (.accepted (.error error))]
  | some (.ok ()) =>
      (peer.toList.flatMap fun endpoint =>
        [.attached .reading endpoint, .attached .writing endpoint]) ++
        [.finish ticket (.accepted (.ok ()))]

/-- Without a socket that listens, accepting is over at once. -/
theorem does_accept_unbound (unbound : server.listener = none) :
    Does ⟨server, network, [], ticket⟩ .accept
      ⟨(server.accept .first network).2.1, (server.accept .first network).2.2,
        [], ticket + 1⟩
      [.finish ticket (.accepted (.error .notAccepted))] := by
  refine ⟨[], by simp, ?_⟩
  simp [run, step, finish, SocketServer.accept, unbound]

/-- The task has the socket that the transport would wait on. -/
theorem does_accept
    {listener : Nat} (bound : server.listener = some listener)
    (idle : server.accepting = none) :
    Does ⟨server, network, [], ticket⟩ .accept
      ⟨{ (server.accept .first network).2.1 with accepting := none },
        (server.accept .first network).2.2,
        acceptTask ticket listener (server.accept .first network).1,
        ticket + 1⟩
      (acceptEffects ticket (network.takePeer listener).1
        (server.accept .first network).1) := by
  cases closed : server.channel.closed with
  | true =>
      refine ⟨[.interrupt ticket], by simp, ?_⟩
      simp [run, step, start, find?, interrupt, proceed, acceptTask, acceptEffects,
        SocketServer.accept, SocketServer.startAccepting,
        SocketServer.acceptPeer, SocketServer.stopAccepting,
        SocketServer.stopListening, bound, closed, idle]
  | false =>
      cases taken : network.takePeer listener with
      | mk peer after =>
          cases peer with
          | none =>
              have same : after = network := by
                unfold Network.takePeer at taken
                split at taken
                · simp at taken
                · exact (Prod.mk.inj taken).2.symm
              refine ⟨[], by simp, ?_⟩
              simp [run, step, start, acceptTask, acceptEffects,
                SocketServer.accept,
                SocketServer.startAccepting, SocketServer.acceptPeer, bound,
                closed, idle, taken, same]
          | some endpoint =>
              refine ⟨[.resume ticket, .resume ticket, .resume ticket],
                by simp, ?_⟩
              simp [run, step, start, find?, resume, free, SocketWait.holds,
                proceed, acceptTask, acceptEffects, SocketServer.accept,
                SocketServer.startAccepting, SocketServer.acceptPeer,
                SocketServer.welcome, SocketServer.attach,
                SocketServer.stopAccepting, SocketServer.stopListening,
                bound, closed, idle, taken]

/-- The task that receives, as long as it has to wait. -/
def receiveTask (ticket : Nat) :
    Option (Except TransportError Message) → List SocketTask
  | none => [⟨ticket, .line⟩]
  | some _ => []

def receiveEffects (ticket : Nat) :
    Option (Except TransportError Message) → List Effect
  | none => []
  | some result => [.finish ticket (.received result)]

/-- A transport that one task reads from. -/
def readBy (ticket : Nat) (server : SocketServer) (channel : LineChannel)
    (number : Nat) (reader : LineChannel.Reader) (network : Network) :
    SharedSocket :=
  ⟨{ server with channel := { channel with reader := some reader } }, network,
    [⟨ticket, .line⟩], number⟩

/-- A task that reads goes on line by line. -/
theorem run_receiveLines
    (fuel : Nat) (reader : LineChannel.Reader) (channel : LineChannel)
    (network : Network) (number : Nat) :
    ∃ turns : List Event,
      (∀ turn ∈ turns, turn = .resume ticket) ∧
        run step (readBy ticket server channel number reader network) turns =
          some
            (⟨{ server with
                  channel :=
                    (LineChannel.receiveLines fuel reader channel
                      network).2.1 },
                (LineChannel.receiveLines fuel reader channel network).2.2,
                receiveTask ticket
                  (LineChannel.receiveLines fuel reader channel network).1,
                number⟩,
              receiveEffects ticket
                (LineChannel.receiveLines fuel reader channel network).1) := by
  induction fuel generalizing reader network with
  | zero => exact ⟨[], by simp, rfl⟩
  | succ fuel ih =>
      cases read :
          reader.nextLine (reader.available network + 2) network with
      | mk result rest =>
          obtain ⟨next, after⟩ := rest
          match result with
          | none | some (.error _) | some (.ok none) =>
              refine ⟨[.resume ticket], by simp, ?_⟩
              simp [readBy, step, find?, resume, proceed, read, readLine,
                LineChannel.receiveLines, receiveTask, receiveEffects]
          | some (.ok (some line)) =>
              cases meaning : LineChannel.lineResult line.bytes with
              | some result =>
                  refine ⟨[.resume ticket], by simp, ?_⟩
                  simp [readBy, step, find?, resume, proceed, read, readLine,
                    meaning, LineChannel.receiveLines, receiveTask,
                    receiveEffects]
              | none =>
                  -- A blank line is skipped, and the next one is read.
                  have skips :
                      step (readBy ticket server channel number reader network)
                          (.resume ticket) =
                        some
                          (readBy ticket server channel number next after,
                            []) := by
                    simp [readBy, step, find?, resume, proceed, read,
                      readLine, meaning]
                  obtain ⟨turns, own, ran⟩ := ih next after
                  refine ⟨.resume ticket :: turns, by simpa using own, ?_⟩
                  refine run_cons_eq_some_iff.mpr
                    ⟨_, [], _, skips, ?_, (List.nil_append _).symm⟩
                  simpa [LineChannel.receiveLines, read, meaning] using ran

theorem does_receive :
    Does ⟨server, network, [], ticket⟩ .receive
      ⟨{ server with
          channel := (server.channel.receive .first network).2.1 },
        (server.channel.receive .first network).2.2,
        receiveTask ticket (server.channel.receive .first network).1,
        ticket + 1⟩
      (receiveEffects ticket (server.channel.receive .first network).1) := by
  cases reading : server.channel.reader with
  | none =>
      refine ⟨[.resume ticket], by simp, ?_⟩
      simp [run, step, start, find?, resume, free, SocketWait.holds, proceed,
        LineChannel.receive, reading, receiveTask, receiveEffects]
  | some reader =>
      cases closed : server.channel.closed with
      | true =>
          refine ⟨[.resume ticket, .interrupt ticket], by simp, ?_⟩
          simp [run, step, start, find?, resume, interrupt, free,
            SocketWait.holds, proceed, LineChannel.receive, reading, closed,
            receiveTask, receiveEffects]
      | false =>
          have starts :
              run step ⟨server, network, [], ticket⟩
                  [.receive, .resume ticket] =
                some
                  (readBy ticket server server.channel (ticket + 1) reader
                    network, []) := by
            have same :
                ({ server.channel with reader := some reader } :
                  LineChannel) = server.channel := by
              rw [← reading]
            simp [run, step, start, find?, resume, free, SocketWait.holds,
              proceed, reading, readBy, same]
          obtain ⟨turns, own, ran⟩ :=
            @run_receiveLines server ticket (reader.available network + 2)
              reader server.channel network (ticket + 1)
          refine ⟨.resume ticket :: turns, ?_, ?_⟩
          · rintro turn (_ | ⟨_, member⟩)
            · exact .inl rfl
            · exact .inl (own turn member)
          · refine run_append_eq_some_iff.mpr
              ⟨_, [], _, starts, ?_, (List.nil_append _).symm⟩
            simpa [LineChannel.receive, reading, closed] using ran

end SharedSocket

end BuildWatch
