import BuildWatch.Run
import BuildWatch.Socket.Server

/-!
# Tasks that share a transport

Several tasks may use the transport of a server at once.  A task goes on
alone until it has to wait; then others go on, in any order.  A half of the
connection is in one hand at a time: whoever writes a message or waits for a
line has the half until that is done.

Whoever waits for a peer or for a line also waits for the transport to be
closed.  If both are there it goes on with either, and which one it is is
part of the event.
-/

namespace BuildWatch

/-- A half of a connection. -/
inductive Half where
  | reading
  | writing
deriving DecidableEq

/-- What a task waits for. -/
inductive SocketWait where
  /-- A peer, on a socket that listens. -/
  | peer (listener : Nat)
  /-- The reading half, to read from the peer instead. -/
  | attachReader (listener : Nat) (endpoint : Endpoint)
  /-- The writing half, to write to the peer instead. -/
  | attachWriter (listener : Nat) (endpoint : Endpoint)
  /-- The writing half, to send a message. -/
  | send (message : Message)
  /-- That the message can be written; the task has the writing half. -/
  | write (endpoint : Endpoint) (message : Message)
  /-- The reading half, to receive a message. -/
  | receive
  /-- A line; the task has the reading half. -/
  | line
  /-- The writing half, to give it up. -/
  | dropWriter
  /-- The reading half, to give it up. -/
  | dropReader

/-- Whether a task that waits has a half of the connection. -/
def SocketWait.holds : SocketWait → Half → Bool
  | .write _ _, .writing => true
  | .line, .reading => true
  | _, _ => false

/-- A call that is not over. -/
structure SocketTask where
  /-- The number of the call; calls are numbered as they start. -/
  ticket : Nat
  wait : SocketWait

/-- The transport of a server and the tasks that use it. -/
structure SharedSocket where
  server : SocketServer
  network : Network
  tasks : List SocketTask
  nextTicket : Nat

namespace SharedSocket

/-- A call that starts, or a task that goes on. -/
inductive Event where
  | serve (path : String)
  | accept
  | send (message : Message)
  | receive
  | close
  /-- A task goes on, since it has what it waited for. -/
  | resume (ticket : Nat)
  /-- A task sees that the transport is closed. -/
  | interrupt (ticket : Nat)
  /-- Somebody else on the machine did something. -/
  | outside (change : Network → Network)

/-- What a task came to. -/
inductive Outcome where
  | served (result : Except TransportError Unit)
  | accepted (result : Except TransportError Unit)
  | sent (result : Except TransportError Unit)
  | received (result : Except TransportError Message)
  | closed (result : Except TransportError Unit)

/-- What is seen of a step. -/
inductive Effect where
  /-- The transport is marked as closed. -/
  | closing
  | attached (half : Half) (endpoint : Endpoint)
  /-- A half is given up to close the transport. -/
  | dropped (half : Half)
  | finish (ticket : Nat) (outcome : Outcome)

/-- A transport that nobody uses yet. -/
def new (network : Network) : SharedSocket :=
  ⟨SocketServer.new, network, [], 0⟩

/-- Whether the transport shows a connection. -/
def hasConnection (shared : SharedSocket) : Bool :=
  shared.server.channel.isConnected

/-- Whether a half of the connection is in nobody's hand. -/
def free (half : Half) (shared : SharedSocket) : Bool :=
  shared.tasks.all fun task => !task.wait.holds half

/-- How a task goes on. -/
structure Turn where
  server : SocketServer
  network : Network
  effects : List Effect
  /-- What the task waits for next, or what it came to. -/
  next : SocketWait ⊕ Outcome

/-- Goes on with the line, or the end of input, that was read. -/
def readLine (server : SocketServer) (network : Network) :
    Except IoKind (Option LineChannel.Line) → Turn
  | .error kind =>
      ⟨server, network, [], .inr (.received (.error (.io kind)))⟩
  | .ok none =>
      let channel := { server.channel with connected := false }
      ⟨{ server with channel }, network, [],
        .inr (.received (.error .closed))⟩
  | .ok (some line) =>
      match LineChannel.lineResult line.bytes with
      | none => ⟨server, network, [], .inl .line⟩
      | some result => ⟨server, network, [], .inr (.received result)⟩

/-- How a task goes on that has what it waited for. -/
def resume (shared : SharedSocket) : SocketWait → Option Turn
  | .peer listener =>
      match shared.network.takePeer listener with
      | (none, _) => none
      | (some endpoint, network) =>
          some
            ⟨shared.server, network, [],
              .inl (.attachReader listener endpoint)⟩
  | .attachReader listener endpoint =>
      if shared.free .reading then
        let (channel, network) :=
          shared.server.channel.attachReader endpoint shared.network
        some
          ⟨{ shared.server with channel }, network,
            [.attached .reading endpoint],
            .inl (.attachWriter listener endpoint)⟩
      else none
  | .attachWriter listener endpoint =>
      if shared.free .writing then
        let (channel, network) :=
          shared.server.channel.attachWriter endpoint shared.network
        some
          ⟨{ shared.server with channel }, network.stopListening listener,
            [.attached .writing endpoint], .inr (.accepted (.ok ()))⟩
      else none
  | .send message =>
      if shared.free .writing then
        match shared.server.channel.writer with
        | none =>
            some
              ⟨shared.server, shared.network, [],
                .inr (.sent (.error .notConnected))⟩
        | some endpoint =>
            some
              ⟨shared.server, shared.network, [],
                .inl (.write endpoint message)⟩
      else none
  | .write endpoint message =>
      match
        shared.network.write endpoint (LineChannel.messageLine message)
      with
      | (.ok (), network) =>
          some ⟨shared.server, network, [], .inr (.sent (.ok ()))⟩
      | (.error kind, network) =>
          let channel := { shared.server.channel with connected := false }
          some
            ⟨{ shared.server with channel }, network, [],
              .inr (.sent (.error (.io kind)))⟩
  | .receive =>
      if shared.free .reading then
        match shared.server.channel.reader with
        | none =>
            some
              ⟨shared.server, shared.network, [],
                .inr (.received (.error .notConnected))⟩
        | some _ => some ⟨shared.server, shared.network, [], .inl .line⟩
      else none
  | .line =>
      match shared.server.channel.reader with
      | none => none
      | some reader =>
          match
            reader.nextLine (reader.available shared.network + 2)
              shared.network
          with
          | (read, after, network) =>
              let channel := { shared.server.channel with reader := after }
              let server := { shared.server with channel }
              some
                (match read with
                | none => ⟨server, network, [], .inl .line⟩
                | some line => readLine server network line)
  | .dropWriter =>
      if shared.free .writing then
        let (channel, network) :=
          shared.server.channel.dropWriter shared.network
        some
          ⟨{ shared.server with channel }, network, [.dropped .writing],
            .inl .dropReader⟩
      else none
  | .dropReader =>
      if shared.free .reading then
        let (result, server, network) :=
          shared.server.finishClosing shared.network
        some
          ⟨server, network, [.dropped .reading], .inr (.closed result)⟩
      else none

/-- How a task goes on that sees that the transport is closed. -/
def interrupt (shared : SharedSocket) : SocketWait → Option Turn
  | .peer listener =>
      if shared.server.channel.closed then
        some
          ⟨shared.server, shared.network.stopListening listener, [],
            .inr (.accepted (.error .notAccepted))⟩
      else none
  | .line =>
      if shared.server.channel.closed then
        some
          ⟨shared.server, shared.network, [],
            .inr (.received (.error .closed))⟩
      else none
  | _ => none

/-- The task of a call, while it is not over. -/
def find? (ticket : Nat) (shared : SharedSocket) : Option SocketTask :=
  shared.tasks.find? fun task => task.ticket = ticket

/-- Lets a task go on. -/
def proceed (shared : SharedSocket) (ticket : Nat) (turn : Turn) :
    SharedSocket × List Effect :=
  let others := shared.tasks.filter fun task => task.ticket ≠ ticket
  match turn.next with
  | .inl wait =>
      ({ shared with
          server := turn.server
          network := turn.network
          tasks := others ++ [⟨ticket, wait⟩] },
        turn.effects)
  | .inr outcome =>
      ({ shared with
          server := turn.server
          network := turn.network
          tasks := others },
        turn.effects ++ [.finish ticket outcome])

/-- Starts a task that has to wait for something first. -/
def start (shared : SharedSocket) (wait : SocketWait) : SharedSocket :=
  { shared with
    tasks := shared.tasks ++ [⟨shared.nextTicket, wait⟩]
    nextTicket := shared.nextTicket + 1 }

/-- Starts a call that is over at once. -/
def finish (shared : SharedSocket) (outcome : Outcome) :
    SharedSocket × List Effect :=
  ({ shared with nextTicket := shared.nextTicket + 1 },
    [.finish shared.nextTicket outcome])

/-- Starts a call, or lets a task go on, if it can. -/
def step (shared : SharedSocket) :
    Event → Option (SharedSocket × List Effect)
  | .serve path =>
      let (result, server, network) := shared.server.bind path shared.network
      some ({ shared with server, network }.finish (.served result))
  | .accept =>
      match shared.server.listener with
      | none => some (shared.finish (.accepted (.error .notAccepted)))
      | some listener =>
          let server := { shared.server with listener := none }
          some ({ shared with server }.start (.peer listener), [])
  | .send message => some (shared.start (.send message), [])
  | .receive => some (shared.start .receive, [])
  | .close =>
      let server :=
        { shared.server with channel := shared.server.channel.markClosed }
      some ({ shared with server }.start .dropWriter, [.closing])
  | .resume ticket => do
      let task ← shared.find? ticket
      let turn ← shared.resume task.wait
      some (shared.proceed ticket turn)
  | .interrupt ticket => do
      let task ← shared.find? ticket
      let turn ← shared.interrupt task.wait
      some (shared.proceed ticket turn)
  | .outside change =>
      some ({ shared with network := change shared.network }, [])

end SharedSocket

end BuildWatch
