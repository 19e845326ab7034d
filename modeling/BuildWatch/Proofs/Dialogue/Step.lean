import BuildWatch.Builder
import BuildWatch.Proofs.Consumer.Course
import BuildWatch.Proofs.Server.Course

/-!
# A server and its consumer

A dialogue joins a server and a consumer by two queues of lines.  A message
that one side asks to send is a line at the end of its queue; the other side
reads the lines in order, and nothing is lost.  Which side goes on, and with
what, is up to the actions, so that every order of all tasks on both sides is
a list of actions.

The consumer stays on one connection, and nobody else closes it: the client
hangs up if its handshake fails.  From then on the server may fail to send,
and it sees the end of the connection behind the last line.
-/

namespace BuildWatch

/-- Whether an event of a server does not involve its client. -/
def Server.Event.isOwn : Server.Event → Bool
  | .serve _ _ => true
  | .cancel => true
  | .call _ => true
  | .awaitConnection => true
  | .abandon => true
  | .accepted _ => true
  | .turn => true
  | .notice _ => true
  | _ => false

/-- A server and a consumer at the two ends of a connection. -/
structure Dialogue where
  /-- The server. -/
  server : Server
  /-- The consumer. -/
  consumer : Consumer
  /-- What the client asks for when it attaches. -/
  request : CapabilityRequest
  /-- The lines on their way to the consumer. -/
  outward : List String
  /-- The lines on their way to the server. -/
  inward : List String
  /-- Whether the consumer has hung up. -/
  hungUp : Bool

namespace Dialogue

/-- A server and a consumer that were told nothing yet. -/
def new (server : ServerOptions) (client : ClientOptions)
    (request : CapabilityRequest) : Dialogue where
  server := Server.new server
  consumer := Consumer.new client
  request
  outward := []
  inward := []
  hungUp := false

/-- What can happen in a dialogue. -/
inductive Action where
  /-- A call of the server, or a task of it that needs no client, goes on. -/
  | server (event : Server.Event)
  /-- The connection took a message of the server, or did not. -/
  | serverSent (party : Server.Party) (failure : Option IoKind)
  /-- The server reads the next line, or the end of the connection. -/
  | serverReceived (party : Server.Party)
  /-- A call of the client or of its stream. -/
  | consumer (event : Consumer.Event)
  /-- The connection took a message of the consumer. -/
  | consumerSent (party : Watcher.Party)
  /-- The consumer reads the next line. -/
  | consumerReceived (party : Watcher.Party)
  /-- The connection is closed for the client. -/
  | closed (result : Except TransportError Unit)

/-- What a journal of a dialogue consists of. -/
inductive Entry where
  | server (entry : Server.Entry)
  | consumer (entry : Consumer.Entry)

/-- What reading a line comes to. -/
def read (line : String) : Receipt :=
  (Message.decode line).mapError .decode

/-- Lets the server react to an event. -/
def advanceServer (dialogue : Dialogue) (event : Server.Event) :
    Option (Dialogue × List Entry) := do
  let (server, effects) ← dialogue.server.step event
  some
    ({ dialogue with
        server
        outward :=
          dialogue.outward ++
            (Server.messages effects).map Message.encode },
      (Server.entries server event effects).map .server)

/-- Lets the consumer react to an event. -/
def advanceConsumer (dialogue : Dialogue) (event : Consumer.Event) :
    Option (Dialogue × List Entry) := do
  let (consumer, effects) ← dialogue.consumer.step event
  some
    ({ dialogue with
        consumer
        inward :=
          dialogue.inward ++
            (Consumer.messages effects).map Message.encode
        hungUp := dialogue.hungUp || effects.any Consumer.Effect.closes },
      (Consumer.entries event effects).map .consumer)

/-- Whether a dialogue admits a call of its consumer. -/
def admits (dialogue : Dialogue) : Consumer.Event → Bool
  | .client (.attach request) =>
      request = dialogue.request &&
        (dialogue.consumer.client.nextConnection = 0 ||
          dialogue.consumer.client.connection.isSome)
  | .client .awaitCycles => true
  | .stream _ .next => true
  | .stream _ .stop => true
  | .stream _ (.drop _) => true
  | _ => false

/-- How a dialogue goes on, if the action can happen. -/
def step (dialogue : Dialogue) : Action → Option (Dialogue × List Entry)
  | .server event =>
      if event.isOwn then dialogue.advanceServer event else none
  | .serverSent party none =>
      dialogue.advanceServer (Builder.sentEvent (.ok ()) party)
  | .serverSent party (some kind) =>
      if dialogue.hungUp then
        dialogue.advanceServer
          (Builder.sentEvent (.error (.io kind)) party)
      else none
  | .serverReceived party =>
      match dialogue.inward with
      | line :: rest =>
          { dialogue with inward := rest }.advanceServer
            (Builder.receivedEvent party (read line))
      | [] =>
          if dialogue.hungUp then
            dialogue.advanceServer
              (Builder.receivedEvent party (.error .closed))
          else none
  | .consumer event =>
      if dialogue.admits event then dialogue.advanceConsumer event else none
  | .consumerSent party =>
      dialogue.advanceConsumer (Watcher.sentEvent (.ok ()) party)
  | .consumerReceived party =>
      match dialogue.outward with
      | line :: rest =>
          { dialogue with outward := rest }.advanceConsumer
            (Watcher.receivedEvent party (read line))
      | [] => none
  | .closed result => dialogue.advanceConsumer (.client (.closed result))

/-! ## What a step comes to -/

/-- What the server finds on the connection, and what is left there. -/
inductive Feeds (dialogue : Dialogue) : Option Receipt → List String → Prop
  where
  | nothing : Feeds dialogue none dialogue.inward
  | line {line : String} {rest : List String}
      (first : dialogue.inward = line :: rest) :
      Feeds dialogue (some (read line)) rest
  | ended (empty : dialogue.inward = []) (gone : dialogue.hungUp = true) :
      Feeds dialogue (some (.error .closed)) dialogue.inward

/-- What the consumer finds on the connection, and what is left there. -/
inductive Reads (dialogue : Dialogue) : Option Receipt → List String → Prop
  where
  | nothing : Reads dialogue none dialogue.outward
  | line {line : String} {rest : List String}
      (first : dialogue.outward = line :: rest) :
      Reads dialogue (some (read line)) rest

/-- The failure to send that an event of a server tells. -/
def unsent? : Server.Event → Option TransportError
  | .handshakeSent (.error error) => some error
  | .callSent (.error error) => some error
  | _ => none

/-- The failure to send that an event of a consumer tells. -/
def unsaid? : Consumer.Event → Option TransportError
  | .client (.sent (.error error)) => some error
  | .stream _ (.sent (.error error)) => some error
  | _ => none

/-- What a step of a dialogue comes to. -/
inductive Turn (dialogue : Dialogue) : Dialogue → List Entry → Prop where
  | server {event : Server.Event} {server : Server}
      {effects : List Server.Effect} {inward : List String}
      (fed : Feeds dialogue event.heard? inward)
      (sent : ∀ error, unsent? event = some error →
        dialogue.hungUp = true ∧ ∃ kind, error = .io kind)
      (reaction : dialogue.server.step event = some (server, effects)) :
      Turn dialogue
        { dialogue with
          server
          inward
          outward :=
            dialogue.outward ++
              (Server.messages effects).map Message.encode }
        ((Server.entries server event effects).map .server)
  | consumer {event : Consumer.Event} {consumer : Consumer}
      {effects : List Consumer.Effect} {outward : List String}
      (fed : Reads dialogue event.heard? outward)
      (sent : unsaid? event = none)
      (staying : event.Staying dialogue.request dialogue.consumer)
      (reaction : dialogue.consumer.step event = some (consumer, effects)) :
      Turn dialogue
        { dialogue with
          consumer
          outward
          inward :=
            dialogue.inward ++
              (Consumer.messages effects).map Message.encode
          hungUp := dialogue.hungUp || effects.any Consumer.Effect.closes }
        ((Consumer.entries event effects).map .consumer)

variable {dialogue next : Dialogue} {journal : List Entry}

theorem turn_of_advanceServer
    {event : Server.Event} {inward : List String}
    (fed : Feeds dialogue event.heard? inward)
    (sent : ∀ error, unsent? event = some error →
      dialogue.hungUp = true ∧ ∃ kind, error = .io kind)
    (advanced :
      { dialogue with inward }.advanceServer event = some (next, journal)) :
    Turn dialogue next journal := by
  simp only [advanceServer, bind, Option.bind_eq_some_iff] at advanced
  obtain ⟨⟨server, effects⟩, reaction, equal⟩ := advanced
  obtain ⟨rfl, rfl⟩ := Prod.mk.inj (Option.some.inj equal)
  exact .server fed sent reaction

theorem turn_of_advanceConsumer
    {event : Consumer.Event} {outward : List String}
    (fed : Reads dialogue event.heard? outward)
    (sent : unsaid? event = none)
    (staying : event.Staying dialogue.request dialogue.consumer)
    (advanced :
      { dialogue with outward }.advanceConsumer event =
        some (next, journal)) :
    Turn dialogue next journal := by
  simp only [advanceConsumer, bind, Option.bind_eq_some_iff] at advanced
  obtain ⟨⟨consumer, effects⟩, reaction, equal⟩ := advanced
  obtain ⟨rfl, rfl⟩ := Prod.mk.inj (Option.some.inj equal)
  exact .consumer fed sent staying reaction

theorem feeds_own
    {event : Server.Event} (own : event.isOwn = true) :
    Feeds dialogue event.heard? dialogue.inward ∧ unsent? event = none := by
  cases event <;>
    first
    | exact ⟨.nothing, rfl⟩
    | simp [Server.Event.isOwn] at own

/-- The calls that a dialogue admits are those of a consumer that stays. -/
theorem staying_of_admits
    {event : Consumer.Event} (admitted : dialogue.admits event = true) :
    event.heard? = none ∧ unsaid? event = none ∧
      event.Staying dialogue.request dialogue.consumer := by
  cases event with
  | client event =>
      cases event with
      | attach request =>
          simp only [admits, Bool.and_eq_true, Bool.or_eq_true,
            decide_eq_true_eq] at admitted
          exact ⟨rfl, rfl, admitted⟩
      | awaitCycles => exact ⟨rfl, rfl, trivial⟩
      | _ => simp [admits] at admitted
  | stream index event =>
      cases event with
      | sent result => simp [admits] at admitted
      | received result => simp [admits] at admitted
      | _ => exact ⟨rfl, rfl, trivial⟩
  | gather index => simp [admits] at admitted
  | sequence index event => simp [admits] at admitted

/-- Every step of a dialogue is a step of one side. -/
theorem turn_of_step
    {action : Action} (stepped : dialogue.step action = some (next, journal)) :
    Turn dialogue next journal := by
  cases action with
  | server event =>
      simp only [step] at stepped
      split at stepped
      next own =>
        obtain ⟨fed, sent⟩ := feeds_own own
        exact turn_of_advanceServer fed (by simp [sent]) stepped
      next => simp at stepped
  | serverSent party failure =>
      cases failure with
      | none =>
          refine turn_of_advanceServer ?_ ?_ stepped
          · cases party <;> exact .nothing
          · cases party <;> simp [unsent?, Builder.sentEvent]
      | some kind =>
          simp only [step] at stepped
          split at stepped
          next gone =>
            refine turn_of_advanceServer ?_ ?_ stepped
            · cases party <;> exact .nothing
            · cases party <;>
                simp [unsent?, Builder.sentEvent, gone]
          next => simp at stepped
  | serverReceived party =>
      simp only [step] at stepped
      split at stepped
      next line rest first =>
        refine turn_of_advanceServer ?_ ?_ stepped
        · cases party <;> exact .line first
        · cases party <;> simp [unsent?, Builder.receivedEvent]
      next empty =>
        split at stepped
        next gone =>
          refine turn_of_advanceServer ?_ ?_ stepped
          · cases party <;> exact .ended empty gone
          · cases party <;> simp [unsent?, Builder.receivedEvent]
        next => simp at stepped
  | consumer event =>
      simp only [step] at stepped
      split at stepped
      next admitted =>
        obtain ⟨deaf, sent, staying⟩ := staying_of_admits admitted
        refine turn_of_advanceConsumer ?_ sent staying stepped
        rw [deaf]
        exact .nothing
      next => simp at stepped
  | consumerSent party =>
      refine turn_of_advanceConsumer ?_ ?_ ?_ stepped
      · cases party <;> exact .nothing
      · cases party <;> rfl
      · cases party <;> trivial
  | consumerReceived party =>
      simp only [step] at stepped
      split at stepped
      next line rest first =>
        refine turn_of_advanceConsumer ?_ ?_ ?_ stepped
        · cases party <;> exact .line first
        · cases party <;> rfl
        · cases party <;> trivial
      next => simp at stepped
  | closed result =>
      refine turn_of_advanceConsumer ?_ ?_ ?_ stepped
      · exact .nothing
      · rfl
      · trivial

end Dialogue

end BuildWatch
