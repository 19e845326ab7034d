import BuildWatch.Transport

/-!
# Scripted transports

A scripted transport receives what a script says and keeps what is sent.  It
fails where it is told to.  Once it is closed, nothing is sent or received
through it, and a peer is no longer accepted.
-/

namespace BuildWatch

/-- What a scripted transport receives. -/
inductive ScriptItem where
  /-- A text, which may be a message. -/
  | text (raw : String)
  | failure (error : TransportError)
deriving DecidableEq

/-- What receiving comes to when the script is at its end. -/
inductive ScriptEnd where
  | closed
  /-- It waits until the script goes on. -/
  | waits
deriving DecidableEq

/-- What accepting a peer comes to. -/
inductive ScriptAccept where
  | allowed
  | refused
  /-- The operating system fails. -/
  | failing
  /-- It waits until a peer is allowed. -/
  | waits
deriving DecidableEq

/-- A transport that does what a script tells. -/
structure Script where
  incoming : List ScriptItem
  /-- What receiving comes to afterwards. -/
  atEnd : ScriptEnd
  /-- What accepting comes to. -/
  accepting : ScriptAccept
  bindFails : Bool
  sendFails : Bool
  /-- Whether closing reports an error. -/
  closeFails : Bool
  boundTo : Option String
  accepted : Bool
  closed : Bool
  sent : List Message

namespace Script

/-- A transport that receives what a list says and never fails by itself. -/
def ofItems (incoming : List ScriptItem) : Script where
  incoming
  atEnd := .closed
  accepting := .allowed
  bindFails := false
  sendFails := false
  closeFails := false
  boundTo := none
  accepted := false
  closed := false
  sent := []

/-- Lets the script go on. -/
def push (script : Script) (items : List ScriptItem) : Script :=
  { script with incoming := script.incoming ++ items }

/-- Lets a peer be accepted. -/
def allow (script : Script) : Script :=
  match script.accepting with
  | .waits => { script with accepting := .allowed }
  | _ => script

/-- A failure without a name of its own. -/
def failed {α : Type} : Except TransportError α := .error (.io .other)

/-- Binds an address. -/
def bind (address : String) (script : Script) :
    Except TransportError Unit × Script :=
  if script.bindFails then (failed, script)
  else (.ok (), { script with boundTo := some address })

/-- Accepts a peer. -/
def accept (script : Script) :
    Option (Except TransportError Unit) × Script :=
  if script.closed then (some (.error .notAccepted), script)
  else
    match script.accepting with
    | .allowed => (some (.ok ()), { script with accepted := true })
    | .refused => (some (.error .notAccepted), script)
    | .failing => (some failed, script)
    | .waits => (none, script)

/-- Sends a message. -/
def send (message : Message) (script : Script) :
    Except TransportError Unit × Script :=
  if script.closed then (.error .notConnected, script)
  else if script.sendFails then (failed, script)
  else (.ok (), { script with sent := script.sent ++ [message] })

/-- What an item of the script is received as. -/
def result : ScriptItem → Except TransportError Message
  | .text raw => (Message.decode raw).mapError TransportError.decode
  | .failure error => .error error

/-- Receives the next item of the script. -/
def receive (attempt : Attempt) (script : Script) :
    Option (Except TransportError Message) × Script :=
  if script.closed then
    match attempt with
    | .first => (some (.error .notConnected), script)
    | .again => (some (.error .closed), script)
  else
    match script.incoming, script.atEnd with
    | item :: rest, _ =>
        (some (result item), { script with incoming := rest })
    | [], .closed => (some (.error .closed), script)
    | [], .waits => (none, script)

/-- Hangs up. -/
def close (script : Script) : Except TransportError Unit × Script :=
  (if script.closeFails then failed else .ok (),
    { script with closed := true })

/-- Whether a peer was accepted and nobody hung up. -/
def hasConnection (script : Script) : Bool :=
  script.accepted && !script.closed

/-- The operations of a scripted transport. -/
def listener : Listener Script where
  send := send
  receive := receive
  close := close
  backlog := fun script => script.incoming.length
  bind := bind
  accept := fun _ => accept
  abandon := id
  hasConnection := hasConnection

end Script

end BuildWatch
