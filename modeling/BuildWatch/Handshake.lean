import BuildWatch.Error

/-!
# Handshakes

Before the first cycle the two sides agree on a version, from version 1 on
also on capabilities, and from version 2 on the client subscribes.  Each side
goes through stages: in one it sends a message, in another it waits for one.
A stage leads to the next one, to an agreement or to an error.
-/

namespace BuildWatch

/-- How a handshake goes on behind a stage. -/
inductive Progress (Stage Agreement : Type) where
  | next (stage : Stage)
  | agreed (agreement : Agreement)
deriving DecidableEq

/-- The error of a message of another kind than the handshake asks for. -/
def ProtocolError.unexpected (expected : MessageKind) (message : Message) :
    ProtocolError :=
  .unexpectedMessage expected message.kind

/-- What a server agreed on with its client. -/
structure Session where
  version : Version
  /-- The capabilities, on versions that have them. -/
  capabilities : Option Capabilities
  /-- What the client watches, on versions that have subscriptions. -/
  watchType : Option String
deriving DecidableEq

namespace Session

/-- Whether messages of the session carry trace identifiers. -/
def traced (session : Session) : Bool :=
  session.capabilities.any (·.otelEnabled)

/-- A message of the session, with the identifiers of the active span. -/
def attach (session : Session) (trace : TraceContext) (message : Message) :
    Message :=
  if session.traced then message.withTrace trace.fields else message

/-- The message of a cycle; versions without scopes leave the scope out. -/
def cycleMessage (session : Session) (trace : TraceContext)
    (number : CycleId) (scope : Scope) (changes : Changes) : Message :=
  let known := if session.version.hasScope then some scope else none
  session.attach trace (Message.plain (.cycle number known changes))

/-- The message that ends a build. -/
def exitMessage (session : Session) (trace : TraceContext)
    (description : String) : Message :=
  session.attach trace (Message.plain (.exit description))

end Session

end BuildWatch
