import BuildWatch.Capability
import BuildWatch.Message.Decode

/-!
# Errors

A transport fails for a reason of the operating system, because what it
received is no message, or because there is no peer.  A protocol error is a
failure of the transport or something that the peer or the caller did
against the protocol.  A message that cannot be read counts as the second
kind, wherever it was found.
-/

namespace BuildWatch

/-- The kind of a failure of the operating system. -/
inductive IoKind where
  | other
  | brokenPipe
  | notFound
  | invalidData
  | isADirectory
  | notADirectory
  | invalidInput
  | connectionRefused
  | connectionReset
  | addressInUse
  | alreadyExists
  | unsupported
deriving DecidableEq, Inhabited

/-- How the operating system names a failure. -/
def IoKind.text : IoKind → String
  | .other => "input or output failed"
  | .brokenPipe => "Broken pipe (os error 32)"
  | .notFound => "No such file or directory (os error 2)"
  | .invalidData => "stream did not contain valid UTF-8"
  | .isADirectory => "Is a directory (os error 21)"
  | .notADirectory => "Not a directory (os error 20)"
  | .invalidInput => "path must be shorter than SUN_LEN"
  | .connectionRefused => "Connection refused (os error 111)"
  | .connectionReset => "Connection reset by peer (os error 104)"
  | .addressInUse => "Address already in use (os error 98)"
  | .alreadyExists => "File exists (os error 17)"
  | .unsupported => "operation not supported"

/-- Why a transport did not do what it was asked for. -/
inductive TransportError where
  | io (kind : IoKind)
  | decode (error : DecodeError)
  /-- No peer was accepted before the transport was closed. -/
  | notAccepted
  | notConnected
  /-- The peer, or this side, hung up. -/
  | closed
deriving DecidableEq

/-- The error as it is shown. -/
def TransportError.text : TransportError → String
  | .io kind => "I/O error: " ++ kind.text
  | .decode error => error.text
  | .notAccepted => "No connection was accepted"
  | .notConnected => "Not connected"
  | .closed => "Connection closed"

/-- Why an operation of an engine failed. -/
inductive ProtocolError where
  | transport (error : TransportError)
  | decode (error : DecodeError)
  | alreadyServing
  | alreadyConnected
  | notConnected
  | alreadyAwaitingCycles
  | unexpectedMessage (expected actual : MessageKind)
  | unsupportedVersion (version : Version) (supported : List Version)
  | noCommonVersion (offered supported : List Version)
  | capabilitiesUnsupported (version : Version)
  | capability (error : CapabilityError)
  /-- The client answered about another cycle. -/
  | cycleMismatch (expected actual : CycleId) (kind : MessageKind)
  /-- The client sent what is no answer about a cycle. -/
  | unexpectedCycleResponse (cycle : CycleId) (kind : MessageKind)
deriving DecidableEq

namespace ProtocolError

/-- A failure of the transport; what is no message is a fault of the peer. -/
def ofTransport : TransportError → ProtocolError
  | .decode error => .decode error
  | other => .transport other

/-- The error as it is shown. -/
def text : ProtocolError → String
  | .transport error => error.text
  | .decode error => "Malformed message: " ++ error.text
  | .alreadyServing => "Server is already serving"
  | .alreadyConnected => "Client already connected"
  | .notConnected => "Not connected"
  | .alreadyAwaitingCycles =>
      "Cycles are already being awaited on this connection"
  | .unexpectedMessage expected actual =>
      "Expected " ++ expected.name ++ ", got " ++ actual.name
  | .unsupportedVersion version supported =>
      "Peer selected unsupported version " ++ version.text
        ++ ", expected one of " ++ Version.listText supported
  | .noCommonVersion offered supported =>
      "No common protocol version: offered " ++ Version.listText offered
        ++ ", supported " ++ Version.listText supported
  | .capabilitiesUnsupported version =>
      "Server negotiated version " ++ version.text
        ++ " which does not support capabilities negotiation"
  | .capability error => "Invalid capabilities: " ++ error.text
  | .cycleMismatch expected actual kind =>
      "Received " ++ kind.name ++ " for cycle_id=" ++ toString actual.toNat
        ++ ", expected cycle_id=" ++ toString expected.toNat
  | .unexpectedCycleResponse cycle kind =>
      "Received unexpected " ++ kind.name ++ " while waiting on cycle_id="
        ++ toString cycle.toNat

end ProtocolError

end BuildWatch
