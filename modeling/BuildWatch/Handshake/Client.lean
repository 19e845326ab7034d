import BuildWatch.Handshake

/-!
# The handshake of a client

The client waits for the versions that the server offers and answers with
the first that it supports.  If that version has capabilities, it asks for
some, be it none, and takes the answer of the server for what was agreed.
The subscription follows later, before the first cycle.
-/

namespace BuildWatch.ClientHandshake

/-- The stages in which the client sends. -/
inductive Sending where
  /-- The choice of a version. -/
  | choose (version : Version)
  /-- The capabilities that it asks for. -/
  | request (version : Version)
deriving DecidableEq

/-- The stages in which the client waits for the server. -/
inductive Receiving where
  /-- For the versions. -/
  | offer
  /-- For the capabilities that are granted. -/
  | grant (version : Version)
deriving DecidableEq

/-- A stage of the handshake. -/
inductive Stage where
  | sending (stage : Sending)
  | receiving (stage : Receiving)
deriving DecidableEq

/-- What a client agreed on with its server. -/
structure Agreement where
  /-- The version that the client picked. -/
  version : Version
  /-- The capabilities, on versions that have them. -/
  capabilities : Option Capabilities
deriving DecidableEq

/-- The stage in which every handshake starts. -/
def start : Stage := .receiving .offer

/-- The message of a stage. -/
def Sending.message (request : CapabilityRequest) : Sending → Message
  | .choose version => Message.plain (.negotiateResponse version)
  | .request _ => Message.plain (.caps (Json.object request.toWire))

/-- What follows once the message of a stage is sent. -/
def Sending.sent (request : CapabilityRequest) :
    Sending → Except ProtocolError (Progress Stage Agreement)
  | .choose version =>
      if version.hasCapabilities then
        .ok (.next (.sending (.request version)))
      else if request.isEmpty then .ok (.agreed ⟨version, none⟩)
      else .error (.capabilitiesUnsupported version)
  | .request version => .ok (.next (.receiving (.grant version)))

/-- What follows once a message is received. -/
def Receiving.received (supported : List Version) (message : Message) :
    Receiving → Except ProtocolError (Progress Stage Agreement)
  | .offer =>
      match message.body with
      | .negotiate offered =>
          match Version.select offered supported with
          | some version => .ok (.next (.sending (.choose version)))
          | none => .error (.noCommonVersion offered supported)
      | _ => .error (.unexpected .negotiate message)
  | .grant version =>
      match message.body with
      | .capsResponse granted =>
          match Capabilities.ofWire (some granted) with
          | .ok capabilities =>
              .ok (.agreed ⟨version, some capabilities⟩)
          | .error error => .error (.capability error)
      | _ => .error (.unexpected .capsResponse message)

end BuildWatch.ClientHandshake
