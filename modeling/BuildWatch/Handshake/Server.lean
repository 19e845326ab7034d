import BuildWatch.Handshake

/-!
# The handshake of a server

The server offers its versions and waits for the choice of the client.  It
then waits for the capabilities that the client asks for and answers with
what it understood, and last it waits for the subscription and confirms it.
-/

namespace BuildWatch.ServerHandshake

/-- The stages in which the server sends. -/
inductive Sending where
  /-- The versions are offered. -/
  | offer
  /-- The capabilities are granted. -/
  | grant (version : Version) (capabilities : Capabilities)
  /-- The subscription is confirmed. -/
  | confirm (version : Version) (capabilities : Option Capabilities)
      (watchType : String)
deriving DecidableEq

/-- The stages in which the server waits for the client. -/
inductive Receiving where
  /-- For the choice of a version. -/
  | choice
  /-- For the capabilities that the client asks for. -/
  | request (version : Version)
  /-- For the subscription. -/
  | subscription (version : Version) (capabilities : Option Capabilities)
deriving DecidableEq

/-- A stage of the handshake. -/
inductive Stage where
  | sending (stage : Sending)
  | receiving (stage : Receiving)
deriving DecidableEq

/-- The stage in which every handshake starts. -/
def start : Stage := .sending .offer

/-- The message of a stage. -/
def Sending.message (supported : List Version) (trace : TraceContext) :
    Sending → Message
  | .offer => Message.plain (.negotiate supported)
  | .grant _ capabilities =>
      let response :=
        Message.plain (.capsResponse (Json.object capabilities.toWire))
      if capabilities.otelEnabled then response.withTrace trace.fields
      else response
  | .confirm _ _ _ => Message.plain .subscribeResponse

/-- What follows once the capabilities are settled. -/
def subscribe (version : Version) (capabilities : Option Capabilities) :
    Progress Stage Session :=
  if version.hasSubscription then
    .next (.receiving (.subscription version capabilities))
  else .agreed ⟨version, capabilities, none⟩

/-- What follows once the version is settled. -/
def negotiate (version : Version) : Progress Stage Session :=
  if version.hasCapabilities then .next (.receiving (.request version))
  else subscribe version none

/-- What follows once the message of a stage is sent. -/
def Sending.sent : Sending → Progress Stage Session
  | .offer => .next (.receiving .choice)
  | .grant version capabilities => subscribe version (some capabilities)
  | .confirm version capabilities watchType =>
      .agreed ⟨version, capabilities, some watchType⟩

/-- What follows once a message is received. -/
def Receiving.received (supported : List Version) (message : Message) :
    Receiving → Except ProtocolError (Progress Stage Session)
  | .choice =>
      match message.body with
      | .negotiateResponse version =>
          if version ∈ supported then .ok (negotiate version)
          else .error (.unsupportedVersion version supported)
      | _ => .error (.unexpected .negotiateResponse message)
  | .request version =>
      match message.body with
      | .caps requested =>
          match Capabilities.ofWire (some requested) with
          | .ok capabilities =>
              .ok (.next (.sending (.grant version capabilities)))
          | .error error => .error (.capability error)
      | _ => .error (.unexpected .caps message)
  | .subscription version capabilities =>
      match message.body with
      | .subscribe watchType =>
          .ok (.next (.sending (.confirm version capabilities watchType)))
      | _ => .error (.unexpected .subscribe message)

end BuildWatch.ServerHandshake
