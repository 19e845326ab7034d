import BuildWatch.Socket.Network
import BuildWatch.Text.Blank
import BuildWatch.Transport

/-!
# Messages as lines

On a connection every message is a line.  A line ends with a line feed, which
the last one may lack.  A line that is not UTF-8 is reported and otherwise
ignored, a blank line is skipped, and any other line is read as a message
without the blanks around it.

A channel reads as many bytes as it can get at once and keeps those that it
has not used.
-/

namespace BuildWatch

namespace LineChannel

/-- The byte that ends a line. -/
def lineFeed : UInt8 := 10

/-- The first line of some bytes and what follows it, if the line ends. -/
def splitLine : List UInt8 → Option (List UInt8 × List UInt8)
  | [] => none
  | byte :: rest =>
      if byte = lineFeed then some ([], rest)
      else (splitLine rest).map fun (line, after) => (byte :: line, after)

/-- What a line is received as; nothing if it is blank. -/
def lineResult (line : List UInt8) :
    Option (Except TransportError Message) :=
  match String.fromUTF8? ⟨line.toArray⟩ with
  | none => some (.error (.io .invalidData))
  | some text =>
      let trimmed := Blank.trim text
      if trimmed.isEmpty then none
      else some ((Message.decode trimmed).mapError TransportError.decode)

/-- The line that a message is sent as. -/
def messageLine (message : Message) : List UInt8 :=
  message.encode.toUTF8.toList ++ [lineFeed]

/-- A line that was read. -/
structure Line where
  /-- The bytes of the line, without its end. -/
  bytes : List UInt8
  /-- Whether it ends with a line feed, and not with the input. -/
  ended : Bool
deriving DecidableEq

/-- Whoever reads lines from an end of a connection. -/
structure Reader where
  /-- The end of the connection that is read. -/
  endpoint : Endpoint
  /-- The bytes that were read and not used. -/
  buffer : List UInt8
deriving DecidableEq

/--
Reads the next line: `none` if it has to wait, and nothing at the end of
input.  An error of the connection keeps the start of a line.
-/
def Reader.nextLine : (fuel : Nat) → Reader → Network →
    Option (Except IoKind (Option Line)) × Reader × Network
  | 0, reader, network => (none, reader, network)
  | fuel + 1, reader, network =>
      match splitLine reader.buffer with
      | some (line, rest) =>
          (some (.ok (some ⟨line, true⟩)), { reader with buffer := rest },
            network)
      | none =>
          match network.read reader.endpoint with
          | (none, after) => (none, reader, after)
          | (some (.error kind), after) => (some (.error kind), reader, after)
          | (some (.ok []), after) =>
              if reader.buffer.isEmpty then (some (.ok none), reader, after)
              else
                (some (.ok (some ⟨reader.buffer, false⟩)),
                  { reader with buffer := [] }, after)
          | (some (.ok bytes), after) =>
              Reader.nextLine fuel
                { reader with buffer := reader.buffer ++ bytes } after

/-- The bytes that can be read without waiting. -/
def Reader.available (reader : Reader) (network : Network) : Nat :=
  reader.buffer.length + (network.terminal reader.endpoint).inbox.length

end LineChannel

/-- A connection that moves messages. -/
structure LineChannel where
  /-- Where messages are read, while it is open. -/
  reader : Option LineChannel.Reader
  /-- Where messages are written, while it is open. -/
  writer : Option Endpoint
  /-- Whether there was no failure since there is a peer. -/
  connected : Bool
  /-- Whether it is closed for ever. -/
  closed : Bool
deriving DecidableEq

namespace LineChannel

/-- A channel without a peer. -/
def detached : LineChannel := ⟨none, none, false, false⟩

/-- A channel of an end of a connection. -/
def ofEndpoint (endpoint : Endpoint) : LineChannel :=
  ⟨some ⟨endpoint, []⟩, some endpoint, true, false⟩

/-- Whether messages can be exchanged, as far as is known. -/
def isConnected (channel : LineChannel) : Bool :=
  channel.connected && !channel.closed

/-- Writes a message as a line of its own. -/
def send (message : Message) (channel : LineChannel) (network : Network) :
    Except TransportError Unit × LineChannel × Network :=
  match channel.writer with
  | none => (.error .notConnected, channel, network)
  | some endpoint =>
      match network.write endpoint (messageLine message) with
      | (.ok (), after) => (.ok (), channel, after)
      | (.error kind, after) =>
          (.error (.io kind), { channel with connected := false }, after)

/-- Receives the message of the next line that is not blank. -/
def receiveLines : (fuel : Nat) → Reader → LineChannel → Network →
    Option (Except TransportError Message) × LineChannel × Network
  | 0, reader, channel, network =>
      (none, { channel with reader := some reader }, network)
  | fuel + 1, reader, channel, network =>
      match reader.nextLine (reader.available network + 2) network with
      | (none, next, after) =>
          (none, { channel with reader := some next }, after)
      | (some (.error kind), next, after) =>
          (some (.error (.io kind)), { channel with reader := some next },
            after)
      | (some (.ok none), next, after) =>
          (some (.error .closed),
            { channel with reader := some next, connected := false }, after)
      | (some (.ok (some line)), next, after) =>
          match lineResult line.bytes with
          | none => receiveLines fuel next channel after
          | some result =>
              (some result, { channel with reader := some next }, after)

/-- Receives a message, or has to wait. -/
def receive (attempt : Attempt) (channel : LineChannel)
    (network : Network) :
    Option (Except TransportError Message) × LineChannel × Network :=
  match attempt, channel.closed with
  | .again, true => (some (.error .closed), channel, network)
  | _, _ =>
      match channel.reader with
      | none => (some (.error .notConnected), channel, network)
      | some reader =>
          if channel.closed then (some (.error .closed), channel, network)
          else
            receiveLines (reader.available network + 2) reader channel
              network

/-! ## Closing in steps -/

/-- Marks the channel as closed, which ends all waiting. -/
def markClosed (channel : LineChannel) : LineChannel :=
  { channel with connected := false, closed := true }

/-- The end that messages are read from. -/
def readEnd (channel : LineChannel) : Option Endpoint :=
  channel.reader.map (·.endpoint)

/-- Gives the writing half up; without both halves an end is closed. -/
def dropWriter (channel : LineChannel) (network : Network) :
    LineChannel × Network :=
  match channel.writer with
  | none => (channel, network)
  | some endpoint =>
      let ended := network.endOutput endpoint
      ({ channel with writer := none },
        if channel.readEnd = some endpoint then ended
        else ended.hangUp endpoint false)

/-- Gives the reading half up; without both halves an end is closed. -/
def dropReader (channel : LineChannel) (network : Network) :
    LineChannel × Network :=
  match channel.readEnd with
  | none => (channel, network)
  | some endpoint =>
      ({ channel with reader := none },
        if channel.writer = some endpoint then network
        else network.hangUp endpoint false)

/-- Reads messages from an end, instead of the one that was read. -/
def attachReader (endpoint : Endpoint) (channel : LineChannel)
    (network : Network) : LineChannel × Network :=
  let (unread, after) := channel.dropReader network
  ({ unread with reader := some ⟨endpoint, []⟩ }, after)

/-- Writes messages to an end, which is the peer from then on. -/
def attachWriter (endpoint : Endpoint) (channel : LineChannel)
    (network : Network) : LineChannel × Network :=
  let (unwritten, after) := channel.dropWriter network
  ({ unwritten with writer := some endpoint, connected := true }, after)

/-- Marks the channel as closed and gives both halves up. -/
def shutdown (channel : LineChannel) (network : Network) :
    LineChannel × Network :=
  let (half, ended) := channel.markClosed.dropWriter network
  half.dropReader ended

/-- A bound on the messages that can be received without waiting. -/
def backlog (channel : LineChannel) (network : Network) : Nat :=
  (channel.reader.map (·.available network)).getD 0 + 2

end LineChannel

end BuildWatch
