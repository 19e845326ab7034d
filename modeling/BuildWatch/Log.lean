import BuildWatch.Message

/-!
# Log entries

The entries of a log that matter to whoever runs a build: errors of the
server and warnings of the client.
-/

namespace BuildWatch

/-- How serious an entry is. -/
inductive Severity where
  | warning
  | error
deriving DecidableEq

/-- How a log names a severity. -/
def Severity.name : Severity → String
  | .warning => "WARN"
  | .error => "ERROR"

/-- What a log tells. -/
inductive LogEntry where
  /-- The handshake with an accepted client failed. -/
  | handshakeFailed
  /-- No client could be accepted. -/
  | acceptFailed
  /-- The client gave a cycle up or could not do it. -/
  | cycleNotCompleted
  /-- The client received what is no message. -/
  | undecodableIgnored
  /-- The client received another message than a cycle. -/
  | messageIgnored
  /-- The client could not send that a cycle is completed. -/
  | completionUnsent
  /-- There was nothing left to send with that a cycle is completed. -/
  | completionOrphaned
deriving DecidableEq

namespace LogEntry

/-- Errors are those of the server, warnings those of the client. -/
def severity : LogEntry → Severity
  | .handshakeFailed => .error
  | .acceptFailed => .error
  | .cycleNotCompleted => .error
  | .undecodableIgnored => .warning
  | .messageIgnored => .warning
  | .completionUnsent => .warning
  | .completionOrphaned => .warning

/-- What an entry is written as. -/
def text : LogEntry → String
  | .handshakeFailed =>
      "Failed to connect to incremental build protocol client"
  | .acceptFailed =>
      "Failed to accept incremental build protocol client"
  | .cycleNotCompleted => "Client did not complete cycle"
  | .undecodableIgnored => "Ignoring undecodable message"
  | .messageIgnored => "Expected CYCLE, ignoring message"
  | .completionUnsent => "Failed to send CYCLE_COMPLETED"
  | .completionOrphaned => "No runtime left to send CYCLE_COMPLETED"

/-- The line of a log that an entry makes. -/
def line (entry : LogEntry) : String :=
  entry.severity.name ++ " " ++ entry.text

end LogEntry

end BuildWatch
