import BuildWatch.CommandLine.Pipeline
import BuildWatch.Main
import BuildWatch.Socket.Loopback
import BuildWatch.Transport.Script
import BuildWatch.Proofs.Runs
import BuildWatch.Proofs.Server.Moves
import BuildWatch.Proofs.Server.Gates
import BuildWatch.Proofs.Handshake
import BuildWatch.Proofs.Server.Exclusion
import BuildWatch.Proofs.CycleStream.Acknowledgments
import BuildWatch.Proofs.Json.RoundTrip
import BuildWatch.Proofs.Capability
import BuildWatch.Proofs.Server.Talk
import BuildWatch.Proofs.Client.Talk
import BuildWatch.Proofs.CycleStream.Progress
import BuildWatch.Proofs.Server.Ledger
import BuildWatch.Proofs.Server.Course
import BuildWatch.Proofs.Client.Failures
import BuildWatch.Proofs.Consumer.Course
import BuildWatch.Proofs.Dialogue.Step
import BuildWatch.Proofs.Dialogue.Channels
import BuildWatch.Proofs.Dialogue.Agreement
import BuildWatch.Proofs.Dialogue.Cycles
import BuildWatch.Proofs.Dialogue.Delivery
import BuildWatch.Proofs.Message.Codec
import BuildWatch.Proofs.Server.Reception
import BuildWatch.Proofs.Server.Closure
import BuildWatch.Proofs.Builder
import BuildWatch.Proofs.Client.Calls
import BuildWatch.Proofs.Json.Printable
import BuildWatch.Proofs.Socket.Alone
import BuildWatch.Proofs.Socket.Closing
import BuildWatch.Proofs.Socket.Runtime
import BuildWatch.Proofs.Socket.Delivery
import BuildWatch.Proofs.Server.Answers
import BuildWatch.Proofs.Server.Cycle
import BuildWatch.Proofs.Server.Numbering
import BuildWatch.Proofs.Client.Script
import BuildWatch.Proofs.Client.Attachment
import BuildWatch.Proofs.Server.Veil
import BuildWatch.Proofs.Server.Discretion
import BuildWatch.Proofs.Server.Cancellation
import BuildWatch.Proofs.Server.Serving
import BuildWatch.Proofs.Client.Awaiting
import BuildWatch.Proofs.CycleStream.Endings
import BuildWatch.Proofs.Message.Grammar
import BuildWatch.Proofs.Capability.Request
import BuildWatch.Proofs.Batch
import BuildWatch.Proofs.Config
import BuildWatch.Proofs.CycleStream.Sequence
import BuildWatch.Proofs.Consumer.Connections
import BuildWatch.Proofs.Socket.Files
import BuildWatch.Socket.Machine
import BuildWatch.Proofs.Socket.Ownership
import BuildWatch.Socket.Runtime
