import BuildWatch.CommandLine.Program
import BuildWatch.CycleLine
import BuildWatch.Link.Build
import BuildWatch.Text.Lines

/-!
# Two runs of the program

One run serves the batches of its standard input, the other watches them, and
a socket joins the two.
-/

namespace BuildWatch

namespace CommandLine

/-- What the two runs come to. -/
structure Joined where
  /-- What the serving run comes to. -/
  serving : Result
  /-- What the watching run comes to. -/
  watching : Result
  /-- Whether the socket is still at its path. -/
  socketLeft : Bool

/-- What a build tells a follower about the batches of an input. -/
def buildOf (input : String) : Build where
  errands :=
    (BatchReader.batches (Lines.ofText input)).map
      (.cycle TraceContext.none .sources)
  goodbye := some (.exit TraceContext.none "")
  persistent := false

/-- What a call that must succeed comes to, if it fails. -/
def failure? (result : Option (Except ProtocolError Unit)) :
    Option Result :=
  match result with
  | some (.error error) => some (.failure error.text)
  | _ => none

/-- What the watching run comes to. -/
def watchResult (link : Link) : Result :=
  let output := Lines.text (link.watcher.items.filterMap fun
    | some (.ok event) => some event.line
    | _ => none)
  let awaited := link.awaited?.map fun found => found.map fun _ => ()
  let failed :=
    failure? link.attached? <|> failure? awaited
      <|> failure? link.watcher.stops[0]? <|> failure? link.disconnected?
  match failed with
  | some failure => { failure with output }
  | none => ⟨0, output, none⟩

/-- What the serving run comes to. -/
def serveResult (link : Link) (report : BuildReport) : Result :=
  let code := if report.succeeded then 0 else 1
  ⟨code, exportText link.builder.machine.environment, none⟩

/-- A watching run on a machine where nobody serves. -/
def watchAlone (address : String) : Result :=
  match Network.empty.connect address with
  | (.error kind, _) => .failure (TransportError.io kind).text
  | (.ok _, _) => ⟨0, "", none⟩

/-- What a run of the program on a machine of its own comes to. -/
def runAlone (environment : Environment) (arguments : List String) :
    Option Result :=
  match plan environment arguments with
  | .finish result => some result
  | .watch address _ _ => some (watchAlone address)
  | .serve _ => none

/-- Serves an input to a watching run. -/
def join (server : ServerOptions) (client : ClientOptions)
    (request : CapabilityRequest) (input : String) : Option Joined := do
  let start := Link.new server client (Follower.new none .stops) Network.empty
  let (_, served) := start.serve TraceContext.none
  let connected ← (served.connect request).toOption
  let (report, final) := connected.build (buildOf input)
  some
    { serving := serveResult final report
      watching := watchResult final
      socketLeft := final.network.pathExists server.socketPath }

end CommandLine

end BuildWatch
