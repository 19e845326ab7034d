import BuildWatch.Link

/-!
# A whole build

A build waits for its follower, tells it about changes, says goodbye and
closes.  It either goes on behind a call that failed or ends with it.
-/

namespace BuildWatch

/-- What a build tells its follower. -/
structure Build where
  errands : List Errand
  goodbye : Option Errand
  /-- Whether it goes on behind a call that failed. -/
  persistent : Bool

structure BuildReport where
  version : Option Version
  results : List (Except ProtocolError Unit)
  goodbye : Option (Except ProtocolError Unit)
  /-- Whether the server had a peer before it closed. -/
  connected : Bool
  closing : Option (Except ProtocolError Unit)

/-- Whether every call that was made succeeded. -/
def BuildReport.succeeded (report : BuildReport) : Bool :=
  let good (result : Except ProtocolError Unit) : Bool := result.toOption.isSome
  report.results.all good && report.goodbye.all good && report.closing.all good

namespace Link

/-- Tells the follower things in turn, up to a failure unless persistent. -/
def tell (persistent : Bool) :
    List Errand → Link → List (Except ProtocolError Unit) × Bool × Link
  | [], link => ([], true, link)
  | errand :: rest, link =>
      match link.result? (.call errand) with
      | (none, after) => ([], false, after)
      | (some result, after) =>
          if persistent || result.toOption.isSome then
            let (more, completed, final) := tell persistent rest after
            (result :: more, completed, final)
          else ([result], false, after)

/-- Ends the process of the server: connections close, paths stay. -/
def vanish (link : Link) : Link :=
  let (channel, hungUp) := link.transport.channel.shutdown link.network
  let (transport, network) :=
    SocketServer.dropListener { link.transport with channel } hungUp
  { link with transport, network }.settle

/-- Lets a build run that has a follower. -/
def build (plan : Build) (link : Link) : BuildReport × Link :=
  let (version, waited) := link.awaitConnection
  let errands := if version.isSome then plan.errands else []
  let last := if version.isSome then plan.goodbye.toList else []
  let (results, told, cycled) := tell plan.persistent errands waited
  let (goodbyes, done, parted) :=
    if told then tell plan.persistent last cycled else ([], false, cycled)
  let connected := parted.transport.channel.isConnected
  let (closing, final) :=
    if done then parted.result? .close else (none, parted.vanish)
  ({ version, results, goodbye := goodbyes.head?, connected, closing }, final)

end Link

end BuildWatch
