import BuildWatch.Proofs.Runs
import BuildWatch.Proofs.Socket.Reading
import BuildWatch.Socket.Server

/-!
# What a channel receives from its peer

A peer writes bytes in chunks of its own choosing, or it sends messages, until
it hangs up.  The channel at the other end receives what the lines of these
bytes say, in their order, and is told in the end that the connection is over.
That it was reset comes once, behind the lines that were ended.
-/

namespace BuildWatch

theorem Endpoint.peer_peer (endpoint : Endpoint) :
    endpoint.peer.peer = endpoint := by
  obtain ⟨connection, side⟩ := endpoint
  cases side <;> rfl

theorem Endpoint.peer_ne (endpoint : Endpoint) :
    endpoint.peer ≠ endpoint := by
  obtain ⟨connection, side⟩ := endpoint
  cases side <;> simp [peer, Side.other]

/-! ## What the peer does to the feed -/

namespace LineChannel.Reader

variable {reader : Reader} {network after : Network} {endpoint : Endpoint}

theorem feed_of_terminal_eq
    (same :
      after.terminal reader.endpoint = network.terminal reader.endpoint) :
    reader.feed after = reader.feed network := by
  rw [feed, feed, same]

/-- What the peer writes stands behind what it wrote before. -/
theorem feed_write
    {bytes : List UInt8} (knows : network.Knows reader.endpoint)
    (wrote :
      network.write reader.endpoint.peer bytes = (.ok (), after)) :
    after.Knows reader.endpoint ∧
      reader.feed after =
        { reader.feed network with
          bytes := (reader.feed network).bytes ++ bytes } := by
  unfold Network.write at wrote
  split at wrote
  next empty =>
    obtain ⟨-, rfl⟩ := Prod.mk.inj wrote
    simp_all
  next =>
    split at wrote
    next => simp at wrote
    next =>
      obtain ⟨-, rfl⟩ := Prod.mk.inj wrote
      rw [Endpoint.peer_peer]
      refine ⟨by simpa [Network.Knows] using knows, ?_⟩
      simp [feed, knows]

/-- What is written to the peer is not read here. -/
theorem feed_write_peer
    {bytes : List UInt8} {result : Except IoKind Unit}
    (knows : network.Knows reader.endpoint)
    (wrote : network.write reader.endpoint bytes = (result, after)) :
    after.Knows reader.endpoint ∧ reader.feed after = reader.feed network := by
  unfold Network.write at wrote
  split at wrote
  next =>
    obtain ⟨-, rfl⟩ := Prod.mk.inj wrote
    exact ⟨knows, rfl⟩
  next =>
    split at wrote
    next =>
      obtain ⟨-, rfl⟩ := Prod.mk.inj wrote
      exact ⟨knows, rfl⟩
    next =>
      obtain ⟨-, rfl⟩ := Prod.mk.inj wrote
      refine ⟨by simpa [Network.Knows] using knows, ?_⟩
      exact feed_of_terminal_eq
        (Network.terminal_change_of_ne (Endpoint.peer_ne _).symm _)

theorem network_eq_of_write_error
    {bytes : List UInt8} {kind : IoKind}
    (failed : network.write endpoint bytes = (.error kind, after)) :
    after = network := by
  unfold Network.write at failed
  split at failed
  next => simp at failed
  next =>
    split at failed
    next => exact (Prod.mk.inj failed).2.symm
    next => simp at failed

/-- A peer that hangs up says so, and says whether it resets. -/
theorem feed_hangUp
    (knows : network.Knows reader.endpoint) (reset : Bool) :
    (network.hangUp reader.endpoint.peer reset).Knows reader.endpoint ∧
      reader.feed (network.hangUp reader.endpoint.peer reset) =
        { reader.feed network with
          reset :=
            (reader.feed network).reset ||
              !(network.terminal reader.endpoint.peer).inbox.isEmpty || reset
          ended := true } := by
  have different := (Endpoint.peer_ne reader.endpoint).symm
  have still (edit : Terminal → Terminal) :
      (network.change reader.endpoint.peer edit).Knows reader.endpoint := by
    simpa [Network.Knows] using knows
  rw [Network.hangUp, Endpoint.peer_peer]
  refine ⟨by simpa [Network.Knows] using knows, ?_⟩
  simp [feed, still, different]

/-- A peer that is a channel says first that it sends no more. -/
theorem feed_shutdown (knows : network.Knows reader.endpoint) :
    ((ofEndpoint reader.endpoint.peer).shutdown network).2.Knows
        reader.endpoint ∧
      reader.feed ((ofEndpoint reader.endpoint.peer).shutdown network).2 =
        { reader.feed network with
          reset :=
            (reader.feed network).reset ||
              !(network.terminal reader.endpoint.peer).inbox.isEmpty
          ended := true } := by
  have closes :
      ((ofEndpoint reader.endpoint.peer).shutdown network).2 =
        (network.endOutput reader.endpoint.peer).hangUp reader.endpoint.peer
          false := by
    simp [shutdown, ofEndpoint, markClosed, dropWriter, dropReader, readEnd]
  have different := (Endpoint.peer_ne reader.endpoint).symm
  have known : network.Knows reader.endpoint.peer := knows
  have still (edit : Terminal → Terminal) :
      (network.change reader.endpoint.peer edit).Knows reader.endpoint := by
    simpa [Network.Knows] using knows
  have muted :
      (network.endOutput reader.endpoint.peer).Knows reader.endpoint ∧
        reader.feed (network.endOutput reader.endpoint.peer) =
          { reader.feed network with ended := true } ∧
        ((network.endOutput reader.endpoint.peer).terminal
            reader.endpoint.peer).inbox =
          (network.terminal reader.endpoint.peer).inbox := by
    rw [Network.endOutput, Endpoint.peer_peer]
    refine ⟨by simpa [Network.Knows] using knows, ?_, ?_⟩
    · simp [feed, still, different]
    · simp [Endpoint.peer_ne, known]
  obtain ⟨knowsMuted, feedMuted, unread⟩ := muted
  obtain ⟨knowsAfter, feedAfter⟩ := feed_hangUp knowsMuted false
  rw [closes]
  refine ⟨knowsAfter, ?_⟩
  rw [feedAfter, feedMuted, unread]
  simp

end LineChannel.Reader

/-- A server that accepts a peer starts like a transport that connected. -/
theorem SocketServer.channel_accept
    {server : SocketServer} {network after : Network} {endpoint : Endpoint}
    {listener : Nat} (alone : server.channel = .detached)
    (bound : server.listener = some listener)
    (met : network.takePeer listener = (some endpoint, after)) :
    (server.accept .first network).2.1.channel = .ofEndpoint endpoint := by
  simp only [accept, bound, acceptPeer, startAccepting, alone, met]
  rfl

/-! ## A channel and its peer -/

/-- A channel at one end of a connection and a peer at the other. -/
structure Correspondence where
  channel : LineChannel
  network : Network
  /-- Whether the peer is still there. -/
  present : Bool

namespace Correspondence

/-- The channel of an end whose peer is there. -/
def start (endpoint : Endpoint) (network : Network) : Correspondence :=
  ⟨.ofEndpoint endpoint, network, true⟩

inductive Event where
  /-- The peer writes some bytes. -/
  | wrote (bytes : List UInt8)
  /-- The peer is a channel, too, and sends a message. -/
  | messaged (message : Message)
  /-- The peer hangs up; it also resets if it never accepted. -/
  | hungUp (reset : Bool)
  /-- The peer is a channel, too, and is closed. -/
  | closed
  | send (message : Message)
  | receive (attempt : Attempt)
  /--
  Anything else happens on the machine, as long as nothing is sent to the
  channel.  So the peer can read what was sent to it.
  -/
  | elsewhere (after : Network)

inductive Effect where
  | wrote (bytes : List UInt8)
  | messaged (message : Message)
  /-- The peer is gone; the connection may have been reset. -/
  | gone (reset : Bool)
  | received (result : Except TransportError Message)
deriving DecidableEq

/-- Whether the peer leaves bytes that it did not read. -/
def unread (endpoint : Endpoint) (state : Correspondence) : Bool :=
  !(state.network.terminal endpoint.peer).inbox.isEmpty

def step (endpoint : Endpoint) (state : Correspondence) :
    Event → Option (Correspondence × List Effect)
  | .wrote bytes =>
      if state.present then
        let (result, network) := state.network.write endpoint.peer bytes
        some
          ({ state with network },
            if result.isOk then [.wrote bytes] else [])
      else none
  | .messaged message =>
      if state.present then
        let (result, _, network) :=
          (LineChannel.ofEndpoint endpoint.peer).send message state.network
        some
          ({ state with network },
            if result.isOk then [.messaged message] else [])
      else none
  | .hungUp reset =>
      if state.present then
        some
          ({ state with
              network := state.network.hangUp endpoint.peer reset
              present := false },
            [.gone (state.unread endpoint || reset)])
      else none
  | .closed =>
      if state.present then
        some
          ({ state with
              network :=
                ((LineChannel.ofEndpoint endpoint.peer).shutdown
                  state.network).2
              present := false },
            [.gone (state.unread endpoint)])
      else none
  | .send message =>
      let (_, channel, network) := state.channel.send message state.network
      some ({ state with channel, network }, [])
  | .receive attempt =>
      let (result, channel, network) :=
        state.channel.receive attempt state.network
      some
        ({ state with channel, network }, (result.map .received).toList)
  | .elsewhere after =>
      if after.terminal endpoint = state.network.terminal endpoint ∧
          state.network.connections.length ≤ after.connections.length then
        some ({ state with network := after }, [])
      else none

/-! ## Histories -/

/-- All bytes that the peer wrote. -/
def written (effects : List Effect) : List UInt8 :=
  effects.flatMap fun
    | .wrote bytes => bytes
    | .messaged message => LineChannel.messageLine message
    | _ => []

/-- The messages that the peer sent. -/
def messages (effects : List Effect) : List Message :=
  effects.filterMap fun
    | .messaged message => some message
    | _ => none

/-- Whether the connection was reset, if the peer is gone. -/
def departure (effects : List Effect) : Option Bool :=
  effects.findSome? fun
    | .gone reset => some reset
    | _ => none

/-- What was received, in its order. -/
def received (effects : List Effect) :
    List (Except TransportError Message) :=
  effects.filterMap fun
    | .received result => some result
    | _ => none

theorem written_append (first second : List Effect) :
    written (first ++ second) = written first ++ written second :=
  List.flatMap_append

theorem received_append (first second : List Effect) :
    received (first ++ second) = received first ++ received second :=
  List.filterMap_append

theorem departure_append (first second : List Effect) :
    departure (first ++ second) =
      (departure first).or (departure second) :=
  List.findSome?_append

/-- Everything that is received of some bytes, and of their end. -/
def answers (bytes : List UInt8) :
    Option Bool → List (Except TransportError Message)
  | none => LineChannel.results bytes
  | some reset =>
      LineChannel.results bytes
        ++ (if reset then [.error (.io .connectionReset)] else [])
        ++ LineChannel.lastResult bytes

/--
What is received at a place, if it does not have to wait: the answers in
their order, and after them nothing but the end.
-/
def outcome (bytes : List UInt8) (departure : Option Bool) (index : Nat) :
    Option (Except TransportError Message) :=
  (answers bytes departure)[index]?.or
    (departure.map fun _ => .error .closed)

/-! ## Every step keeps the order -/

variable {endpoint : Endpoint} {state next : Correspondence} {event : Event}
  {effects more : List Effect}

/-- What was received, and what is left of what was written. -/
structure Told (endpoint : Endpoint) (state : Correspondence)
    (effects : List Effect) (reader : LineChannel.Reader) : Prop where
  reading : state.channel.reader = some reader
  located : reader.endpoint = endpoint
  writing : state.channel.writer = some endpoint
  live : state.channel.closed = false
  knows : state.network.Knows endpoint
  present : state.present = (departure effects).isNone
  ended : (reader.feed state.network).ended = (departure effects).isSome
  /-- While the peer is there, the start of a line is kept. -/
  resting :
    departure effects = none →
      (reader.feed state.network).reset = false ∧
        LineChannel.rest (reader.feed state.network).bytes =
          LineChannel.rest (written effects)
  ahead :
    (reader.feed state.network).ahead =
      (answers (written effects) (departure effects)).drop
        (received effects).length
  past :
    ∀ index result,
      (received effects)[index]? = some result →
        outcome (written effects) (departure effects) index = some result

theorem told_start
    {network : Network}
    (fresh :
      network.connections[endpoint.connection]? = some ⟨.fresh, .fresh⟩) :
    Told endpoint (start endpoint network) [] ⟨endpoint, []⟩ := by
  obtain ⟨knows, found⟩ := List.getElem?_eq_some_iff.mp fresh
  have terminal : network.terminal endpoint = .fresh := by
    rw [Network.terminal, fresh]
    cases side : endpoint.side <;> rfl
  have feed :
      (⟨endpoint, []⟩ : LineChannel.Reader).feed network =
        ⟨[], false, false⟩ := by
    rw [LineChannel.Reader.feed, terminal]
    rfl
  exact
    { reading := rfl
      located := rfl
      writing := rfl
      live := rfl
      knows := knows
      present := rfl
      ended := by rw [start, feed]; rfl
      resting := fun _ => by rw [start, feed]; exact ⟨rfl, rfl⟩
      ahead := by rw [start, feed]; decide
      past := by simp [received] }

/-- Nothing is told by what does not change what can be told. -/
theorem Told.of_feed_eq
    {reader : LineChannel.Reader}
    (told : Told endpoint state effects reader)
    (reading : next.channel.reader = some reader)
    (writing : next.channel.writer = some endpoint)
    (live : next.channel.closed = false)
    (knows : next.network.Knows endpoint)
    (present : next.present = state.present)
    (same : reader.feed next.network = reader.feed state.network) :
    Told endpoint next effects reader where
  reading
  located := told.located
  writing
  live
  knows
  present := present.trans told.present
  ended := by rw [same]; exact told.ended
  resting := by rw [same]; exact told.resting
  ahead := by rw [same]; exact told.ahead
  past := told.past

theorem outcome_of_getElem?
    {bytes : List UInt8} {index : Nat}
    {result : Except TransportError Message}
    (found : (LineChannel.results bytes)[index]? = some result)
    (departure : Option Bool) :
    outcome bytes departure index = some result := by
  have kept : (answers bytes departure)[index]? = some result := by
    cases departure with
    | none => exact found
    | some reset =>
        rw [answers, List.append_assoc]
        exact getElem?_append_of_eq_some found _
  rw [outcome, kept, Option.some_or]

/-- While the peer is there, what was received is the start of the lines. -/
theorem Told.past_of_open
    {reader : LineChannel.Reader}
    (told : Told endpoint state effects reader)
    (there : departure effects = none)
    {index : Nat} {result : Except TransportError Message}
    (found : (received effects)[index]? = some result) :
    (LineChannel.results (written effects))[index]? = some result := by
  have came := told.past index result found
  rwa [outcome, there, Option.map_none, Option.or_none] at came

theorem Told.short
    {reader : LineChannel.Reader}
    (told : Told endpoint state effects reader)
    (there : departure effects = none) :
    (received effects).length ≤
      (LineChannel.results (written effects)).length := by
  by_contra long
  have inside :
      (LineChannel.results (written effects)).length <
        (received effects).length := by
    omega
  have found :=
    told.past_of_open there (List.getElem?_eq_getElem inside)
  rw [List.getElem?_eq_none (Nat.le_refl _)] at found
  simp at found

theorem Told.unended
    {reader : LineChannel.Reader}
    (told : Told endpoint state effects reader)
    (there : departure effects = none) :
    (reader.feed state.network).ended = false := by
  rw [told.ended, there]
  rfl

/-- While the peer is there, what is left is the end of the lines. -/
theorem Told.left
    {reader : LineChannel.Reader}
    (told : Told endpoint state effects reader)
    (there : departure effects = none) :
    LineChannel.results (reader.feed state.network).bytes =
      (LineChannel.results (written effects)).drop
        (received effects).length := by
  have ahead := told.ahead
  rw [LineChannel.Feed.ahead, (told.resting there).1, told.unended there,
    there] at ahead
  simpa [answers] using ahead

/-- What the peer writes is told after what it wrote before. -/
theorem Told.wrote
    {reader : LineChannel.Reader} {bytes : List UInt8}
    (told : Told endpoint state effects reader)
    (there : departure effects = none)
    (writes : written more = bytes)
    (silent : received more = [] ∧ departure more = none)
    (channel : next.channel = state.channel)
    (present : next.present = state.present)
    (knows : next.network.Knows endpoint)
    (feed :
      reader.feed next.network =
        { reader.feed state.network with
          bytes := (reader.feed state.network).bytes ++ bytes }) :
    Told endpoint next (effects ++ more) reader := by
  obtain ⟨quiet, same⟩ := told.resting there
  have unended := told.unended there
  have left := told.left there
  have stays : departure (effects ++ more) = none := by
    rw [departure_append, there, silent.2]
    rfl
  have count : received (effects ++ more) = received effects := by
    rw [received_append, silent.1, List.append_nil]
  have total : written (effects ++ more) = written effects ++ bytes := by
    rw [written_append, writes]
  constructor
  case reading => rw [channel]; exact told.reading
  case located => exact told.located
  case writing => rw [channel]; exact told.writing
  case live => rw [channel]; exact told.live
  case knows => exact knows
  case present => rw [present, told.present, stays, there]
  case ended => rw [feed, stays]; simpa [there] using told.ended
  case resting =>
    intro _
    rw [feed, total, LineChannel.rest_append, same, ← LineChannel.rest_append]
    exact ⟨quiet, rfl⟩
  case ahead =>
    rw [feed, stays, count, total]
    simp only [LineChannel.Feed.ahead, quiet, unended, Bool.false_eq_true,
      if_false, List.append_nil, answers]
    rw [LineChannel.results_append, left, same,
      LineChannel.results_append (written effects),
      List.drop_append_of_le_length (told.short there)]
  case past =>
    intro index result found
    rw [count] at found
    rw [stays, total]
    refine outcome_of_getElem? ?_ none
    rw [LineChannel.results_append]
    exact getElem?_append_of_eq_some (told.past_of_open there found) _

/-- What is told when the peer is gone. -/
theorem Told.gone
    {reader : LineChannel.Reader} {reset : Bool}
    (told : Told endpoint state effects reader)
    (there : departure effects = none)
    (channel : next.channel = state.channel)
    (absent : next.present = false)
    (knows : next.network.Knows endpoint)
    (feed :
      reader.feed next.network =
        { reader.feed state.network with
          reset := (reader.feed state.network).reset || reset
          ended := true }) :
    Told endpoint next (effects ++ [.gone reset]) reader := by
  obtain ⟨quiet, same⟩ := told.resting there
  have unended := told.unended there
  have left := told.left there
  have parted : departure (effects ++ [.gone reset]) = some reset := by
    rw [departure_append, there]
    rfl
  have count : received (effects ++ [.gone reset]) = received effects := by
    rw [received_append]
    exact List.append_nil _
  have total : written (effects ++ [.gone reset]) = written effects := by
    rw [written_append]
    exact List.append_nil _
  constructor
  case reading => rw [channel]; exact told.reading
  case located => exact told.located
  case writing => rw [channel]; exact told.writing
  case live => rw [channel]; exact told.live
  case knows => exact knows
  case present => rw [absent, parted]; rfl
  case ended => rw [feed, parted]; rfl
  case resting => simp [parted]
  case ahead =>
    rw [feed, parted, count, total]
    simp only [LineChannel.Feed.ahead, quiet, Bool.false_or, if_true, answers,
      LineChannel.lastResult, same]
    rw [left, List.append_assoc, List.append_assoc,
      List.drop_append_of_le_length (told.short there)]
  case past =>
    intro index result found
    rw [count] at found
    rw [parted, total]
    exact outcome_of_getElem? (told.past_of_open there found) _

/-- What a receive gives is the outcome at its place. -/
theorem Told.next_eq
    {reader : LineChannel.Reader} {after : LineChannel.Feed}
    {result : Option (Except TransportError Message)}
    (told : Told endpoint state effects reader)
    (receives : (reader.feed state.network).Receives result after) :
    result =
      outcome (written effects) (departure effects)
        (received effects).length := by
  rw [receives.ahead.1, told.ahead, List.head?_drop, outcome,
    LineChannel.Feed.afterwards, told.ended]
  cases departure effects <;> rfl

/-- A place of a list is before its end, or it is the place that was added. -/
theorem getElem?_append_toList
    {α : Type} {entries : List α} {added : Option α} {index : Nat} {entry : α}
    (found : (entries ++ added.toList)[index]? = some entry) :
    entries[index]? = some entry ∨
      index = entries.length ∧ added = some entry := by
  cases added with
  | none => exact .inl (by simpa using found)
  | some last =>
      rw [Option.toList_some, List.getElem?_append] at found
      split at found
      next early => exact .inl found
      next late =>
        have bound := (List.getElem?_eq_some_iff.mp found).1
        rw [List.length_singleton] at bound
        obtain rfl : index = entries.length := by omega
        exact .inr ⟨rfl, by simpa using found⟩

theorem Told.after_receive
    {reader following : LineChannel.Reader}
    {result : Option (Except TransportError Message)}
    (told : Told endpoint state effects reader)
    (receives :
      (reader.feed state.network).Receives result
        (following.feed next.network))
    (reading : next.channel.reader = some following)
    (writing : next.channel.writer = some endpoint)
    (live : next.channel.closed = false)
    (present : next.present = state.present)
    (located : following.endpoint = endpoint)
    (knows : next.network.Knows endpoint) :
    Told endpoint next (effects ++ (result.map Effect.received).toList)
      following := by
  have given := told.next_eq receives
  obtain ⟨-, tail, ended⟩ := receives.ahead
  have total :
      written (effects ++ (result.map Effect.received).toList) =
        written effects := by
    rw [written_append]
    cases result <;> exact List.append_nil _
  have stays :
      departure (effects ++ (result.map Effect.received).toList) =
        departure effects := by
    rw [departure_append]
    cases result <;> exact Option.or_none
  have grown :
      received (effects ++ (result.map Effect.received).toList) =
        received effects ++ result.toList := by
    rw [received_append]
    cases result <;> rfl
  constructor
  case reading => exact reading
  case located => exact located
  case writing => exact writing
  case live => exact live
  case knows => exact knows
  case present => rw [present, told.present, stays]
  case ended => rw [ended, told.ended, stays]
  case resting =>
    intro there
    rw [stays] at there
    obtain ⟨quiet, same⟩ := told.resting there
    obtain ⟨kept, still⟩ := receives.rest quiet (told.unended there)
    exact ⟨still, by rw [kept, same, total]⟩
  case ahead =>
    rw [tail, told.ahead, stays, grown, total, List.tail_drop,
      List.length_append]
    cases result with
    | some result => rfl
    | none =>
        -- Nothing was left, so there is no difference to see.
        have past :
            (answers (written effects) (departure effects)).length ≤
              (received effects).length := by
          have missing := (Option.or_eq_none_iff.mp given.symm).1
          exact List.getElem?_eq_none_iff.mp missing
        rw [List.drop_eq_nil_of_le (by omega)]
        exact (List.drop_eq_nil_of_le past).symm
  case past =>
    intro index item found
    rw [grown] at found
    rw [stays, total]
    rcases getElem?_append_toList found with before | ⟨rfl, last⟩
    · exact told.past index item before
    · exact given.symm.trans last

/-- The peer writes bytes, or it fails to. -/
theorem Told.write
    {reader : LineChannel.Reader} {bytes : List UInt8} {entry : Effect}
    {result : Except IoKind Unit} {after : Network}
    (told : Told endpoint state effects reader)
    (here : state.present = true)
    (writes : written [entry] = bytes)
    (silent : received [entry] = [] ∧ departure [entry] = none)
    (wrote : state.network.write endpoint.peer bytes = (result, after)) :
    Told endpoint { state with network := after }
      (effects ++ if result.isOk then [entry] else []) reader := by
  have there : departure effects = none := by simpa [told.present] using here
  have located := told.located
  subst located
  cases result with
  | error kind =>
      obtain rfl := LineChannel.Reader.network_eq_of_write_error wrote
      change Told _ _ (effects ++ []) reader
      rwa [List.append_nil]
  | ok _ =>
      obtain ⟨knows, feed⟩ := LineChannel.Reader.feed_write told.knows wrote
      exact told.wrote there writes silent rfl rfl knows feed

theorem told_step
    {reader : LineChannel.Reader}
    (told : Told endpoint state effects reader)
    (stepped : state.step endpoint event = some (next, more)) :
    ∃ following, Told endpoint next (effects ++ more) following := by
  have located := told.located
  subst located
  cases event with
  | wrote bytes =>
      rw [step] at stepped
      split at stepped
      next here =>
        cases wrote : state.network.write reader.endpoint.peer bytes with
        | mk result after =>
            rw [wrote] at stepped
            obtain ⟨rfl, rfl⟩ := Prod.mk.inj (Option.some.inj stepped)
            exact ⟨reader, told.write here (List.append_nil _) ⟨rfl, rfl⟩
              wrote⟩
      next => simp at stepped
  | messaged message =>
      rw [step] at stepped
      split at stepped
      next here =>
        cases wrote :
            state.network.write reader.endpoint.peer
              (LineChannel.messageLine message) with
        | mk result after =>
            obtain ⟨rfl, rfl⟩ :
                { state with network := after } = next ∧
                  (if result.isOk then [Effect.messaged message] else []) =
                    more := by
              cases result <;>
                simpa [LineChannel.send, LineChannel.ofEndpoint, wrote,
                  Except.isOk, Except.toBool] using stepped
            exact ⟨reader, told.write here (List.append_nil _) ⟨rfl, rfl⟩
              wrote⟩
      next => simp at stepped
  | hungUp reset =>
      rw [step] at stepped
      split at stepped
      next here =>
        obtain ⟨rfl, rfl⟩ := Prod.mk.inj (Option.some.inj stepped)
        have there : departure effects = none := by
          simpa [told.present] using here
        obtain ⟨knows, feed⟩ :=
          LineChannel.Reader.feed_hangUp told.knows reset
        rw [Bool.or_assoc] at feed
        exact ⟨reader, told.gone there rfl rfl knows feed⟩
      next => simp at stepped
  | closed =>
      rw [step] at stepped
      split at stepped
      next here =>
        obtain ⟨rfl, rfl⟩ := Prod.mk.inj (Option.some.inj stepped)
        have there : departure effects = none := by
          simpa [told.present] using here
        obtain ⟨knows, feed⟩ := LineChannel.Reader.feed_shutdown told.knows
        exact ⟨reader, told.gone there rfl rfl knows feed⟩
      next => simp at stepped
  | send message =>
      obtain ⟨rfl, rfl⟩ := Prod.mk.inj (Option.some.inj stepped)
      refine ⟨reader, ?_⟩
      rw [List.append_nil]
      cases wrote :
          state.network.write reader.endpoint
            (LineChannel.messageLine message) with
      | mk result after =>
          obtain ⟨knows, feed⟩ :=
            LineChannel.Reader.feed_write_peer told.knows wrote
          cases result with
          | ok _ =>
              simp only [told.writing, wrote]
              exact told.of_feed_eq told.reading told.writing told.live knows
                rfl feed
          | error kind =>
              simp only [told.writing, wrote]
              exact told.of_feed_eq told.reading rfl told.live knows rfl feed
  | receive attempt =>
      cases gave : state.channel.receive attempt state.network with
      | mk result rest =>
          obtain ⟨channel, network⟩ := rest
          simp only [step, gave] at stepped
          obtain ⟨rfl, rfl⟩ := Prod.mk.inj (Option.some.inj stepped)
          obtain ⟨following, connected, rfl, located, drained, receives⟩ :=
            LineChannel.receive_feed told.reading told.live told.knows gave
          exact ⟨following, told.after_receive receives rfl told.writing
            told.live rfl located (drained.knows told.knows)⟩
  | elsewhere after =>
      rw [step] at stepped
      split at stepped
      next unchanged =>
        obtain ⟨rfl, rfl⟩ := Prod.mk.inj (Option.some.inj stepped)
        refine ⟨reader, ?_⟩
        rw [List.append_nil]
        exact told.of_feed_eq told.reading told.writing told.live
          (Nat.lt_of_lt_of_le told.knows unchanged.2) rfl
          (LineChannel.Reader.feed_of_terminal_eq unchanged.1)
      next => simp at stepped

theorem told_run
    {network : Network} {events : List Event}
    (fresh :
      network.connections[endpoint.connection]? = some ⟨.fresh, .fresh⟩)
    (ran :
      run (step endpoint) (start endpoint network) events =
        some (state, effects)) :
    ∃ reader, Told endpoint state effects reader := by
  refine run_invariant
    (fun state _ effects => ∃ reader, Told endpoint state effects reader)
    ⟨_, told_start fresh⟩ ?_ ran
  intro state events effects event next more held stepped
  obtain ⟨reader, told⟩ := held
  exact told_step told stepped

/-- A peer that only sends messages writes their lines. -/
theorem written_eq_of_messages
    (wordless : ∀ bytes, .wrote bytes ∉ effects) :
    written effects = (messages effects).flatMap LineChannel.messageLine := by
  induction effects with
  | nil => rfl
  | cons effect rest ih =>
      have others := ih fun bytes member => wordless bytes (by simp [member])
      cases effect with
      | wrote bytes => exact absurd List.mem_cons_self (wordless bytes)
      | messaged message =>
          exact congrArg (LineChannel.messageLine message ++ ·) others
      | gone reset => exact others
      | received result => exact others

/--
The channel receives what the lines of its peer say, in their order, whatever
else happens meanwhile.  It waits only for a line that is not ended while the
peer is there.  Messages of a peer that are read back as they were are
received as they are.
-/
theorem lines_received
    {network : Network} {events : List Event}
    (fresh :
      network.connections[endpoint.connection]? = some ⟨.fresh, .fresh⟩)
    (ran :
      run (step endpoint) (start endpoint network) events =
        some (state, effects)) :
    (∀ index result,
      (received effects)[index]? = some result →
        outcome (written effects) (departure effects) index =
          some result) ∧
      (∀ attempt,
        (state.channel.receive attempt state.network).1 =
          outcome (written effects) (departure effects)
            (received effects).length) ∧
      ((∀ bytes, .wrote bytes ∉ effects) →
        (∀ message ∈ messages effects,
          Message.decode message.encode = .ok message) →
        ∀ rude, answers (written effects) rude =
          (messages effects).map .ok ++
            if rude = some true then [.error (.io .connectionReset)]
            else []) := by
  obtain ⟨reader, told⟩ := told_run fresh ran
  refine ⟨told.past, ?_, ?_⟩
  · intro attempt
    cases gave : state.channel.receive attempt state.network with
    | mk result rest =>
        obtain ⟨_, _, _, _, _, receives⟩ :=
          LineChannel.receive_feed told.reading told.live
            (told.located ▸ told.knows) gave
        exact told.next_eq receives
  · intro wordless kept rude
    obtain ⟨results, last⟩ := LineChannel.results_messages kept
    rw [written_eq_of_messages wordless]
    match rude with
    | none => simpa [answers] using results
    | some false => simp [answers, results, last]
    | some true => simp [answers, results, last]

/-- A machine with one connection, which nobody has used yet. -/
def oneConnection : Network := ⟨KeyMap.empty, [], [⟨.fresh, .fresh⟩]⟩

/--
A peer that hangs up without reading what was sent to it is told of first,
before the line that it did not end.
-/
def rudeVisit : List Event :=
  [.wrote
      [123, 34, 107, 105, 110, 100, 34, 58, 34, 69, 88, 73, 84, 34, 125],
    .send (Message.plain .subscribeResponse), .hungUp false, .receive .first,
    .receive .first, .receive .first]

theorem reset_received :
    ∃ state effects,
      run (step ⟨0, .server⟩) (start ⟨0, .server⟩ oneConnection) rudeVisit =
          some (state, effects) ∧
        LineChannel.results (written effects) ++
            LineChannel.lastResult (written effects) =
          [.ok (Message.plain (.exit ""))] ∧
        received effects =
          [.error (.io .connectionReset), .ok (Message.plain (.exit "")),
            .error .closed] := by
  have reached :
      (run (step ⟨0, .server⟩) (start ⟨0, .server⟩ oneConnection)
          rudeVisit).map (fun reached =>
        (LineChannel.results (written reached.2) ++
            LineChannel.lastResult (written reached.2),
          received reached.2)) =
        some
          ([.ok (Message.plain (.exit ""))],
            [.error (.io .connectionReset), .ok (Message.plain (.exit "")),
              .error .closed]) := by
    decide +kernel
  obtain ⟨⟨state, effects⟩, ran, same⟩ := Option.map_eq_some_iff.mp reached
  obtain ⟨told, came⟩ := Prod.mk.inj same
  exact ⟨state, effects, ran, told, came⟩

/-- A peer sends two messages, one of them of two lines, and reads nothing. -/
def twoMessages : List Event :=
  [.messaged (Message.plain (.exit "so\nlong")), .receive .first,
    .receive .first, .send (Message.plain .subscribeResponse),
    .messaged (Message.plain (.exit " ")), .hungUp false]

theorem lines_received_twoMessages :
    ∃ state effects,
      run (step ⟨0, .server⟩) (start ⟨0, .server⟩ oneConnection)
          twoMessages = some (state, effects) ∧
        received effects = [.ok (Message.plain (.exit "so\nlong"))] ∧
        ∀ attempt,
          (state.channel.receive attempt state.network).1 =
            some (.ok (Message.plain (.exit " "))) := by
  have reached :
      (run (step ⟨0, .server⟩) (start ⟨0, .server⟩ oneConnection)
          twoMessages).map (·.2) =
        some
          [.messaged (Message.plain (.exit "so\nlong")),
            .received (.ok (Message.plain (.exit "so\nlong"))),
            .messaged (Message.plain (.exit " ")), .gone true] := by
    decide +kernel
  obtain ⟨⟨state, effects⟩, ran, rfl⟩ := Option.map_eq_some_iff.mp reached
  obtain ⟨_, comes, whole⟩ := lines_received rfl ran
  have answered := whole (by simp) (by decide +kernel) (some true)
  refine ⟨state, _, ran, rfl, fun attempt => ?_⟩
  rw [comes attempt, outcome]
  change (answers _ (some true))[1]?.or _ = _
  rw [answered]
  rfl

end Correspondence

end BuildWatch
