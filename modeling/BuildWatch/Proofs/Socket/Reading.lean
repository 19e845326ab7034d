import BuildWatch.Proofs.Socket.Lines

/-!
# Reading lines from an end of a connection

What an end of a connection can still be told is a feed: the bytes that were
sent to it and are not used, whether it is to be told of a reset, and whether
no more bytes come.  A line is taken from a feed, and so is a message, however
the bytes are split between the socket and the buffer of the reader.
-/

namespace BuildWatch

/-! ## Ends of connections -/

namespace Network

variable {network after : Network} {endpoint other : Endpoint}

/-- Whether an end belongs to a connection that was made. -/
def Knows (network : Network) (endpoint : Endpoint) : Prop :=
  endpoint.connection < network.connections.length

@[simp]
theorem length_connections_change
    (network : Network) (endpoint : Endpoint) (edit : Terminal → Terminal) :
    (network.change endpoint edit).connections.length =
      network.connections.length :=
  List.length_modify ..

@[simp]
theorem terminal_change_self
    (knows : network.Knows endpoint) (edit : Terminal → Terminal) :
    (network.change endpoint edit).terminal endpoint =
      edit (network.terminal endpoint) := by
  have found :
      network.connections[endpoint.connection]? =
        some (network.connections.get ⟨endpoint.connection, knows⟩) :=
    List.getElem?_eq_getElem knows
  cases side : endpoint.side <;>
    simp [terminal, change, found, side, Connection.change,
      Connection.terminal]

@[simp]
theorem terminal_change_of_ne
    (different : other ≠ endpoint) (edit : Terminal → Terminal) :
    (network.change endpoint edit).terminal other =
      network.terminal other := by
  obtain ⟨connection, side⟩ := endpoint
  obtain ⟨known, way⟩ := other
  by_cases same : connection = known
  · subst same
    cases found : network.connections[connection]? <;>
      cases side <;> cases way <;>
        simp_all [terminal, change, Connection.change, Connection.terminal]
  · simp [terminal, change, same]

/-- What can change for the ends when one of them reads. -/
structure Drained (network after : Network) (endpoint : Endpoint) :
    Prop where
  others :
    ∀ other, other ≠ endpoint → after.terminal other = network.terminal other
  length : after.connections.length = network.connections.length
  inputEnded :
    (after.terminal endpoint).inputEnded =
      (network.terminal endpoint).inputEnded

theorem Drained.refl (network : Network) (endpoint : Endpoint) :
    Drained network network endpoint :=
  ⟨fun _ _ => rfl, rfl, rfl⟩

theorem Drained.trans
    {middle : Network} (first : Drained network middle endpoint)
    (second : Drained middle after endpoint) :
    Drained network after endpoint where
  others := fun other different =>
    (second.others other different).trans (first.others other different)
  length := second.length.trans first.length
  inputEnded := second.inputEnded.trans first.inputEnded

theorem Drained.knows
    (drained : Drained network after endpoint)
    (knows : network.Knows endpoint) : after.Knows endpoint := by
  rw [Knows, drained.length]
  exact knows

theorem drained_change
    (knows : network.Knows endpoint) {edit : Terminal → Terminal}
    (keeps : ∀ terminal, (edit terminal).inputEnded = terminal.inputEnded) :
    Drained network (network.change endpoint edit) endpoint where
  others := fun _ different => terminal_change_of_ne different edit
  length := length_connections_change network endpoint edit
  inputEnded := by rw [terminal_change_self knows, keeps]

end Network

namespace LineChannel

/-! ## Feeds -/

/-- What the reader of an end can still be told. -/
structure Feed where
  bytes : List UInt8
  /-- Whether it is to be told that the connection was reset. -/
  reset : Bool
  /-- Whether no more bytes come. -/
  ended : Bool

def Reader.feed (reader : Reader) (network : Network) : Feed where
  bytes := reader.buffer ++ (network.terminal reader.endpoint).inbox
  reset := (network.terminal reader.endpoint).reset
  ended := (network.terminal reader.endpoint).inputEnded

/-- What is read from a feed as the next line, and what is left. -/
inductive Feed.NextLine :
    Feed → Option (Except IoKind (Option Line)) → Feed → Prop where
  | line {line after : List UInt8} {reset ended : Bool}
      (whole : lineFeed ∉ line) :
      NextLine ⟨line ++ lineFeed :: after, reset, ended⟩
        (some (.ok (some ⟨line, true⟩))) ⟨after, reset, ended⟩
  | reset {bytes : List UInt8} {ended : Bool} (open_ : lineFeed ∉ bytes) :
      NextLine ⟨bytes, true, ended⟩ (some (.error .connectionReset))
        ⟨bytes, false, ended⟩
  /-- The last line ends with the input. -/
  | last {bytes : List UInt8} (open_ : lineFeed ∉ bytes) (some_ : bytes ≠ []) :
      NextLine ⟨bytes, false, true⟩ (some (.ok (some ⟨bytes, false⟩)))
        ⟨[], false, true⟩
  | ended : NextLine ⟨[], false, true⟩ (some (.ok none)) ⟨[], false, true⟩
  | waits {bytes : List UInt8} (open_ : lineFeed ∉ bytes) :
      NextLine ⟨bytes, false, false⟩ none ⟨bytes, false, false⟩

/-- A chunk that is read goes from the socket to the buffer. -/
theorem Reader.feed_read
    {reader : Reader} {network : Network}
    (knows : network.Knows reader.endpoint) (count : Nat) :
    ({ reader with
        buffer :=
          reader.buffer ++
            (network.terminal reader.endpoint).inbox.take count } :
        Reader).feed
      (network.change reader.endpoint fun terminal =>
        { terminal with inbox := terminal.inbox.drop count }) =
      reader.feed network := by
  simp [feed, knows]

/-- Without a whole line in the buffer, what the socket has is read. -/
theorem Reader.nextLine_of_unread
    {fuel : Nat} {reader : Reader} {network : Network}
    (open_ : lineFeed ∉ reader.buffer)
    (unread : (network.terminal reader.endpoint).inbox ≠ []) :
    reader.nextLine (fuel + 1) network =
      Reader.nextLine fuel
        { reader with
          buffer :=
            reader.buffer ++
              (network.terminal reader.endpoint).inbox.take Network.chunk }
        (network.change reader.endpoint fun terminal =>
          { terminal with inbox := terminal.inbox.drop Network.chunk }) := by
  obtain ⟨byte, more, inbox⟩ := List.exists_cons_of_ne_nil unread
  rw [nextLine, splitLine_eq_none_iff.mpr open_]
  simp [Network.read, inbox, Network.chunk]

/-- With nothing in the socket, one look at it decides. -/
theorem Reader.nextLine_of_read
    {fuel : Nat} {reader next : Reader} {network after : Network}
    {result : Option (Except IoKind (Option Line))}
    (knows : network.Knows reader.endpoint)
    (open_ : lineFeed ∉ reader.buffer)
    (empty : (network.terminal reader.endpoint).inbox = [])
    (read : reader.nextLine (fuel + 1) network = (result, next, after)) :
    next.endpoint = reader.endpoint ∧
      network.Drained after reader.endpoint ∧
      (reader.feed network).NextLine result (next.feed after) := by
  rw [nextLine, splitLine_eq_none_iff.mpr open_] at read
  cases told : (network.terminal reader.endpoint).reset with
  | true =>
      obtain ⟨rfl, rfl, rfl⟩ := by
        simpa [Network.read, empty, told] using read
      refine ⟨rfl, Network.drained_change knows fun _ => rfl, ?_⟩
      simpa [feed, knows, empty, told] using .reset open_
  | false =>
      cases finished : (network.terminal reader.endpoint).inputEnded with
      | false =>
          obtain ⟨rfl, rfl, rfl⟩ := by
            simpa [Network.read, empty, told, finished] using read
          refine ⟨rfl, .refl _ _, ?_⟩
          simpa [feed, empty, told, finished] using .waits open_
      | true =>
          cases kept : reader.buffer with
          | nil =>
              obtain ⟨rfl, rfl, rfl⟩ := by
                simpa [Network.read, empty, told, finished, kept] using read
              refine ⟨rfl, .refl _ _, ?_⟩
              simpa [feed, empty, told, finished, kept] using .ended
          | cons byte more =>
              obtain ⟨rfl, rfl, rfl⟩ := by
                simpa [Network.read, empty, told, finished, kept] using read
              refine ⟨rfl, .refl _ _, ?_⟩
              rw [kept] at open_
              simpa [feed, empty, told, finished, kept]
                using .last open_ (List.cons_ne_nil byte more)

/-- The next line is that of the feed, however often the socket is read. -/
theorem Reader.nextLine_feed
    {fuel : Nat} {reader next : Reader} {network after : Network}
    {result : Option (Except IoKind (Option Line))}
    (knows : network.Knows reader.endpoint)
    (enough : (network.terminal reader.endpoint).inbox.length < fuel)
    (read : reader.nextLine fuel network = (result, next, after)) :
    next.endpoint = reader.endpoint ∧
      network.Drained after reader.endpoint ∧
      (reader.feed network).NextLine result (next.feed after) := by
  induction fuel generalizing reader network with
  | zero => simp at enough
  | succ fuel ih =>
      cases split : splitLine reader.buffer with
      | some parts =>
          obtain ⟨line, rest⟩ := parts
          obtain ⟨rfl, rfl, rfl⟩ := by simpa [nextLine, split] using read
          obtain ⟨whole, bytes⟩ := of_splitLine_eq_some split
          refine ⟨rfl, .refl _ _, ?_⟩
          simp only [feed, bytes, List.append_assoc, List.cons_append]
          exact .line whole
      | none =>
          have open_ := splitLine_eq_none_iff.mp split
          by_cases empty : (network.terminal reader.endpoint).inbox = []
          · exact nextLine_of_read knows open_ empty read
          · rw [nextLine_of_unread open_ empty] at read
            have drained :
                network.Drained
                  (network.change reader.endpoint fun terminal =>
                    { terminal with
                      inbox := terminal.inbox.drop Network.chunk })
                  reader.endpoint :=
              Network.drained_change knows fun _ => rfl
            have some_ := List.length_pos_iff.mpr empty
            have fewer :
                ((network.terminal reader.endpoint).inbox.drop
                  Network.chunk).length < fuel := by
              simp only [List.length_drop, Network.chunk]
              omega
            obtain ⟨same, others, told⟩ :=
              @ih
                { reader with
                  buffer :=
                    reader.buffer ++
                      (network.terminal reader.endpoint).inbox.take
                        Network.chunk }
                _ (drained.knows knows)
                (by rwa [Network.terminal_change_self knows]) read
            refine ⟨same, drained.trans others, ?_⟩
            rwa [feed_read knows] at told

/-! ## Messages -/

/-- What is received from a feed, and what is left. -/
inductive Feed.Receives :
    Feed → Option (Except TransportError Message) → Feed → Prop where
  /-- A blank line is skipped. -/
  | blank {feed after final : Feed} {line : Line}
      {result : Option (Except TransportError Message)}
      (next : feed.NextLine (some (.ok (some line))) after)
      (blank : lineResult line.bytes = none)
      (more : Receives after result final) : Receives feed result final
  | line {feed after : Feed} {line : Line}
      {result : Except TransportError Message}
      (next : feed.NextLine (some (.ok (some line))) after)
      (reads : lineResult line.bytes = some result) :
      Receives feed (some result) after
  | failed {feed after : Feed} {kind : IoKind}
      (next : feed.NextLine (some (.error kind)) after) :
      Receives feed (some (.error (.io kind))) after
  | ended {feed after : Feed}
      (next : feed.NextLine (some (.ok none)) after) :
      Receives feed (some (.error .closed)) after
  | waits {feed after : Feed} (next : feed.NextLine none after) :
      Receives feed none after

/-- Every line uses bytes up. -/
theorem Feed.NextLine.length_lt
    {feed after : Feed} {line : Line}
    (next : feed.NextLine (some (.ok (some line))) after) :
    after.bytes.length < feed.bytes.length := by
  cases next with
  | line whole =>
      simp only [List.length_append, List.length_cons]
      omega
  | last open_ some_ => simpa using List.length_pos_iff.mpr some_

theorem receiveLines_feed
    {fuel : Nat} {reader : Reader} {channel final : LineChannel}
    {network after : Network}
    {result : Option (Except TransportError Message)}
    (knows : network.Knows reader.endpoint)
    (enough : (reader.feed network).bytes.length < fuel)
    (received :
      receiveLines fuel reader channel network = (result, final, after)) :
    ∃ next connected,
      final = { channel with reader := some next, connected } ∧
        next.endpoint = reader.endpoint ∧
        network.Drained after reader.endpoint ∧
        (reader.feed network).Receives result (next.feed after) := by
  induction fuel generalizing reader network with
  | zero => simp at enough
  | succ fuel ih =>
      have room :
          (network.terminal reader.endpoint).inbox.length <
            reader.available network + 2 := by
        rw [Reader.available]
        omega
      rw [receiveLines] at received
      split at received
      next next between read =>
        obtain ⟨same, drained, told⟩ := Reader.nextLine_feed knows room read
        obtain ⟨rfl, rfl, rfl⟩ := by simpa using received
        exact ⟨next, channel.connected, rfl, same, drained, .waits told⟩
      next kind next between read =>
        obtain ⟨same, drained, told⟩ := Reader.nextLine_feed knows room read
        obtain ⟨rfl, rfl, rfl⟩ := by simpa using received
        exact ⟨next, channel.connected, rfl, same, drained, .failed told⟩
      next next between read =>
        obtain ⟨same, drained, told⟩ := Reader.nextLine_feed knows room read
        obtain ⟨rfl, rfl, rfl⟩ := by simpa using received
        exact ⟨next, false, rfl, same, drained, .ended told⟩
      next line next between read =>
        obtain ⟨same, drained, told⟩ := Reader.nextLine_feed knows room read
        split at received
        next blank =>
          have shorter := told.length_lt
          have known : between.Knows next.endpoint := by
            rw [same]
            exact drained.knows knows
          obtain ⟨last, connected, shape, sameLast, rest, toldLast⟩ :=
            ih known (by omega) received
          rw [same] at rest
          exact ⟨last, connected, shape, sameLast.trans same,
            drained.trans rest, .blank told blank toldLast⟩
        next reads meaning =>
          obtain ⟨rfl, rfl, rfl⟩ := by simpa using received
          exact ⟨next, channel.connected, rfl, same, drained,
            .line told meaning⟩

/-- Receiving on a channel is receiving from the feed of its reader. -/
theorem receive_feed
    {channel final : LineChannel} {reader : Reader}
    {network after : Network} {attempt : Attempt}
    {result : Option (Except TransportError Message)}
    (reading : channel.reader = some reader)
    (live : channel.closed = false)
    (knows : network.Knows reader.endpoint)
    (received :
      channel.receive attempt network = (result, final, after)) :
    ∃ next connected,
      final = { channel with reader := some next, connected } ∧
        next.endpoint = reader.endpoint ∧
        network.Drained after reader.endpoint ∧
        (reader.feed network).Receives result (next.feed after) := by
  have unfolded :
      channel.receive attempt network =
        receiveLines (reader.available network + 2) reader channel
          network := by
    simp [receive, reading, live]
  rw [unfolded] at received
  refine receiveLines_feed knows ?_ received
  rw [Reader.available, Reader.feed, List.length_append]
  omega

/-! ## What a feed is received as -/

/-- What is sure to be received from a feed, whatever else is sent. -/
def Feed.ahead (feed : Feed) : List (Except TransportError Message) :=
  results feed.bytes
    ++ (if feed.reset then [.error (.io .connectionReset)] else [])
    ++ (if feed.ended then lastResult feed.bytes else [])

/-- What is received once nothing is sure any more. -/
def Feed.afterwards (feed : Feed) : Option (Except TransportError Message) :=
  if feed.ended then some (.error .closed) else none

theorem results_of_not_mem {bytes : List UInt8} (open_ : lineFeed ∉ bytes) :
    results bytes = [] := by
  rw [results, lines_of_not_mem open_, List.filterMap_nil]

theorem lineResult_nil : lineResult [] = none := by decide

/-- Reading a line takes what the line says from what is ahead. -/
theorem Feed.NextLine.ahead_line
    {feed after : Feed} {line : Line}
    (next : feed.NextLine (some (.ok (some line))) after) :
    feed.ahead = (lineResult line.bytes).toList ++ after.ahead ∧
      after.ended = feed.ended := by
  cases next with
  | line whole =>
      refine ⟨?_, rfl⟩
      simp only [ahead, results, lastResult, lines_append_lineFeed whole,
        rest_append_lineFeed whole, List.filterMap_cons]
      cases lineResult _ <;> simp
  | last open_ some_ =>
      refine ⟨?_, rfl⟩
      have bare : lineFeed ∉ ([] : List UInt8) := List.not_mem_nil
      simp [ahead, results_of_not_mem open_, results_of_not_mem bare,
        lastResult, rest_of_not_mem open_, rest_of_not_mem bare,
        lineResult_nil]

/-- What is received is what is first ahead, and then comes the rest. -/
theorem Feed.Receives.ahead
    {feed after : Feed} {result : Option (Except TransportError Message)}
    (receives : feed.Receives result after) :
    result = feed.ahead.head?.or feed.afterwards ∧
      after.ahead = feed.ahead.tail ∧ after.ended = feed.ended := by
  induction receives with
  | blank next blank more ih =>
      obtain ⟨same, ended⟩ := next.ahead_line
      rw [blank, Option.toList_none, List.nil_append] at same
      rw [same, ← ended, afterwards, ← ended]
      exact ih
  | line next reads =>
      obtain ⟨same, ended⟩ := next.ahead_line
      rw [reads] at same
      simp [same, ended]
  | failed next =>
      cases next with
      | reset open_ => simp [Feed.ahead, results_of_not_mem open_]
  | ended next =>
      cases next with
      | ended => decide
  | waits next =>
      cases next with
      | waits open_ =>
          simp [Feed.ahead, afterwards, results_of_not_mem open_]

theorem Feed.NextLine.rest
    {feed after : Feed} {line : Line}
    (next : feed.NextLine (some (.ok (some line))) after)
    (quiet : feed.reset = false) (open_ : feed.ended = false) :
    LineChannel.rest after.bytes = LineChannel.rest feed.bytes ∧
      after.reset = false ∧ after.ended = false := by
  cases next with
  | line whole => exact ⟨(rest_append_lineFeed whole _).symm, quiet, open_⟩
  | last _ _ => simp at open_

/-- A feed that goes on keeps the start of a line. -/
theorem Feed.Receives.rest
    {feed after : Feed} {result : Option (Except TransportError Message)}
    (receives : feed.Receives result after)
    (quiet : feed.reset = false) (open_ : feed.ended = false) :
    LineChannel.rest after.bytes = LineChannel.rest feed.bytes ∧
      after.reset = false := by
  induction receives with
  | blank next blank more ih =>
      obtain ⟨same, still, ended⟩ := next.rest quiet open_
      obtain ⟨sameLater, stillLater⟩ := ih still ended
      exact ⟨sameLater.trans same, stillLater⟩
  | line next reads =>
      obtain ⟨same, still, _⟩ := next.rest quiet open_
      exact ⟨same, still⟩
  | failed next => cases next with | reset _ => simp at quiet
  | ended next => cases next with | ended => simp at open_
  | waits next => cases next with | waits _ => exact ⟨rfl, rfl⟩

end LineChannel

end BuildWatch
