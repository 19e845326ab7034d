import BuildWatch.Proofs.Runs
import BuildWatch.Proofs.Transport
import BuildWatch.Socket.Tasks

/-!
# What a closed transport still does

Closing marks the transport for ever, so nobody sees a connection any more.
But it takes the two halves of the connection one after the other, while
others go on.  Whoever was given a peer before may attach it to a transport
that is closed, and then messages go there.  Nothing else brings a closed
transport back.
-/

namespace BuildWatch

namespace LineChannel

/-! ## Halves of a connection -/

/-- The end of a connection that a half belongs to. -/
def end? (channel : LineChannel) : Half → Option Endpoint
  | .reading => channel.readEnd
  | .writing => channel.writer

@[simp]
theorem readEnd_dropReader (channel : LineChannel) (network : Network) :
    (channel.dropReader network).1.readEnd = none := by
  unfold dropReader
  split
  next unread => exact unread
  next => rfl

@[simp]
theorem writer_dropReader (channel : LineChannel) (network : Network) :
    (channel.dropReader network).1.writer = channel.writer := by
  unfold dropReader
  split <;> rfl

@[simp]
theorem closed_dropReader (channel : LineChannel) (network : Network) :
    (channel.dropReader network).1.closed = channel.closed :=
  (follows_dropReader channel network).closed

@[simp]
theorem writer_dropWriter (channel : LineChannel) (network : Network) :
    (channel.dropWriter network).1.writer = none := by
  unfold dropWriter
  split
  next unwritten => exact unwritten
  next => rfl

@[simp]
theorem readEnd_dropWriter (channel : LineChannel) (network : Network) :
    (channel.dropWriter network).1.readEnd = channel.readEnd := by
  unfold dropWriter
  split <;> rfl

@[simp]
theorem closed_dropWriter (channel : LineChannel) (network : Network) :
    (channel.dropWriter network).1.closed = channel.closed :=
  (follows_dropWriter channel network).closed

/-- Giving up the reading half leaves the writing half where it is. -/
theorem end?_of_dropReader
    {channel : LineChannel} {network : Network} {half : Half}
    {endpoint : Endpoint}
    (found : (channel.dropReader network).1.end? half = some endpoint) :
    half = .writing ∧ channel.end? half = some endpoint := by
  cases half with
  | reading => simp [end?] at found
  | writing => exact ⟨rfl, by simpa [end?] using found⟩

/-- Giving up the writing half leaves the reading half where it is. -/
theorem end?_of_dropWriter
    {channel : LineChannel} {network : Network} {half : Half}
    {endpoint : Endpoint}
    (found : (channel.dropWriter network).1.end? half = some endpoint) :
    half = .reading ∧ channel.end? half = some endpoint := by
  cases half with
  | reading => exact ⟨rfl, by simpa [end?] using found⟩
  | writing => simp [end?] at found

/-- A reading half that is attached changes nothing about the other one. -/
theorem end?_of_attachReader
    {channel : LineChannel} {network : Network} {half : Half}
    {own endpoint : Endpoint}
    (found :
      (channel.attachReader own network).1.end? half = some endpoint) :
    half = .reading ∧ own = endpoint ∨
      half = .writing ∧ channel.end? half = some endpoint := by
  cases half with
  | reading => exact .inl ⟨rfl, Option.some.inj found⟩
  | writing =>
      exact .inr ⟨rfl, (writer_dropReader channel network).symm.trans found⟩

/-- A writing half that is attached changes nothing about the other one. -/
theorem end?_of_attachWriter
    {channel : LineChannel} {network : Network} {half : Half}
    {own endpoint : Endpoint}
    (found :
      (channel.attachWriter own network).1.end? half = some endpoint) :
    half = .writing ∧ own = endpoint ∨
      half = .reading ∧ channel.end? half = some endpoint := by
  cases half with
  | reading =>
      exact .inr ⟨rfl, (readEnd_dropWriter channel network).symm.trans found⟩
  | writing => exact .inl ⟨rfl, Option.some.inj found⟩

/-- Reading a line goes on reading from the same end. -/
theorem Reader.endpoint_nextLine
    (fuel : Nat) (reader : Reader) (network : Network) :
    (reader.nextLine fuel network).2.1.endpoint = reader.endpoint := by
  induction fuel generalizing reader network with
  | zero => rfl
  | succ fuel ih =>
      unfold nextLine
      split
      · rfl
      · split
        · rfl
        · rfl
        · split <;> rfl
        · exact ih _ _

end LineChannel

namespace SharedSocket

variable {shared next : SharedSocket} {event : Event}
  {effects more : List Effect} {wait : SocketWait} {turn : Turn}
  {half : Half} {endpoint : Endpoint}

/-! ## What a turn does -/

/-- What becomes of a task that goes on, and the effects of that. -/
inductive Passes (shared : SharedSocket) :
    SocketWait → List Effect → SocketWait ⊕ Outcome → Prop where
  | met {listener : Nat} {endpoint : Endpoint} :
      Passes shared (.peer listener) []
        (.inl (.attachReader listener endpoint))
  | unmet {listener : Nat} :
      Passes shared (.peer listener) []
        (.inr (.accepted (.error .notAccepted)))
  | attachedReader {listener : Nat} {endpoint : Endpoint}
      (free : shared.free .reading = true) :
      Passes shared (.attachReader listener endpoint)
        [.attached .reading endpoint]
        (.inl (.attachWriter listener endpoint))
  | attachedWriter {listener : Nat} {endpoint : Endpoint}
      (free : shared.free .writing = true) :
      Passes shared (.attachWriter listener endpoint)
        [.attached .writing endpoint] (.inr (.accepted (.ok ())))
  | writes {endpoint : Endpoint} {message : Message}
      (found : shared.server.channel.writer = some endpoint) :
      Passes shared (.send message) [] (.inl (.write endpoint message))
  | unsent {wait : SocketWait} {error : TransportError} :
      Passes shared wait [] (.inr (.sent (.error error)))
  | sent {endpoint : Endpoint} {message : Message} :
      Passes shared (.write endpoint message) [] (.inr (.sent (.ok ())))
  | reads {wait : SocketWait} : Passes shared wait [] (.inl .line)
  | unreceived {wait : SocketWait} {error : TransportError} :
      Passes shared wait [] (.inr (.received (.error error)))
  | received {endpoint : Endpoint} {message : Message}
      (found : shared.server.channel.readEnd = some endpoint) :
      Passes shared .line [] (.inr (.received (.ok message)))
  | droppedWriter (free : shared.free .writing = true) :
      Passes shared .dropWriter [.dropped .writing] (.inl .dropReader)
  | droppedReader {result : Except TransportError Unit}
      (free : shared.free .reading = true) :
      Passes shared .dropReader [.dropped .reading] (.inr (.closed result))

/-- What a task does to the transport when it goes on. -/
structure Turned (shared : SharedSocket) (wait : SocketWait) (turn : Turn) :
    Prop where
  closed : turn.server.channel.closed = shared.server.channel.closed
  /-- A half belongs to the end that it did, unless that is changed. -/
  ends :
    ∀ half endpoint, turn.server.channel.end? half = some endpoint →
      .attached half endpoint ∈ turn.effects ∨
        shared.server.channel.end? half = some endpoint ∧
          .dropped half ∉ turn.effects
  passes : Passes shared wait turn.effects turn.next

/-- A turn that leaves the halves of the connection where they are. -/
theorem turned_of_same
    (closed : turn.server.channel.closed = shared.server.channel.closed)
    (reads : turn.server.channel.readEnd = shared.server.channel.readEnd)
    (writes : turn.server.channel.writer = shared.server.channel.writer)
    (quiet : turn.effects = [])
    (passes : Passes shared wait [] turn.next) :
    Turned shared wait turn where
  closed
  ends := by
    intro half endpoint found
    refine .inr ⟨?_, by simp [quiet]⟩
    cases half with
    | reading => exact reads.symm.trans found
    | writing => exact writes.symm.trans found
  passes := quiet ▸ passes

theorem turned_readLine
    {network : Network} {server : SocketServer}
    (closed : server.channel.closed = shared.server.channel.closed)
    (reads : server.channel.readEnd = shared.server.channel.readEnd)
    (writes : server.channel.writer = shared.server.channel.writer)
    (found : shared.server.channel.readEnd = some endpoint)
    (read : Except IoKind (Option LineChannel.Line)) :
    Turned shared .line (readLine server network read) := by
  cases read with
  | error kind => exact turned_of_same closed reads writes rfl .unreceived
  | ok line =>
      cases line with
      | none => exact turned_of_same closed reads writes rfl .unreceived
      | some line =>
          simp only [readLine]
          split
          next => exact turned_of_same closed reads writes rfl .reads
          next result meaning =>
            refine turned_of_same closed reads writes rfl ?_
            cases result with
            | error error => exact .unreceived
            | ok message => exact .received found

theorem turned_of_resume_line (turned : shared.resume .line = some turn) :
    Turned shared .line turn := by
  simp only [resume] at turned
  split at turned
  next => simp at turned
  next reader reading =>
    have found : shared.server.channel.readEnd = some reader.endpoint := by
      rw [LineChannel.readEnd, reading]
      rfl
    have same :
        some (reader.nextLine (reader.available shared.network + 2)
            shared.network).2.1.endpoint =
          shared.server.channel.readEnd := by
      rw [LineChannel.Reader.endpoint_nextLine, found]
    obtain rfl := Option.some.inj turned
    split
    next => exact turned_of_same rfl same rfl rfl .reads
    next line read =>
      exact turned_readLine (by rfl) (by exact same) (by rfl) found line

theorem turned_of_resume (turned : shared.resume wait = some turn) :
    Turned shared wait turn := by
  cases wait with
  | peer listener =>
      simp only [resume] at turned
      split at turned
      next => simp at turned
      next =>
        obtain rfl := Option.some.inj turned
        exact turned_of_same rfl rfl rfl rfl .met
  | attachReader listener endpoint =>
      simp only [resume] at turned
      split at turned
      next free =>
        obtain rfl := Option.some.inj turned
        refine ⟨LineChannel.closed_dropReader .., ?_, .attachedReader free⟩
        intro half other found
        rcases LineChannel.end?_of_attachReader found with
          ⟨rfl, rfl⟩ | ⟨rfl, kept⟩
        · exact .inl (List.mem_singleton_self _)
        · exact .inr ⟨kept, by simp⟩
      next => simp at turned
  | attachWriter listener endpoint =>
      simp only [resume] at turned
      split at turned
      next free =>
        obtain rfl := Option.some.inj turned
        refine ⟨LineChannel.closed_dropWriter .., ?_, .attachedWriter free⟩
        intro half other found
        rcases LineChannel.end?_of_attachWriter found with
          ⟨rfl, rfl⟩ | ⟨rfl, kept⟩
        · exact .inl (List.mem_singleton_self _)
        · exact .inr ⟨kept, by simp⟩
      next => simp at turned
  | send message =>
      simp only [resume] at turned
      split at turned
      next free =>
        split at turned
        next absent =>
          obtain rfl := Option.some.inj turned
          exact turned_of_same rfl rfl rfl rfl .unsent
        next endpoint found =>
          obtain rfl := Option.some.inj turned
          exact turned_of_same rfl rfl rfl rfl (.writes found)
      next => simp at turned
  | write endpoint message =>
      simp only [resume] at turned
      split at turned
      next =>
        obtain rfl := Option.some.inj turned
        exact turned_of_same rfl rfl rfl rfl .sent
      next =>
        obtain rfl := Option.some.inj turned
        exact turned_of_same rfl rfl rfl rfl .unsent
  | receive =>
      simp only [resume] at turned
      split at turned
      next free =>
        split at turned
        next absent =>
          obtain rfl := Option.some.inj turned
          exact turned_of_same rfl rfl rfl rfl .unreceived
        next reader found =>
          obtain rfl := Option.some.inj turned
          exact turned_of_same rfl rfl rfl rfl .reads
      next => simp at turned
  | line => exact turned_of_resume_line turned
  | dropWriter =>
      simp only [resume] at turned
      split at turned
      next free =>
        obtain rfl := Option.some.inj turned
        refine ⟨LineChannel.closed_dropWriter .., ?_, .droppedWriter free⟩
        intro half other found
        obtain ⟨rfl, kept⟩ := LineChannel.end?_of_dropWriter found
        exact .inr ⟨kept, by simp⟩
      next => simp at turned
  | dropReader =>
      simp only [resume] at turned
      split at turned
      next free =>
        obtain rfl := Option.some.inj turned
        have left :=
          SocketServer.channel_finishClosing shared.server shared.network
        refine ⟨?_, ?_, .droppedReader free⟩
        · rw [left]
          exact LineChannel.closed_dropReader ..
        · intro half other found
          rw [left] at found
          obtain ⟨rfl, kept⟩ := LineChannel.end?_of_dropReader found
          exact .inr ⟨kept, by simp⟩
      next => simp at turned

theorem turned_of_interrupt (turned : shared.interrupt wait = some turn) :
    Turned shared wait turn := by
  cases wait with
  | peer listener =>
      simp only [interrupt] at turned
      split at turned
      next closed =>
        obtain rfl := Option.some.inj turned
        exact turned_of_same rfl rfl rfl rfl .unmet
      next => simp at turned
  | line =>
      simp only [interrupt] at turned
      split at turned
      next closed =>
        obtain rfl := Option.some.inj turned
        exact turned_of_same rfl rfl rfl rfl .unreceived
      next => simp at turned
  | attachReader | attachWriter | send | write | receive | dropWriter
  | dropReader =>
      simp [interrupt] at turned

namespace Passes

variable {next : SocketWait ⊕ Outcome}

theorem closing_not_mem (passes : Passes shared wait effects next) :
    .closing ∉ effects := by
  cases passes <;> simp

theorem finish_not_mem
    (passes : Passes shared wait effects next) (ticket : Nat)
    (outcome : Outcome) : .finish ticket outcome ∉ effects := by
  cases passes <;> simp

/-- Who gives a half up has it, and the task is there for that. -/
theorem dropped
    (passes : Passes shared wait effects next)
    (gone : .dropped half ∈ effects) :
    shared.free half = true ∧
      (half = .writing ∧ wait = .dropWriter ∨
        half = .reading ∧ wait = .dropReader) := by
  cases passes <;> simp_all

theorem ne_dropWriter (passes : Passes shared wait effects next) :
    next ≠ .inl .dropWriter := by
  cases passes <;> simp

theorem dropped_of_dropReader
    (passes : Passes shared wait effects next)
    (same : next = .inl .dropReader) : .dropped .writing ∈ effects := by
  cases passes <;> simp_all

theorem returned
    {result : Except TransportError Unit}
    (passes : Passes shared wait effects next)
    (same : next = .inr (.closed result)) :
    wait = .dropReader ∧ .dropped .reading ∈ effects := by
  cases passes <;> simp_all

theorem writer_of_write
    {message : Message} (passes : Passes shared wait effects next)
    (same : next = .inl (.write endpoint message)) :
    shared.server.channel.writer = some endpoint ∧ effects = [] := by
  cases passes <;> simp_all

theorem write_of_sent
    (passes : Passes shared wait effects next)
    (same : next = .inr (.sent (.ok ()))) :
    ∃ endpoint message, wait = .write endpoint message := by
  cases passes <;> simp_all

theorem readEnd_of_received
    {message : Message} (passes : Passes shared wait effects next)
    (same : next = .inr (.received (.ok message))) :
    ∃ endpoint, shared.server.channel.readEnd = some endpoint := by
  cases passes <;> simp_all

end Passes

/-! ## What a step leaves -/

section Proceeding

variable {ticket : Nat} {task : SocketTask}

@[simp]
theorem server_proceed (shared : SharedSocket) (ticket : Nat) (turn : Turn) :
    (shared.proceed ticket turn).1.server = turn.server := by
  unfold proceed
  split <;> rfl

theorem mem_tasks_proceed
    (member : task ∈ (shared.proceed ticket turn).1.tasks) :
    task ∈ shared.tasks ∨ turn.next = .inl task.wait := by
  unfold proceed at member
  split at member
  next wait waits =>
    rcases List.mem_append.mp member with other | own
    · exact .inl (List.mem_filter.mp other).1
    · rw [List.mem_singleton.mp own]
      exact .inr waits
  next => exact .inl (List.mem_filter.mp member).1

theorem mem_effects_proceed
    {effect : Effect}
    (member : effect ∈ (shared.proceed ticket turn).2) :
    effect ∈ turn.effects ∨
      ∃ outcome, turn.next = .inr outcome ∧
        effect = .finish ticket outcome := by
  unfold proceed at member
  split at member
  next => exact .inl member
  next outcome ends =>
    rcases List.mem_append.mp member with before | last
    · exact .inl before
    · exact .inr ⟨outcome, ends, List.mem_singleton.mp last⟩

theorem subset_effects_proceed :
    turn.effects ⊆ (shared.proceed ticket turn).2 := by
  unfold proceed
  split
  · exact List.Subset.refl _
  · exact List.subset_append_left _ _

/-- A task that has a half keeps it from everybody else. -/
theorem free_of_holds
    (member : task ∈ shared.tasks) (holds : task.wait.holds half = true) :
    shared.free half = false := by
  simp only [free, List.all_eq_false]
  exact ⟨task, member, by simp [holds]⟩

end Proceeding

/-! ## Late peers -/

/-- Whether an end was attached to a transport that was closed before. -/
def Late (half : Half) (endpoint : Endpoint) (effects : List Effect) :
    Prop :=
  ∃ before after,
    effects = before ++ .attached half endpoint :: after ∧
      .closing ∈ before

theorem Late.append
    (late : Late half endpoint effects) (more : List Effect) :
    Late half endpoint (effects ++ more) := by
  obtain ⟨before, after, rfl, closing⟩ := late
  exact ⟨before, after ++ more, by simp, closing⟩

theorem late_of_attached
    (closing : .closing ∈ effects)
    (attached : .attached half endpoint ∈ more) :
    Late half endpoint (effects ++ more) := by
  obtain ⟨before, after, rfl⟩ := List.append_of_mem attached
  exact ⟨effects ++ before, after, by simp, List.mem_append_left _ closing⟩

/--
How a transport is guarded against peers once it is closed: whoever has a
half that was given up came late.
-/
structure Guarded (shared : SharedSocket) (effects : List Effect) : Prop where
  closed : .closing ∈ effects → shared.server.channel.closed = true
  closing :
    ∀ task ∈ shared.tasks, task.wait = .dropWriter → .closing ∈ effects
  half_dropped :
    ∀ task ∈ shared.tasks, task.wait = .dropReader →
      .dropped .writing ∈ effects
  dropped : ∀ half, .dropped half ∈ effects → .closing ∈ effects
  /-- A close that has returned has given both halves up. -/
  returned :
    ∀ ticket result, .finish ticket (.closed result) ∈ effects →
      ∀ half, .dropped half ∈ effects
  ends :
    ∀ half endpoint, .dropped half ∈ effects →
      shared.server.channel.end? half = some endpoint →
        Late half endpoint effects
  writes :
    ∀ task ∈ shared.tasks, ∀ endpoint message,
      task.wait = .write endpoint message →
        .dropped .writing ∈ effects → Late .writing endpoint effects

theorem guarded_new (network : Network) : Guarded (new network) [] where
  closed := by simp
  closing := by simp [new]
  half_dropped := by simp [new]
  dropped := by simp
  returned := by simp
  ends := by simp
  writes := by simp

namespace Guarded

/-- Only a transport that is being closed gives its halves up. -/
theorem closing_of_dropped
    {task : SocketTask} (guarded : Guarded shared effects)
    (member : task ∈ shared.tasks)
    (turned : Turned shared task.wait turn)
    (gone : .dropped half ∈ turn.effects) : .closing ∈ effects := by
  obtain ⟨_, ⟨_, waits⟩ | ⟨_, waits⟩⟩ := turned.passes.dropped gone
  · exact guarded.closing task member waits
  · exact guarded.dropped _ (guarded.half_dropped task member waits)

theorem proceed
    {task : SocketTask} (guarded : Guarded shared effects)
    (member : task ∈ shared.tasks)
    (turned : Turned shared task.wait turn) (ticket : Nat) :
    Guarded (shared.proceed ticket turn).1
      (effects ++ (shared.proceed ticket turn).2) := by
  have passes := turned.passes
  have dropped_before {half : Half}
      (gone : .dropped half ∈ effects ++ (shared.proceed ticket turn).2) :
      .dropped half ∈ effects ∨ .dropped half ∈ turn.effects := by
    refine (List.mem_append.mp gone).imp_right fun own => ?_
    exact (mem_effects_proceed own).resolve_right (by simp)
  have closing_before {half : Half}
      (gone : .dropped half ∈ effects ++ (shared.proceed ticket turn).2) :
      .closing ∈ effects :=
    (dropped_before gone).elim (guarded.dropped half)
      (guarded.closing_of_dropped member turned)
  have own {effect : Effect} (inside : effect ∈ turn.effects) :
      effect ∈ effects ++ (shared.proceed ticket turn).2 :=
    List.mem_append_right _ (subset_effects_proceed inside)
  refine ⟨?closed, ?closing, ?half_dropped, ?dropped, ?returned, ?ends,
    ?writes⟩
  case closed =>
    intro marked
    rw [server_proceed, turned.closed]
    refine guarded.closed ((List.mem_append.mp marked).resolve_right ?_)
    intro inside
    rcases mem_effects_proceed inside with last | ⟨outcome, _, other⟩
    · exact passes.closing_not_mem last
    · cases other
  case closing =>
    intro other inside waits
    refine List.mem_append_left _ ?_
    rcases mem_tasks_proceed inside with before | new
    · exact guarded.closing other before waits
    · exact absurd (waits ▸ new) passes.ne_dropWriter
  case half_dropped =>
    intro other inside waits
    rcases mem_tasks_proceed inside with before | new
    · exact List.mem_append_left _ (guarded.half_dropped other before waits)
    · exact own (passes.dropped_of_dropReader (waits ▸ new))
  case dropped =>
    exact fun half gone => List.mem_append_left _ (closing_before gone)
  case returned =>
    intro number result ended half
    rcases List.mem_append.mp ended with before | inside
    · exact List.mem_append_left _ (guarded.returned _ _ before half)
    · rcases mem_effects_proceed inside with last | ⟨outcome, ends, equal⟩
      · exact absurd last (passes.finish_not_mem _ _)
      · obtain ⟨_, rfl⟩ := Effect.finish.inj equal
        obtain ⟨waits, gone⟩ := passes.returned ends
        cases half with
        | reading => exact own gone
        | writing =>
            exact List.mem_append_left _
              (guarded.half_dropped task member waits)
  case ends =>
    intro half endpoint gone found
    rw [server_proceed] at found
    rcases turned.ends half endpoint found with attached | ⟨still, kept⟩
    · exact late_of_attached (closing_before gone)
        (subset_effects_proceed attached)
    · have before := (dropped_before gone).resolve_right kept
      exact (guarded.ends half endpoint before still).append _
  case writes =>
    intro other inside endpoint message waits gone
    rcases mem_tasks_proceed inside with before | new
    · rcases dropped_before gone with gone | gone
      · exact (guarded.writes other before endpoint message waits gone).append
          _
      · -- The half cannot be given up while somebody writes.
        have busy : shared.free .writing = false :=
          free_of_holds before (by rw [waits]; rfl)
        simp [(passes.dropped gone).1] at busy
    · obtain ⟨found, quiet⟩ := passes.writer_of_write (waits ▸ new)
      have before := (dropped_before gone).resolve_right (by simp [quiet])
      exact (guarded.ends .writing endpoint before found).append _

end Guarded

/-! ## Along a run -/

/-- What a call may wait for when it starts. -/
def Opens (wait : SocketWait) (effects : List Effect) : Prop :=
  (wait = .dropWriter → .closing ∈ effects) ∧ wait ≠ .dropReader ∧
    ∀ endpoint message, wait ≠ .write endpoint message

/-- A call that starts, or what somebody else does, keeps the guard. -/
theorem guarded_of_called
    (guarded : Guarded shared effects)
    (closed :
      next.server.channel.closed = true ∨
        next.server.channel.closed = shared.server.channel.closed ∧
          .closing ∉ more)
    (ends :
      ∀ half, next.server.channel.end? half = shared.server.channel.end? half)
    (tasks : ∀ task ∈ next.tasks, task ∈ shared.tasks ∨ Opens task.wait more)
    (undropped : ∀ half, .dropped half ∉ more)
    (unreturned : ∀ ticket result, .finish ticket (.closed result) ∉ more) :
    Guarded next (effects ++ more) where
  closed := by
    intro marked
    rcases closed with closed | ⟨same, unmarked⟩
    · exact closed
    · rw [same]
      exact guarded.closed ((List.mem_append.mp marked).resolve_right unmarked)
  closing := by
    intro task member waits
    rcases tasks task member with before | opens
    · exact List.mem_append_left _ (guarded.closing task before waits)
    · exact List.mem_append_right _ (opens.1 waits)
  half_dropped := by
    intro task member waits
    rcases tasks task member with before | opens
    · exact List.mem_append_left _ (guarded.half_dropped task before waits)
    · exact absurd waits opens.2.1
  dropped := by
    intro half gone
    have before := (List.mem_append.mp gone).resolve_right (undropped half)
    exact List.mem_append_left _ (guarded.dropped half before)
  returned := by
    intro ticket result ended half
    have before :=
      (List.mem_append.mp ended).resolve_right (unreturned ticket result)
    exact List.mem_append_left _ (guarded.returned ticket result before half)
  ends := by
    intro half endpoint gone found
    have before := (List.mem_append.mp gone).resolve_right (undropped half)
    rw [ends half] at found
    exact (guarded.ends half endpoint before found).append more
  writes := by
    intro task member endpoint message waits gone
    have dropped := (List.mem_append.mp gone).resolve_right (undropped _)
    rcases tasks task member with before | opens
    · exact (guarded.writes task before endpoint message waits dropped).append
        more
    · exact absurd waits (opens.2.2 endpoint message)

theorem mem_tasks_start
    {task : SocketTask} (member : task ∈ (shared.start wait).tasks) :
    task ∈ shared.tasks ∨ task.wait = wait := by
  rcases List.mem_append.mp member with before | own
  · exact .inl before
  · rw [List.mem_singleton.mp own]
    exact .inr rfl

/-- A task that goes on was there before. -/
theorem mem_of_find?
    {ticket : Nat} {task : SocketTask}
    (found : shared.find? ticket = some task) : task ∈ shared.tasks :=
  List.mem_of_find?_eq_some found

/-- A task that goes on does a turn. -/
theorem turned_of_step
    (alone :
      (∃ ticket, event = .resume ticket) ∨ ∃ ticket, event = .interrupt ticket)
    (stepped : step shared event = some (next, more)) :
    ∃ ticket, ∃ task ∈ shared.tasks, ∃ turn,
      Turned shared task.wait turn ∧
        (next, more) = shared.proceed ticket turn := by
  rcases alone with ⟨ticket, rfl⟩ | ⟨ticket, rfl⟩
  · obtain ⟨task, found, rest⟩ := Option.bind_eq_some_iff.mp stepped
    obtain ⟨turn, turned, equal⟩ := Option.bind_eq_some_iff.mp rest
    exact ⟨ticket, task, mem_of_find? found, turn, turned_of_resume turned,
      (Option.some.inj equal).symm⟩
  · obtain ⟨task, found, rest⟩ := Option.bind_eq_some_iff.mp stepped
    obtain ⟨turn, turned, equal⟩ := Option.bind_eq_some_iff.mp rest
    exact ⟨ticket, task, mem_of_find? found, turn, turned_of_interrupt turned,
      (Option.some.inj equal).symm⟩

theorem Guarded.step
    (guarded : Guarded shared effects)
    (stepped : SharedSocket.step shared event = some (next, more)) :
    Guarded next (effects ++ more) := by
  cases event with
  | serve path =>
      have same :=
        SocketServer.channel_bind path shared.server shared.network
      simp only [SharedSocket.step] at stepped
      generalize shared.server.bind path shared.network = bound
        at stepped same
      obtain ⟨rfl, rfl⟩ := Prod.mk.inj (Option.some.inj stepped)
      refine guarded_of_called guarded
        (.inr ⟨congrArg LineChannel.closed same, ?_⟩)
        (fun half => congrArg (LineChannel.end? · half) same)
        (fun _ member => .inl member) ?_ ?_ <;> simp
  | accept =>
      simp only [SharedSocket.step] at stepped
      split at stepped
      next =>
        obtain ⟨rfl, rfl⟩ := Prod.mk.inj (Option.some.inj stepped)
        refine guarded_of_called guarded (.inr ⟨rfl, ?_⟩) (fun _ => rfl)
          (fun _ member => .inl member) ?_ ?_ <;> simp
      next =>
        obtain ⟨rfl, rfl⟩ := Prod.mk.inj (Option.some.inj stepped)
        refine guarded_of_called guarded (.inr ⟨rfl, by simp⟩) (fun _ => rfl)
          (fun task member => ?_) (by simp) (by simp)
        refine (mem_tasks_start member).imp_right fun waits => ?_
        simp [Opens, waits]
  | send message =>
      obtain ⟨rfl, rfl⟩ := Prod.mk.inj (Option.some.inj stepped)
      refine guarded_of_called guarded (.inr ⟨rfl, by simp⟩) (fun _ => rfl)
        (fun task member => ?_) (by simp) (by simp)
      refine (mem_tasks_start member).imp_right fun waits => ?_
      simp [Opens, waits]
  | receive =>
      obtain ⟨rfl, rfl⟩ := Prod.mk.inj (Option.some.inj stepped)
      refine guarded_of_called guarded (.inr ⟨rfl, by simp⟩) (fun _ => rfl)
        (fun task member => ?_) (by simp) (by simp)
      refine (mem_tasks_start member).imp_right fun waits => ?_
      simp [Opens, waits]
  | close =>
      obtain ⟨rfl, rfl⟩ := Prod.mk.inj (Option.some.inj stepped)
      refine guarded_of_called guarded (.inl rfl) ?_
        (fun task member => ?_) (by simp) (by simp)
      · intro half
        cases half <;> rfl
      · refine (mem_tasks_start member).imp_right fun waits => ?_
        simp [Opens, waits]
  | resume ticket =>
      obtain ⟨_, task, member, turn, turned, equal⟩ :=
        turned_of_step (.inl ⟨ticket, rfl⟩) stepped
      obtain ⟨rfl, rfl⟩ := Prod.mk.inj equal
      exact guarded.proceed member turned _
  | interrupt ticket =>
      obtain ⟨_, task, member, turn, turned, equal⟩ :=
        turned_of_step (.inr ⟨ticket, rfl⟩) stepped
      obtain ⟨rfl, rfl⟩ := Prod.mk.inj equal
      exact guarded.proceed member turned _
  | outside change =>
      obtain ⟨rfl, rfl⟩ := Prod.mk.inj (Option.some.inj stepped)
      exact guarded_of_called guarded (.inr ⟨rfl, by simp⟩) (fun _ => rfl)
        (fun _ member => .inl member) (by simp) (by simp)

theorem guarded_run
    {network : Network} {events : List Event}
    (ran : run step (new network) events = some (shared, effects)) :
    Guarded shared effects :=
  run_invariant (fun state _ effects => Guarded state effects)
    (guarded_new network)
    (fun _ _ _ _ _ _ guarded stepped => guarded.step stepped)
    ran

/-- A call ends at once, or because its task goes on. -/
theorem finish_of_step
    {ticket : Nat} {outcome : Outcome}
    (stepped : step shared event = some (next, more))
    (ended : .finish ticket outcome ∈ more) :
    (∃ result, outcome = .served result ∨ outcome = .accepted result) ∨
      ∃ task ∈ shared.tasks, ∃ turn,
        Turned shared task.wait turn ∧ turn.next = .inr outcome := by
  have ends
      (alone :
        (∃ ticket, event = .resume ticket) ∨
          ∃ ticket, event = .interrupt ticket) :
      ∃ task ∈ shared.tasks, ∃ turn,
        Turned shared task.wait turn ∧ turn.next = .inr outcome := by
    obtain ⟨own, task, member, turn, turned, equal⟩ :=
      turned_of_step alone stepped
    obtain ⟨rfl, rfl⟩ := Prod.mk.inj equal
    refine ⟨task, member, turn, turned, ?_⟩
    rcases mem_effects_proceed ended with inside | ⟨last, ends, equal⟩
    · exact absurd inside (turned.passes.finish_not_mem _ _)
    · rw [ends, (Effect.finish.inj equal).2]
  cases event with
  | serve path =>
      obtain ⟨rfl, rfl⟩ := Prod.mk.inj (Option.some.inj stepped)
      obtain ⟨_, rfl⟩ := Effect.finish.inj (List.mem_singleton.mp ended)
      exact .inl ⟨_, .inl rfl⟩
  | accept =>
      simp only [step] at stepped
      split at stepped
      next =>
        obtain ⟨rfl, rfl⟩ := Prod.mk.inj (Option.some.inj stepped)
        obtain ⟨_, rfl⟩ := Effect.finish.inj (List.mem_singleton.mp ended)
        exact .inl ⟨_, .inr rfl⟩
      next =>
        obtain ⟨rfl, rfl⟩ := Prod.mk.inj (Option.some.inj stepped)
        simp at ended
  | send | receive | close | outside =>
      obtain ⟨rfl, rfl⟩ := Prod.mk.inj (Option.some.inj stepped)
      simp at ended
  | resume ticket => exact .inr (ends (.inl ⟨ticket, rfl⟩))
  | interrupt ticket => exact .inr (ends (.inr ⟨ticket, rfl⟩))

/-- What is sent once the writing half was given up goes to a late peer. -/
theorem late_of_sent
    {ticket : Nat} (guarded : Guarded shared effects)
    (gone : .dropped .writing ∈ effects)
    (stepped : step shared event = some (next, more))
    (sent : .finish ticket (.sent (.ok ())) ∈ more) :
    ∃ endpoint, Late .writing endpoint effects := by
  rcases finish_of_step stepped sent with
    ⟨_, other | other⟩ | ⟨task, member, turn, turned, ends⟩
  · cases other
  · cases other
  · obtain ⟨endpoint, message, waits⟩ := turned.passes.write_of_sent ends
    exact ⟨endpoint, guarded.writes task member endpoint message waits gone⟩

/-- What is received once the reading half was given up is from a late peer. -/
theorem late_of_received
    {ticket : Nat} {message : Message} (guarded : Guarded shared effects)
    (gone : .dropped .reading ∈ effects)
    (stepped : step shared event = some (next, more))
    (received : .finish ticket (.received (.ok message)) ∈ more) :
    ∃ endpoint, Late .reading endpoint effects := by
  rcases finish_of_step stepped received with
    ⟨_, other | other⟩ | ⟨task, member, turn, turned, ends⟩
  · cases other
  · cases other
  · obtain ⟨endpoint, found⟩ := turned.passes.readEnd_of_received ends
    exact ⟨endpoint, guarded.ends .reading endpoint gone found⟩

/-- What is sent and received by a transport of which a half is given up. -/
structure Lingers (said told : List Effect) : Prop where
  sent :
    ∀ ticket, .finish ticket (.sent (.ok ())) ∈ told →
      ∃ endpoint, Late .writing endpoint (said ++ told)
  received :
    ∀ ticket message, .finish ticket (.received (.ok message)) ∈ told →
      ∃ endpoint, Late .reading endpoint (said ++ told)

theorem lingers_run
    {events : List Event} {said told : List Effect}
    (guarded : Guarded shared said)
    (gone : ∀ half, .dropped half ∈ said)
    (ran : run step shared events = some (next, told)) :
    Lingers said told := by
  have both :=
    run_invariant
      (fun state _ told => Guarded state (said ++ told) ∧ Lingers said told)
      ⟨by simpa using guarded, by simp, by simp⟩
      (fun state _ told event next more holds stepped => by
        obtain ⟨guarded, lingers⟩ := holds
        have before (half : Half) : .dropped half ∈ said ++ told :=
          List.mem_append_left _ (gone half)
        rw [← List.append_assoc]
        refine ⟨guarded.step stepped, ?_, ?_⟩
        · intro ticket sent
          rcases List.mem_append.mp sent with earlier | last
          · obtain ⟨endpoint, late⟩ := lingers.sent ticket earlier
            exact ⟨endpoint, by simpa using late.append more⟩
          · obtain ⟨endpoint, late⟩ :=
              late_of_sent guarded (before _) stepped last
            exact ⟨endpoint, by simpa using late.append more⟩
        · intro ticket message received
          rcases List.mem_append.mp received with earlier | last
          · obtain ⟨endpoint, late⟩ := lingers.received ticket message earlier
            exact ⟨endpoint, by simpa using late.append more⟩
          · obtain ⟨endpoint, late⟩ :=
              late_of_received guarded (before _) stepped last
            exact ⟨endpoint, by simpa using late.append more⟩)
      ran
  exact both.2

/-- A transport that is marked as closed has no connection. -/
theorem Guarded.hasConnection_eq_false
    (guarded : Guarded shared effects) (closing : .closing ∈ effects) :
    shared.hasConnection = false := by
  simp [hasConnection, LineChannel.isConnected, guarded.closed closing]

/--
Once the transport was closed, whatever its tasks do, in any order, it shows
no connection any more.  Nothing is sent through it or received unless an
accepted peer was attached after the transport had been marked as closed.
-/
theorem dead_unless_late
    {network : Network} {events later : List Event}
    {final : SharedSocket} {said told : List Effect}
    (ran : run step (new network) events = some (shared, said))
    (returned : ∃ ticket result, .finish ticket (.closed result) ∈ said)
    (went : run step shared later = some (final, told)) :
    final.hasConnection = false ∧
      (∀ ticket, .finish ticket (.sent (.ok ())) ∈ told →
        ∃ endpoint, Late .writing endpoint (said ++ told)) ∧
      ∀ ticket message, .finish ticket (.received (.ok message)) ∈ told →
        ∃ endpoint, Late .reading endpoint (said ++ told) := by
  have guarded := guarded_run ran
  obtain ⟨ticket, result, ended⟩ := returned
  have gone := guarded.returned ticket result ended
  have closing := guarded.dropped .writing (gone .writing)
  have lingers := lingers_run guarded gone went
  have whole : Guarded final (said ++ told) :=
    guarded_run (run_append_eq_some_iff.mpr
      ⟨shared, said, told, ran, went, rfl⟩)
  exact ⟨whole.hasConnection_eq_false (List.mem_append_left _ closing),
    lingers.sent, lingers.received⟩

/-- A peer connects, and the one that was there first hangs up. -/
def succession (network : Network) : Network :=
  ((network.connect "build.sock").2).hangUp ⟨0, .client⟩ false

/--
A peer takes the place of another.  It is accepted while the end of the
other one is being received, and attached while the transport is closed.
-/
def latePeer : List Event :=
  [.serve "build.sock", .outside fun network =>
      (network.connect "build.sock").2,
    .accept, .resume 1, .resume 1, .resume 1, .serve "build.sock", .accept,
    .outside succession, .receive, .resume 4, .resume 3, .resume 4, .close,
    .resume 5, .resume 3, .resume 3, .resume 5]

/-- A message that is sent after that. -/
def lateMessage : List Event :=
  [.send (Message.plain .subscribeResponse), .resume 6, .resume 6]

/-- Whether a close has returned, without an error. -/
def Effect.closes : Effect → Bool
  | .finish _ (.closed (.ok _)) => true
  | _ => false

/-- Whether a message was sent. -/
def Effect.sends : Effect → Bool
  | .finish _ (.sent (.ok _)) => true
  | _ => false

theorem eq_of_closes {effect : Effect} (closes : effect.closes = true) :
    ∃ ticket, effect = .finish ticket (.closed (.ok ())) := by
  unfold Effect.closes at closes
  split at closes
  · exact ⟨_, rfl⟩
  · cases closes

theorem eq_of_sends {effect : Effect} (sends : effect.sends = true) :
    ∃ ticket, effect = .finish ticket (.sent (.ok ())) := by
  unfold Effect.sends at sends
  split at sends
  · exact ⟨_, rfl⟩
  · cases sends

theorem run_latePeer :
    ∃ shared said final told,
      run step (new Network.empty) latePeer = some (shared, said) ∧
        run step shared lateMessage = some (final, told) ∧
        (∃ ticket, .finish ticket (.closed (.ok ())) ∈ said) ∧
        ∃ ticket, .finish ticket (.sent (.ok ())) ∈ told := by
  have found :
      ((run step (new Network.empty) latePeer).bind fun first =>
          (run step first.1 lateMessage).map fun last =>
            (first.2.any Effect.closes, last.2.any Effect.sends)) =
        some (true, true) := by
    have address : Network.isAddress "build.sock" = true :=
      Network.isAddress_iff.mpr (by decide)
    have written (message : Message) :
        (LineChannel.messageLine message).isEmpty = false := by
      simp [LineChannel.messageLine]
    simp only [run, latePeer, lateMessage, succession, step, resume,
      SocketServer.bind, Network.bind, Network.connect, Network.write, address,
      written, Bool.not_true, Bool.false_eq_true, if_false]
    rfl
  obtain ⟨⟨shared, said⟩, ran, rest⟩ := Option.bind_eq_some_iff.mp found
  obtain ⟨⟨final, told⟩, went, shown⟩ := Option.map_eq_some_iff.mp rest
  obtain ⟨closes, sends⟩ := Prod.mk.inj shown
  obtain ⟨close, closed, closes⟩ := List.any_eq_true.mp closes
  obtain ⟨send, sent, sends⟩ := List.any_eq_true.mp sends
  obtain ⟨closer, rfl⟩ := eq_of_closes closes
  obtain ⟨sender, rfl⟩ := eq_of_sends sends
  exact ⟨shared, said, final, told, ran, went, ⟨closer, closed⟩,
    ⟨sender, sent⟩⟩

theorem dead_unless_late_latePeer :
    ∃ shared said final told,
      run step (new Network.empty) latePeer = some (shared, said) ∧
        run step shared lateMessage = some (final, told) ∧
        final.hasConnection = false ∧
        ∃ endpoint, Late .writing endpoint (said ++ told) := by
  obtain ⟨shared, said, final, told, ran, went, ⟨closer, closed⟩,
      ⟨sender, sent⟩⟩ := run_latePeer
  have dead := dead_unless_late ran ⟨closer, _, closed⟩ went
  exact ⟨shared, said, final, told, ran, went, dead.1, dead.2.1 sender sent⟩

/-- A message is sent although the transport was closed before. -/
theorem sent_after_closed :
    ∃ shared said final told,
      run step (new Network.empty) latePeer = some (shared, said) ∧
        (∃ ticket, .finish ticket (.closed (.ok ())) ∈ said) ∧
        run step shared lateMessage = some (final, told) ∧
        ∃ ticket, .finish ticket (.sent (.ok ())) ∈ told := by
  obtain ⟨shared, said, final, told, ran, went, closed, sent⟩ := run_latePeer
  exact ⟨shared, said, final, told, ran, closed, went, sent⟩

end SharedSocket

end BuildWatch
