import BuildWatch.Proofs.Dialogue.Voices
import Mathlib.Data.List.Infix

/-!
# Cycles and their answers

Behind the handshake the two queues of a dialogue carry nothing but news and
the answers of the stream.  The cycles that arrive are therefore the first
ones that the server sent, and what the server receives about them is either
the answers of the stream in order or the end of the connection.
-/

namespace BuildWatch

/-- A message of a session fits if it carries no capabilities. -/
theorem Session.portable_attach
    (session : Session) (trace : TraceContext) {body : MessageBody}
    (bare : Message.carried? body = none) :
    Message.Portable (session.attach trace (Message.plain body)) := by
  have carries :
      ∀ value, Message.carried? body = some value →
        Json.Fits 126 value := by
    intro value carried
    rw [bare] at carried
    cases carried
  unfold attach
  split
  · exact Message.portable_of_carried rfl carries
  · exact Message.portable_plain carries

/-- What a server says about the build always fits a message. -/
theorem Message.IsNews.portable
    {message : Message} (isNews : message.IsNews) : Portable message := by
  rcases isNews with
    ⟨session, trace, number, scope, changes, rfl⟩ |
      ⟨session, trace, description, rfl⟩
  · exact session.portable_attach trace rfl
  · exact session.portable_attach trace rfl

/-- No message of a handshake is a cycle. -/
theorem ServerHandshake.cycleEvent?_of_mem_opening
    {supported : List Version} {trace : TraceContext} {version : Version}
    {capabilities : Capabilities} {message : Message}
    (member : message ∈ opening supported trace version capabilities) :
    message.cycleEvent? = none := by
  have granted : (grant trace capabilities).cycleEvent? = none := by
    simp only [grant]
    split <;> rfl
  unfold opening at member
  split at member
  · simp only [List.mem_cons, List.not_mem_nil, or_false] at member
    rcases member with rfl | rfl | rfl
    · rfl
    · exact granted
    · rfl
  · split at member
    · simp only [List.mem_cons, List.not_mem_nil, or_false] at member
      rcases member with rfl | rfl
      · rfl
      · exact granted
    · rw [List.mem_singleton.mp member]
      rfl

namespace Dialogue

/-- Messages that fit are read as they were. -/
theorem map_read_encode
    {messages : List Message}
    (portable : ∀ message ∈ messages, Message.Portable message) :
    (messages.map Message.encode).map read = messages.map Except.ok := by
  rw [List.map_map]
  apply List.map_congr_left
  intro message member
  exact read_encode (portable message member)

/-- Answers of a stream always fit a message. -/
theorem portable_of_answersTo
    {cycles : List CycleEvent} {message : Message}
    (member : message ∈ cycles.flatMap CycleStream.answersTo) :
    Message.Portable message := by
  obtain ⟨cycle, _, answer⟩ := List.mem_flatMap.mp member
  simp only [CycleStream.answersTo, List.mem_cons, List.not_mem_nil,
    or_false] at answer
  rcases answer with rfl | rfl <;>
    exact Message.portable_plain (by simp [Message.carried?])

/-- How much of a dialogue is behind the handshake of its client. -/
inductive Extent (server : ServerOptions) (client : ClientOptions)
    (dialogue : Dialogue) (journal : List Entry) : Prop where
  /-- The client has no stream yet, and said no more than its opening. -/
  | opening
      (unfollowed : Consumer.followed (consumed journal) = [])
      (short :
        ∀ version,
          Version.select server.supported client.supported = some version →
            (Consumer.said (consumed journal)).length ≤ version.rounds)
  /-- Behind its opening the consumer heard and said what its stream did. -/
  | streaming {version : Version}
      (selected :
        Version.select server.supported client.supported = some version)
      (staying : dialogue.hungUp = false)
      (heard :
        (Consumer.heard (consumed journal)).drop version.rounds =
          (Consumer.followed (consumed journal)).filterMap
            CycleStream.receipt?)
      (said :
        (Consumer.said (consumed journal)).drop version.rounds =
          (Consumer.followed (consumed journal)).filterMap
            CycleStream.attempt?)
      (progress :
        CycleStream.Progress (Consumer.followed (consumed journal)))

section Flow

variable {server : ServerOptions} {client : ClientOptions}
  {request : CapabilityRequest} {dialogue : Dialogue}
  {journal : List Entry}

theorem Joint.extent
    (joint : Joint server client request dialogue journal) :
    Extent server client dialogue journal := by
  have course := joint.consumer
  cases course.phase with
  | before talk streamless unfollowed =>
      refine .opening unfollowed ?_
      intro version selected
      obtain ⟨own, begins, offered⟩ := talk.uttered
      have short := begins.length_le
      rw [ClientHandshake.length_opening] at short
      by_cases silent : Consumer.said (consumed journal) = []
      · rw [silent]
        exact Nat.zero_le _
      · have same := offered silent
        rw [course.same] at same
        have equal := joint.selected same
        rw [selected] at equal
        cases equal
        exact short
  | behind talk single ran listened spoke =>
      cases talk with
      | @served version _ _ agreed _ _ length =>
          have offered := agreed.offered.append
            ((Consumer.followed (consumed journal)).filterMap
              CycleStream.receipt?)
          rw [← listened, course.same] at offered
          have staying : dialogue.hungUp = false := by
            rw [joint.parting]
            apply Bool.eq_false_iff.mpr
            intro closed
            exact agreed.attached (course.parted closed).2
          refine .streaming (joint.selected offered) staying ?_ ?_
            (CycleStream.progress_run ran joint.unfailed)
          · rw [listened]
            exact List.drop_left' length
          · rw [spoke]
            exact List.drop_left' (ClientHandshake.length_opening ..)

/-! ## From the server to the consumer -/

/-- Behind its part of the handshake a server says nothing but news. -/
theorem Joint.news
    (joint : Joint server client request dialogue journal)
    {version : Version}
    (selected :
      Version.select server.supported client.supported = some version) :
    (∀ message ∈ (Server.said (served journal)).drop version.rounds,
        message.IsNews) ∧
      ∀ message ∈ (Server.said (served journal)).take version.rounds,
        message.cycleEvent? = none := by
  have uttered := joint.server_uttered
  obtain ⟨trace, own, capabilities, news, begins, isNews, known⟩ := uttered
  by_cases long : 1 < (Server.said (served journal)).length
  · have same := joint.chosen (known long).1
    rw [selected] at same
    cases same
    have length :=
      ServerHandshake.length_opening server.supported trace version
        capabilities
    constructor
    · intro message member
      have later := (begins.drop version.rounds).subset member
      rw [List.drop_left' length] at later
      exact isNews message later
    · intro message member
      have earlier := (begins.take version.rounds).subset member
      rw [List.take_left' length] at earlier
      exact ServerHandshake.cycleEvent?_of_mem_opening earlier
  · have positive := version.rounds_pos
    constructor
    · intro message member
      rw [List.drop_of_length_le (by omega)] at member
      cases member
    · intro message member
      obtain ⟨place, found⟩ :=
        List.getElem?_of_mem (List.mem_of_mem_take member)
      have inside := (List.getElem?_eq_some_iff.mp found).1
      have first : place = 0 := by omega
      subst first
      rw [joint.server_uttered.first found]
      rfl

/-- The cycles that a server sent are those behind its part. -/
theorem Joint.cycles_said
    (joint : Joint server client request dialogue journal)
    {version : Version}
    (selected :
      Version.select server.supported client.supported = some version) :
    (Server.told (served journal)).map Prod.snd =
      ((Server.said (served journal)).drop version.rounds).filterMap
        Message.cycleEvent? := by
  have nothing :
      ((Server.said (served journal)).take version.rounds).filterMap
        Message.cycleEvent? = [] :=
    List.filterMap_eq_nil_iff.mpr (joint.news selected).2
  rw [joint.server_course.cycles]
  conv_lhs => rw [← List.take_append_drop version.rounds
    (Server.said (served journal))]
  rw [List.filterMap_append, nothing, List.nil_append]

/-- The cycles that arrive are the first that the server sent. -/
theorem Joint.arrivals
    (joint : Joint server client request dialogue journal)
    {version : Version}
    (selected :
      Version.select server.supported client.supported = some version)
    (heard :
      (Consumer.heard (consumed journal)).drop version.rounds =
        (Consumer.followed (consumed journal)).filterMap
          CycleStream.receipt?) :
    (Consumer.followed (consumed journal)).filterMap CycleStream.arrival? <+:
      (Server.told (served journal)).map Prod.snd := by
  obtain ⟨taken, said, listened⟩ := joint.outward
  have lines : taken <+: (Server.said (served journal)).map Message.encode :=
    ⟨dialogue.outward, said.symm⟩
  have receipts :
      (Consumer.heard (consumed journal)).drop version.rounds <+:
        ((Server.said (served journal)).drop version.rounds).map
          Except.ok := by
    have read_lines := (lines.map read).drop version.rounds
    rw [← listened, ← List.map_drop, ← List.map_drop] at read_lines
    rwa [map_read_encode fun message member =>
      ((joint.news selected).1 message member).portable] at read_lines
  have cycles := receipts.filterMap CycleStream.cycleOf?
  rw [List.filterMap_map] at cycles
  rw [CycleStream.arrivals_eq, ← heard, joint.cycles_said selected]
  exact cycles

/-! ## From the consumer to the server -/

/-- What calls of a server receive is what is behind its handshake. -/
theorem Joint.answers_eq
    (joint : Joint server client request dialogue journal)
    (answered : Server.answers (served journal) ≠ []) :
    ∃ version,
      Version.select server.supported client.supported = some version ∧
        Server.answers (served journal) =
          (Server.heard (served journal)).drop version.rounds := by
  have course := joint.server_course
  cases found : dialogue.server.session with
  | none => exact absurd (course.unanswered found) answered
  | some session =>
      have settled := course.talk.settled session found
      rw [course.same] at settled
      refine ⟨session.version, joint.chosen settled.chosen, ?_⟩
      rw [course.heard]
      exact (List.drop_left' settled.length).symm

/-- What the calls of a server receive. -/
inductive Answers (dialogue : Dialogue) (journal : List Entry) : Prop where
  /-- The consumer says nothing to them. -/
  | mute
      (ended :
        ∀ receipt ∈ Server.answers (served journal),
          receipt = .error .closed)
  /-- They hear what the stream answers. -/
  | replied
      (staying : dialogue.hungUp = false)
      (progress :
        CycleStream.Progress (Consumer.followed (consumed journal)))
      (begins :
        Server.answers (served journal) <+:
          ((Consumer.followed (consumed journal)).filterMap
            CycleStream.attempt?).map Except.ok)
      (replies : Server.Replied (Server.answers (served journal)))

/-- Calls hear the stream, or nothing but the end of the connection. -/
theorem Joint.answers
    (joint : Joint server client request dialogue journal) :
    Answers dialogue journal := by
  obtain ⟨taken, missed, spoke, listened, gone⟩ := joint.inward
  cases joint.extent with
  | opening unfollowed short =>
      refine .mute ?_
      intro receipt member
      obtain ⟨version, selected, behind⟩ :=
        joint.answers_eq (List.ne_nil_of_mem member)
      have lines : taken.length ≤ version.rounds := by
        have total := congrArg List.length spoke
        rw [List.length_map, List.length_append] at total
        have bound := short version selected
        omega
      rw [behind, listened, List.drop_append,
        List.drop_of_length_le (by simpa using lines),
        List.nil_append] at member
      exact List.eq_of_mem_replicate (List.mem_of_mem_drop member)
  | @streaming version selected staying heard said progress =>
      have present : missed = 0 := by
        by_contra some_missed
        simp [(gone some_missed).1] at staying
      rw [present, List.replicate_zero, List.append_nil] at listened
      have lines :
          taken <+: (Consumer.said (consumed journal)).map Message.encode :=
        ⟨dialogue.inward, spoke.symm⟩
      have portable :
          ∀ message ∈ (Consumer.said (consumed journal)).drop version.rounds,
            Message.Portable message := by
        intro message member
        rw [said] at member
        exact portable_of_answersTo (progress.answered.subset member)
      have begins :
          Server.answers (served journal) <+:
            ((Consumer.followed (consumed journal)).filterMap
              CycleStream.attempt?).map Except.ok := by
        by_cases answered : Server.answers (served journal) = []
        · rw [answered]
          exact List.nil_prefix
        · obtain ⟨own, again, behind⟩ := joint.answers_eq answered
          rw [selected] at again
          cases again
          have read_lines := (lines.map read).drop version.rounds
          rw [← listened, ← List.map_drop, ← List.map_drop,
            map_read_encode portable, said] at read_lines
          rw [behind]
          exact read_lines
      refine .replied staying progress begins ?_
      apply joint.server_course.ledger.replied
      obtain ⟨rest, whole⟩ := joint.arrivals selected heard
      refine begins.trans ?_
      apply List.IsPrefix.map
      refine progress.answered.trans ?_
      rw [← whole, List.flatMap_append]
      exact List.prefix_append _ _

end Flow

end Dialogue

end BuildWatch
