import BuildWatch.Proofs.CycleStream.Taking

/-!
# A sequence does what its stream does

What a taker of a sequence sees, and what it makes the transport do, is the
same as with a taker of the stream.  The sequence drops its stream as soon as
the items end, inside the call that finds the end; the taker of the stream
drops it behind that call.
-/

namespace BuildWatch

/-! ## A sequence and its stream -/

namespace CycleSequence

/-- The stream that the items come from, as it is left behind the last. -/
def origin : CycleSequence → CycleStream
  | .live stream => stream
  | .ended connection => ⟨connection, none, true, .gone⟩

variable {stream : CycleStream} {event : Event}

/-- A sequence does what its stream does until there are no more items. -/
theorem step_live
    (lasting : ∀ next effects,
      stream.supply event = some (next, effects) →
        effects.any isLast = false) :
    step (.live stream) event =
      (stream.supply event).map fun reaction =>
        (.live reaction.1, reaction.2) := by
  cases stepped : stream.supply event with
  | none =>
      have stuck : stream.step event.onStream = none := stepped
      simp [step, stuck]
  | some reaction =>
      have more := lasting reaction.1 reaction.2 stepped
      have went : stream.step event.onStream = some reaction := stepped
      simpa [step, went] using more

/-- Only a call for the next item shows that there is none. -/
theorem step_live_of_ne_pull (other : event ≠ .pull) :
    step (.live stream) event =
      (stream.supply event).map fun reaction =>
        (.live reaction.1, reaction.2) := by
  apply step_live
  intro next effects stepped
  by_contra last
  obtain ⟨asked, _⟩ :=
    CycleStream.over_of_isLast stepped (by simpa using last)
  cases event with
  | pull => exact other rfl
  | _ => simp [Event.onStream] at asked

/-- Behind the last item a sequence drops its stream. -/
theorem step_live_over
    (idle : stream.activity = .idle)
    (ended : stream.ended = true) (vacant : stream.pending = none) :
    step (.live stream) .pull =
      some (.ended stream.connection, [.yield none, .dropped]) := by
  simp [step, Event.onStream, CycleStream.step, CycleStream.next, idle, ended,
    isLast, CycleStream.drop, vacant]

end CycleSequence

namespace Taker

open CycleStream (Effect Orderly supply)

variable {orphaned : Bool} {stream : CycleStream}

/-- Whether an effect shows; what is dropped inside another thing does not. -/
def shows : Effect → Bool
  | .dropped => false
  | _ => true

/-- What shows of a taker and of the stream that its items come from. -/
def seen {σ : Type} (origin : σ → CycleStream) (reaction : Reaction σ) :
    Reaction CycleStream :=
  (reaction.1.map origin, reaction.2.filter shows)

/-- A taker of a sequence and one of a stream show the same, or neither goes. -/
def Alike (sequence : Option (Reaction CycleSequence))
    (stream : Option (Reaction CycleStream)) : Prop :=
  sequence.map (seen CycleSequence.origin) = stream.map (seen id)

/-- What goes on alike behind what is alike. -/
theorem Alike.append
    {mine : Option (Reaction CycleSequence)}
    {theirs : Option (Reaction CycleStream)} {effects more : List Effect}
    (alike : Alike mine theirs)
    (same : effects.filter shows = more.filter shows) :
    Alike (mine.map fun ahead => (ahead.1, effects ++ ahead.2))
      (theirs.map fun ahead => (ahead.1, more ++ ahead.2)) := by
  unfold Alike at alike ⊢
  cases mine <;> cases theirs <;> simp_all [seen]

theorem alike_leave (orphaned : Bool) (stream : CycleStream) :
    Alike (leave CycleSequence.step orphaned (.live stream))
      (leave supply orphaned stream) := by
  unfold Alike leave
  rw [CycleSequence.step_live_of_ne_pull (by simp)]
  cases stream.supply (.drop orphaned) <;> rfl

/-- Alike behind a step if they are alike when they ask again. -/
theorem alike_proceed
    {event : CycleSequence.Event} {more : Nat}
    {mine : CycleSequence → Option (Reaction CycleSequence)}
    {theirs : CycleStream → Option (Reaction CycleStream)}
    (orderly : Orderly stream)
    (again : ∀ next, Orderly next → Alike (mine (.live next)) (theirs next)) :
    Alike
      ((CycleSequence.step (.live stream) event).bind
        (proceed CycleSequence.step orphaned mine more))
      ((supply stream event).bind
        (proceed supply orphaned theirs more)) := by
  by_cases lasting : ∀ next effects,
      stream.supply event = some (next, effects) →
        effects.any CycleSequence.isLast = false
  · rw [CycleSequence.step_live lasting]
    cases stepped : supply stream event with
    | none => rfl
    | some reaction =>
        have others := lasting reaction.1 reaction.2 stepped
        have after : Orderly reaction.1 := orderly.of_step stepped
        simp only [Option.map_some, Option.bind_some, proceed, others,
          Bool.false_eq_true, ↓reduceIte]
        refine Alike.append ?_ rfl
        split
        · exact again reaction.1 after
        · rfl
  · push Not at lasting
    obtain ⟨next, effects, stepped, last⟩ := lasting
    obtain ⟨pulled, idle, ended, rfl, rfl⟩ :=
      CycleStream.over_of_isLast stepped (by simpa using last)
    have vacant := orderly.vacant ended
    cases event with
    | pull =>
        rw [CycleSequence.step_live_over idle ended vacant, stepped]
        simp [Alike, proceed, leave, supply, seen, shows, map,
          List.filter_cons, CycleSequence.step, CycleSequence.origin,
          CycleSequence.isLast, CycleSequence.Event.onStream,
          CycleStream.step, CycleStream.drop, idle, ended, vacant]
    | _ => simp [CycleSequence.Event.onStream] at pulled

theorem alike_ask (orphaned : Bool) (count : Nat) (orderly : Orderly stream) :
    Alike (ask CycleSequence.step orphaned count (.live stream))
      (ask supply orphaned count stream) := by
  induction count generalizing stream with
  | zero => exact alike_leave orphaned stream
  | succ more ih => exact alike_proceed orderly fun next after => ih after

/-- Nothing answers a sequence that is over, nor the stream it leaves. -/
theorem not_answered (connection : ConnectionId) (answer : Answer) :
    CycleSequence.step (.ended connection) answer.event = none ∧
      supply (CycleSequence.ended connection).origin answer.event = none := by
  cases answer <;> exact ⟨rfl, rfl⟩

theorem alike_react
    (orphaned : Bool) {taker : Taker CycleSequence}
    (orderly : Orderly taker.source.origin) (answer : Answer) :
    Alike (react CycleSequence.step orphaned taker answer)
      (react supply orphaned (taker.map CycleSequence.origin) answer) := by
  rcases taker with ⟨stream | connection, more⟩ | stream | connection
  · exact alike_proceed orderly fun next after =>
      alike_ask orphaned more after
  · simp [Alike, react, map, not_answered]
  · have other : answer.event ≠ .pull := by
      cases answer <;> simp [Answer.event]
    simp only [Alike, react, map]
    rw [CycleSequence.step_live_of_ne_pull other]
    cases stepped : stream.supply answer.event <;>
      simp [map, CycleSequence.origin, stepped, seen]
  · simp [Alike, react, map, not_answered]

theorem map_id {σ : Type} (taker : Taker σ) : taker.map id = taker := by
  cases taker <;> rfl

theorem source_map
    {σ τ : Type} (other : σ → τ) (taker : Taker σ) :
    (taker.map other).source = other taker.source := by
  cases taker <;> rfl

/-- What is alike is alike or goes nowhere. -/
theorem Alike.cases
    {mine : Option (Reaction CycleSequence)}
    {theirs : Option (Reaction CycleStream)} (alike : Alike mine theirs) :
    mine = none ∧ theirs = none ∨
      ∃ taker effects more,
        mine = some (taker, effects) ∧
          theirs = some (taker.map CycleSequence.origin, more) ∧
          effects.filter shows = more.filter shows := by
  unfold Alike at alike
  rcases mine with _ | ⟨taker, effects⟩
  · exact .inl ⟨rfl, by simpa using alike.symm⟩
  · rcases theirs with _ | ⟨other, more⟩
    · simp at alike
    · simp only [Option.map_some, Option.some.injEq, seen, Prod.mk.injEq,
        map_id] at alike
      obtain ⟨rfl, same⟩ := alike
      exact .inr ⟨taker, effects, more, rfl, rfl, same⟩

theorem alike_run
    {start : Taker CycleSequence} (orderly : Orderly start.source.origin)
    (answers : List Answer) :
    Alike (run (react CycleSequence.step orphaned) start answers)
      (run (react supply orphaned) (start.map CycleSequence.origin)
        answers) := by
  induction answers generalizing start with
  | nil => simp [Alike, run, seen, map_id]
  | cons answer rest ih =>
      obtain ⟨mine, theirs⟩ | ⟨taker, effects, more, mine, theirs, same⟩ :=
        (alike_react orphaned orderly answer).cases
      · simp [Alike, run, mine, theirs]
      · have after : Orderly taker.source.origin := by
          have leads := leads_of_react theirs
          rw [source_map, source_map] at leads
          exact orderly.of_leads leads
        have going := (ih after).append same
        simpa [run, mine, theirs, Option.map_eq_bind, Function.comp_def] using
          going

/-- Taking items from a sequence is taking them from its stream. -/
theorem alike_take
    (count : Nat) (orderly : Orderly stream) (answers : List Answer) :
    Alike (take CycleSequence.step orphaned count (.live stream) answers)
      (take supply orphaned count stream answers) := by
  obtain ⟨mine, theirs⟩ | ⟨taker, effects, more, mine, theirs, same⟩ :=
    (alike_ask orphaned count orderly).cases
  · simp [Alike, take, mine, theirs]
  · have after : Orderly taker.source.origin := by
      have leads := leads_of_ask theirs
      rw [source_map] at leads
      exact orderly.of_leads leads
    simp only [take, mine, theirs, Option.bind_some]
    exact (alike_run after answers).append same

/-! ## Along every run -/

/-- A taker that is done has left no cycle behind. -/
theorem settles_of_take
    {source : CycleStream} {effects : List Effect} {count : Nat}
    {answers : List Answer} (orderly : Orderly stream)
    (took :
      take supply false count stream answers =
        some (.done source, effects)) :
    ∃ cycles : List CycleId,
      stream.pending.toList.map .inl ++ effects.filterMap CycleStream.mark? =
        cycles.flatMap CycleStream.both := by
  obtain ⟨later, ran, sheltered⟩ :
      ∃ later,
        run CycleStream.step stream later = some (source, effects) ∧
          CycleStream.Event.drop true ∉ later :=
    CycleStream.run_of_leads (leads_of_take took)
  have vacant : source.pending = none := by
    apply (orderly.of_run ran).cleared
    cases stands_of_take took with
    | done parted counted =>
        rcases parted with active | active <;> simp [active]
  obtain ⟨cycles, told⟩ :=
    CycleStream.settles_of_run orderly sheltered ran
  exact ⟨cycles, by simpa [vacant] using told⟩

/-- Only what shows is about a cycle. -/
theorem marks_shown (effects : List Effect) :
    (effects.filter shows).filterMap CycleStream.mark? =
      effects.filterMap CycleStream.mark? := by
  rw [List.filterMap_filter]
  congr 1
  funext effect
  cases effect <;> rfl

/-- What it is to take so many items of a stream, or of its sequence. -/
structure Refines (stream : CycleStream) (count : Nat) (orphaned : Bool)
    (answers : List Answer) : Prop where
  /--
  Both take the same answers.  The items, the messages that are sent, what is
  asked of the transport, what is written to the log, and what becomes of the
  stream are the same.
  -/
  alike :
    Alike (take CycleSequence.step orphaned count (.live stream) answers)
      (take supply orphaned count stream answers)
  begun : (take supply orphaned count stream []).isSome
  /-- A taker that waits takes any answer to what it waits for. -/
  unstuck :
    ∀ source more effects,
      take supply orphaned count stream answers =
          some (.waiting source more, effects) →
        (∀ result,
            (take supply orphaned count stream
              (answers ++ [.sent result])).isSome) ∨
          ∀ result,
            (take supply orphaned count stream
              (answers ++ [.received result])).isSome
  /-- It wants no more than so many items, and gets them unless they end. -/
  stands :
    ∀ taker effects,
      take supply orphaned count stream answers = some (taker, effects) →
        Stands count taker effects
  /--
  Where a stream that is dropped can send, each cycle is handed out and then
  said to be completed, once; so is the cycle that was pending.
  -/
  completed :
    orphaned = false →
      ∀ source effects,
        take supply orphaned count stream answers =
            some (.done source, effects) →
          ∃ cycles : List CycleId,
            stream.pending.toList.map .inl ++
                effects.filterMap CycleStream.mark? =
              cycles.flatMap CycleStream.both
  completedAlike :
    orphaned = false →
      ∀ source effects,
        take CycleSequence.step orphaned count (.live stream) answers =
            some (.done source, effects) →
          ∃ cycles : List CycleId,
            stream.pending.toList.map .inl ++
                effects.filterMap CycleStream.mark? =
              cycles.flatMap CycleStream.both

/--
To take items from the sequence of a stream is to call for them on the stream
itself and to drop it, whatever the stream has done before.
-/
theorem sequence_refines_stream
    {connection : ConnectionId} {events : List CycleStream.Event}
    {effects : List Effect}
    (ran :
      run CycleStream.step (.new connection) events = some (stream, effects))
    (idle : stream.activity = .idle)
    (count : Nat) (orphaned : Bool) (answers : List Answer) :
    Refines stream count orphaned answers := by
  have orderly := (CycleStream.orderly_new connection).of_run ran
  have alike : Alike
      (take CycleSequence.step orphaned count (.live stream) answers)
      (take supply orphaned count stream answers) :=
    alike_take count orderly answers
  refine ⟨alike, ?_, ?_, fun _ _ => stands_of_take, ?_, ?_⟩
  · exact take_nil_isSome (ask_isSome orphaned idle)
  · intro source more effects took
    cases stands_of_take took with
    | waiting fetching counted =>
        rcases react_isSome orphaned fetching with sends | receives
        · exact .inl fun result => take_snoc_isSome took (sends result)
        · exact .inr fun result => take_snoc_isSome took (receives result)
  · rintro rfl source effects took
    exact settles_of_take orderly took
  · rintro rfl source effects took
    obtain ⟨none, _⟩ | ⟨taker, shown, more, mine, theirs, same⟩ := alike.cases
    · simp [none] at took
    · obtain ⟨rfl, rfl⟩ := Prod.mk.inj (Option.some.inj (mine ▸ took))
      rw [← marks_shown shown, same, marks_shown]
      exact settles_of_take orderly theirs

/-- A cycle is handed out and kept. -/
def heldCycle : List CycleStream.Event :=
  [.next, .received (.ok (Message.plain (.cycle 1 none KeyMap.empty))),
    .sent (.ok ())]

/-- The first cycle is completed in vain, and the second one arrives. -/
def secondCycle : List Answer :=
  [.sent (.error (.io .other)),
    .received (.ok (Message.plain (.cycle 2 none KeyMap.empty))),
    .sent (.ok ())]

theorem sequence_refines_stream_heldCycle :
    ∃ stream before taker effects,
      run CycleStream.step (.new 0) heldCycle = some (stream, before) ∧
        stream.activity = .idle ∧ stream.pending = some 1 ∧
        Refines stream 1 false secondCycle ∧
        take CycleSequence.step false 1 (.live stream) secondCycle =
          some (taker, effects) ∧
        effects.filterMap CycleStream.mark? = [.inr 1, .inl 2, .inr 2] := by
  obtain ⟨stream, before, taker, effects, ran, idle, held, took, marks⟩ :
      ∃ stream before taker effects,
        run CycleStream.step (.new 0) heldCycle = some (stream, before) ∧
          stream.activity = .idle ∧ stream.pending = some 1 ∧
          take CycleSequence.step false 1 (.live stream) secondCycle =
            some (taker, effects) ∧
          effects.filterMap CycleStream.mark? = [.inr 1, .inl 2, .inr 2] :=
    ⟨_, _, _, _, rfl, rfl, rfl, rfl, rfl⟩
  exact ⟨stream, before, taker, effects, ran, idle, held,
    sequence_refines_stream ran idle 1 false secondCycle, took, marks⟩

end Taker

end BuildWatch
