import BuildWatch.Proofs.CycleStream.Acknowledgments

/-!
# What acknowledgments say about the consumer

On a transport that sends whatever it is asked to send, the answers of a
stream are those of the cycles that arrived, in order and two for each.  A
cycle is completed only once the consumer has got it and has come back, so
that the number of answers bounds how far the consumer is.
-/

namespace BuildWatch.CycleStream

/-- The answers about a cycle. -/
def answersTo (cycle : CycleEvent) : List Message :=
  [Message.plain (.acknowledgment .started cycle.number),
    Message.plain (.acknowledgment .completed cycle.number)]

theorem length_answersTo (cycles : List CycleEvent) :
    (cycles.flatMap answersTo).length = 2 * cycles.length := by
  induction cycles with
  | nil => rfl
  | cons cycle rest ih =>
      rw [List.flatMap_cons, List.length_append, ih, List.length_cons]
      simp only [answersTo, List.length_cons, List.length_nil]
      omega

/-- Whether an entry is a call of the consumer. -/
def isCall : Entry → Bool
  | .inl .next => true
  | .inl .stop => true
  | .inl (.drop _) => true
  | _ => false

/-- The consumer came back after it had got so many cycles. -/
def Past (journal : List Entry) (count : Nat) : Prop :=
  ∃ before call after, journal = before ++ call :: after ∧
    isCall call = true ∧ count ≤ (before.filterMap handOut?).length

/-- What a journal shows if everything is sent. -/
structure Progress (journal : List Entry) : Prop where
  answered :
    journal.filterMap attempt? <+:
      (journal.filterMap arrival?).flatMap answersTo
  delivered : journal.filterMap handOut? <+: journal.filterMap arrival?
  /-- The consumer is behind every cycle that is completed. -/
  past :
    ∀ count, 0 < count → 2 * count ≤ (journal.filterMap attempt?).length →
      Past journal count

theorem Past.append
    {journal : List Entry} {count : Nat} (past : Past journal count)
    (more : List Entry) : Past (journal ++ more) count := by
  obtain ⟨before, call, after, rfl, called, enough⟩ := past
  exact ⟨before, call, after ++ more, by simp, called, enough⟩

/-- Entries that show nothing keep what a journal shows. -/
theorem Progress.append
    {journal more : List Entry} (progress : Progress journal)
    (hushed : ∀ entry ∈ more, quiet entry) : Progress (journal ++ more) := by
  have unshown :
      ∀ {α : Type} (shown : Entry → Option α),
        (∀ entry, quiet entry → shown entry = none) →
          (journal ++ more).filterMap shown = journal.filterMap shown := by
    intro α shown hidden
    have nothing : more.filterMap shown = [] := by
      apply List.filterMap_eq_nil_iff.mpr
      intro entry member
      exact hidden entry (hushed entry member)
    rw [List.filterMap_append, nothing, List.append_nil]
  obtain ⟨answered, delivered, past⟩ := progress
  refine ⟨?_, ?_, ?_⟩
  · rwa [unshown attempt? attempt?_of_quiet, unshown arrival? arrival?_of_quiet]
  · rwa [unshown handOut? handOut?_of_quiet, unshown arrival? arrival?_of_quiet]
  · intro count positive enough
    rw [unshown attempt? attempt?_of_quiet] at enough
    exact (past count positive enough).append more

/-! ## Visits that end well -/

/-- Whether the cycle is completed. -/
def Visit.Completed (visit : Visit) : Prop :=
  ∃ ending, visit.care = .completed ending

/-- Without failures a settled cycle is completed. -/
theorem completed_of_settled
    {blocks : List Block} (settled : ∀ block ∈ blocks, block.settled)
    (unfailed : ∀ error, .inl (.sent (.error error)) ∉ story blocks) :
    ∀ visit ∈ visits blocks, visit.Completed := by
  intro visit member
  obtain ⟨block, inside, shown⟩ := List.mem_filterMap.mp member
  cases block with
  | aside entries hushed => simp [Block.visit?] at shown
  | skipped result entry foreign => simp [Block.visit?] at shown
  | visited own =>
      cases shown
      have closed := settled _ inside
      cases care : visit.care with
      | starting => simp [Block.settled, care, Care.settled] at closed
      | held => simp [Block.settled, care, Care.settled] at closed
      | completed ending => exact ⟨ending, care⟩
      | refused error =>
          refine absurd ?_ (unfailed error)
          apply List.mem_flatMap.mpr
          exact ⟨_, inside, by
            simp [Block.entries, Visit.entries, care, Care.entries]⟩

theorem attempts_of_completed
    {seen : List Visit} (completed : ∀ visit ∈ seen, visit.Completed) :
    (seen.flatMap fun visit => visit.care.attempts visit.cycle) =
      (seen.map fun visit => visit.cycle).flatMap answersTo := by
  rw [List.flatMap_map]
  apply List.flatMap_congr
  intro visit member
  obtain ⟨ending, care⟩ := completed visit member
  rw [care]
  rfl

theorem handedOut_of_completed
    {seen : List Visit} (completed : ∀ visit ∈ seen, visit.Completed) :
    (seen.filter fun visit => visit.care.handedOut) = seen := by
  apply List.filter_eq_self.mpr
  intro visit member
  obtain ⟨ending, care⟩ := completed visit member
  rw [care]
  rfl

/-- Behind the last cycle that is completed the consumer came back. -/
theorem past_story
    {blocks : List Block}
    (completed : ∀ visit ∈ visits blocks, visit.Completed)
    (visited : visits blocks ≠ []) :
    Past (story blocks) (visits blocks).length := by
  induction blocks using List.reverseRecOn with
  | nil => exact absurd rfl visited
  | append_singleton blocks block ih =>
      have parts : visits (blocks ++ [block]) =
          visits blocks ++ block.visit?.toList := by
        rw [visits, List.filterMap_append, ← visits]
        cases block <;> rfl
      rw [parts] at completed visited ⊢
      have earlier : ∀ visit ∈ visits blocks, visit.Completed :=
        fun visit member => completed visit (List.mem_append_left _ member)
      rw [story_append]
      cases block with
      | aside entries hushed =>
          simp only [Block.visit?, Option.toList_none,
            List.append_nil] at visited ⊢
          exact (ih earlier visited).append _
      | skipped result entry foreign =>
          simp only [Block.visit?, Option.toList_none,
            List.append_nil] at visited ⊢
          exact (ih earlier visited).append _
      | visited visit =>
          obtain ⟨ending, care⟩ :=
            completed visit (by simp [Block.visit?])
          have shown :
              (story blocks).filterMap handOut? =
                (visits blocks).map fun visit => visit.cycle := by
            rw [handOuts_story, handedOut_of_completed earlier]
          obtain ⟨call, rest, ends, called⟩ :
              ∃ call rest, ending.entries = call :: rest ∧
                isCall call = true := by
            cases ending <;> exact ⟨_, _, rfl, rfl⟩
          refine ⟨story blocks ++
            [.inl (.received (.ok visit.cycle.message)),
              .inr (.send
                (Message.plain (.acknowledgment .started visit.cycle.number))),
              .inl (.sent (.ok ())), .inr (.yield (some (.ok visit.cycle)))],
            call,
            rest ++
              [.inr (.send
                (Message.plain
                  (.acknowledgment .completed visit.cycle.number)))],
            ?_, called, ?_⟩
          · simp [story, Block.entries, Visit.entries, care, Care.entries,
              ends]
          · rw [List.filterMap_append, shown]
            simp only [List.length_append, List.length_map, Block.visit?,
              Option.toList_some, List.length_singleton]
            exact Nat.le_refl _

/-! ## Along a run -/

theorem progress_of_told
    {stream : CycleStream} {journal : List Entry} {blocks : List Block}
    {tail : List Visit} (told : Told stream journal blocks tail)
    (unfailed : ∀ error, .inl (.sent (.error error)) ∉ journal) :
    Progress journal := by
  have completed : ∀ visit ∈ visits blocks, visit.Completed := by
    apply completed_of_settled told.settled
    intro error member
    refine unfailed error ?_
    rw [told.parts]
    exact List.mem_append_left _ member
  have parts : journal = story (blocks ++ tail.map .visited) := by
    rw [story_append, told.parts]
  have attempts :
      journal.filterMap attempt? =
        ((visits blocks).map fun visit => visit.cycle).flatMap answersTo ++
          tail.map fun visit =>
            Message.plain (.acknowledgment .started visit.cycle.number) := by
    rw [parts, attempts_story, visits_append_visited, List.flatMap_append,
      attempts_of_completed completed]
    congr 1
    cases told.unfinished with
    | nothing vacant => rfl
    | starting care active cleared live => simp [care, Care.attempts]
    | held care idle pending live => simp [care, Care.attempts]
  have arrivals :
      journal.filterMap arrival? =
        ((visits blocks).map fun visit => visit.cycle) ++
          tail.map fun visit => visit.cycle := by
    rw [parts, arrivals_story, visits_append_visited, List.map_append]
  have handOuts :
      journal.filterMap handOut? =
        ((visits blocks).map fun visit => visit.cycle) ++
          (tail.filter fun visit => visit.care.handedOut).map
            fun visit => visit.cycle := by
    rw [parts, handOuts_story, visits_append_visited, List.filter_append,
      List.map_append, handedOut_of_completed completed]
  refine ⟨?_, ?_, ?_⟩
  · rw [attempts, arrivals, List.flatMap_append]
    apply (List.prefix_append_right_inj _).mpr
    cases told.unfinished with
    | nothing vacant => exact List.prefix_rfl
    | starting | held => exact ⟨[Message.plain _], rfl⟩
  · rw [handOuts, arrivals]
    apply (List.prefix_append_right_inj _).mpr
    cases told.unfinished with
    | nothing vacant => exact List.prefix_rfl
    | starting care _ _ _ => simp [care, Care.handedOut]
    | held care _ _ _ => simp [care, Care.handedOut]
  · intro count positive enough
    have two :
        (((visits blocks).map fun visit => visit.cycle).flatMap
          answersTo).length = 2 * (visits blocks).length := by
      rw [length_answersTo, List.length_map]
    have short : tail.length ≤ 1 := by
      cases told.unfinished <;> simp
    rw [attempts, List.length_append, two, List.length_map] at enough
    have bound : count ≤ (visits blocks).length := by omega
    have visited : visits blocks ≠ [] := by
      intro none
      rw [none, List.length_nil] at bound
      omega
    obtain ⟨before, call, after, split, called, reached⟩ :=
      past_story completed visited
    rw [told.parts]
    refine Past.append ⟨before, call, after, split, called, ?_⟩ _
    exact Nat.le_trans bound reached

/-- A stream that is dropped where nothing can be sent does nothing more. -/
theorem sheltered_or_last
    {connection : ConnectionId} {events : List Event}
    {stream : CycleStream} {journal : List Entry}
    (ran :
      run (recorded step) (new connection) events = some (stream, journal)) :
    .drop true ∉ events ∨
      stream.activity = .gone ∧
        ∃ earlier, events = earlier ++ [.drop true] ∧
          .drop true ∉ earlier := by
  refine run_invariant
    (fun stream events _ =>
      .drop true ∉ events ∨
        stream.activity = .gone ∧
          ∃ earlier, events = earlier ++ [.drop true] ∧
            .drop true ∉ earlier)
    (.inl (by simp)) ?_ ran
  intro stream events journal event next entries kept stepped
  obtain ⟨effects, reaction, rfl⟩ := recorded_eq_some_iff.mp stepped
  rcases kept with sheltered | ⟨gone, _⟩
  · by_cases last : event = .drop true
    · subst last
      refine .inr ⟨?_, events, rfl, sheltered⟩
      simp only [step, drop] at reaction
      split at reaction
      next idle =>
        split at reaction <;>
          (obtain ⟨rfl, _⟩ := Prod.mk.inj (Option.some.inj reaction); rfl)
      next => simp at reaction
    · refine .inl ?_
      simp [sheltered, Ne.symm last]
  · cases event <;> simp [step, sent, gone] at reaction

/-- Along every run that sends all it is asked to send. -/
theorem progress_run
    {connection : ConnectionId} {events : List Event}
    {stream : CycleStream} {journal : List Entry}
    (ran :
      run (recorded step) (new connection) events = some (stream, journal))
    (unfailed : ∀ error, .inl (.sent (.error error)) ∉ journal) :
    Progress journal := by
  rcases sheltered_or_last ran with sheltered | ⟨_, earlier, rfl, sheltered⟩
  · obtain ⟨blocks, tail, told⟩ := told_run ran sheltered
    exact progress_of_told told unfailed
  · obtain ⟨state, before, entries, first, last, rfl⟩ :=
      run_snoc_eq_some_iff.mp ran
    obtain ⟨blocks, tail, told⟩ := told_run first sheltered
    have progress : Progress before := by
      apply progress_of_told told
      intro error member
      exact unfailed error (List.mem_append_left _ member)
    apply progress.append
    obtain ⟨effects, reaction, rfl⟩ := recorded_eq_some_iff.mp last
    simp only [step, drop] at reaction
    split at reaction
    next idle =>
      split at reaction <;>
        (obtain ⟨_, rfl⟩ := Prod.mk.inj (Option.some.inj reaction)
         simp [quiet])
    next => simp at reaction

end BuildWatch.CycleStream
