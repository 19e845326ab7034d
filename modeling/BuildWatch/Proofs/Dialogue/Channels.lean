import BuildWatch.Proofs.Dialogue.Step

/-!
# What the two sides of a dialogue know of each other

Either side has received just what the other has sent, up to the lines that
are still on their way.  Together with the courses of the two sides this is
all that the properties of a dialogue rest on.
-/

namespace BuildWatch.Dialogue

/-! ## Journals -/

/-- What an entry tells about the server. -/
def Entry.server? : Entry → Option Server.Entry
  | .server entry => some entry
  | .consumer _ => none

/-- What an entry tells about the consumer. -/
def Entry.consumer? : Entry → Option Consumer.Entry
  | .server _ => none
  | .consumer entry => some entry

/-- The journal of the server. -/
def served (journal : List Entry) : List Server.Entry :=
  journal.filterMap Entry.server?

/-- The journal of the consumer. -/
def consumed (journal : List Entry) : List Consumer.Entry :=
  journal.filterMap Entry.consumer?

section Growth

variable (journal : List Entry) (server : List Server.Entry)
  (consumer : List Consumer.Entry)

@[simp]
theorem served_append_server :
    served (journal ++ server.map .server) = served journal ++ server := by
  simp [served, List.filterMap_append, List.filterMap_map,
    Function.comp_def, Entry.server?]

@[simp]
theorem served_append_consumer :
    served (journal ++ consumer.map .consumer) = served journal := by
  simp [served, List.filterMap_append, List.filterMap_map,
    Function.comp_def, Entry.server?]

@[simp]
theorem consumed_append_server :
    consumed (journal ++ server.map .server) = consumed journal := by
  simp [consumed, List.filterMap_append, List.filterMap_map,
    Function.comp_def, Entry.consumer?]

@[simp]
theorem consumed_append_consumer :
    consumed (journal ++ consumer.map .consumer) =
      consumed journal ++ consumer := by
  simp [consumed, List.filterMap_append, List.filterMap_map,
    Function.comp_def, Entry.consumer?]

end Growth

/-! ## The invariant -/

/-- A run of the server in which only a client that is gone is not reached. -/
def Reaches (options : ServerOptions) (dialogue : Dialogue)
    (journal : List Entry) : Prop :=
  ∃ events,
    run Server.noted (Server.new options) events =
        some (dialogue.server, served journal) ∧
      ∀ error, .callSent (.error error) ∈ events →
        dialogue.hungUp = true ∧ ∃ kind, error = .io kind

/-- What holds of a dialogue behind every journal. -/
structure Joint (server : ServerOptions) (client : ClientOptions)
    (request : CapabilityRequest) (dialogue : Dialogue)
    (journal : List Entry) : Prop where
  wished : dialogue.request = request
  reached : Reaches server dialogue journal
  consumer :
    Consumer.Course client request dialogue.consumer (consumed journal)
  /-- The stream can send. -/
  unfailed :
    ∀ error, .inl (.sent (.error error)) ∉
      Consumer.followed (consumed journal)
  /-- The consumer has received what the server sent. -/
  outward :
    ∃ taken,
      (Server.said (served journal)).map Message.encode =
          taken ++ dialogue.outward ∧
        Consumer.heard (consumed journal) = taken.map read
  /-- The server has received what the consumer sent, and then the end. -/
  inward :
    ∃ taken missed,
      (Consumer.said (consumed journal)).map Message.encode =
          taken ++ dialogue.inward ∧
        Server.heard (served journal) =
          taken.map read ++ List.replicate missed (.error .closed) ∧
        (missed ≠ 0 → dialogue.hungUp = true ∧ dialogue.inward = [])
  parting : dialogue.hungUp = Consumer.hungUp (consumed journal)

section Steps

variable {server : ServerOptions} {client : ClientOptions}
  {request : CapabilityRequest} {dialogue next : Dialogue}
  {journal more : List Entry}

/-- Only a step that could not send tells the stream so. -/
theorem event_of_mem_followed
    {event : Consumer.Event} {effects : List Consumer.Effect}
    {own : CycleStream.Event}
    (member : .inl own ∈ Consumer.followed (Consumer.entries event effects)) :
    ∃ index, event = .stream index own := by
  obtain ⟨entry, inside, shown⟩ := List.mem_filterMap.mp member
  rcases List.mem_cons.mp inside with rfl | last
  · cases event with
    | stream index event =>
        simp only [Consumer.Entry.stream?, Option.some.injEq,
          Sum.inl.injEq] at shown
        exact ⟨index, by rw [shown]⟩
    | _ => simp [Consumer.Entry.stream?] at shown
  · obtain ⟨effect, _, rfl⟩ := List.mem_map.mp last
    cases effect <;> simp [Consumer.Entry.stream?] at shown

theorem joint_server
    {event : Server.Event} {after : Server} {effects : List Server.Effect}
    {inward : List String}
    (joint : Joint server client request dialogue journal)
    (fed : Feeds dialogue event.heard? inward)
    (sent : ∀ error, unsent? event = some error →
      dialogue.hungUp = true ∧ ∃ kind, error = .io kind)
    (reaction : dialogue.server.step event = some (after, effects)) :
    Joint server client request
      { dialogue with
        server := after
        inward
        outward :=
          dialogue.outward ++
            (Server.messages effects).map Message.encode }
      (journal ++ (Server.entries after event effects).map .server) := by
  obtain ⟨wished, ⟨events, ran, reaching⟩, consumer, unfailed,
    ⟨taken, said, heard⟩, ⟨received, missed, spoke, listened, gone⟩,
    parting⟩ := joint
  refine ⟨wished, ⟨events ++ [event], ?_, ?_⟩, ?_, ?_, ⟨taken, ?_, ?_⟩, ?_,
    ?_⟩
  · rw [served_append_server]
    refine run_snoc_eq_some_iff.mpr ⟨_, _, _, ran, ?_, rfl⟩
    exact Server.noted_eq_some_iff.mpr ⟨effects, reaction, rfl⟩
  · intro error member
    rcases List.mem_append.mp member with earlier | last
    · exact reaching error earlier
    · apply sent error
      rw [← List.mem_singleton.mp last]
      rfl
  · rw [consumed_append_server]
    exact consumer
  · rw [consumed_append_server]
    exact unfailed
  · rw [served_append_server, Server.said_append, Server.said_entries,
      List.map_append, said, List.append_assoc]
  · rw [consumed_append_server]
    exact heard
  · rw [served_append_server, consumed_append_server, Server.heard_append,
      Server.heard_entries, listened]
    generalize shown : event.heard? = receipt at fed
    cases fed with
    | nothing =>
        refine ⟨received, missed, spoke, by simp, gone⟩
    | @line line rest first =>
        have none : missed = 0 := by
          by_contra some_missed
          simp [(gone some_missed).2] at first
        subst none
        refine ⟨received ++ [line], 0, ?_, by simp, by simp⟩
        rw [spoke, first]
        simp
    | ended empty lost =>
        refine ⟨received, missed + 1, spoke, ?_, fun _ => ⟨lost, empty⟩⟩
        simp [List.replicate_succ']
  · rw [consumed_append_server]
    exact parting

theorem joint_consumer
    {event : Consumer.Event} {after : Consumer}
    {effects : List Consumer.Effect} {outward : List String}
    (joint : Joint server client request dialogue journal)
    (fed : Reads dialogue event.heard? outward)
    (sent : unsaid? event = none)
    (staying : event.Staying dialogue.request dialogue.consumer)
    (reaction : dialogue.consumer.step event = some (after, effects)) :
    Joint server client request
      { dialogue with
        consumer := after
        outward
        inward :=
          dialogue.inward ++
            (Consumer.messages effects).map Message.encode
        hungUp := dialogue.hungUp || effects.any Consumer.Effect.closes }
      (journal ++ (Consumer.entries event effects).map .consumer) := by
  obtain ⟨wished, ⟨events, ran, reaching⟩, consumer, unfailed,
    ⟨taken, said, heard⟩, ⟨received, missed, spoke, listened, gone⟩,
    parting⟩ := joint
  rw [wished] at staying
  refine ⟨wished, ⟨events, ?_, ?_⟩, ?_, ?_, ?_, ⟨received, missed, ?_, ?_, ?_⟩,
    ?_⟩
  · rw [served_append_consumer]
    exact ran
  · intro error member
    obtain ⟨ended, kind, rfl⟩ := reaching error member
    exact ⟨by simp [ended], kind, rfl⟩
  · rw [consumed_append_consumer]
    exact Consumer.course_step consumer staying reaction
  · intro error member
    rw [consumed_append_consumer, Consumer.followed_append] at member
    rcases List.mem_append.mp member with earlier | last
    · exact unfailed error earlier
    · obtain ⟨index, rfl⟩ := event_of_mem_followed last
      simp [unsaid?] at sent
  · rw [served_append_consumer, consumed_append_consumer,
      Consumer.heard_append, Consumer.heard_entries, heard]
    generalize shown : event.heard? = receipt at fed
    cases fed with
    | nothing => exact ⟨taken, said, by simp⟩
    | @line line rest first =>
        refine ⟨taken ++ [line], ?_, by simp⟩
        rw [said, first]
        simp
  · rw [consumed_append_consumer, Consumer.said_append,
      Consumer.said_entries, List.map_append, spoke, List.append_assoc]
  · rw [served_append_consumer]
    exact listened
  · intro some_missed
    obtain ⟨ended, empty⟩ := gone some_missed
    have silent :=
      Consumer.silent_of_hungUp consumer (parting ▸ ended) staying reaction
    exact ⟨by simp [ended], by simp [empty, silent]⟩
  · rw [consumed_append_consumer, Consumer.hungUp_append, ← parting]
    simp [Consumer.hungUp, Consumer.entries, List.any_map,
      Function.comp_def]

theorem joint_new :
    Joint server client request (new server client request) [] where
  wished := rfl
  reached := ⟨[], rfl, by simp⟩
  consumer := Consumer.course_new client request
  unfailed := by simp [consumed, Consumer.followed]
  outward := ⟨[], rfl, rfl⟩
  inward := ⟨[], 0, rfl, rfl, by simp⟩
  parting := rfl

theorem joint_step
    {action : Action}
    (joint : Joint server client request dialogue journal)
    (stepped : dialogue.step action = some (next, more)) :
    Joint server client request next (journal ++ more) := by
  cases turn_of_step stepped with
  | server fed sent reaction => exact joint_server joint fed sent reaction
  | consumer fed sent staying reaction =>
      exact joint_consumer joint fed sent staying reaction

/-- Along every run of a dialogue both sides are in step. -/
theorem joint_run
    {actions : List Action}
    (ran :
      run step (new server client request) actions =
        some (dialogue, journal)) :
    Joint server client request dialogue journal := by
  refine run_invariant
    (fun dialogue _ journal => Joint server client request dialogue journal)
    joint_new ?_ ran
  intro state actions journal action next more joint stepped
  exact joint_step joint stepped

/-! ## What a side can rely on -/

/-- The consumer has received the messages of the server, as they are read. -/
theorem Joint.consumer_heard
    (joint : Joint server client request dialogue journal)
    {place : Nat} {receipt : Receipt}
    (found :
      (Consumer.heard (consumed journal))[place]? = some receipt) :
    ∃ message,
      (Server.said (served journal))[place]? = some message ∧
        receipt = read message.encode := by
  obtain ⟨taken, said, heard⟩ := joint.outward
  rw [heard, List.getElem?_map] at found
  obtain ⟨line, inside, rfl⟩ := Option.map_eq_some_iff.mp found
  have sent :
      ((Server.said (served journal)).map Message.encode)[place]? =
        some line := by
    rw [said]
    exact getElem?_append_of_eq_some inside _
  rw [List.getElem?_map] at sent
  obtain ⟨message, place, rfl⟩ := Option.map_eq_some_iff.mp sent
  exact ⟨message, place, rfl⟩

/-- What the server receives is a message of the consumer, or the end. -/
theorem Joint.server_heard
    (joint : Joint server client request dialogue journal)
    {place : Nat} {receipt : Receipt}
    (found : (Server.heard (served journal))[place]? = some receipt) :
    receipt = .error .closed ∨
      ∃ message,
        (Consumer.said (consumed journal))[place]? = some message ∧
          receipt = read message.encode := by
  obtain ⟨taken, missed, said, heard, _⟩ := joint.inward
  rw [heard] at found
  rcases Nat.lt_or_ge place (taken.map read).length with inside | behind
  · rw [List.getElem?_append_left inside, List.getElem?_map] at found
    obtain ⟨line, own, rfl⟩ := Option.map_eq_some_iff.mp found
    have sent :
        ((Consumer.said (consumed journal)).map Message.encode)[place]? =
          some line := by
      rw [said]
      exact getElem?_append_of_eq_some own _
    rw [List.getElem?_map] at sent
    obtain ⟨message, place, rfl⟩ := Option.map_eq_some_iff.mp sent
    exact .inr ⟨message, place, rfl⟩
  · rw [List.getElem?_append_right behind] at found
    exact .inl (List.eq_of_mem_replicate (List.mem_of_getElem? found))

end Steps

end BuildWatch.Dialogue
