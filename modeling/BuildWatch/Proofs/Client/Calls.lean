import BuildWatch.Proofs.Client.Moves
import Mathlib.Logic.Basic

/-!
# What the calls of a client leave behind

Between its calls a client is detached or attached, and nothing in between.
A call to attach that fails hangs up once and leaves no trace, and so does a
call to disconnect, whatever closing the connection comes to.
-/

namespace BuildWatch.Client

open ClientHandshake

/-! ## Two shapes -/

/-- A client without a connection. -/
structure Detached (client : Client) : Prop where
  apart : client.connection = none
  state : client.state = .disconnected
  unversioned : client.version = none
  unclaimed : client.capabilities = none
  unasked : client.awaiting = false

/-- A client that is connected on a version. -/
structure Attached (client : Client) (version : Version) : Prop where
  joined : client.connection.isSome = true
  state : client.state = .connected version
  versioned : client.version = some version
  /-- Capabilities are known exactly on versions that have them. -/
  claimed : client.capabilities.isSome = version.hasCapabilities

/--
A client that is the same as a new one, apart from the number that its next
connection gets.
-/
def Renewed (options : ClientOptions) (client : Client) : Prop :=
  client = { new options with nextConnection := client.nextConnection }

variable {client next : Client} {event : Event} {effects : List Effect}

theorem detached_forget (client : Client) (activity : ClientActivity) :
    Detached { client.forget with activity } :=
  ⟨rfl, rfl, rfl, rfl, rfl⟩

theorem Detached.of_activity
    (detached : Detached client) (activity : ClientActivity) :
    Detached { client with activity } :=
  ⟨detached.apart, detached.state, detached.unversioned, detached.unclaimed,
    detached.unasked⟩

theorem Attached.of_awaiting
    {version : Version} (attached : Attached client version)
    (awaiting : Bool) (activity : ClientActivity) :
    Attached { client with awaiting, activity } version :=
  ⟨attached.joined, attached.state, attached.versioned, attached.claimed⟩

theorem not_attached_of_detached
    {version : Version} (detached : Detached client) :
    ¬ Attached client version := by
  intro attached
  have joined := attached.joined
  simp [detached.apart] at joined

theorem renewed_of_detached
    {options : ClientOptions} (detached : Detached client)
    (idle : client.activity = .idle) (same : client.options = options) :
    Renewed options client := by
  obtain ⟨options, state, connection, version, capabilities, awaiting,
    activity, nextConnection⟩ := client
  obtain ⟨apart, shown, unversioned, unclaimed, unasked⟩ := detached
  simp_all [Renewed, new]

/-! ## The shapes along a run -/

/-- What holds of a client in and between its calls. -/
structure Sound (client : Client) : Prop where
  between :
    client.activity = .idle →
      Detached client ∨ ∃ version, Attached client version
  shaking :
    ∀ connection request stage,
      client.activity = .shaking connection request stage →
        client.connection = some connection ∧ stage.Apt
  subscribing :
    ∀ connection subscription,
      client.activity = .subscribing connection subscription →
        ∃ version, Attached client version
  /-- Who hangs up has forgotten the connection before. -/
  leaving :
    client.activity = .disconnecting ∨
        (∃ error, client.activity = .abandoning error) →
      Detached client

theorem sound_new (options : ClientOptions) : Sound (new options) where
  between := fun _ => .inl ⟨rfl, rfl, rfl, rfl, rfl⟩
  shaking := by simp [new]
  subscribing := by simp [new]
  leaving := by simp [new]

/-- A client between two calls is sound if it has one of the two shapes. -/
theorem sound_of_idle
    (idle : client.activity = .idle)
    (shape : Detached client ∨ ∃ version, Attached client version) :
    Sound client where
  between := fun _ => shape
  shaking := by simp [idle]
  subscribing := by simp [idle]
  leaving := by simp [idle]

theorem sound_of_shaking
    {connection : ConnectionId} {request : CapabilityRequest} {stage : Stage}
    (active : client.activity = .shaking connection request stage)
    (joined : client.connection = some connection) (apt : stage.Apt) :
    Sound client where
  between := by simp [active]
  shaking := by
    intro own asked reached same
    obtain ⟨rfl, rfl, rfl⟩ := by simpa using active.symm.trans same
    exact ⟨joined, apt⟩
  subscribing := by simp [active]
  leaving := by simp [active]

theorem sound_of_subscribing
    {connection : ConnectionId} {subscription : Subscription}
    {version : Version}
    (active : client.activity = .subscribing connection subscription)
    (attached : Attached client version) : Sound client where
  between := by simp [active]
  shaking := by simp [active]
  subscribing := fun _ _ _ => ⟨version, attached⟩
  leaving := by simp [active]

theorem sound_of_leaving
    (active :
      client.activity = .disconnecting ∨
        ∃ error, client.activity = .abandoning error)
    (detached : Detached client) : Sound client := by
  rcases active with active | ⟨error, active⟩
  all_goals
    refine ⟨?_, ?_, ?_, fun _ => detached⟩
    all_goals simp [active]

/-- Every step of a client keeps it sound. -/
theorem sound_move
    (sound : Sound client) (move : Move client event next effects) :
    Sound next := by
  cases move with
  | refused idle joined => exact sound
  | joined idle apart => exact sound_of_shaking rfl rfl trivial
  | missed idle apart => exact sound
  | parted idle joined =>
      exact sound_of_leaving (.inl rfl) (detached_forget client _)
  | turnedAway idle => exact sound
  | @asked version activity _ idle state waits =>
      have attached : Attached client version := by
        rcases sound.between idle with detached | ⟨known, attached⟩
        · simp [detached.state] at state
        · cases attached.state.symm.trans state
          exact attached
      rcases waits with rfl | ⟨connection, rfl⟩
      · exact sound_of_idle rfl (.inr ⟨version, attached.of_awaiting _ _⟩)
      · exact sound_of_subscribing rfl (attached.of_awaiting _ _)
  | subscribed active answers waits =>
      obtain ⟨version, attached⟩ := sound.subscribing _ _ active
      have same := attached.of_awaiting client.awaiting
      rcases waits with rfl | rfl
      · exact sound_of_idle rfl (.inr ⟨version, same _⟩)
      · exact sound_of_subscribing rfl (same _)
  | @entered _ _ _ _ stage _ active answers apt quiet =>
      obtain ⟨joined, before⟩ := sound.shaking _ _ _ active
      refine sound_of_shaking rfl ?_ (apt before)
      exact (connection_reach client stage).trans joined
  | agreed active answers apt =>
      obtain ⟨joined, before⟩ := sound.shaking _ _ _ active
      refine sound_of_idle rfl (.inr ⟨_, ?_, rfl, rfl, apt before⟩)
      simp [joined]
  | @broken _ _ _ _ error active breaks =>
      exact sound_of_leaving (.inr ⟨error, rfl⟩) (detached_forget client _)
  | @gaveUp error _ active =>
      have detached := sound.leaving (.inr ⟨error, active⟩)
      exact sound_of_idle rfl (.inl (detached.of_activity _))
  | hungUp active =>
      have detached := sound.leaving (.inl active)
      exact sound_of_idle rfl (.inl (detached.of_activity _))

theorem sound_run
    {options : ClientOptions} {events : List Event}
    (ran : run step (new options) events = some (client, effects)) :
    client.options = options ∧ Sound client := by
  refine run_invariant
    (fun client _ _ => client.options = options ∧ Sound client)
    ⟨rfl, sound_new options⟩ ?_ ran
  intro client events effects event next more held stepped
  obtain ⟨same, sound⟩ := held
  exact ⟨(options_step stepped).trans same,
    sound_move sound (move_of_step stepped)⟩

/-! ## Calls -/

/-- A call and the answers of the transport that it goes through. -/
structure Completes (client : Client) (call : Event) (answers : List Event)
    (final : Client) (effects : List Effect) : Prop where
  ran : run step client (call :: answers) = some (final, effects)
  answered : ∀ event ∈ answers, event.starts = false
  idle : final.activity = .idle

/-- Between two calls nothing answers. -/
theorem starts_of_idle
    (idle : client.activity = .idle) (move : Move client event next effects) :
    event.starts = true := by
  cases move with
  | refused _ _ => rfl
  | joined _ _ => rfl
  | missed _ _ => rfl
  | parted _ _ => rfl
  | turnedAway _ => rfl
  | asked _ _ _ => rfl
  | subscribed active _ _ => simp [active] at idle
  | entered active _ _ _ => simp [active] at idle
  | agreed active _ _ => simp [active] at idle
  | broken active _ => simp [active] at idle
  | gaveUp active => simp [active] at idle
  | hungUp active => simp [active] at idle

/-- Nothing answers behind a call that is over. -/
theorem unanswered_of_idle
    {answers : List Event} (idle : client.activity = .idle)
    (answered : ∀ event ∈ answers, event.starts = false)
    (ran : run step client answers = some (next, effects)) :
    answers = [] ∧ next = client ∧ effects = [] := by
  cases answers with
  | nil =>
      obtain ⟨rfl, rfl⟩ := Prod.mk.inj (Option.some.inj ran)
      exact ⟨rfl, rfl, rfl⟩
  | cons answer others =>
      obtain ⟨_, _, _, stepped, _⟩ := run_cons_eq_some_iff.mp ran
      have started := starts_of_idle idle (move_of_step stepped)
      simp [answered answer List.mem_cons_self] at started

/-- A call that is under way is not over before its next answer. -/
theorem cons_of_busy
    {answers : List Event} {final : Client} {said : List Effect}
    (busy : client.activity ≠ .idle) (idle : final.activity = .idle)
    (ran : run step client answers = some (final, said)) :
    ∃ answer rest now first more,
      answers = answer :: rest ∧
        client.step answer = some (now, first) ∧
        run step now rest = some (final, more) ∧
        said = first ++ more := by
  cases answers with
  | nil =>
      obtain ⟨rfl, rfl⟩ := Prod.mk.inj (Option.some.inj ran)
      exact absurd idle busy
  | cons answer rest =>
      obtain ⟨now, first, more, stepped, behind, rfl⟩ :=
        run_cons_eq_some_iff.mp ran
      exact ⟨answer, rest, now, first, more, rfl, stepped, behind, rfl⟩

/-- A call that ends at once takes no answer. -/
theorem completes_of_idle
    {call : Event} {answers : List Event} {final : Client}
    {said : List Effect}
    (completes : Completes client call answers final effects)
    (stepped : client.step call = some (next, said))
    (idle : next.activity = .idle) :
    answers = [] ∧ final = next ∧ effects = said := by
  obtain ⟨ran, answered, _⟩ := completes
  obtain ⟨state, before, after, first, rest, rfl⟩ :=
    run_cons_eq_some_iff.mp ran
  obtain ⟨rfl, rfl⟩ := Prod.mk.inj (Option.some.inj (stepped.symm.trans first))
  obtain ⟨rfl, rfl, rfl⟩ := unanswered_of_idle idle answered rest
  exact ⟨rfl, rfl, List.append_nil _⟩

/-- How far a handshake is behind some answers. -/
inductive Attaching (client : Client) (request : CapabilityRequest) :
    List Event → Client → List Effect → Prop where
  | shaking {answers : List Event} {now : Client} {said : List Effect}
      {stage : Stage}
      (active : now.activity = .shaking client.nextConnection request stage)
      (untold : outcomes said = [])
      (open_ : hangUps said = []) :
      Attaching client request answers now said
  | agreed {answers : List Event} {now : Client} {said : List Effect}
      (idle : now.activity = .idle)
      (connected : now.state ≠ .disconnected)
      (told : outcomes said = [.attached (.ok ())])
      (open_ : hangUps said = []) :
      Attaching client request answers now said
  /-- The connection is to be closed. -/
  | broken {shaking : List Event} {breaking : Event} {before now : Client}
      {spoken said : List Effect} {error : ProtocolError}
      (ran :
        run step client (.attach request :: shaking) = some (before, spoken))
      (breaks : Breaks before breaking error)
      (active : now.activity = .abandoning error)
      (detached : Detached now)
      (untold : outcomes said = [])
      (closed : hangUps said = [client.nextConnection]) :
      Attaching client request (shaking ++ [breaking]) now said
  | failed {shaking : List Event} {breaking : Event} {before now : Client}
      {spoken said : List Effect} {error : ProtocolError}
      {result : Except TransportError Unit}
      (ran :
        run step client (.attach request :: shaking) = some (before, spoken))
      (breaks : Breaks before breaking error)
      (idle : now.activity = .idle)
      (detached : Detached now)
      (told : outcomes said = [.attached (.error error)])
      (closed : hangUps said = [client.nextConnection])
      (whatever : ∀ other,
        run step client
            (.attach request :: (shaking ++ [breaking, .closed other])) =
          some (now, said)) :
      Attaching client request (shaking ++ [breaking, .closed result]) now
        said

/-- A handshake goes on, or it is over. -/
theorem attaching_of_shaking
    {request : CapabilityRequest} {answers : List Event} {answer : Event}
    {now : Client} {said more : List Effect} {stage : Stage}
    (ran : run step client (.attach request :: answers) = some (now, said))
    (active : now.activity = .shaking client.nextConnection request stage)
    (untold : outcomes said = []) (open_ : hangUps said = [])
    (unstarted : answer.starts = false) (move : Move now answer next more) :
    Attaching client request (answers ++ [answer]) next (said ++ more) := by
  cases move with
  | @entered _ connection asked before after _ reached answers apt quiet =>
      obtain ⟨rfl, rfl, rfl⟩ := by simpa using active.symm.trans reached
      refine .shaking rfl ?_ ?_
      · rw [outcomes_append, untold, quiet.1, List.append_nil]
      · rw [hangUps_append, open_, quiet.2, List.append_nil]
  | agreed reached answers apt =>
      refine .agreed rfl (by simp) ?_ ?_
      · rw [outcomes_append, untold]
        rfl
      · rw [hangUps_append, open_]
        rfl
  | broken reached breaks =>
      obtain ⟨rfl, rfl, rfl⟩ := by simpa using active.symm.trans reached
      refine .broken ran breaks rfl (detached_forget now _) ?_ ?_
      · rw [outcomes_append, untold]
        rfl
      · rw [hangUps_append, open_]
        rfl
  | subscribed reached _ _ => simp [active] at reached
  | gaveUp reached => simp [active] at reached
  | hungUp reached => simp [active] at reached
  | refused | joined | missed | parted | turnedAway | asked =>
      simp [Event.starts] at unstarted

/-- Whatever closing a connection comes to, the handshake has failed. -/
theorem attaching_of_broken
    {request : CapabilityRequest} {shaking : List Event}
    {breaking answer : Event} {before now : Client}
    {spoken said more : List Effect} {error : ProtocolError}
    (began :
      run step client (.attach request :: shaking) = some (before, spoken))
    (breaks : Breaks before breaking error)
    (ran :
      run step client (.attach request :: (shaking ++ [breaking])) =
        some (now, said))
    (active : now.activity = .abandoning error) (detached : Detached now)
    (untold : outcomes said = [])
    (closed : hangUps said = [client.nextConnection])
    (unstarted : answer.starts = false) (move : Move now answer next more) :
    Attaching client request (shaking ++ [breaking] ++ [answer]) next
      (said ++ more) := by
  cases move with
  | @gaveUp own result reached =>
      obtain rfl : error = own := by simpa using active.symm.trans reached
      rw [List.append_assoc]
      refine .failed began breaks rfl (detached.of_activity _) ?_ ?_ ?_
      · rw [outcomes_append, untold]
        rfl
      · rw [hangUps_append, closed]
        rfl
      · intro other
        have split :
            .attach request :: (shaking ++ [breaking, .closed other]) =
              (.attach request :: (shaking ++ [breaking])) ++
                [.closed other] := by
          simp
        rw [split]
        refine run_snoc_eq_some_iff.mpr ⟨now, said, _, ran, ?_, rfl⟩
        simp [step, Client.closed, active, finish]
  | subscribed reached _ _ => simp [active] at reached
  | entered reached _ _ _ => simp [active] at reached
  | agreed reached _ _ => simp [active] at reached
  | broken reached _ => simp [active] at reached
  | hungUp reached => simp [active] at reached
  | refused | joined | missed | parted | turnedAway | asked =>
      simp [Event.starts] at unstarted

theorem attaching_of_run
    {request : CapabilityRequest} {answers : List Event}
    (idle : client.activity = .idle) (apart : client.connection = none)
    (answered : ∀ event ∈ answers, event.starts = false)
    (ran :
      run step client (.attach request :: answers) = some (next, effects)) :
    Attaching client request answers next effects := by
  induction answers using List.reverseRecOn generalizing next effects with
  | nil =>
      rw [run_singleton] at ran
      cases move_of_step ran with
      | refused idle joined => simp [apart] at joined
      | joined idle apart => exact .shaking rfl rfl rfl
      | subscribed active answers waits => simp [active] at idle
      | entered active answers apt quiet => simp [active] at idle
      | agreed active answers apt => simp [active] at idle
      | broken active breaks => simp [active] at idle
  | append_singleton answers answer ih =>
      rw [← List.cons_append] at ran
      obtain ⟨now, said, more, first, last, rfl⟩ :=
        run_snoc_eq_some_iff.mp ran
      have attaching :=
        ih (fun event member => answered event (by simp [member])) first
      have unstarted := answered answer (by simp)
      have move := move_of_step last
      cases attaching with
      | shaking active untold open_ =>
          exact attaching_of_shaking first active untold open_ unstarted move
      | agreed idle connected told open_ =>
          simp [starts_of_idle idle move] at unstarted
      | broken began breaks active detached untold closed =>
          exact attaching_of_broken began breaks first active detached untold
            closed unstarted move
      | failed began breaks idle detached told closed whatever =>
          simp [starts_of_idle idle move] at unstarted

/-! ## What calls end with -/

/-- No handshake breaks off as if the client were connected already. -/
theorem Breaks.ne_alreadyConnected
    {error : ProtocolError} (breaks : Breaks client event error) :
    error ≠ .alreadyConnected := by
  cases breaks with
  | @unsent _ _ _ error active =>
      cases error <;> simp [ProtocolError.ofTransport]
  | @unreceived _ _ _ error active =>
      cases error <;> simp [ProtocolError.ofTransport]
  | demanding active incapable wishes => simp
  | @refused _ _ stage message error active refusal =>
      rintro rfl
      cases stage with
      | offer =>
          simp only [Receiving.received] at refusal
          repeat' split at refusal
          all_goals simp [ProtocolError.unexpected] at refusal
      | grant version =>
          simp only [Receiving.received] at refusal
          repeat' split at refusal
          all_goals simp [ProtocolError.unexpected] at refusal

/-- What a call to attach ends with. -/
inductive AttachEnds (options : ClientOptions) (client : Client)
    (request : CapabilityRequest) (answers : List Event) (final : Client)
    (said : List Effect) : Prop where
  /-- There is a connection already, and nothing happens. -/
  | refused {version : Version} (attached : Attached client version)
      (unanswered : answers = []) (unchanged : final = client)
      (told :
        said = [.finish (.attached (.error .alreadyConnected))])
  | attached {version : Version} (detached : Detached client)
      (attached : Attached final version)
      (told : outcomes said = [.attached (.ok ())])
      (open_ : hangUps said = [])
  /--
  The handshake breaks off.  The call hangs up and ends with the error that
  broke it off, whatever hanging up comes to.
  -/
  | failed {shaking : List Event} {breaking : Event} {before : Client}
      {spoken : List Effect} {error : ProtocolError}
      {result : Except TransportError Unit}
      (detached : Detached client)
      (other : error ≠ .alreadyConnected)
      (told : outcomes said = [.attached (.error error)])
      (closed : hangUps said = [client.nextConnection])
      (renewed : Renewed options final)
      (ran :
        run step client (.attach request :: shaking) = some (before, spoken))
      (breaks : Breaks before breaking error)
      (answered : answers = shaking ++ [breaking, .closed result])
      (whatever : ∀ other,
        Completes client (.attach request)
          (shaking ++ [breaking, .closed other]) final said)

/-- What a call to disconnect ends with. -/
inductive DisconnectEnds (options : ClientOptions) (client : Client)
    (answers : List Event) (final : Client) (said : List Effect) :
    Prop where
  /-- There is no connection, and nothing happens. -/
  | refused (detached : Detached client)
      (unanswered : answers = []) (unchanged : final = client)
      (told : said = [.finish (.disconnected (.error .notConnected))])
  | parted {version : Version} {connection : ConnectionId}
      {result : Except TransportError Unit}
      (attached : Attached client version)
      (joined : client.connection = some connection)
      (answered : answers = [.closed result])
      (renewed : Renewed options final)
      (told :
        said =
          [.close connection,
            .finish
              (.disconnected (result.mapError ProtocolError.ofTransport))])

section Ends

variable {options : ClientOptions} {answers : List Event} {final : Client}
  {said : List Effect}

theorem sound_of_completes
    {call : Event} (same : client.options = options) (sound : Sound client)
    (completes : Completes client call answers final said) :
    final.options = options ∧ Sound final := by
  refine run_invariant
    (fun client _ _ => client.options = options ∧ Sound client)
    ⟨same, sound⟩ ?_ completes.ran
  intro client events effects event next more held stepped
  exact ⟨(options_step stepped).trans held.1,
    sound_move held.2 (move_of_step stepped)⟩

theorem attachEnds_of_completes
    {request : CapabilityRequest}
    (same : client.options = options) (sound : Sound client)
    (idle : client.activity = .idle)
    (completes : Completes client (.attach request) answers final said) :
    AttachEnds options client request answers final said := by
  rcases sound.between idle with detached | ⟨version, attached⟩
  · have settled := sound_of_completes same sound completes
    cases attaching_of_run idle detached.apart completes.answered
        completes.ran with
    | shaking active untold open_ =>
        have idle := completes.idle
        simp [active] at idle
    | agreed idle connected told open_ =>
        rcases settled.2.between idle with parted | ⟨version, attached⟩
        · exact absurd parted.state connected
        · exact .attached detached attached told open_
    | broken ran breaks active _ untold closed =>
        have idle := completes.idle
        simp [active] at idle
    | failed ran breaks idle parted told closed whatever =>
        refine .failed detached breaks.ne_alreadyConnected told closed
          (renewed_of_detached parted idle settled.1) ran breaks rfl ?_
        intro other
        refine ⟨whatever other, ?_, idle⟩
        intro event member
        simp only [List.mem_append, List.mem_cons, List.not_mem_nil,
          or_false] at member
        rcases member with member | rfl | rfl
        · exact completes.answered event (by simp [member])
        · exact completes.answered event (by simp)
        · rfl
  · obtain ⟨connection, joined⟩ := Option.isSome_iff_exists.mp attached.joined
    have stepped :
        client.step (.attach request) =
          some (client, [.finish (.attached (.error .alreadyConnected))]) := by
      simp [step, idle, attach, joined, finish_of_idle]
    obtain ⟨rfl, rfl, rfl⟩ := completes_of_idle completes stepped idle
    exact .refused attached rfl rfl rfl

/-- A connected client hangs up, and one answer ends the call. -/
theorem completes_disconnect
    {connection : ConnectionId} (idle : client.activity = .idle)
    (joined : client.connection = some connection)
    (result : Except TransportError Unit) :
    Completes client .disconnect [.closed result]
      { client.forget with activity := .idle }
      [.close connection,
        .finish
          (.disconnected (result.mapError ProtocolError.ofTransport))] where
  ran := by
    simp [run, step, idle, disconnect, joined, Client.closed, finish]
  answered := by simp [Event.starts]
  idle := rfl

theorem disconnectEnds_of_completes
    (same : client.options = options) (sound : Sound client)
    (idle : client.activity = .idle)
    (completes : Completes client .disconnect answers final said) :
    DisconnectEnds options client answers final said := by
  have settled := sound_of_completes same sound completes
  rcases sound.between idle with detached | ⟨version, attached⟩
  · have stepped :
        client.step .disconnect =
          some (client, [.finish (.disconnected (.error .notConnected))]) := by
      simp [step, idle, disconnect, detached.apart, finish_of_idle]
    obtain ⟨rfl, rfl, rfl⟩ := completes_of_idle completes stepped idle
    exact .refused detached rfl rfl rfl
  · obtain ⟨connection, joined⟩ := Option.isSome_iff_exists.mp attached.joined
    obtain ⟨now, spoken, more, first, rest, rfl⟩ :=
      run_cons_eq_some_iff.mp completes.ran
    obtain ⟨rfl, rfl⟩ : { client.forget with activity := .disconnecting } =
        now ∧ [Effect.close connection] = spoken := by
      simpa [step, idle, disconnect, joined] using first
    obtain ⟨answer, others, _, _, _, rfl, second, behind, rfl⟩ :=
      cons_of_busy (by simp) completes.idle rest
    have unstarted := completes.answered answer List.mem_cons_self
    cases move_of_step second with
    | @hungUp result _ =>
        obtain ⟨rfl, rfl, rfl⟩ :=
          unanswered_of_idle rfl
            (fun event member =>
              completes.answered event (List.mem_cons_of_mem _ member))
            behind
        exact .parted attached joined rfl
          (renewed_of_detached
            ((detached_forget client .disconnecting).of_activity .idle)
            rfl same)
          rfl
    | subscribed reached _ _ => simp at reached
    | entered reached _ _ _ => simp at reached
    | agreed reached _ _ => simp at reached
    | broken reached _ => simp at reached
    | gaveUp reached => simp at reached
    | refused | joined | missed | parted | turnedAway | asked =>
        simp [Event.starts] at unstarted

end Ends

/--
Between its calls a client is either without a connection or connected on a
version.  A call to attach that fails hangs up once, ends with the error that
broke its handshake off, whatever hanging up comes to, and leaves the client
as new; so does a call to disconnect.  A client that is connected already
turns a call to attach away and stays as it is.
-/
theorem calls_settle
    {options : ClientOptions} {events : List Event}
    (ran : run step (new options) events = some (client, effects))
    (idle : client.activity = .idle) :
    Xor (Detached client) (∃ version, Attached client version) ∧
      (Detached client → Renewed options client) ∧
      (∀ request answers final said,
        Completes client (.attach request) answers final said →
          AttachEnds options client request answers final said) ∧
      (∀ answers final said,
        Completes client .disconnect answers final said →
          DisconnectEnds options client answers final said) ∧
      ∀ version result, Attached client version →
        ∃ final said,
          Completes client .disconnect [.closed result] final said := by
  obtain ⟨same, sound⟩ := sound_run ran
  refine ⟨?_, ?_, ?_, ?_, ?_⟩
  · rcases sound.between idle with detached | attached
    · refine .inl ⟨detached, ?_⟩
      rintro ⟨version, attached⟩
      exact not_attached_of_detached detached attached
    · refine .inr ⟨attached, fun detached => ?_⟩
      obtain ⟨version, attached⟩ := attached
      exact not_attached_of_detached detached attached
  · exact fun detached => renewed_of_detached detached idle same
  · exact fun request answers final said completes =>
      attachEnds_of_completes same sound idle completes
  · exact fun answers final said completes =>
      disconnectEnds_of_completes same sound idle completes
  · intro version result attached
    obtain ⟨connection, joined⟩ :=
      Option.isSome_iff_exists.mp attached.joined
    exact ⟨_, _, completes_disconnect idle joined result⟩

/--
The first connection of a client breaks and cannot even be closed, its second
comes to an agreement.
-/
def secondTry : List Event :=
  [.attach .empty, .received (.error (.io .connectionReset)),
    .closed (.error (.io .brokenPipe)), .attach .empty,
    .received (.ok (Message.plain (.negotiate [.legacy]))), .sent (.ok ())]

theorem calls_settle_secondTry :
    ∃ client effects final said,
      run step (new .default) secondTry = some (client, effects) ∧
        outcomes effects =
          [.attached (.error (.transport (.io .connectionReset))),
            .attached (.ok ())] ∧
        Attached client .legacy ∧
        Completes client .disconnect [.closed (.error (.io .brokenPipe))]
          final said ∧
        Renewed .default final := by
  obtain ⟨client, effects, ran, idle, told, connected⟩ :
      ∃ client effects,
        run step (new .default) secondTry = some (client, effects) ∧
          client.activity = .idle ∧
          outcomes effects =
            [.attached (.error (.transport (.io .connectionReset))),
              .attached (.ok ())] ∧
          client.state = .connected .legacy :=
    ⟨_, _, rfl, rfl, rfl, rfl⟩
  obtain ⟨shape, _, _, ends, hangsUp⟩ := calls_settle ran idle
  rcases shape with ⟨detached, _⟩ | ⟨⟨version, attached⟩, _⟩
  · cases detached.state.symm.trans connected
  · cases attached.state.symm.trans connected
    obtain ⟨final, said, completes⟩ := hangsUp _ _ attached
    refine ⟨client, effects, final, said, ran, told, attached, completes, ?_⟩
    cases ends _ _ _ completes with
    | refused detached unanswered => cases unanswered
    | parted _ _ _ renewed _ => exact renewed

end BuildWatch.Client
