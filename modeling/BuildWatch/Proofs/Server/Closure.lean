import BuildWatch.Proofs.Server.Reception
import BuildWatch.Proofs.Server.States

/-!
# When a closed server stays closed

To be closed is what a server shows, not what it is.  Whoever writes the
state does not look at what it was, so that a reception that is still under
way, or a call to serve, shows another state over it.  A closed server stays
closed exactly if it was told to serve before and its reception has nothing
more to show.
-/

namespace BuildWatch.Server

open ServerHandshake

variable {server next : Server} {event : Event} {effects : List Effect}
  {reaction : Reaction} {trace : TraceContext}

/-! ## Sealed servers -/

/-- A reception that has nothing to show but that it gave up. -/
inductive Spent (server : Server) : Prop where
  /-- Its address could not be bound. -/
  | unbound (absent : server.reception = .absent)
  /-- It gave up, or there is a session. -/
  | ended (finished : server.reception = .finished)
  /-- It was told to stop waiting for a client. -/
  | uncalled {trace : TraceContext}
      (waiting : server.reception = .accepting trace)
      (cancelled : server.cancelled = true)
  /-- It has no version to offer. -/
  | speechless {trace : TraceContext} {stage : Stage}
      (waiting : server.reception = .shaking trace stage)
      (unable : server.options.supported = [])

/-- A server that nothing can make show that it is open. -/
structure Sealed (server : Server) : Prop where
  served : server.serving = true
  spent : Spent server

/-- Without a version to offer there is no choice of one. -/
theorem Spent.not_chosen
    {version : Version} {heard : List Receipt}
    {stage : Stage} (spent : Spent server)
    (waiting : server.reception = .shaking trace stage) :
    ¬Chosen server.options.supported heard version := by
  rintro ⟨message, found, body, member⟩
  cases spent with
  | unbound absent => simp [waiting] at absent
  | ended finished => simp [waiting] at finished
  | uncalled waits cancelled => simp [waiting] at waits
  | speechless waits unable => simp [unable] at member

/-- Nor is there one behind a step that goes further than the offer. -/
theorem Spent.not_chosen_of_advance
    {progress : Progress Stage Session} {version : Version}
    {heard : List Receipt} (spent : Spent server)
    (advance : Advance server event trace progress)
    (further : progress ≠ .next (.sending .offer)) :
    ¬Chosen server.options.supported heard version := by
  cases advance with
  | accepted waiting => exact absurd rfl further
  | sent waiting follows => exact spent.not_chosen waiting
  | received waiting follows => exact spent.not_chosen waiting

theorem Spent.of_step
    (served : server.serving = true) (spent : Spent server)
    (stepped : step server event = some (next, effects)) : Spent next := by
  have move := move_of_step stepped
  have options := options_move move
  cases bearing_of_move move with
  | apart same session state =>
      cases spent with
      | unbound absent => exact .unbound (same.trans absent)
      | ended finished => exact .ended (same.trans finished)
      | uncalled waiting cancelled =>
          exact .uncalled (same.trans waiting)
            ((shown_of_step stepped).cancelled cancelled)
      | speechless waiting unable =>
          exact .speechless (same.trans waiting) (by rw [options, unable])
  | listening unserved reception session => simp [served] at unserved
  | failed failure finished session state => exact .ended finished
  | agreed unset advance finished found => exact .ended finished
  | entered advance entered session =>
      have active := advance.active
      cases spent with
      | unbound absent => simp [absent, Reception.active] at active
      | ended finished => simp [finished, Reception.active] at active
      | uncalled waiting cancelled =>
          cases advance with
          | accepted _ => simp [step, waiting, cancelled] at stepped
          | sent shaking follows => simp [waiting] at shaking
          | received shaking follows => simp [waiting] at shaking
      | speechless waiting unable =>
          exact .speechless entered (by rw [options, unable])

/-- What a sealed server shows next, if it is closed. -/
theorem closed_of_sealed
    {heard : List Receipt} {said : List Message}
    (talk : Talk server heard said) (sealed : Sealed server)
    (closed : server.state = .closed)
    (stepped : step server event = some (next, effects)) :
    next.state = .closed := by
  obtain ⟨served, spent⟩ := sealed
  cases shown_of_step stepped with
  | kept keeps => exact keeps.state.trans closed
  | gaveUp active givesUp => exact givesUp.state
  | hungUp discreet state => exact state
  | listening unserved state cancelled asked => simp [served] at unserved
  | negotiating waiting live discreet state published =>
      cases spent with
      | unbound absent => simp [waiting] at absent
      | ended finished => simp [waiting] at finished
      | uncalled waits cancelled => simp [live] at cancelled
      | speechless waits unable => simp [waiting] at waits
  | asking advance discreet state =>
      have chosen := (standing_of_advance talk advance).of_request.2.1
      exact absurd chosen (spent.not_chosen_of_advance advance (by simp))
  | connected advance discreet state =>
      have chosen := (settled_of_advance talk advance).chosen
      exact absurd chosen (spent.not_chosen_of_advance advance (by simp))

theorem closed_of_sealed_run
    {heard : List Receipt} {said : List Message} {later : List Event}
    (orderly : Orderly server) (talk : Talk server heard said)
    (sealed : Sealed server) (closed : server.state = .closed)
    (ran : run step server later = some (next, effects)) :
    next.state = .closed := by
  -- The history comes along: it tells that no version was ever chosen.
  have whole :
      Orderly next ∧ (∃ heard said, Talk next heard said) ∧ Sealed next ∧
        next.state = .closed := by
    refine run_invariant
      (fun state _ _ =>
        Orderly state ∧ (∃ heard said, Talk state heard said) ∧
          Sealed state ∧ state.state = .closed)
      ⟨orderly, ⟨heard, said, talk⟩, sealed, closed⟩ ?_ ran
    intro state events earlier event following more kept stepped
    obtain ⟨orderly, ⟨heard, said, talk⟩, sealed, closed⟩ := kept
    have move := move_of_step stepped
    exact ⟨orderly_move orderly move, ⟨_, _, talk_move orderly talk move⟩,
      ⟨serving_of_move sealed.served move,
        sealed.spent.of_step sealed.served stepped⟩,
      closed_of_sealed talk sealed closed stepped⟩
  exact whole.2.2.2

/-! ## What opens a server again -/

/-- A server that can come to show that it is not closed. -/
def Reopens (server : Server) : Prop :=
  ∃ later final effects,
    run step server later = some (final, effects) ∧ final.state ≠ .closed

theorem reopens_of_open (shown : server.state ≠ .closed) : Reopens server :=
  ⟨[], server, [], rfl, shown⟩

theorem Reopens.of_step
    (reopens : Reopens reaction.1)
    (stepped : step server event = some reaction) : Reopens server := by
  obtain ⟨later, final, more, ran, shown⟩ := reopens
  refine ⟨event :: later, final, reaction.2 ++ more, ?_, shown⟩
  simp [run, stepped, ran]

section Stages

@[simp]
theorem reception_enterStage (stage : Stage) :
    (enterStage server trace stage).1.reception = .shaking trace stage := by
  rcases stage with _ | (_ | _ | _) <;> rfl

@[simp]
theorem session_enterStage (stage : Stage) :
    (enterStage server trace stage).1.session = server.session := by
  rcases stage with _ | (_ | _ | _) <;> rfl

@[simp]
theorem options_enterStage (stage : Stage) :
    (enterStage server trace stage).1.options = server.options := by
  rcases stage with _ | (_ | _ | _) <;> rfl

/-- An agreement shows over everything. -/
theorem reopens_agreed
    {session : Session} (unset : server.session = none) :
    Reopens (proceed server trace (.agreed session)).1 := by
  apply reopens_of_open
  simp [proceed, agree, unset, publish]

theorem reopens_of_sending
    {stage : Sending}
    (waiting : server.reception = .shaking trace (.sending stage))
    (reopens : Reopens (proceed server trace stage.sent).1) :
    Reopens server := by
  refine @Reopens.of_step _ (.handshakeSent (.ok ())) _ reopens ?_
  simp [step, waiting]

theorem reopens_of_receiving
    {stage : Receiving} {message : Message}
    {progress : Progress Stage Session}
    (waiting : server.reception = .shaking trace (.receiving stage))
    (follows :
      stage.received server.options.supported message = .ok progress)
    (reopens : Reopens (proceed server trace progress).1) :
    Reopens server := by
  refine @Reopens.of_step _ (.handshakeReceived (.ok message)) _ reopens ?_
  simp [step, waiting, follows]

theorem reopens_confirming
    {version : Version} {capabilities : Option Capabilities}
    {watchType : String} (unset : server.session = none)
    (waiting :
      server.reception =
        .shaking trace (.sending (.confirm version capabilities watchType))) :
    Reopens server :=
  reopens_of_sending waiting (reopens_agreed unset)

theorem reopens_awaitingSubscription
    {version : Version} {capabilities : Option Capabilities}
    (unset : server.session = none)
    (waiting :
      server.reception =
        .shaking trace
          (.receiving (.subscription version capabilities))) :
    Reopens server := by
  refine @reopens_of_receiving _ _ _ (Message.plain (.subscribe "")) _ waiting
    (received_subscription_iff.mpr ⟨"", rfl, rfl⟩) ?_
  exact reopens_confirming (by simpa [proceed] using unset)
    (reception_enterStage _)

theorem reopens_subscribe
    {version : Version} {capabilities : Option Capabilities}
    (unset : server.session = none) :
    Reopens (proceed server trace (subscribe version capabilities)).1 := by
  unfold subscribe
  split
  · exact reopens_awaitingSubscription (by simpa [proceed] using unset)
      (reception_enterStage _)
  · exact reopens_agreed unset

theorem reopens_granting
    {version : Version} {capabilities : Capabilities}
    (unset : server.session = none)
    (waiting :
      server.reception =
        .shaking trace (.sending (.grant version capabilities))) :
    Reopens server :=
  reopens_of_sending waiting (reopens_subscribe unset)

theorem reopens_awaitingRequest
    {version : Version} (unset : server.session = none)
    (waiting :
      server.reception = .shaking trace (.receiving (.request version))) :
    Reopens server := by
  obtain ⟨capabilities, accepted⟩ :
      ∃ capabilities,
        Capabilities.ofWire (some (Json.object KeyMap.empty)) =
          .ok capabilities :=
    ⟨_, rfl⟩
  refine @reopens_of_receiving _ _ _
    (Message.plain (.caps (Json.object KeyMap.empty))) _ waiting
    (received_request_iff.mpr ⟨_, capabilities, rfl, accepted, rfl⟩) ?_
  exact reopens_granting (by simpa [proceed] using unset)
    (reception_enterStage _)

theorem reopens_awaitingChoice
    {version : Version} (unset : server.session = none)
    (member : version ∈ server.options.supported)
    (waiting : server.reception = .shaking trace (.receiving .choice)) :
    Reopens server := by
  refine @reopens_of_receiving _ _ _
    (Message.plain (.negotiateResponse version)) _ waiting
    (received_choice_iff.mpr ⟨version, member, rfl, rfl⟩) ?_
  unfold negotiate
  split
  · exact reopens_awaitingRequest (by simpa [proceed] using unset)
      (reception_enterStage _)
  · exact reopens_subscribe unset

/-- Wherever the handshake is, there is a client that completes it. -/
theorem reopens_of_shaking
    {version : Version} {stage : Stage} (unset : server.session = none)
    (member : version ∈ server.options.supported)
    (waiting : server.reception = .shaking trace stage) :
    Reopens server := by
  match stage with
  | .sending .offer =>
      refine reopens_of_sending waiting ?_
      exact reopens_awaitingChoice (by simpa [Sending.sent, proceed] using
        unset) (by simpa [Sending.sent, proceed] using member)
        (reception_enterStage _)
  | .sending (.grant _ _) => exact reopens_granting unset waiting
  | .sending (.confirm _ _ _) => exact reopens_confirming unset waiting
  | .receiving .choice => exact reopens_awaitingChoice unset member waiting
  | .receiving (.request _) => exact reopens_awaitingRequest unset waiting
  | .receiving (.subscription _ _) =>
      exact reopens_awaitingSubscription unset waiting

end Stages

/-- A server that is not sealed can be made to show that it is open. -/
theorem reopens_of_not_sealed
    (orderly : Orderly server) (unsealed : ¬Sealed server) :
    Reopens server := by
  cases served : server.serving with
  | false =>
      refine @Reopens.of_step _ (.serve .none (.ok ()))
        (serve server .none (.ok ())) (reopens_of_open ?_) rfl
      simp [serve, served, publish, Reaction.followedBy]
  | true =>
      cases waiting : server.reception with
      | absent => exact absurd ⟨served, .unbound waiting⟩ unsealed
      | finished => exact absurd ⟨served, .ended waiting⟩ unsealed
      | accepting trace =>
          cases live : server.cancelled with
          | true => exact absurd ⟨served, .uncalled waiting live⟩ unsealed
          | false =>
              refine @Reopens.of_step _ (.accepted (.ok ()))
                (receive server trace (.ok ())) (reopens_of_open ?_)
                (by simp [step, waiting, live])
              simp [receive, publish, Reaction.followedBy, enterStage,
                ServerHandshake.start]
      | shaking trace stage =>
          cases offered : server.options.supported with
          | nil => exact absurd ⟨served, .speechless waiting offered⟩ unsealed
          | cons version rest =>
              have unset :=
                orderly.session_eq_none (by rw [waiting]; rfl)
              exact reopens_of_shaking unset
                (by rw [offered]; exact List.mem_cons_self) waiting

/-! ## Along every run -/

/-- A closed server stays closed exactly if it is sealed. -/
theorem closed_for_good_iff
    {options : ServerOptions} {events : List Event}
    (ran : run step (new options) events = some (server, effects))
    (closed : server.state = .closed) :
    (∀ later final more,
        run step server later = some (final, more) →
          final.state = .closed) ↔
      Sealed server := by
  obtain ⟨_, account⟩ := account_run ran
  constructor
  · intro always
    by_contra unsealed
    obtain ⟨later, final, more, reached, shown⟩ :=
      reopens_of_not_sealed account.orderly unsealed
    exact shown (always later final more reached)
  · intro sealed later final more reached
    exact closed_of_sealed_run account.orderly account.talk sealed closed
      reached

/-- A server stops waiting for a client before one came. -/
def cancelledVisit : List Event :=
  [.serve .none (.ok ()), .cancel, .abandon]

theorem closed_for_good_iff_cancelledVisit :
    ∃ server effects,
      run step (new ⟨"build.sock", [.first]⟩) cancelledVisit =
          some (server, effects) ∧
        server.state = .closed ∧
        ∀ later final more,
          run step server later = some (final, more) →
            final.state = .closed := by
  obtain ⟨server, effects, ran, closed, served, finished⟩ :
      ∃ server effects,
        run step (new ⟨"build.sock", [.first]⟩) cancelledVisit =
            some (server, effects) ∧
          server.state = .closed ∧ server.serving = true ∧
          server.reception = .finished :=
    ⟨_, _, rfl, rfl, rfl, rfl⟩
  exact ⟨server, effects, ran, closed,
    (closed_for_good_iff ran closed).mpr ⟨served, .ended finished⟩⟩

/-- A server that was closed before it was told to serve listens again. -/
theorem listening_after_closed :
    ∃ server effects next more,
      run step (new ⟨"build.sock", [.first]⟩) [.close, .closed 0 (.ok ())] =
          some (server, effects) ∧
        server.state = .closed ∧
        step server (.serve .none (.ok ())) = some (next, more) ∧
        next.state = .listening :=
  ⟨_, _, _, _, rfl, rfl, rfl, rfl⟩

end BuildWatch.Server
