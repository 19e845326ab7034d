import BuildWatch.Proofs.Capability
import BuildWatch.Proofs.Server.Exclusion
import BuildWatch.Proofs.Server.Reception
import BuildWatch.Proofs.Server.Veil

/-!
# What a server gives away

A server tells its client which spans are active only if the client has asked
for it, and which scope a change belongs to only on a version that has scopes.
The value `true` asks for traces and no other value does.  Whatever is not to
be told makes no difference to what the server says and does.
-/

namespace BuildWatch

namespace ServerHandshake

/-- The client has asked for traces. -/
def RequestsTraces (heard : List Receipt) : Prop :=
  ∃ message requested entries,
    heard[1]? = some (.ok message) ∧ message.body = .caps requested ∧
      requested.view = .object entries ∧
      entries.get? "otel" = some (Json.bool true)

theorem RequestsTraces.append
    {heard : List Receipt} (requests : RequestsTraces heard)
    (more : List Receipt) : RequestsTraces (heard ++ more) := by
  obtain ⟨message, requested, entries, found, body, shape, wish⟩ := requests
  exact ⟨message, requested, entries, getElem?_append_of_eq_some found more,
    body, shape, wish⟩

/-- Traces are on only if the client has asked for them. -/
theorem requestsTraces_of_otelEnabled
    {heard : List Receipt} {capabilities : Capabilities}
    (requested : Requested heard capabilities)
    (enabled : capabilities.otelEnabled = true) : RequestsTraces heard := by
  obtain ⟨message, value, found, body, meant⟩ := requested
  simp only [Capabilities.otelEnabled, decide_eq_true_eq] at enabled
  unfold Capabilities.ofWire at meant
  split at meant
  next absent => cases absent
  next own json same =>
    cases same
    split at meant
    next shape =>
      cases meant
      cases enabled
    next entries shape =>
      obtain ⟨_, otel, _⟩ := Capabilities.ofEntries_eq_ok_iff.mp meant
      rw [enabled] at otel
      obtain ⟨wish, bound, wished⟩ := Option.map_eq_some_iff.mp otel.symm
      rw [Capabilities.readOtel_eq_true_iff.mp wished] at bound
      exact ⟨message, value, entries, found, body, shape, bound⟩
    next => cases meant

end ServerHandshake

namespace Server

open ServerHandshake

variable {server next : Server} {event : Event} {effects : List Effect}
  {supported : List Version} {heard : List Receipt} {said : List Message}

/-! ## What a message may carry -/

/-- What justifies that a message carries a trace or a scope. -/
structure Permitted (supported : List Version) (heard : List Receipt)
    (message : Message) : Prop where
  traced :
    message.trace ≠ .none →
      (message.kind = .capsResponse ∨ message.kind = .cycle ∨
          message.kind = .exit) ∧
        RequestsTraces heard ∧
        ∃ version, Chosen supported heard version ∧
          version.hasCapabilities = true
  located :
    ∀ number scope sources,
      message.body = .cycle number (some scope) sources →
        ∃ version, Chosen supported heard version ∧ version.hasScope = true

theorem Permitted.append
    {message : Message} (permitted : Permitted supported heard message)
    (more : List Receipt) : Permitted supported (heard ++ more) message where
  traced := by
    intro carried
    obtain ⟨kind, requests, version, chosen, capable⟩ :=
      permitted.traced carried
    exact ⟨kind, requests.append more, version, chosen.append more, capable⟩
  located := by
    intro number scope sources body
    obtain ⟨version, chosen, located⟩ :=
      permitted.located number scope sources body
    exact ⟨version, chosen.append more, located⟩

theorem permitted_of_plain
    {body : MessageBody}
    (scopeless :
      ∀ number scope sources, body ≠ .cycle number (some scope) sources) :
    Permitted supported heard (Message.plain body) where
  traced := fun carried => absurd rfl carried
  located := fun number scope sources same =>
    absurd same (scopeless number scope sources)

/-- The messages of a stage carry what the client has asked for. -/
theorem permitted_of_standing
    {trace : TraceContext} {stage : Stage} {message : Message}
    (standing : Standing supported trace stage heard said)
    (member : message ∈ stageMessages supported trace stage) :
    Permitted supported heard message := by
  cases standing with
  | offering =>
      rw [List.mem_singleton.mp member]
      exact permitted_of_plain (by simp)
  | @granting version capabilities _ length chosen capable requested =>
      rw [List.mem_singleton.mp member]
      simp only [Sending.message]
      split
      next enabled =>
        refine ⟨fun _ => ⟨.inl rfl, ?_, version, chosen, capable⟩, ?_⟩
        · exact requestsTraces_of_otelEnabled requested enabled
        · simp [Message.plain]
      next => exact permitted_of_plain (by simp)
  | confirming length chosen subscribes requested subscribed =>
      rw [List.mem_singleton.mp member]
      exact permitted_of_plain (by simp)
  | offered | awaitingRequest | awaitingSubscription => cases member

/-- A session has traces only if the client has asked for them. -/
theorem requestsTraces_of_traced
    {session : Session} (settled : Settled supported heard said session)
    (traced : session.traced = true) :
    RequestsTraces heard ∧ session.version.hasCapabilities = true := by
  obtain ⟨capabilities, known, enabled⟩ := (Option.any_eq_true _ _).mp traced
  cases capable : session.version.hasCapabilities with
  | false =>
      rw [settled.incapable capable] at known
      cases known
  | true =>
      obtain ⟨_, granted, _, _, _, told⟩ := settled.spoken
      obtain ⟨same, requested⟩ := told capable
      obtain rfl : capabilities = granted := by
        simpa [same, eq_comm] using known
      exact ⟨requestsTraces_of_otelEnabled requested enabled, rfl⟩

/-- The messages of a session carry what the client has asked for. -/
theorem permitted_of_attach
    {session : Session} {trace : TraceContext} {body : MessageBody}
    (settled : Settled supported heard said session)
    (news : body.kind = .cycle ∨ body.kind = .exit)
    (located :
      ∀ number scope sources, body = .cycle number (some scope) sources →
        session.version.hasScope = true) :
    Permitted supported heard (session.attach trace (Message.plain body)) where
  traced := by
    intro carried
    have traced : session.traced = true := by
      by_contra untraced
      rw [Session.attach, if_neg untraced] at carried
      exact carried rfl
    obtain ⟨requests, capable⟩ := requestsTraces_of_traced settled traced
    rw [Message.kind, Session.body_attach]
    exact ⟨.inr news, requests, session.version, settled.chosen, capable⟩
  located := by
    intro number scope sources same
    rw [Session.body_attach] at same
    exact ⟨session.version, settled.chosen, located number scope sources same⟩

theorem permitted_of_begun
    {request : Request} {message : Message}
    (settled : Settled supported heard said request.session)
    (begun : Begun server request next message) :
    Permitted supported heard message := by
  cases begun with
  | cycle errand =>
      refine permitted_of_attach settled (.inl rfl) ?_
      intro number scope sources same
      by_contra unscoped
      simp [unscoped] at same
  | exit errand =>
      exact permitted_of_attach settled (.inr rfl) (by simp)

/-- Whatever a step sends is permitted. -/
theorem permitted_of_move
    (orderly : Orderly server) (talk : Talk server heard said)
    (move : Move server event next effects) :
    ∀ message ∈ messages effects,
      Permitted server.options.supported (heard ++ event.shake?.toList)
        message := by
  have silently (silent : messages effects = []) :
      ∀ message ∈ messages effects,
        Permitted server.options.supported (heard ++ event.shake?.toList)
          message := by
    simp [silent]
  cases move with
  | aside uncalled unanswering shown claimed numbered silent stood ended =>
      exact silently silent.1
  | failed log failure logged =>
      exact silently (by simp [(silent_of_logs logged).1])
  | entered state shown advance spoken asked unended =>
      rw [spoken]
      intro message member
      exact permitted_of_standing (standing_of_advance talk advance) member
  | started found free unlined begins =>
      obtain ⟨own, rfl, begun⟩ := begun_of_begin begins
      intro message member
      rw [List.mem_singleton.mp member]
      exact (permitted_of_begun (talk.settled _ found) begun).append _
  | @turned request rest _ _ free lined begins =>
      obtain ⟨own, rfl, begun⟩ := begun_of_begin begins
      have found :=
        orderly.lined request (by rw [lined]; exact List.mem_cons_self)
      intro message member
      rw [List.mem_singleton.mp member]
      exact (permitted_of_begun (talk.settled _ found) begun).append _
  | returned log ending logged =>
      exact silently (by simp [(silent_of_logs logged).1])
  | listening | agreed | turnedAway | queued | cycleSent | waited =>
      exact silently rfl

/-- Whatever a server sends is permitted by what it has heard. -/
theorem permitted_run
    {options : ServerOptions} {events : List Event}
    (ran : run step (new options) events = some (server, effects)) :
    ∀ message ∈ messages effects,
      Permitted options.supported (receipts events) message := by
  refine run_induction
    (fun _ seen said =>
      ∀ message ∈ messages said,
        Permitted options.supported (receipts seen) message)
    (by simp) ?_ ran
  intro state seen said event next more reached permitted stepped
  obtain ⟨rfl, account⟩ := account_run reached
  rw [messages_append, receipts_snoc]
  intro message member
  rcases List.mem_append.mp member with earlier | last
  · exact (permitted message earlier).append _
  · exact permitted_of_move account.orderly account.talk
      (move_of_step stepped) message last

/-! ## What nobody can tell -/

/-- The client has not asked for traces, or its version has none. -/
def Untraced (options : ServerOptions) (events : List Event) : Prop :=
  ¬RequestsTraces (receipts events) ∨
    ∀ version, Chosen options.supported (receipts events) version →
      version.hasCapabilities = false

/-- No version was chosen that has scopes. -/
def Scopeless (options : ServerOptions) (events : List Event) : Prop :=
  ∀ version, Chosen options.supported (receipts events) version →
    version.hasScope = false

theorem scopeless_of_chosen
    {options : ServerOptions} {events : List Event}
    (chosen : Chosen options.supported (receipts events) .legacy) :
    Scopeless options events := by
  intro version again
  rw [← chosen.unique again]
  rfl

/-- A version without scopes has no traces either. -/
theorem Scopeless.untraced
    {options : ServerOptions} {events : List Event}
    (scopeless : Scopeless options events) : Untraced options events :=
  .inr scopeless

theorem Permitted.trace_eq_none
    {options : ServerOptions} {events : List Event} {message : Message}
    (permitted : Permitted options.supported (receipts events) message)
    (untraced : Untraced options events) : message.trace = .none := by
  by_contra carried
  obtain ⟨_, requests, version, chosen, capable⟩ := permitted.traced carried
  rcases untraced with silent | incapable
  · exact silent requests
  · simp [incapable version chosen] at capable

/-- What carries nothing looks the same behind the veil. -/
theorem veil_eq_self
    {message : Message} (hide : Scope → Scope)
    (bare : message.trace = .none)
    (kept :
      ∀ number scope sources,
        message.body = .cycle number (some scope) sources →
          hide scope = scope) :
    message.veil hide = message := by
  obtain ⟨trace, body⟩ := message
  obtain rfl : trace = .none := bare
  cases body with
  | cycle number scope sources =>
      cases scope with
      | none => rfl
      | some scope =>
          simp [Message.veil, MessageBody.veil, kept number scope sources rfl]
  | _ => rfl

theorem map_veil_eq_self
    {hide : Scope → Scope}
    (same : ∀ message ∈ messages effects, message.veil hide = message) :
    effects.map (Effect.veil hide) = effects := by
  refine (List.map_congr_left ?_).trans (List.map_id effects)
  intro effect member
  cases effect with
  | send party message =>
      rw [Effect.veil, same message (mem_messages member)]
      rfl
  | _ => rfl

/-- The veil hides nothing that the client says. -/
theorem receipts_map_veil (hide : Scope → Scope) (events : List Event) :
    receipts (events.map (Event.veil hide)) = receipts events := by
  rw [receipts, List.filterMap_map, receipts]
  congr 1
  funext event
  cases event <;> rfl

theorem receipts_eq_of_veil
    {hide : Scope → Scope} {events others : List Event}
    (alike : others.map (Event.veil hide) = events.map (Event.veil hide)) :
    receipts others = receipts events := by
  rw [← receipts_map_veil hide others, alike, receipts_map_veil]

/-- Where the veil hides nothing that is sent, the same is sent. -/
theorem run_eq_of_veil
    {hide : Scope → Scope} {options : ServerOptions}
    {events others : List Event}
    (ran : run step (new options) events = some (server, effects))
    (alike : others.map (Event.veil hide) = events.map (Event.veil hide))
    (open_ :
      ∀ message, Permitted options.supported (receipts events) message →
        message.veil hide = message) :
    ∃ final,
      run step (new options) others = some (final, effects) ∧
        final.veil hide = server.veil hide := by
  obtain ⟨final, said, alsoRan, states, spoken⟩ :=
    veil_eq_of_run hide ran alike
  have permitted := permitted_run ran
  have alsoPermitted := permitted_run alsoRan
  rw [receipts_eq_of_veil alike] at alsoPermitted
  rw [map_veil_eq_self fun message member =>
      open_ message (permitted message member),
    map_veil_eq_self fun message member =>
      open_ message (alsoPermitted message member)] at spoken
  exact ⟨final, spoken ▸ alsoRan, states⟩

/-! ## Any two runs -/

/-- Hides which scope it is. -/
def blank (_ : Scope) : Scope := .runfiles

/--
What a run gives away of the spans that are active and of the scopes that it
is called with.  Runs that look the same behind the veil differ in these only.
-/
structure Reticent (options : ServerOptions) (events : List Event)
    (server : Server) (effects : List Effect) : Prop where
  marked :
    ∀ message ∈ messages effects, message.trace ≠ .none →
      message.kind = .capsResponse ∨ message.kind = .cycle ∨
        message.kind = .exit
  untraced :
    Untraced options events →
      ∀ message ∈ messages effects, message.trace = .none
  /-- Other spans show in the identifiers of messages at most. -/
  alike :
    ∀ others, others.map (Event.veil id) = events.map (Event.veil id) →
      ∃ final said,
        run step (new options) others = some (final, said) ∧
          final.veil id = server.veil id ∧
          said.map (Effect.veil id) = effects.map (Effect.veil id)
  /-- Without traces they do not show at all. -/
  blind :
    Untraced options events →
      ∀ others, others.map (Event.veil id) = events.map (Event.veil id) →
        ∃ final,
          run step (new options) others = some (final, effects) ∧
            final.veil id = server.veil id
  /-- Without scopes, other scopes do not show either. -/
  scopeless :
    Scopeless options events →
      ∀ others,
        others.map (Event.veil blank) = events.map (Event.veil blank) →
          ∃ final,
            run step (new options) others = some (final, effects) ∧
              final.veil blank = server.veil blank

/--
Which spans are active shows in the grant, the cycles and the end of the
build, and only if the client has asked for traces by the value `true`; which
scopes a server is called with does not show on a version without scopes.
-/
theorem reticent_of_run
    {options : ServerOptions} {events : List Event}
    (ran : run step (new options) events = some (server, effects)) :
    Reticent options events server effects := by
  have permitted := permitted_run ran
  refine ⟨?_, ?_, ?_, ?_, ?_⟩
  · intro message member carried
    exact ((permitted message member).traced carried).1
  · intro untraced message member
    exact (permitted message member).trace_eq_none untraced
  · intro others same
    exact veil_eq_of_run id ran same
  · intro untraced others same
    refine run_eq_of_veil ran same fun message allowed => ?_
    exact veil_eq_self id (allowed.trace_eq_none untraced)
      fun _ _ _ _ => rfl
  · intro scopeless others same
    refine run_eq_of_veil ran same fun message allowed => ?_
    refine veil_eq_self blank (allowed.trace_eq_none scopeless.untraced) ?_
    intro number scope sources body
    obtain ⟨version, chosen, located⟩ :=
      allowed.located number scope sources body
    simp [scopeless version chosen] at located

/-- The visit of a client of version 0, with active spans and more to watch. -/
def spannedVisit : List Event :=
  [.serve ⟨1, 2⟩ (.ok ()), .accepted (.ok ()), .handshakeSent (.ok ()),
    .handshakeReceived (.ok (Message.plain (.negotiateResponse .legacy))),
    .call (.cycle ⟨3, 4⟩ .sources KeyMap.empty), .callSent (.ok ())]

theorem reticent_of_run_spannedVisit :
    ∃ server final effects,
      run step (new ⟨"build.sock", [.legacy]⟩) legacyVisit =
          some (server, effects) ∧
        Scopeless ⟨"build.sock", [.legacy]⟩ legacyVisit ∧
        run step (new ⟨"build.sock", [.legacy]⟩) spannedVisit =
          some (final, effects) := by
  obtain ⟨server, effects, ran⟩ :
      ∃ server effects,
        run step (new ⟨"build.sock", [.legacy]⟩) legacyVisit =
          some (server, effects) :=
    ⟨_, _, rfl⟩
  have scopeless : Scopeless ⟨"build.sock", [.legacy]⟩ legacyVisit :=
    scopeless_of_chosen ⟨_, rfl, rfl, by simp⟩
  obtain ⟨final, alsoRan, _⟩ :=
    (reticent_of_run ran).scopeless scopeless spannedVisit rfl
  exact ⟨server, final, effects, ran, scopeless, alsoRan⟩

end Server

end BuildWatch
