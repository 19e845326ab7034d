import BuildWatch.CommandLine.Program
import BuildWatch.Proofs.Capability.Request
import BuildWatch.Proofs.Client.Attachment

/-!
# What a user asks for

The scopes of the command line take the place of those of the configuration,
and traces are attached if either asks for them.  Whatever a user sets, a
server accepts the request, and a server without capabilities accepts it
exactly if the user asks for nothing.
-/

namespace BuildWatch.Config

section Request

variable (config : Config) (scopes : List Scope) (otel : Bool)

/-- The scopes that a user sets; those of the command line count first. -/
def wishes : List Scope :=
  if scopes = [] then config.scopes else scopes

/-- The scopes that are watched for a user, each where it is named first. -/
def watched : List Scope :=
  if config.wishes scopes = [] then [.runfiles]
  else (config.wishes scopes).eraseDups

/-- A user who sets no scopes and does not ask for traces. -/
structure Modest : Prop where
  scopeless : scopes = [] ∧ config.scopes = []
  untraced : otel = false ∧ config.otel = false

theorem wishes_eq_nil_iff :
    config.wishes scopes = [] ↔ scopes = [] ∧ config.scopes = [] := by
  rw [wishes]
  split
  next none => simp [none]
  next some => simp [some]

/-- A request consists of what the user sets. -/
theorem capabilityRequest_eq :
    config.capabilityRequest scopes otel =
      { scope :=
          if config.wishes scopes = [] then none
          else some (config.wishes scopes)
        otel := if otel || config.otel then some true else none
        extensions := KeyMap.empty } := by
  have chosen :
      (if scopes.isEmpty then config.scopes else scopes) =
        config.wishes scopes := by
    cases scopes <;> rfl
  rw [capabilityRequest, chosen]
  cases config.wishes scopes <;> cases otel || config.otel <;> rfl

theorem askedScopes_capabilityRequest :
    (config.capabilityRequest scopes otel).askedScopes =
      .ok (config.watched scopes) := by
  rw [capabilityRequest_eq, watched]
  cases config.wishes scopes <;> rfl

theorem askedOtel_capabilityRequest :
    (config.capabilityRequest scopes otel).askedOtel =
      if otel || config.otel then some true else none := by
  rw [capabilityRequest_eq]
  cases otel || config.otel <;> rfl

/-- Whatever a user sets, a server accepts it. -/
theorem ofWire_capabilityRequest :
    Capabilities.ofWire
        (some (Json.object (config.capabilityRequest scopes otel).toWire)) =
      .ok
        { scopes := config.watched scopes
          otel := if otel || config.otel then some true else none
          extensions := KeyMap.empty } := by
  rw [CapabilityRequest.ofWire_toWire_eq, askedScopes_capabilityRequest,
    askedOtel_capabilityRequest, capabilityRequest_eq]
  rfl

/-- A request is empty exactly if the user asks for nothing. -/
theorem isEmpty_capabilityRequest :
    (config.capabilityRequest scopes otel).isEmpty = true ↔
      config.Modest scopes otel := by
  have scopeless := config.wishes_eq_nil_iff scopes
  have untraced :
      (otel || config.otel) = false ↔ otel = false ∧ config.otel = false :=
    Bool.or_eq_false_iff
  have modest :
      config.Modest scopes otel ↔
        config.wishes scopes = [] ∧ (otel || config.otel) = false := by
    rw [scopeless, untraced]
    exact ⟨fun modest => ⟨modest.scopeless, modest.untraced⟩,
      fun ⟨scopeless, untraced⟩ => ⟨scopeless, untraced⟩⟩
  rw [capabilityRequest_eq, modest]
  cases config.wishes scopes <;> cases otel || config.otel <;>
    simp [CapabilityRequest.isEmpty, KeyMap.isEmpty, KeyMap.empty]

end Request

/-! ## Servers without capabilities -/

section Legacy

open Client

variable {client final : Client} {script : Script} {answers : List Event}
  {effects : List Effect}

/-- A server without capabilities accepts the empty request and no other. -/
theorem attached_iff_of_legacy
    {request : CapabilityRequest} (idle : client.activity = .idle)
    (apart : client.connection = none)
    (picked : Picks script client.options.supported .legacy)
    (chosen : script.sends 0 = .ok ())
    (completes : Completes client (.attach request) answers final effects)
    (follows : Follows script answers) :
    outcomes effects = [.attached (.ok ())] ↔ request.isEmpty = true := by
  cases empty : request.isEmpty with
  | true =>
      obtain ⟨_, _, comes⟩ :=
        comes_of_agrees idle apart (.legacy picked chosen empty)
      simp [(comes.of_completes completes follows).2.told]
  | false =>
      obtain ⟨_, _, comes⟩ :=
        comes_of_hinders idle apart (.demanding picked chosen empty)
      simp [(comes.of_completes completes follows).2.told]

end Legacy

/-! ## Every request -/

/-- A run of the program that watches asks for what the user sets. -/
theorem exists_capabilityRequest_of_plan
    {environment : CommandLine.Environment} {arguments : List String}
    {address : String} {options : ClientOptions} {request : CapabilityRequest}
    (planned :
      CommandLine.plan environment arguments =
        .watch address options request) :
    ∃ scopes otel,
      request = environment.config.capabilityRequest scopes otel := by
  rw [CommandLine.plan] at planned
  split at planned
  next => cases planned
  next found _ =>
    unfold CommandLine.task at planned
    split at planned
    next => cases planned
    next => cases planned
    next => cases planned
    next scopes otel _ =>
      split at planned
      next => cases planned
      next =>
        cases planned
        exact ⟨scopes, otel, rfl⟩

/-- What comes of what a user sets. -/
structure Honoured (config : Config) (scopes : List Scope) (otel : Bool) :
    Prop where
  /-- The request is accepted and means what is set, and nothing else. -/
  accepted :
    ∃ capabilities,
      Capabilities.ofWire
          (some (Json.object (config.capabilityRequest scopes otel).toWire)) =
          .ok capabilities ∧
        capabilities.scopes = config.watched scopes ∧
        (capabilities.otelEnabled = true ↔
          otel = true ∨ config.otel = true) ∧
        capabilities.extensions = KeyMap.empty
  empty :
    (config.capabilityRequest scopes otel).isEmpty = true ↔
      config.Modest scopes otel
  /-- Without capabilities the request is accepted if nothing is set. -/
  legacy :
    ∀ client script answers final effects,
      client.activity = .idle → client.connection = none →
        Client.Picks script client.options.supported .legacy →
          script.sends 0 = .ok () →
            Client.Completes client
                (.attach (config.capabilityRequest scopes otel)) answers
                final effects →
              Client.Follows script answers →
                (Client.outcomes effects = [.attached (.ok ())] ↔
                  config.Modest scopes otel)

/--
Whatever is set on the command line and in the configuration, the request is
accepted and asks for that and nothing else.  It is empty exactly if nothing
is set, and then a server without capabilities accepts it as well.  A run of
the program makes no other requests.
-/
theorem requests_always_accepted :
    (∀ config scopes otel, Honoured config scopes otel) ∧
    ∀ environment arguments address options request,
      CommandLine.plan environment arguments =
          .watch address options request →
        ∃ scopes otel,
          request = environment.config.capabilityRequest scopes otel := by
  refine ⟨fun config scopes otel => ⟨?_, ?_, ?_⟩, ?_⟩
  · refine ⟨_, config.ofWire_capabilityRequest scopes otel, rfl, ?_, rfl⟩
    simp [Capabilities.otelEnabled]
  · exact config.isEmpty_capabilityRequest scopes otel
  · intro client script answers final effects idle apart picked chosen
      completes follows
    rw [← config.isEmpty_capabilityRequest scopes otel]
    exact attached_iff_of_legacy idle apart picked chosen completes follows
  · intro environment arguments address options request
    exact exists_capabilityRequest_of_plan

/-- A server that offers the version without capabilities. -/
def legacyScript : Client.Script where
  sends := fun _ => .ok ()
  receives := fun _ => .ok (Message.plain (.negotiate [⟨7⟩, .legacy]))
  hangsUp := .ok ()

theorem requests_always_accepted_repeatedScope :
    (∃ capabilities,
      Capabilities.ofWire
          (some (Json.object
            (({ default with scopes := [.sources], otel := true } :
              Config).capabilityRequest
                [.runfiles, .sources, .runfiles] false).toWire)) =
          .ok capabilities ∧
        capabilities.scopes = [.runfiles, .sources] ∧
        capabilities.otelEnabled = true) ∧
      (∃ answers final effects,
        Client.Completes (Client.new .default)
            (.attach (default.capabilityRequest [] false)) answers final
            effects ∧
          Client.outcomes effects = [.attached (.ok ())]) ∧
      ∃ scopes otel,
        CommandLine.plan ⟨"/c", "/r", "/t", "7", some "/t/s", none⟩
            ["watch", "--scope", "sources"] =
          .watch "/t/s" .default (default.capabilityRequest scopes otel) := by
  refine ⟨?_, ?_, ?_⟩
  · obtain ⟨capabilities, accepted, scopes, otel, _⟩ :=
      (requests_always_accepted.1
        { default with scopes := [.sources], otel := true }
        [.runfiles, .sources, .runfiles] false).accepted
    exact ⟨capabilities, accepted, scopes, otel.mpr (.inr rfl)⟩
  · obtain ⟨answers, final, effects, completes, follows⟩ :=
      Client.exists_completes legacyScript
        (default.capabilityRequest [] false)
        (rfl : (Client.new .default).activity = .idle) rfl
    have picked :
        Client.Picks legacyScript Version.defaults .legacy :=
      ⟨_, [⟨7⟩], [], rfl, rfl, by decide, by decide⟩
    have modest : default.Modest [] false := ⟨⟨rfl, rfl⟩, rfl, rfl⟩
    have attached :=
      (requests_always_accepted.1 default [] false).legacy _ _ _ _ _ rfl rfl
        picked rfl completes follows
    exact ⟨answers, final, effects, completes, attached.mpr modest⟩
  · have planned :
        CommandLine.plan ⟨"/c", "/r", "/t", "7", some "/t/s", none⟩
            ["watch", "--scope", "sources"] =
          .watch "/t/s" .default
            (default.capabilityRequest [.sources] false) := by
      rfl
    obtain ⟨scopes, otel, same⟩ :=
      requests_always_accepted.2 _ _ _ _ _ planned
    exact ⟨scopes, otel, same ▸ planned⟩

end BuildWatch.Config
