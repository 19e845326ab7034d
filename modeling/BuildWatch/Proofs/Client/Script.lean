import BuildWatch.Proofs.Client.Calls
import BuildWatch.Proofs.Client.Talk
import BuildWatch.Proofs.Server.Reception

/-!
# Scripts for a call to attach

A client cannot choose its server.  A script says what the transport makes of
everything that it is asked for: of each message that is to be sent, of each
message that is to be received, and of hanging up.  It leaves a call one way
to its end, and it either lets the client come to an agreement or says what
keeps it from one.
-/

namespace BuildWatch

/-- The first version that is offered and supported. -/
theorem Version.select_eq_some_iff
    {offered supported : List Version} {version : Version} :
    select offered supported = some version ↔
      version ∈ supported ∧
        ∃ before after, offered = before ++ version :: after ∧
          ∀ other ∈ before, other ∉ supported := by
  simp [select, List.find?_eq_some_iff_append]

theorem Version.hasCapabilities_eq_false_iff
    {version : Version} :
    version.hasCapabilities = false ↔ version = .legacy := by
  obtain ⟨number⟩ := version
  simp [hasCapabilities, legacy]

namespace Client

open ClientHandshake

/-! ## Scripts -/

/-- What the transport makes of what it is asked for. -/
structure Script where
  sends : Nat → Delivery
  receives : Nat → Receipt
  hangsUp : Delivery

/-- What sending came to. -/
@[simp]
def Event.delivery? : Event → Option Delivery
  | .sent result => some result
  | _ => none

/-- What sending came to, in turn. -/
def deliveries (answers : List Event) : List Delivery :=
  answers.filterMap Event.delivery?

/-- What receiving came to, in turn. -/
def receipts (answers : List Event) : List Receipt :=
  answers.filterMap Event.heard?

theorem deliveries_snoc (answers : List Event) (event : Event) :
    deliveries (answers ++ [event]) =
      deliveries answers ++ event.delivery?.toList :=
  filterMap_snoc Event.delivery? answers event

theorem receipts_snoc (answers : List Event) (event : Event) :
    receipts (answers ++ [event]) =
      receipts answers ++ event.heard?.toList :=
  filterMap_snoc Event.heard? answers event

/-- The answers of the transport are those of a script. -/
structure Follows (script : Script) (answers : List Event) : Prop where
  sends :
    ∀ place result, (deliveries answers)[place]? = some result →
      result = script.sends place
  receives :
    ∀ place result, (receipts answers)[place]? = some result →
      result = script.receives place
  hangsUp :
    ∀ result, .closed result ∈ answers → result = script.hangsUp

/-! ## A script leaves no choice -/

/-- What the transport is asked for. -/
inductive Want where
  | delivery
  | receipt
  | closing
deriving DecidableEq

/-- What an event answers. -/
@[simp]
def Event.want? : Event → Option Want
  | .sent _ => some .delivery
  | .received _ => some .receipt
  | .closed _ => some .closing
  | _ => none

/-- What the call that is under way waits for. -/
def want? (client : Client) : Option Want :=
  match client.activity with
  | .idle => none
  | .shaking _ _ (.sending _) => some .delivery
  | .shaking _ _ (.receiving _) => some .receipt
  | .subscribing _ .sending => some .delivery
  | .subscribing _ .awaiting => some .receipt
  | .abandoning _ => some .closing
  | .disconnecting => some .closing

variable {client next final : Client} {event : Event} {effects : List Effect}

/-- The transport answers what it was asked for. -/
theorem want?_of_step
    (answers : event.starts = false)
    (stepped : client.step event = some (next, effects)) :
    event.want? = client.want? := by
  cases event with
  | attach | disconnect | awaitCycles => simp [Event.starts] at answers
  | sent result =>
      simp only [step, sent] at stepped
      split at stepped
      next active => simp [want?, active]
      next active => simp [want?, active]
      next => simp at stepped
  | received result =>
      simp only [step, received] at stepped
      split at stepped
      next active => simp [want?, active]
      next active => simp [want?, active]
      next => simp at stepped
  | closed result =>
      simp only [step, closed] at stepped
      split at stepped
      next active => simp [want?, active]
      next active => simp [want?, active]
      next => simp at stepped

/-- Two answers of a script to the same question are the same. -/
theorem eq_of_follows
    {script : Script} {past rest more : List Event} {other : Event}
    (follows : Follows script (past ++ event :: rest))
    (again : Follows script (past ++ other :: more))
    (answers : event.starts = false) (same : event.want? = other.want?) :
    event = other := by
  cases event with
  | attach | disconnect | awaitCycles => simp [Event.starts] at answers
  | sent result =>
      cases other with
      | sent known =>
          rw [follows.sends (deliveries past).length result
              (by simp [deliveries]),
            again.sends (deliveries past).length known (by simp [deliveries])]
      | _ => simp at same
  | received result =>
      cases other with
      | received known =>
          rw [follows.receives (receipts past).length result
              (by simp [receipts]),
            again.receives (receipts past).length known (by simp [receipts])]
      | _ => simp at same
  | closed result =>
      cases other with
      | closed known =>
          rw [follows.hangsUp result (by simp), again.hangsUp known (by simp)]
      | _ => simp at same

/-- Behind a script a call comes to its end in one way only. -/
theorem answers_unique
    {script : Script} {answers others : List Event} (past : List Event)
    {first second : Client} {said spoken : List Effect}
    (follows : Follows script (past ++ answers))
    (again : Follows script (past ++ others))
    (answered : ∀ event ∈ answers, event.starts = false)
    (alsoAnswered : ∀ event ∈ others, event.starts = false)
    (ran : run step client answers = some (first, said))
    (alsoRan : run step client others = some (second, spoken))
    (idle : first.activity = .idle) (alsoIdle : second.activity = .idle) :
    answers = others := by
  induction answers generalizing client past others said spoken with
  | nil =>
      obtain ⟨rfl, rfl⟩ := Prod.mk.inj (Option.some.inj ran)
      exact (unanswered_of_idle idle alsoAnswered alsoRan).1.symm
  | cons answer rest ih =>
      cases others with
      | nil =>
          obtain ⟨rfl, rfl⟩ := Prod.mk.inj (Option.some.inj alsoRan)
          exact (unanswered_of_idle alsoIdle answered ran).1
      | cons other more =>
          obtain ⟨state, _, _, stepped, behind, rfl⟩ :=
            run_cons_eq_some_iff.mp ran
          obtain ⟨state', _, _, stepped', behind', rfl⟩ :=
            run_cons_eq_some_iff.mp alsoRan
          have unstarted := answered answer List.mem_cons_self
          have same : answer.want? = other.want? :=
            (want?_of_step unstarted stepped).trans
              (want?_of_step (alsoAnswered other List.mem_cons_self)
                stepped').symm
          obtain rfl := eq_of_follows follows again unstarted same
          rw [stepped, Option.some.injEq, Prod.mk.injEq] at stepped'
          obtain ⟨rfl, rfl⟩ := stepped'
          have follows' : Follows script ((past ++ [answer]) ++ rest) := by
            simpa using follows
          have again' : Follows script ((past ++ [answer]) ++ more) := by
            simpa using again
          rw [ih (past ++ [answer]) follows' again'
            (fun event member => answered event (List.mem_cons_of_mem _ member))
            (fun event member =>
              alsoAnswered event (List.mem_cons_of_mem _ member))
            behind behind']

/-! ## What a script comes to -/

section Scripts

variable (script : Script) (supported : List Version)
  (request : CapabilityRequest)

/-- The server offers versions of which this is the first supported one. -/
def Picks (version : Version) : Prop :=
  ∃ message before after,
    script.receives 0 = .ok message ∧
      message.body = .negotiate (before ++ version :: after) ∧
      version ∈ supported ∧ ∀ other ∈ before, other ∉ supported

/-- The server answers with what these capabilities are the meaning of. -/
def Grants (capabilities : Capabilities) : Prop :=
  ∃ message granted,
    script.receives 1 = .ok message ∧
      message.body = .capsResponse granted ∧
      Capabilities.ofWire (some granted) = .ok capabilities

/-- The script of a server that the client comes to an agreement with. -/
inductive Agrees : Agreement → Prop where
  | legacy
      (picked : Picks script supported .legacy)
      (chosen : script.sends 0 = .ok ())
      (modest : request.isEmpty = true) :
      Agrees ⟨.legacy, none⟩
  | granted {version : Version} {capabilities : Capabilities}
      (picked : Picks script supported version)
      (capable : version ≠ .legacy)
      (chosen : script.sends 0 = .ok ())
      (asked : script.sends 1 = .ok ())
      (granted : Grants script capabilities) :
      Agrees ⟨version, some capabilities⟩

/--
What keeps the client from an agreement, which messages it sends before and
how many it receives.
-/
inductive Hinders : ProtocolError → List Message → Nat → Prop where
  | unheard {error : TransportError}
      (broken : script.receives 0 = .error error) :
      Hinders (ProtocolError.ofTransport error) [] 1
  | unoffered {message : Message}
      (heard : script.receives 0 = .ok message)
      (other : ∀ offered, message.body ≠ .negotiate offered) :
      Hinders (.unexpected .negotiate message) [] 1
  /-- No version is offered that is supported. -/
  | disjoint {message : Message} {offered : List Version}
      (heard : script.receives 0 = .ok message)
      (body : message.body = .negotiate offered)
      (foreign : ∀ version ∈ offered, version ∉ supported) :
      Hinders (.noCommonVersion offered supported) [] 1
  | unchosen {version : Version} {error : TransportError}
      (picked : Picks script supported version)
      (broken : script.sends 0 = .error error) :
      Hinders (ProtocolError.ofTransport error) [choice version] 1
  /-- Capabilities are asked for that the version does not have. -/
  | demanding
      (picked : Picks script supported .legacy)
      (chosen : script.sends 0 = .ok ())
      (wishes : request.isEmpty = false) :
      Hinders (.capabilitiesUnsupported .legacy) [choice .legacy] 1
  | unasked {version : Version} {error : TransportError}
      (picked : Picks script supported version)
      (capable : version ≠ .legacy)
      (chosen : script.sends 0 = .ok ())
      (broken : script.sends 1 = .error error) :
      Hinders (ProtocolError.ofTransport error)
        [choice version, wish request] 1
  | unanswered {version : Version} {error : TransportError}
      (picked : Picks script supported version)
      (capable : version ≠ .legacy)
      (chosen : script.sends 0 = .ok ())
      (asked : script.sends 1 = .ok ())
      (broken : script.receives 1 = .error error) :
      Hinders (ProtocolError.ofTransport error)
        [choice version, wish request] 2
  | ungranted {version : Version} {message : Message}
      (picked : Picks script supported version)
      (capable : version ≠ .legacy)
      (chosen : script.sends 0 = .ok ())
      (asked : script.sends 1 = .ok ())
      (heard : script.receives 1 = .ok message)
      (other : ∀ granted, message.body ≠ .capsResponse granted) :
      Hinders (.unexpected .capsResponse message)
        [choice version, wish request] 2
  /-- What is granted means nothing. -/
  | senseless {version : Version} {message : Message} {granted : Json}
      {error : CapabilityError}
      (picked : Picks script supported version)
      (capable : version ≠ .legacy)
      (chosen : script.sends 0 = .ok ())
      (asked : script.sends 1 = .ok ())
      (heard : script.receives 1 = .ok message)
      (body : message.body = .capsResponse granted)
      (refused : Capabilities.ofWire (some granted) = .error error) :
      Hinders (.capability error) [choice version, wish request] 2

end Scripts

section Verdicts

variable {script : Script} {supported : List Version}
  {request : CapabilityRequest}

/-- Something keeps the client from an agreement. -/
def Hindered (script : Script) (supported : List Version)
    (request : CapabilityRequest) : Prop :=
  ∃ error said heard, Hinders script supported request error said heard

/-- The first receipt lets the client pick a version, or it does not. -/
theorem picks_or_hindered
    (script : Script) (supported : List Version)
    (request : CapabilityRequest) :
    (∃ version, Picks script supported version) ∨
      Hindered script supported request := by
  cases first : script.receives 0 with
  | error error => exact .inr ⟨_, _, _, .unheard first⟩
  | ok message =>
      by_cases offers : ∃ offered, message.body = .negotiate offered
      · obtain ⟨offered, body⟩ := offers
        cases selected : Version.select offered supported with
        | none =>
            have foreign := Version.select_eq_none_iff.mp selected
            exact .inr ⟨_, _, _, .disjoint first body foreign⟩
        | some version =>
            obtain ⟨known, before, after, rfl, foreign⟩ :=
              Version.select_eq_some_iff.mp selected
            exact .inl
              ⟨version, message, before, after, first, body, known, foreign⟩
      · refine .inr ⟨_, _, _, .unoffered first ?_⟩
        exact fun offered body => offers ⟨offered, body⟩

/-- The second receipt grants what was asked for, or it does not. -/
theorem grants_or_hindered
    {version : Version} (request : CapabilityRequest)
    (picked : Picks script supported version) (capable : version ≠ .legacy)
    (chosen : script.sends 0 = .ok ()) (asked : script.sends 1 = .ok ()) :
    (∃ capabilities, Grants script capabilities) ∨
      Hindered script supported request := by
  cases second : script.receives 1 with
  | error error =>
      exact .inr ⟨_, _, _, .unanswered picked capable chosen asked second⟩
  | ok message =>
      by_cases grants : ∃ granted, message.body = .capsResponse granted
      · obtain ⟨granted, body⟩ := grants
        cases meant : Capabilities.ofWire (some granted) with
        | error error =>
            exact .inr ⟨_, _, _,
              .senseless picked capable chosen asked second body meant⟩
        | ok capabilities =>
            exact .inl ⟨capabilities, message, granted, second, body, meant⟩
      · refine .inr ⟨_, _, _,
          .ungranted picked capable chosen asked second ?_⟩
        exact fun granted body => grants ⟨granted, body⟩

/-- Every script comes to an agreement, or something keeps it from one. -/
theorem agrees_or_hindered
    (script : Script) (supported : List Version)
    (request : CapabilityRequest) :
    (∃ agreement, Agrees script supported request agreement) ∨
      Hindered script supported request := by
  rcases picks_or_hindered script supported request with
    ⟨version, picked⟩ | hindered
  case inr => exact .inr hindered
  cases chosen : script.sends 0 with
  | error error => exact .inr ⟨_, _, _, .unchosen picked chosen⟩
  | ok done =>
      by_cases legacy : version = .legacy
      · subst legacy
        cases modest : request.isEmpty with
        | true => exact .inl ⟨_, .legacy picked chosen modest⟩
        | false => exact .inr ⟨_, _, _, .demanding picked chosen modest⟩
      · cases asked : script.sends 1 with
        | error error =>
            exact .inr ⟨_, _, _, .unasked picked legacy chosen asked⟩
        | ok done =>
            rcases grants_or_hindered request picked legacy chosen asked with
              ⟨capabilities, granted⟩ | hindered
            · exact .inl ⟨_, .granted picked legacy chosen asked granted⟩
            · exact .inr hindered

end Verdicts

end Client

end BuildWatch
