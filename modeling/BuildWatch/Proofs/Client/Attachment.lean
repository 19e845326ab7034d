import BuildWatch.Proofs.Client.Script

/-!
# How a call to attach ends

Along every script of the transport a call to attach comes to its end.  The
stages of the handshake take the script up in turn; where it lets the client
come to an agreement the client is connected, and where it is in the way the
client hangs up.  Either way the script says how many messages are sent and
how many are received by then.
-/

namespace BuildWatch.Client

open ClientHandshake

variable {client next final : Client} {event : Event} {effects : List Effect}

/-! ## How the script is gone through -/

/-- Whether an effect asks the transport for a message. -/
def Effect.asksMessage : Effect → Bool
  | .receive _ => true
  | _ => false

/-- How often effects ask the transport for a message. -/
def requests (effects : List Effect) : Nat :=
  effects.countP Effect.asksMessage

theorem messages_append (first second : List Effect) :
    messages (first ++ second) = messages first ++ messages second :=
  List.filterMap_append

theorem requests_append (first second : List Effect) :
    requests (first ++ second) = requests first + requests second :=
  List.countP_append

/-- What a script answers in a stage. -/
def Script.answer (script : Script) (sent heard : Nat) : Stage → Event
  | .sending _ => .sent (script.sends sent)
  | .receiving _ => .received (script.receives heard)

/-- How the handshake goes on behind that. -/
def Script.leadsTo (script : Script) (supported : List Version)
    (request : CapabilityRequest) (sent heard : Nat) :
    Stage → Except ProtocolError (Progress Stage Agreement)
  | .sending stage => do
      (script.sends sent).mapError ProtocolError.ofTransport
      stage.sent request
  | .receiving stage => do
      let message ← (script.receives heard).mapError ProtocolError.ofTransport
      stage.received supported message

/-- How many messages a stage sends. -/
def sendings : Stage → Nat
  | .sending _ => 1
  | .receiving _ => 0

/-- How many messages a stage receives. -/
def receivings : Stage → Nat
  | .sending _ => 0
  | .receiving _ => 1

/-- A client in a stage of the handshake on its next connection. -/
def joining (client : Client) (request : CapabilityRequest) (stage : Stage)
    (state : ClientState) (version : Option Version) : Client :=
  { client with
    state, version
    connection := some client.nextConnection
    activity := .shaking client.nextConnection request stage
    nextConnection := client.nextConnection + 1 }

/-- A client that came to an agreement on its next connection. -/
def joined (client : Client) (agreement : Agreement) : Client :=
  { client with
    state := .connected agreement.version
    connection := some client.nextConnection
    version := some agreement.version
    capabilities := agreement.capabilities
    activity := .idle
    nextConnection := client.nextConnection + 1 }

/-- A client whose next connection came to nothing. -/
def rebuffed (client : Client) : Client :=
  { client.forget with
    activity := .idle, nextConnection := client.nextConnection + 1 }

/-- How far a call to attach is in its script. -/
inductive Shaking (client : Client) (request : CapabilityRequest)
    (script : Script) :
    Stage → (sent heard : Nat) → List Message → Prop where
  | reached {stage : Stage} {sent heard : Nat} {said : List Message}
      {answers : List Event} {state : ClientState} {version : Option Version}
      {effects : List Effect}
      (ran :
        run step client (.attach request :: answers) =
          some (client.joining request stage state version, effects))
      (answered : ∀ event ∈ answers, event.starts = false)
      (follows : Follows script answers)
      (delivered : (deliveries answers).length = sent)
      (received : (receipts answers).length = heard)
      (untold : outcomes effects = [])
      (spoken : messages effects = said)
      (asked : requests effects = heard + receivings stage) :
      Shaking client request script stage sent heard said

/-- What a call to attach comes to along its script. -/
structure Comes (client : Client) (request : CapabilityRequest)
    (script : Script) (answers : List Event) (final : Client)
    (effects : List Effect) (result : Except ProtocolError Unit)
    (said : List Message) (heard : Nat) : Prop where
  completes : Completes client (.attach request) answers final effects
  follows : Follows script answers
  told : outcomes effects = [.attached result]
  spoken : messages effects = said
  received : (receipts answers).length = heard
  /-- Nothing is asked for that is not received. -/
  asked : requests effects = heard

theorem follows_nil (script : Script) : Follows script [] where
  sends := by simp [deliveries]
  receives := by simp [receipts]
  hangsUp := by simp

/-- A list that follows a function still does with the next value. -/
theorem followed_snoc
    {α : Type} {values : Nat → α} {items : List α}
    (followed :
      ∀ place item, items[place]? = some item → item = values place) :
    ∀ place item, (items ++ [values items.length])[place]? = some item →
      item = values place := by
  intro place item found
  rcases Nat.lt_or_ge place items.length with inside | behind
  · rw [List.getElem?_append_left inside] at found
    exact followed place item found
  · rw [List.getElem?_append_right behind, List.getElem?_singleton] at found
    split at found
    next first =>
      obtain rfl : place = items.length := by omega
      exact (Option.some.inj found).symm
    next => simp at found

section Course

variable {script : Script} {request : CapabilityRequest} {stage : Stage}
  {sent heard : Nat} {said : List Message} {answers : List Event}

/-- The next answer of the script follows the script. -/
theorem Follows.answer
    (follows : Follows script answers)
    (delivered : (deliveries answers).length = sent)
    (received : (receipts answers).length = heard) :
    Follows script (answers ++ [script.answer sent heard stage]) := by
  subst delivered received
  obtain ⟨sends, receives, hangsUp⟩ := follows
  cases stage with
  | sending stage =>
      refine ⟨?_, ?_, by simpa [Script.answer] using hangsUp⟩
      · simpa [deliveries_snoc, Script.answer] using followed_snoc sends
      · simpa [receipts_snoc, Script.answer] using receives
  | receiving stage =>
      refine ⟨?_, ?_, by simpa [Script.answer] using hangsUp⟩
      · simpa [deliveries_snoc, Script.answer] using sends
      · simpa [receipts_snoc, Script.answer] using followed_snoc receives

theorem Follows.closed
    (follows : Follows script answers) :
    Follows script (answers ++ [.closed script.hangsUp]) where
  sends := by simpa [deliveries_snoc] using follows.sends
  receives := by simpa [receipts_snoc] using follows.receives
  hangsUp := by
    intro result member
    rcases List.mem_append.mp member with earlier | last
    · exact follows.hangsUp result earlier
    · cases List.mem_singleton.mp last
      rfl

/-- How many answers of either kind there are behind a stage. -/
theorem length_answer
    (delivered : (deliveries answers).length = sent)
    (received : (receipts answers).length = heard) :
    (deliveries (answers ++ [script.answer sent heard stage])).length =
        sent + sendings stage ∧
      (receipts (answers ++ [script.answer sent heard stage])).length =
        heard + receivings stage := by
  rw [deliveries_snoc, receipts_snoc]
  cases stage <;>
    simp [Script.answer, sendings, receivings, delivered, received]

/-- A client in its handshake takes the answer of the script. -/
theorem step_answer (state : ClientState) (version : Option Version) :
    step (client.joining request stage state version)
        (script.answer sent heard stage) =
      some
        (proceed (client.joining request stage state version)
          client.nextConnection request
          (script.leadsTo client.options.supported request sent heard
            stage)) := by
  cases stage <;> rfl

/-- A call to attach waits for the versions first of all. -/
theorem shaking_start
    (idle : client.activity = .idle) (apart : client.connection = none) :
    Shaking client request script start 0 0 [] := by
  have ran :
      run step client (.attach request :: []) =
        some
          (client.joining request start .negotiating client.version,
            [.receive client.nextConnection]) := by
    simp [step, idle, attach, apart, enterStage, joining, start]
  exact .reached ran (by simp) (follows_nil script) rfl rfl rfl rfl rfl

/-- What is sent and asked for as a stage is entered. -/
theorem entered_joining
    {effects : List Effect} (state : ClientState) (version : Option Version)
    (next : Stage)
    (entered :
      proceed (client.joining request stage state version)
          client.nextConnection request (.ok (.next next)) =
        (final, effects)) :
    (∃ state version, final = client.joining request next state version) ∧
      outcomes effects = [] ∧
      messages effects = stageMessages request next ∧
      requests effects = receivings next := by
  obtain ⟨rfl, rfl⟩ := Prod.mk.inj entered
  rcases next with (_ | _) | _ <;> exact ⟨⟨_, _, rfl⟩, rfl, rfl, rfl⟩

theorem starts_answer
    (answered : ∀ event ∈ answers, event.starts = false) :
    ∀ event ∈ answers ++ [script.answer sent heard stage],
      event.starts = false := by
  intro event member
  rcases List.mem_append.mp member with earlier | last
  · exact answered event earlier
  · rw [List.mem_singleton.mp last]
    cases stage <;> rfl

/-- The call goes on with the next answer of the script. -/
theorem ran_answer
    {said more : List Effect} {state : ClientState} {version : Option Version}
    {progress : Except ProtocolError (Progress Stage Agreement)}
    (ran :
      run step client (.attach request :: answers) =
        some (client.joining request stage state version, said))
    (leads :
      script.leadsTo client.options.supported request sent heard stage =
        progress)
    (reaction :
      proceed (client.joining request stage state version)
          client.nextConnection request progress =
        (final, more)) :
    run step client
        (.attach request :: (answers ++ [script.answer sent heard stage])) =
      some (final, said ++ more) := by
  rw [← List.cons_append]
  refine run_snoc_eq_some_iff.mpr ⟨_, _, _, ran, ?_, rfl⟩
  rw [step_answer, leads, reaction]

/-- The handshake gets to the next stage. -/
theorem Shaking.enter
    {next : Stage}
    (shaking : Shaking client request script stage sent heard said)
    (leads :
      script.leadsTo client.options.supported request sent heard stage =
        .ok (.next next)) :
    Shaking client request script next (sent + sendings stage)
      (heard + receivings stage) (said ++ stageMessages request next) := by
  cases shaking with
  | @reached answers state version effects ran answered follows delivered
      received untold spoken asked =>
    obtain ⟨now, more, entered⟩ :
        ∃ now more,
          proceed (client.joining request stage state version)
              client.nextConnection request (.ok (.next next)) =
            (now, more) := ⟨_, _, rfl⟩
    have extended := ran_answer ran leads entered
    obtain ⟨⟨_, _, rfl⟩, quiet, spoke, wanted⟩ :=
      entered_joining state version next entered
    obtain ⟨sends, hears⟩ := length_answer delivered received
    refine .reached extended (starts_answer answered)
      (follows.answer delivered received) sends hears ?_ ?_ ?_
    · rw [outcomes_append, untold, quiet]
      rfl
    · rw [messages_append, spoken, spoke]
    · rw [requests_append, asked, wanted]

/-- The handshake comes to an agreement, and the call returns. -/
theorem Shaking.agree
    {agreement : Agreement}
    (shaking : Shaking client request script stage sent heard said)
    (leads :
      script.leadsTo client.options.supported request sent heard stage =
        .ok (.agreed agreement)) :
    ∃ answers effects,
      Comes client request script answers (client.joined agreement) effects
        (.ok ()) said (heard + receivings stage) := by
  cases shaking with
  | @reached answers state version effects ran answered follows delivered
      received untold spoken asked =>
    have extended := ran_answer ran leads rfl
    refine ⟨_, _, ⟨extended, starts_answer answered, rfl⟩,
      follows.answer delivered received, ?_, ?_,
      (length_answer delivered received).2, ?_⟩
    · rw [outcomes_append, untold]
      rfl
    · rw [messages_append, spoken]
      exact List.append_nil said
    · rw [requests_append, asked]
      rfl

/-- The handshake breaks off, and the call hangs up and returns. -/
theorem Shaking.abandon
    {error : ProtocolError}
    (shaking : Shaking client request script stage sent heard said)
    (leads :
      script.leadsTo client.options.supported request sent heard stage =
        .error error) :
    ∃ answers effects,
      Comes client request script answers client.rebuffed effects
        (.error error) said (heard + receivings stage) := by
  cases shaking with
  | @reached answers state version effects ran answered follows delivered
      received untold spoken asked =>
    have extended := ran_answer ran leads rfl
    have closing :
        run step client
            (.attach request ::
              (answers ++ [script.answer sent heard stage] ++
                [.closed script.hangsUp])) =
          some
            (client.rebuffed,
              effects ++ [.close client.nextConnection] ++
                [.finish (.attached (.error error))]) := by
      rw [← List.cons_append]
      exact run_snoc_eq_some_iff.mpr ⟨_, _, _, extended, rfl, rfl⟩
    refine ⟨_, _, ⟨closing, ?_, rfl⟩,
      (follows.answer delivered received).closed, ?_, ?_, ?_, ?_⟩
    · intro event member
      rcases List.mem_append.mp member with earlier | last
      · exact starts_answer answered event earlier
      · rw [List.mem_singleton.mp last]
        rfl
    · rw [outcomes_append, outcomes_append, untold]
      rfl
    · rw [messages_append, messages_append, spoken]
      simp
    · rw [receipts_snoc, List.length_append,
        (length_answer delivered received).2]
      rfl
    · rw [requests_append, requests_append, asked]
      rfl

end Course

/-! ## Stage by stage -/

section Stages

variable {script : Script} {supported : List Version}
  {request : CapabilityRequest} {version : Version} {sent heard : Nat}

theorem hasCapabilities_of_ne_legacy
    (capable : version ≠ .legacy) : version.hasCapabilities = true := by
  simpa using mt Version.hasCapabilities_eq_false_iff.mp capable

theorem leadsTo_of_unsent
    {stage : Sending} {error : TransportError}
    (broken : script.sends sent = .error error) :
    script.leadsTo supported request sent heard (.sending stage) =
      .error (ProtocolError.ofTransport error) := by
  rw [Script.leadsTo, broken]
  rfl

theorem leadsTo_of_sent
    {stage : Sending} (done : script.sends sent = .ok ()) :
    script.leadsTo supported request sent heard (.sending stage) =
      stage.sent request := by
  rw [Script.leadsTo, done]
  rfl

theorem leadsTo_of_unheard
    {stage : Receiving} {error : TransportError}
    (broken : script.receives heard = .error error) :
    script.leadsTo supported request sent heard (.receiving stage) =
      .error (ProtocolError.ofTransport error) := by
  rw [Script.leadsTo, broken]
  rfl

theorem leadsTo_of_heard
    {stage : Receiving} {message : Message}
    (arrived : script.receives heard = .ok message) :
    script.leadsTo supported request sent heard (.receiving stage) =
      stage.received supported message := by
  rw [Script.leadsTo, arrived]
  rfl

/-- Behind the versions the client chooses the one that it picks. -/
theorem shaking_choosing
    (idle : client.activity = .idle) (apart : client.connection = none)
    (picked : Picks script client.options.supported version) :
    Shaking client request script (.sending (.choose version)) 0 1
      [choice version] := by
  obtain ⟨message, before, after, first, body, known, foreign⟩ := picked
  refine (shaking_start idle apart).enter ((leadsTo_of_heard first).trans ?_)
  have selected :
      Version.select (before ++ version :: after) client.options.supported =
        some version :=
    Version.select_eq_some_iff.mpr ⟨known, before, after, rfl, foreign⟩
  simp [Receiving.received, body, selected]

/-- Behind its choice the client asks for capabilities. -/
theorem shaking_requesting
    (idle : client.activity = .idle) (apart : client.connection = none)
    (picked : Picks script client.options.supported version)
    (capable : version ≠ .legacy) (chosen : script.sends 0 = .ok ()) :
    Shaking client request script (.sending (.request version)) 1 1
      [choice version, wish request] := by
  refine (shaking_choosing idle apart picked).enter
    ((leadsTo_of_sent chosen).trans ?_)
  rw [Sending.sent, if_pos (hasCapabilities_of_ne_legacy capable)]

/-- Behind its request the client waits for the answer. -/
theorem shaking_waiting
    (idle : client.activity = .idle) (apart : client.connection = none)
    (picked : Picks script client.options.supported version)
    (capable : version ≠ .legacy) (chosen : script.sends 0 = .ok ())
    (asked : script.sends 1 = .ok ()) :
    Shaking client request script (.receiving (.grant version)) 2 1
      [choice version, wish request] :=
  (shaking_requesting idle apart picked capable chosen).enter
    (leadsTo_of_sent asked)

/-- A call that comes to an agreement. -/
theorem comes_of_agrees
    {agreement : Agreement}
    (idle : client.activity = .idle) (apart : client.connection = none)
    (agrees : Agrees script client.options.supported request agreement) :
    ∃ answers effects,
      Comes client request script answers (client.joined agreement) effects
        (.ok ()) (attachment request agreement.version)
        (if agreement.version = .legacy then 1 else 2) := by
  cases agrees with
  | legacy picked chosen modest =>
      have shaking :
          Shaking client request script (.sending (.choose .legacy)) 0 1
            [choice .legacy] :=
        shaking_choosing idle apart picked
      refine shaking.agree ((leadsTo_of_sent chosen).trans ?_)
      simp [Sending.sent, modest, Version.hasCapabilities_eq_false_iff.mpr rfl]
  | @granted version capabilities picked capable chosen asked granted =>
      obtain ⟨message, value, second, body, meant⟩ := granted
      have shaking :
          Shaking client request script (.receiving (.grant version)) 2 1
            [choice version, wish request] :=
        shaking_waiting idle apart picked capable chosen asked
      rw [if_neg capable, attachment,
        if_pos (hasCapabilities_of_ne_legacy capable)]
      refine shaking.agree ((leadsTo_of_heard second).trans ?_)
      simp [Receiving.received, body, meant]

/-- A call that something keeps from an agreement. -/
theorem comes_of_hinders
    {error : ProtocolError} {said : List Message}
    (idle : client.activity = .idle) (apart : client.connection = none)
    (hinders :
      Hinders script client.options.supported request error said heard) :
    ∃ answers effects,
      Comes client request script answers client.rebuffed effects
        (.error error) said heard := by
  cases hinders with
  | unheard broken =>
      exact (shaking_start idle apart).abandon (leadsTo_of_unheard broken)
  | unoffered first other =>
      refine (shaking_start idle apart).abandon
        ((leadsTo_of_heard first).trans ?_)
      rw [Receiving.received]
      split
      next offered body => exact absurd body (other offered)
      next => rfl
  | disjoint first body foreign =>
      refine (shaking_start idle apart).abandon
        ((leadsTo_of_heard first).trans ?_)
      simp [Receiving.received, body, Version.select_eq_none_iff.mpr foreign]
  | unchosen picked broken =>
      exact (shaking_choosing idle apart picked).abandon
        (leadsTo_of_unsent broken)
  | demanding picked chosen wishes =>
      refine (shaking_choosing idle apart picked).abandon
        ((leadsTo_of_sent chosen).trans ?_)
      simp [Sending.sent, wishes, Version.hasCapabilities_eq_false_iff.mpr rfl]
  | unasked picked capable chosen broken =>
      exact (shaking_requesting idle apart picked capable chosen).abandon
        (leadsTo_of_unsent broken)
  | unanswered picked capable chosen asked broken =>
      exact (shaking_waiting idle apart picked capable chosen asked).abandon
        (leadsTo_of_unheard broken)
  | ungranted picked capable chosen asked second other =>
      refine (shaking_waiting idle apart picked capable chosen asked).abandon
        ((leadsTo_of_heard second).trans ?_)
      rw [Receiving.received]
      split
      next granted body => exact absurd body (other granted)
      next => rfl
  | senseless picked capable chosen asked second body refused =>
      refine (shaking_waiting idle apart picked capable chosen asked).abandon
        ((leadsTo_of_heard second).trans ?_)
      simp [Receiving.received, body, refused]

end Stages

/-! ## Every script -/

/-- All that a call comes to along a script, it comes to along its answers. -/
theorem Comes.of_completes
    {script : Script} {request : CapabilityRequest}
    {answers others : List Event} {reached : Client} {spoken : List Effect}
    {result : Except ProtocolError Unit} {said : List Message} {heard : Nat}
    (comes :
      Comes client request script others reached spoken result said heard)
    (completes : Completes client (.attach request) answers final effects)
    (follows : Follows script answers) :
    final = reached ∧
      Comes client request script answers final effects result said heard := by
  obtain ⟨state, _, _, stepped, behind, rfl⟩ :=
    run_cons_eq_some_iff.mp completes.ran
  obtain ⟨state', _, _, stepped', behind', rfl⟩ :=
    run_cons_eq_some_iff.mp comes.completes.ran
  rw [stepped, Option.some.injEq, Prod.mk.injEq] at stepped'
  obtain ⟨rfl, rfl⟩ := stepped'
  obtain rfl : answers = others :=
    answers_unique [] follows comes.follows completes.answered
      comes.completes.answered behind behind' completes.idle
      comes.completes.idle
  rw [behind, Option.some.injEq, Prod.mk.injEq] at behind'
  obtain ⟨rfl, rfl⟩ := behind'
  exact ⟨rfl, comes⟩

/-- How the end of a call to attach hangs on its script. -/
structure Judged (client : Client) (request : CapabilityRequest)
    (script : Script) (answers : List Event) (final : Client)
    (effects : List Effect) : Prop where
  attached :
    outcomes effects = [.attached (.ok ())] ↔
      ∃ agreement,
        Agrees script client.options.supported request agreement
  agreed :
    ∀ agreement, Agrees script client.options.supported request agreement →
      final = client.joined agreement ∧
        Comes client request script answers final effects (.ok ())
          (attachment request agreement.version)
          (if agreement.version = .legacy then 1 else 2)
  hindered :
    ∀ error said heard,
      Hinders script client.options.supported request error said heard →
        final = client.rebuffed ∧
          Comes client request script answers final effects (.error error)
            said heard

theorem judged_of_completes
    {script : Script} {request : CapabilityRequest} {answers : List Event}
    (idle : client.activity = .idle) (apart : client.connection = none)
    (completes : Completes client (.attach request) answers final effects)
    (follows : Follows script answers) :
    Judged client request script answers final effects := by
  have agreed :
      ∀ agreement,
        Agrees script client.options.supported request agreement →
          final = client.joined agreement ∧
            Comes client request script answers final effects (.ok ())
              (attachment request agreement.version)
              (if agreement.version = .legacy then 1 else 2) := by
    intro agreement agrees
    obtain ⟨_, _, comes⟩ := comes_of_agrees idle apart agrees
    exact comes.of_completes completes follows
  have hindered :
      ∀ error said heard,
        Hinders script client.options.supported request error said heard →
          final = client.rebuffed ∧
            Comes client request script answers final effects (.error error)
              said heard := by
    intro error said heard hinders
    obtain ⟨_, _, comes⟩ := comes_of_hinders idle apart hinders
    exact comes.of_completes completes follows
  refine ⟨⟨?_, ?_⟩, agreed, hindered⟩
  · intro told
    rcases agrees_or_hindered script client.options.supported request with
      agrees | ⟨error, said, heard, hinders⟩
    · exact agrees
    · have failed := (hindered error said heard hinders).2.told
      simp [told] at failed
  · rintro ⟨agreement, agrees⟩
    exact (agreed agreement agrees).2.told

/-- A call to attach comes to its end along every script. -/
theorem exists_completes
    (script : Script) (request : CapabilityRequest)
    (idle : client.activity = .idle) (apart : client.connection = none) :
    ∃ answers final effects,
      Completes client (.attach request) answers final effects ∧
        Follows script answers := by
  rcases agrees_or_hindered script client.options.supported request with
    ⟨agreement, agrees⟩ | ⟨error, said, heard, hinders⟩
  · obtain ⟨_, _, comes⟩ := comes_of_agrees idle apart agrees
    exact ⟨_, _, _, comes.completes, comes.follows⟩
  · obtain ⟨_, _, comes⟩ := comes_of_hinders idle apart hinders
    exact ⟨_, _, _, comes.completes, comes.follows⟩

/--
Whatever the transport makes of what it is asked for, a call to attach comes
to its end.  It attaches the client exactly if the server offers a version
that the client supports and grants what it asks for, and otherwise it fails
with what is in the way.
-/
theorem attach_exact
    (script : Script) (request : CapabilityRequest)
    (idle : client.activity = .idle) (apart : client.connection = none) :
    (∃ answers final effects,
        Completes client (.attach request) answers final effects ∧
          Follows script answers) ∧
      ∀ answers final effects,
        Completes client (.attach request) answers final effects →
          Follows script answers →
            Judged client request script answers final effects := by
  refine ⟨exists_completes script request idle apart, ?_⟩
  intro answers final effects completes follows
  exact judged_of_completes idle apart completes follows

/-- A server prefers a version of its own and grants nothing in particular. -/
def generousScript : Script where
  sends := fun _ => .ok ()
  receives
    | 0 => .ok (Message.plain (.negotiate [⟨7⟩, .first]))
    | _ => .ok (Message.plain (.capsResponse (Json.object KeyMap.empty)))
  hangsUp := .ok ()

theorem attach_exact_generousScript :
    ∃ answers final effects,
      Completes (new .default) (.attach .empty) answers final effects ∧
        Follows generousScript answers ∧
        outcomes effects = [.attached (.ok ())] ∧
        final.state = .connected .first ∧
        messages effects = [choice .first, wish .empty] := by
  have idle : (new .default).activity = .idle := rfl
  obtain ⟨⟨answers, final, effects, completes, follows⟩, judged⟩ :=
    attach_exact generousScript .empty idle rfl
  have agrees :
      Agrees generousScript Version.defaults .empty
        ⟨.first, some .default⟩ := by
    refine .granted ⟨_, [⟨7⟩], [], rfl, rfl, ?_, ?_⟩ ?_ rfl rfl
      ⟨_, _, rfl, rfl, ?_⟩
    · decide
    · decide
    · decide
    · rfl
  obtain ⟨rfl, comes⟩ :=
    (judged answers final effects completes follows).agreed _ agrees
  exact ⟨_, _, _, completes, follows, comes.told, rfl, comes.spoken⟩

end BuildWatch.Client
