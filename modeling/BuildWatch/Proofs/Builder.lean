import BuildWatch.Builder
import BuildWatch.Proofs.Server.Reception
import BuildWatch.Proofs.Server.Release
import BuildWatch.Proofs.Server.States
import BuildWatch.Proofs.Transport

/-!
# Who is left behind by a closed server

A server that is closed should have no peer any more.  On a transport that
keeps its laws there is one way around that: a peer was accepted and the
handshake with it failed.  The reception then gives up without hanging up,
and the peer stays connected until somebody closes the server.

The transport and the server are two witnesses of the same client.  What
links them is that the reception waits for a client exactly as long as the
transport was asked for one.
-/

namespace BuildWatch

/-- How often a reception waits for a client. -/
def Reception.waits : Reception → Nat
  | .accepting _ => 1
  | _ => 0

theorem Reception.waits_le_one (reception : Reception) :
    reception.waits ≤ 1 := by
  cases reception <;> simp [waits]

theorem Reception.accepting_of_waits
    {reception : Reception} (waits : reception.waits = 1) :
    ∃ trace, reception = .accepting trace := by
  cases reception with
  | accepting trace => exact ⟨trace, rfl⟩
  | _ => simp [Reception.waits] at waits

/-- Whether an event ends the waiting for a client. -/
@[simp]
def Server.Event.endsWaiting : Server.Event → Bool
  | .accepted _ => true
  | .abandon => true
  | _ => false

namespace Builder

open Server (Event Effect Orderly Move Shown)

/-! ## What can happen -/

/-- A call that asks nothing of the transport to start. -/
inductive Starts : Event → Prop where
  | cancel : Starts .cancel
  | call (errand : Errand) : Starts (.call errand)
  | awaitConnection : Starts .awaitConnection
  | close : Starts .close

section Reachability

variable {World : Type} {listener : Listener World}
  {outside : World → World → Prop} {options : ServerOptions}

/--
What a builder and its world can come to: calls start, the builder goes on,
and the world changes by itself, in any order.
-/
inductive Reached (listener : Listener World)
    (outside : World → World → Prop) (options : ServerOptions) :
    Builder → World → Prop where
  | new {world : World} (alone : listener.hasConnection world = false) :
      Reached listener outside options (Builder.new options) world
  | called {builder : Builder} {world : World} {event : Event}
      (reached : Reached listener outside options builder world)
      (starts : Starts event) :
      Reached listener outside options (builder.react (host listener) event)
        world
  | served {builder : Builder} {world : World} (trace : TraceContext)
      (reached : Reached listener outside options builder world) :
      Reached listener outside options
        (serve listener trace builder world).1.2
        (serve listener trace builder world).2
  | advanced {builder : Builder} {world : World}
      (reached : Reached listener outside options builder world) :
      Reached listener outside options
        (builder.advance (host listener) world).2.1
        (builder.advance (host listener) world).2.2
  | changed {builder : Builder} {world after : World}
      (reached : Reached listener outside options builder world)
      (change : outside world after) :
      Reached listener outside options builder after

/-- Going on until the transport has to wait is going on step by step. -/
theorem Reached.settled
    {builder : Builder} {world : World}
    (reached : Reached listener outside options builder world) :
    Reached listener outside options (settle listener builder world).1
      (settle listener builder world).2 := by
  unfold settle
  generalize stepsLeft listener builder world = steps
  induction steps generalizing builder world with
  | zero => exact reached
  | succ steps ih =>
      have further := reached.advanced
      unfold Hosted.settle
      split
      next next after advanced =>
        rw [advanced] at further
        exact ih further
      next next after advanced =>
        rw [advanced] at further
        exact further

end Reachability

/-! ## Waiting for a client -/

/-- Whether an operation is that of waiting for a client. -/
def Operation.isAccept : Operation → Bool
  | .accept => true
  | _ => false

/-- How often the transport was asked for a client and gave no answer. -/
def asked (pending : List (Pending Operation)) : Nat :=
  pending.countP fun entry => entry.operation.isAccept

/-- What effects ask the transport for. -/
def requested (effects : List Effect) : List (Pending Operation) :=
  (effects.filterMap operation?).map (⟨·, .first⟩)

theorem asked_cons (entry : Pending Operation)
    (rest : List (Pending Operation)) :
    asked (entry :: rest) =
      asked rest + if entry.operation.isAccept then 1 else 0 :=
  List.countP_cons

theorem asked_append (first second : List (Pending Operation)) :
    asked (first ++ second) = asked first + asked second :=
  List.countP_append

theorem asked_requested_eq_zero
    {effects : List Effect} (unasking : .accept ∉ effects) :
    asked (requested effects) = 0 := by
  apply List.countP_eq_zero.mpr
  intro entry member
  obtain ⟨operation, wanted, rfl⟩ := List.mem_map.mp member
  obtain ⟨effect, inside, names⟩ := List.mem_filterMap.mp wanted
  cases effect <;> simp_all [operation?, Operation.isAccept]
  all_goals subst names
  all_goals simp

section Machines

variable {server next : Server} {event : Event} {effects : List Effect}

/-- Only its own events end the waiting for a client. -/
theorem waits_le_of_move
    (orderly : Orderly server) (move : Move server event next effects)
    (other : event.endsWaiting = false) :
    server.reception.waits ≤ next.reception.waits := by
  cases waiting : server.reception with
  | absent => exact Nat.zero_le _
  | finished => exact Nat.zero_le _
  | shaking trace stage => exact Nat.zero_le _
  | accepting trace =>
      have active : server.reception.active = true := by
        rw [waiting]
        rfl
      have stays : (Reception.accepting trace).waits ≤
          server.reception.waits :=
        Nat.le_of_eq (congrArg Reception.waits waiting).symm
      cases Server.bearing_of_move move with
      | apart same session state =>
          exact Nat.le_trans stays (Nat.le_of_eq (congrArg Reception.waits
            same.symm))
      | listening unserved reception session =>
          rw [reception]
          exact Nat.le_refl 1
      | failed failure finished session state =>
          cases failure with
          | abandoned waits => simp at other
          | unaccepted waits => simp at other
          | unsent waits => simp [waiting] at waits
          | unreceived waits => simp [waiting] at waits
          | refused waits refusal => simp [waiting] at waits
          | agreedBefore again advance =>
              simp [orderly.session_eq_none active] at again
      | entered advance entered session =>
          cases advance with
          | accepted waits => simp at other
          | sent waits follows => simp [waiting] at waits
          | received waits follows => simp [waiting] at waits
      | agreed unset advance finished found =>
          cases advance with
          | sent waits follows => simp [waiting] at waits
          | received waits follows => simp [waiting] at waits

/-- A reception that gave up shows it, whatever else happens. -/
theorem closed_of_move
    (move : Move server event next effects)
    (kept :
      server.reception = .finished → server.session = none →
        server.state = .closed)
    (finished : next.reception = .finished) (unset : next.session = none) :
    next.state = .closed := by
  cases Server.bearing_of_move move with
  | apart reception session state =>
      rcases state with same | closed
      · exact same.trans
          (kept (reception.symm.trans finished) (session.symm.trans unset))
      · exact closed
  | listening unserved reception session => simp [reception] at finished
  | failed failure reception session state => exact state
  | entered advance reception session => simp [reception] at finished
  | agreed before advance reception found => simp [found] at unset

/-- A client that is accepted is seen to come. -/
theorem negotiating_mem
    (stepped :
      Server.step server (.accepted (.ok ())) = some (next, effects)) :
    .publish .negotiating ∈ effects := by
  simp only [Server.step] at stepped
  split at stepped
  next trace waiting live =>
    simp only [Server.receive, Server.publish, Server.enterStage,
      Server.Reaction.followedBy, ServerHandshake.start, Option.some.injEq,
      Prod.mk.injEq] at stepped
    obtain ⟨rfl, rfl⟩ := stepped
    exact List.mem_cons_self
  next => simp at stepped

end Machines

/-! ## Builders -/

section Builders

variable {World : Type} {listener : Listener World}
  {outside : World → World → Prop} {shut : World → Prop}
  {options : ServerOptions} {builder : Builder} {world after : World}
  {event : Event}

/-- A builder leaves an event be, or its server takes a step. -/
theorem react_cases (builder : Builder) (event : Event) :
    Server.step builder.machine event = none ∧
        builder.react (host listener) event = builder ∨
      ∃ next effects,
        Server.step builder.machine event = some (next, effects) ∧
          builder.react (host listener) event =
            ⟨next, builder.pending ++ requested effects,
              builder.emitted ++
                effects.filter fun effect => (operation? effect).isNone⟩ := by
  cases stepped : Server.step builder.machine event with
  | none =>
      refine .inl ⟨rfl, ?_⟩
      simp [Hosted.react, host, stepped]
  | some reaction =>
      refine .inr ⟨reaction.1, reaction.2, rfl, ?_⟩
      simp [Hosted.react, host, stepped, requested]

/-- The server of a builder is waited on as long as it waits itself. -/
structure Tidy (builder : Builder) : Prop where
  orderly : Orderly builder.machine
  awaited : asked builder.pending ≤ builder.machine.reception.waits
  failed :
    builder.machine.reception = .finished → builder.machine.session = none →
      builder.machine.state = .closed

theorem Tidy.react
    (tidy : Tidy builder)
    (answered : event.endsWaiting = true → asked builder.pending = 0) :
    Tidy (builder.react (host listener) event) := by
  obtain ⟨orderly, awaited, failed⟩ := tidy
  rcases @react_cases _ listener builder event with
    ⟨_, same⟩ | ⟨next, effects, stepped, same⟩
  · rw [same]
    exact ⟨orderly, awaited, failed⟩
  · rw [same]
    have move := Server.move_of_step stepped
    refine ⟨Server.orderly_move orderly move, ?_,
      closed_of_move move failed⟩
    simp only [asked_append]
    by_cases asking : .accept ∈ effects
    · obtain ⟨unserved, trace, rfl⟩ :=
        (Server.shown_of_step stepped).accept_mem asking
      have absent := orderly.unserved unserved
      simp only [Server.step, Server.serve, unserved, Server.publish,
        Server.Reaction.followedBy, Option.some.injEq, Bool.false_eq_true,
        if_false, Prod.mk.injEq] at stepped
      obtain ⟨rfl, rfl⟩ := stepped
      rw [absent] at awaited
      exact Nat.add_le_add awaited (Nat.le_refl 1)
    · rw [asked_requested_eq_zero asking, Nat.add_zero]
      cases ends : event.endsWaiting with
      | true => simp [answered ends]
      | false =>
          exact Nat.le_trans awaited (waits_le_of_move orderly move ends)

/-- What a builder knows of the peer that its transport has. -/
structure Attended (listener : Listener World) (shut : World → Prop)
    (builder : Builder) (world : World) : Prop where
  tidy : Tidy builder
  /-- Whoever is connected was seen to come. -/
  met :
    listener.hasConnection world = true →
      .publish .negotiating ∈ builder.emitted
  /-- A closed server hung up or gave up. -/
  closed :
    builder.machine.state = .closed →
      shut world ∨
        builder.machine.reception = .finished ∧
          builder.machine.session = none

theorem attended_new
    (options : ServerOptions)
    (alone : listener.hasConnection world = false) :
    Attended listener shut (Builder.new options) world where
  tidy := ⟨Server.orderly_new options, Nat.le_refl 0, by
    simp [Builder.new, Hosted.new, Server.new]⟩
  met := by simp [alone]
  closed := by simp [Builder.new, Hosted.new, Server.new]

/-- The world may change as long as nobody is accepted. -/
theorem Attended.touch
    (lawful : listener.Lawful outside shut)
    (attended : Attended listener shut builder world)
    (touched : listener.Touched outside world after) :
    Attended listener shut builder after where
  tidy := attended.tidy
  met := fun connected =>
    attended.met (lawful.connected world after touched connected)
  closed := fun closed =>
    (attended.closed closed).imp_left (lawful.stays_shut world after touched)

/-- A reaction to an event that the world has seen to. -/
theorem attended_react
    (tidy : Tidy builder)
    (met :
      listener.hasConnection world = true →
        .publish .negotiating ∈ builder.emitted ∨
          event = .accepted (.ok ()) ∧
            builder.machine.reception.waits = 1 ∧
            builder.machine.cancelled = false)
    (closed :
      builder.machine.state = .closed →
        shut world ∨
          builder.machine.reception = .finished ∧
            builder.machine.session = none)
    (hungUp : ∀ ticket, event = .closed ticket (.ok ()) → shut world)
    (answered : event.endsWaiting = true → asked builder.pending = 0) :
    Attended listener shut (builder.react (host listener) event) world := by
  refine ⟨tidy.react answered, ?_, ?_⟩
  · intro connected
    rcases @react_cases _ listener builder event with
      ⟨stuck, same⟩ | ⟨next, effects, stepped, same⟩
    · rw [same]
      rcases met connected with known | ⟨rfl, waits, live⟩
      · exact known
      · obtain ⟨trace, waiting⟩ := Reception.accepting_of_waits waits
        have goes_on :=
          (Server.responsive builder.machine).accepted trace (.ok ()) waiting
            live
        simp [stuck] at goes_on
    · rw [same]
      rcases met connected with known | ⟨rfl, waits, live⟩
      · exact List.mem_append_left _ known
      · apply List.mem_append_right
        have published := negotiating_mem stepped
        exact List.mem_filter.mpr ⟨published, rfl⟩
  · intro shown
    rcases @react_cases _ listener builder event with
      ⟨stuck, same⟩ | ⟨next, effects, stepped, same⟩
    · rw [same] at shown ⊢
      exact closed shown
    · rw [same] at shown ⊢
      have move := Server.move_of_step stepped
      rcases (Server.shown_of_step stepped).closed tidy.orderly shown with
        before | ⟨ticket, rfl⟩ | gaveUp
      · rcases closed before with gone | ⟨finished, unset⟩
        · exact .inl gone
        · obtain ⟨orderly, served, inactive, unset⟩ :=
            Server.unattended_of_finished tidy.orderly finished unset
          obtain ⟨still, never, _⟩ :=
            Server.barren_move orderly served inactive unset move
          exact .inr ⟨still.trans finished, never⟩
      · exact .inl (hungUp ticket rfl)
      · exact .inr gaveUp

/-! ## Attempts -/

/-- What an attempt, or several in turn, can do to the world. -/
structure Attempted (listener : Listener World) (shut : World → Prop)
    (server : Server) (world : World) (event : Option Event)
    (after : World) : Prop where
  stays_shut : shut world → shut after
  connected :
    listener.hasConnection after = true →
      listener.hasConnection world = true ∨
        event = some (.accepted (.ok ()))
  hungUp :
    ∀ ticket result, event = some (.closed ticket result) → shut after
  live :
    ∀ result, event = some (.accepted result) → server.cancelled = false

theorem Attempted.trans
    {server : Server} {event : Option Event} {final : World}
    (first : Attempted listener shut server world none after)
    (second : Attempted listener shut server after event final) :
    Attempted listener shut server world event final where
  stays_shut := fun gone => second.stays_shut (first.stays_shut gone)
  connected := by
    intro connected
    rcases second.connected connected with before | accepted
    · exact .inl ((first.connected before).resolve_right (by simp))
    · exact .inr accepted
  hungUp := second.hungUp
  live := second.live

/-- Only accepting can connect anybody. -/
theorem attempted_of_touched
    (lawful : listener.Lawful outside shut) {server : Server}
    {event : Option Event}
    (touched : listener.Touched outside world after)
    (open_ : ∀ ticket result, event ≠ some (.closed ticket result))
    (unaccepting : ∀ result, event ≠ some (.accepted result)) :
    Attempted listener shut server world event after where
  stays_shut := lawful.stays_shut world after touched
  connected := fun connected =>
    .inl (lawful.connected world after touched connected)
  hungUp := fun ticket result same => absurd same (open_ ticket result)
  live := fun result same => absurd same (unaccepting result)

theorem attempted_attempt
    (lawful : listener.Lawful outside shut) (server : Server)
    (operation : Operation) (tried : Attempt) (world : World) :
    Attempted listener shut server world
        (attempt listener server operation tried world).1
        (attempt listener server operation tried world).2 ∧
      ((attempt listener server operation tried world).1.any
          Event.endsWaiting = true →
        operation.isAccept = true) := by
  cases operation with
  | accept =>
      refine ⟨?_, fun _ => rfl⟩
      simp only [attempt]
      split
      next cancelled =>
        exact attempted_of_touched lawful .abandoned (by simp) (by simp)
      next live =>
        refine ⟨lawful.stays_shut_accept tried world, ?_, ?_, ?_⟩
        · intro connected
          rcases lawful.connected_accept tried world connected with
            before | accepted
          · exact .inl before
          · simp [accepted]
        · simp
        · intro _ _
          simpa using live
  | send party message =>
      refine ⟨?_, by cases party <;> simp [attempt, sentEvent]⟩
      exact attempted_of_touched lawful (.sent message)
        (by cases party <;> simp [attempt, sentEvent])
        (by cases party <;> simp [attempt, sentEvent])
  | receive party =>
      simp only [attempt]
      cases (listener.receive tried world).1 with
      | none =>
          exact ⟨attempted_of_touched lawful (.received tried) (by simp)
            (by simp), by simp⟩
      | some result =>
          refine ⟨?_, by cases party <;> simp [receivedEvent]⟩
          exact attempted_of_touched lawful (.received tried)
            (by cases party <;> simp [receivedEvent])
            (by cases party <;> simp [receivedEvent])
  | close ticket =>
      refine ⟨?_, by simp [attempt]⟩
      refine ⟨fun _ => lawful.shuts world, ?_, fun _ _ _ => lawful.shuts world,
        by simp [attempt]⟩
      intro connected
      simp [attempt, lawful.disconnected _ (lawful.shuts world)] at connected

/-- The operations in turn, up to the first that does not wait. -/
theorem attempted_firstReady
    (lawful : listener.Lawful outside shut) (server : Server)
    (pending : List (Pending Operation)) (world : World) :
    let ready := Hosted.firstReady (host listener) server pending world
    Attempted listener shut server world ready.1 ready.2.2 ∧
      asked ready.2.1 +
          (if ready.1.any Event.endsWaiting then 1 else 0) ≤
        asked pending := by
  induction pending generalizing world with
  | nil =>
      refine ⟨⟨id, .inl, by simp [Hosted.firstReady],
        by simp [Hosted.firstReady]⟩, by simp [Hosted.firstReady]⟩
  | cons entry rest ih =>
      obtain ⟨attempted, answering⟩ :=
        attempted_attempt lawful server entry.operation entry.attempt world
      cases found :
        attempt listener server entry.operation entry.attempt world with
      | mk event middle =>
          rw [found] at attempted answering
          cases event with
          | some event =>
              have first :
                  Hosted.firstReady (host listener) server (entry :: rest)
                      world = (some event, rest, middle) := by
                simp [Hosted.firstReady, host, found]
              simp only [first]
              refine ⟨attempted, ?_⟩
              rw [asked_cons]
              split
              next ends => simp [answering ends]
              next => exact Nat.le_add_right _ _
          | none =>
              -- The operation stays in line, and its attempt counts as well.
              obtain ⟨later, counted⟩ := ih middle
              have first :
                  Hosted.firstReady (host listener) server (entry :: rest)
                      world =
                    ((Hosted.firstReady (host listener) server rest middle).1,
                      ⟨entry.operation, .again⟩ ::
                        (Hosted.firstReady (host listener) server rest
                          middle).2.1,
                      (Hosted.firstReady (host listener) server rest
                        middle).2.2) := by
                simp [Hosted.firstReady, host, found]
              simp only [first, asked_cons]
              refine ⟨attempted.trans later, ?_⟩
              omega

/-- What a server does by itself has nothing to do with its peer. -/
theorem harmless_of_internal
    {server : Server} (own : internal? server = some event) :
    (∀ ticket result, event ≠ .closed ticket result) ∧
      event.endsWaiting = false := by
  simp only [internal?] at own
  split at own
  · cases own
    simp
  · split at own
    · obtain ⟨ticket, _, rfl⟩ := Option.map_eq_some_iff.mp own
      simp
    · simp at own

/-! ## Along every run -/

/-- Going on, by an answer of the transport or by the server itself. -/
theorem Attended.advance
    (lawful : listener.Lawful outside shut)
    (attended : Attended listener shut builder world) :
    Attended listener shut (builder.advance (host listener) world).2.1
      (builder.advance (host listener) world).2.2 := by
  obtain ⟨tidy, met, closed⟩ := attended
  have ready :=
    attempted_firstReady lawful builder.machine builder.pending world
  simp only [Hosted.advance]
  generalize
    Hosted.firstReady (host listener) builder.machine builder.pending world =
      tried at ready ⊢
  obtain ⟨event, left, after⟩ := tried
  obtain ⟨attempted, counted⟩ := ready
  simp only at attempted counted ⊢
  have fewer : asked left ≤ asked builder.pending := by omega
  have leftTidy : Tidy { builder with pending := left } :=
    ⟨tidy.orderly, Nat.le_trans fewer tidy.awaited, tidy.failed⟩
  have leftClosed :
      builder.machine.state = .closed →
        shut after ∨
          builder.machine.reception = .finished ∧
            builder.machine.session = none :=
    fun shown => (closed shown).imp_left attempted.stays_shut
  cases event with
  | some event =>
      apply attended_react leftTidy ?_ leftClosed ?_ ?_
      · intro connected
        rcases attempted.connected connected with before | accepted
        · exact .inl (met before)
        · cases accepted
          have awaited := tidy.awaited
          have once := builder.machine.reception.waits_le_one
          simp only [Option.any_some, Server.Event.endsWaiting, if_true]
            at counted
          refine .inr ⟨rfl, ?_, attempted.live _ rfl⟩
          change builder.machine.reception.waits = 1
          omega
      · intro ticket same
        exact attempted.hungUp ticket _ (congrArg some same)
      · intro ends
        have awaited := tidy.awaited
        have once := builder.machine.reception.waits_le_one
        rw [Option.any_some, ends, if_pos rfl] at counted
        change asked left = 0
        omega
  | none =>
      have settledMet :
          listener.hasConnection after = true →
            .publish .negotiating ∈ builder.emitted := by
        intro connected
        exact met ((attempted.connected connected).resolve_right (by simp))
      cases own : internal? builder.machine with
      | none =>
          have idle :
              (none <|> (host listener).internal? builder.machine) = none :=
            own
          rw [idle]
          exact ⟨leftTidy, settledMet, leftClosed⟩
      | some event =>
          have harmless := harmless_of_internal own
          have goes_on :
              (none <|> (host listener).internal? builder.machine) =
                some event :=
            own
          rw [goes_on]
          refine attended_react leftTidy ?_ leftClosed ?_ ?_
          · exact fun connected => .inl (settledMet connected)
          · exact fun ticket same => absurd same (harmless.1 ticket (.ok ()))
          · exact fun ends => absurd (harmless.2.symm.trans ends) (by decide)

theorem Attended.called
    (attended : Attended listener shut builder world)
    (starts : Starts event) :
    Attended listener shut (builder.react (host listener) event) world := by
  obtain ⟨tidy, met, closed⟩ := attended
  refine attended_react tidy (fun connected => .inl (met connected)) closed
    ?_ ?_
  · intro ticket same
    cases starts <;> simp at same
  · intro ends
    cases starts <;> simp at ends

theorem Attended.served
    (lawful : listener.Lawful outside shut)
    (attended : Attended listener shut builder world)
    (trace : TraceContext) :
    Attended listener shut (serve listener trace builder world).1.2
      (serve listener trace builder world).2 := by
  have serves {before : World} (bound : Except TransportError Unit)
      (attended : Attended listener shut builder before) :
      Attended listener shut
        (builder.react (host listener) (.serve trace bound)) before :=
    attended_react attended.tidy
      (fun connected => .inl (attended.met connected)) attended.closed
      (by simp) (by simp)
  simp only [serve, call]
  split
  · exact serves (.ok ()) attended
  · exact serves _ (attended.touch lawful (.bound _))

theorem attended_of_reached
    (lawful : listener.Lawful outside shut)
    (reached : Reached listener outside options builder world) :
    Attended listener shut builder world := by
  induction reached with
  | new alone => exact attended_new options alone
  | called reached starts ih => exact ih.called starts
  | served trace reached ih => exact ih.served lawful trace
  | advanced reached ih => exact ih.advance lawful
  | changed reached change ih => exact ih.touch lawful (.outside change)

/--
A peer is left behind by a closed server exactly if the handshake failed with
it: it was accepted, the reception is over, and there is no session.
-/
theorem closed_connected_iff
    (lawful : listener.Lawful outside shut)
    (reached : Reached listener outside options builder world)
    (connected : listener.hasConnection world = true) :
    .publish .negotiating ∈ builder.emitted ∧
      (builder.machine.state = .closed ↔
        builder.machine.reception = .finished ∧
          builder.machine.session = none) := by
  have attended := attended_of_reached lawful reached
  refine ⟨attended.met connected, ?_, ?_⟩
  · intro closed
    rcases attended.closed closed with gone | gaveUp
    · simp [lawful.disconnected world gone] at connected
    · exact gaveUp
  · rintro ⟨finished, unset⟩
    exact attended.tidy.failed finished unset

/--
A transport that is shut and lets everybody go answers at once whatever the
server asks for, and the answer needs no peer.
-/
theorem lifeless_attempt
    (lawful : listener.Lawful outside shut)
    (releasing : listener.Releasing shut)
    (server : Server) (operation : Operation) (tried : Attempt)
    (gone : shut world) :
    ∃ event after,
      attempt listener server operation tried world = (some event, after) ∧
        event.lifeless = true ∧ shut after := by
  have touched {after : World}
      (touch : listener.Touched outside world after) : shut after :=
    lawful.stays_shut world after touch gone
  cases operation with
  | accept =>
      by_cases cancelled : server.cancelled = true
      · exact ⟨.abandon, _, by simp [attempt, cancelled], rfl,
          touched .abandoned⟩
      · obtain ⟨result, answered⟩ :=
          Option.isSome_iff_exists.mp (releasing.unaccepted tried world gone)
        exact ⟨.accepted result, _, by simp [attempt, cancelled, answered],
          rfl, lawful.stays_shut_accept tried world gone⟩
  | send party message =>
      have unsent := releasing.unsent message world gone
      cases party <;>
        exact ⟨_, _, rfl, by simp [sentEvent, Event.lifeless, unsent],
          touched (.sent message)⟩
  | receive party =>
      obtain ⟨error, answered, hungUp⟩ :
          ∃ error,
            (listener.receive tried world).1 = some (.error error) ∧
              Server.hungUp error = true := by
        cases tried with
        | first => exact ⟨_, releasing.unreceived world gone, rfl⟩
        | again => exact ⟨_, releasing.ended world gone, rfl⟩
      cases party <;>
        exact ⟨_, _, by simp [attempt, answered]; rfl,
          by simpa [receivedEvent, Event.lifeless] using hungUp,
          touched (.received tried)⟩
  | close ticket =>
      exact ⟨_, _, rfl, rfl, lawful.shuts world⟩

/-- A server that has no answer goes on by itself, without a peer. -/
theorem lifeless_of_internal
    {server : Server} (own : internal? server = some event) :
    event.lifeless = true := by
  simp only [internal?] at own
  split at own
  · cases own
    rfl
  · split at own
    · obtain ⟨ticket, _, rfl⟩ := Option.map_eq_some_iff.mp own
      rfl
    · simp at own

/-- A builder that reacts to an event without a peer goes on so, or not. -/
theorem lifeless_react
    (builder : Builder) (lifeless : event.lifeless = true) :
    ∃ events effects,
      (∀ event ∈ events, event.lifeless = true) ∧
        run Server.step builder.machine events =
          some ((builder.react (host listener) event).machine, effects) := by
  rcases @react_cases World listener builder event with
    ⟨_, same⟩ | ⟨next, effects, stepped, same⟩
  · exact ⟨[], [], by simp, by rw [same]; rfl⟩
  · refine ⟨[event], effects, by simpa using lifeless, ?_⟩
    rw [run_singleton, same]
    exact stepped

/-- On a transport that is shut a builder goes on without a peer. -/
theorem lifeless_advance
    (builder : Builder) (lawful : listener.Lawful outside shut)
    (releasing : listener.Releasing shut) (gone : shut world) :
    (∃ events effects,
      (∀ event ∈ events, event.lifeless = true) ∧
        run Server.step builder.machine events =
          some
            ((builder.advance (host listener) world).2.1.machine, effects)) ∧
      shut (builder.advance (host listener) world).2.2 := by
  cases waiting : builder.pending with
  | nil =>
      cases own : internal? builder.machine with
      | none =>
          simp only [Hosted.advance, waiting, Hosted.firstReady, host, own]
          exact ⟨⟨[], [], by simp, rfl⟩, gone⟩
      | some event =>
          have lifeless := lifeless_of_internal own
          simp only [Hosted.advance, waiting, Hosted.firstReady, host, own]
          exact
            ⟨lifeless_react ⟨builder.machine, [], builder.emitted⟩ lifeless,
              gone⟩
  | cons entry rest =>
      obtain ⟨event, after, answered, lifeless, shut⟩ :=
        lifeless_attempt lawful releasing builder.machine entry.operation
          entry.attempt gone
      simp only [Hosted.advance, waiting, Hosted.firstReady, host, answered]
      exact
        ⟨lifeless_react ⟨builder.machine, rest, builder.emitted⟩ lifeless,
          shut⟩

/--
From a transport that is shut and lets everybody go a builder gets no more
than what a server gets without a peer.
-/
theorem lifeless_settle
    (builder : Builder) (lawful : listener.Lawful outside shut)
    (releasing : listener.Releasing shut) (gone : shut world) :
    ∃ events effects,
      (∀ event ∈ events, event.lifeless = true) ∧
        run Server.step builder.machine events =
          some ((settle listener builder world).1.machine, effects) := by
  unfold settle
  generalize stepsLeft listener builder world = steps
  induction steps generalizing builder world with
  | zero => exact ⟨[], [], by simp, rfl⟩
  | succ steps ih =>
      obtain ⟨⟨events, effects, lifeless, ran⟩, still⟩ :=
        lifeless_advance builder lawful releasing gone
      unfold Hosted.settle
      split
      next next after advanced =>
        rw [advanced] at ran still
        obtain ⟨more, others, alike, went⟩ := ih next still
        refine ⟨events ++ more, effects ++ others, ?_, ?_⟩
        · simpa [or_imp, forall_and] using ⟨lifeless, alike⟩
        · exact run_append_eq_some_iff.mpr
            ⟨next.machine, effects, others, ran, went, rfl⟩
      next next after advanced =>
        rw [advanced] at ran
        exact ⟨events, effects, lifeless, ran⟩

end Builders

/-! ## A peer that is left behind -/

/-- A peer that says goodbye where it should choose a version, and waits. -/
def rudePeer : Script :=
  { Script.ofItems [.text (Message.plain (.exit "")).encode] with
    atEnd := .waits }

/-- A server that the peer connects to, as far as it goes on. -/
def rudeVisit : Builder × Script :=
  let served :=
    serve Script.listener .none (Builder.new ⟨"build.sock", [.first]⟩)
      rudePeer
  settle Script.listener served.1.2 served.2

theorem reached_rudeVisit :
    Reached Script.listener Script.Continued ⟨"build.sock", [.first]⟩
      rudeVisit.1 rudeVisit.2 :=
  ((Reached.new rfl).served .none).settled

theorem closed_connected_iff_rudeVisit :
    Reached Script.listener Script.Continued ⟨"build.sock", [.first]⟩
        rudeVisit.1 rudeVisit.2 ∧
      Script.listener.hasConnection rudeVisit.2 = true ∧
      .publish .negotiating ∈ rudeVisit.1.emitted ∧
      rudeVisit.1.machine.reception = .finished ∧
      rudeVisit.1.machine.session = none := by
  have connected : Script.listener.hasConnection rudeVisit.2 = true := by
    decide +kernel
  have closed : rudeVisit.1.machine.state = .closed := by
    decide +kernel
  obtain ⟨met, failed⟩ :=
    closed_connected_iff Script.lawful reached_rudeVisit connected
  exact ⟨reached_rudeVisit, connected, met, failed.mp closed⟩

/-- Nothing is left to do for the closed server, and its peer still waits. -/
theorem closed_with_peer :
    ∃ builder script,
      Reached Script.listener Script.Continued ⟨"build.sock", [.first]⟩
          builder script ∧
        (builder.advance (host Script.listener) script).1 = false ∧
        builder.machine.state = .closed ∧
        Script.listener.hasConnection script = true := by
  have shown :
      ((rudeVisit.1.advance (host Script.listener) rudeVisit.2).1,
          rudeVisit.1.machine.state,
          Script.listener.hasConnection rudeVisit.2) =
        (false, .closed, true) := by
    decide +kernel
  obtain ⟨idle, closed, connected⟩ := by
    simpa only [Prod.mk.injEq] using shown
  exact ⟨rudeVisit.1, rudeVisit.2, reached_rudeVisit, idle, closed, connected⟩

end Builder

end BuildWatch
