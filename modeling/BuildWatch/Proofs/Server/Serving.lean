import BuildWatch.Proofs.Server.Reception
import BuildWatch.Proofs.Server.States

/-!
# What a call to serve comes to

A call to serve claims the server before it binds the address.  The claim is
kept if the address cannot be bound: the call fails, nobody is ever received,
and every later call to serve is told that the server is serving already.  So
it is the first call to serve that decides, and a call that fails leaves the
server as it was only if it was not the first.
-/

namespace BuildWatch.Server

variable {server next : Server} {event : Event} {effects : List Effect}

/-! ## The calls of a history -/

/-- What binding the address comes to, if an event is a call to serve. -/
def Event.binding? : Event → Option (Except TransportError Unit)
  | .serve _ bound => some bound
  | _ => none

theorem eq_serve_of_binding?
    {bound : Except TransportError Unit}
    (binds : event.binding? = some bound) :
    ∃ trace, event = .serve trace bound := by
  cases event <;> simp_all [Event.binding?]

/-- What binding the address came to for the calls to serve, in order. -/
def bindings (events : List Event) : List (Except TransportError Unit) :=
  events.filterMap Event.binding?

/-- Whether an event is that the transport was closed for a call. -/
def Event.hangsUp : Event → Bool
  | .closed _ (.ok ()) => true
  | _ => false

theorem eq_closed_of_hangsUp (hangsUp : event.hangsUp = true) :
    ∃ ticket, event = .closed ticket (.ok ()) := by
  cases event with
  | closed ticket result =>
      cases result with
      | ok done => exact ⟨ticket, rfl⟩
      | error error => simp [Event.hangsUp] at hangsUp
  | _ => simp [Event.hangsUp] at hangsUp

/--
What a call to serve ends with, and what it leaves and does, by what binding
the address came to for it and for the calls to serve before it.
-/
inductive Attempt (server : Server) (trace : TraceContext) :
    List (Except TransportError Unit) → Except TransportError Unit →
      Except ProtocolError Unit → Server → List Effect → Prop where
  /-- The server starts to wait for a client. -/
  | listening :
      Attempt server trace [] (.ok ()) (.ok ())
        { server with
          state := .listening
          serving := true
          reception := .accepting trace
          nextTicket := server.nextTicket + 1 }
        [.publish .listening, .accept,
          .finish server.nextTicket (.result (.ok ()))]
  /-- The address cannot be bound, but the server stays claimed. -/
  | unbound (error : TransportError) :
      Attempt server trace [] (.error error)
        (.error (ProtocolError.ofTransport error))
        { server with serving := true, nextTicket := server.nextTicket + 1 }
        [.finish server.nextTicket
          (.result (.error (ProtocolError.ofTransport error)))]
  /-- The server is claimed already. -/
  | refused {earlier : List (Except TransportError Unit)}
      (before : earlier ≠ []) (bound : Except TransportError Unit) :
      Attempt server trace earlier bound (.error .alreadyServing)
        { server with nextTicket := server.nextTicket + 1 }
        [.finish server.nextTicket (.result (.error .alreadyServing))]

theorem ofTransport_ne_alreadyServing (error : TransportError) :
    ProtocolError.ofTransport error ≠ .alreadyServing := by
  cases error <;> simp [ProtocolError.ofTransport]

theorem serve_of_serving
    (served : server.serving = true) (trace : TraceContext)
    (bound : Except TransportError Unit) :
    serve server trace bound =
      ({ server with nextTicket := server.nextTicket + 1 },
        [.finish server.nextTicket (.result (.error .alreadyServing))]) := by
  simp only [serve]
  exact if_pos served

/-- A call to serve is an attempt, if the claim tells of the calls before. -/
theorem attempt_of_serve
    {earlier : List (Except TransportError Unit)}
    (claimed : server.serving = true ↔ earlier ≠ [])
    (trace : TraceContext) (bound : Except TransportError Unit) :
    ∃ result,
      Attempt server trace earlier bound result
        (serve server trace bound).1 (serve server trace bound).2 := by
  cases served : server.serving with
  | true =>
      rw [serve_of_serving served]
      exact ⟨_, .refused (claimed.mp served) bound⟩
  | false =>
      obtain rfl : earlier = [] := by
        by_contra before
        simp [claimed.mpr before] at served
      rcases bound with error | ⟨⟩
      · refine ⟨.error (ProtocolError.ofTransport error), ?_⟩
        simp only [serve, served, Bool.false_eq_true, if_false]
        exact .unbound error
      · refine ⟨.ok (), ?_⟩
        simp only [serve, served, Bool.false_eq_true, if_false]
        exact .listening

/-! ## Who claims a server -/

theorem serving_serve
    (server : Server) (trace : TraceContext)
    (bound : Except TransportError Unit) :
    (serve server trace bound).1.serving = true := by
  simp only [serve]
  split
  next served => exact served
  next unserved => cases bound <;> rfl

theorem serving_receive
    (server : Server) (trace : TraceContext)
    (result : Except TransportError Unit) :
    (receive server trace result).1.serving = server.serving := by
  rcases result with error | ⟨⟩
  · cases error <;> rfl
  · rfl

theorem serving_begin (server : Server) (request : Request) :
    (begin server request).1.serving = server.serving := by
  obtain ⟨ticket, session, errand⟩ := request
  cases errand <;> rfl

theorem serving_awaitConnection (server : Server) :
    (awaitConnection server).1.serving = server.serving := by
  simp only [awaitConnection]
  split <;> rfl

theorem serving_transportClosed
    (server : Server) (ticket : Ticket)
    (result : Except TransportError Unit) :
    (transportClosed server ticket result).1.serving = server.serving := by
  cases result <;> rfl

/-- Only a call to serve claims a server. -/
theorem serving_of_step
    (other : event.binding? = none)
    (stepped : step server event = some (next, effects)) :
    next.serving = server.serving := by
  cases move_of_step stepped with
  | listening unserved => simp [Event.binding?] at other
  | started found free unlined begins =>
      exact (congrArg (·.1.serving) begins).trans (serving_begin _ _)
  | turned free lined begins =>
      exact (congrArg (·.1.serving) begins).trans (serving_begin _ _)
  | aside uncalled unanswering shown claimed numbered silent stood ended =>
      -- A move aside may claim the server, so the event has to be looked at.
      cases event with
      | serve trace bound => simp [Event.binding?] at other
      | call errand => exact absurd rfl (uncalled errand)
      | handshakeSent result => simp at unanswering
      | handshakeReceived result => simp at unanswering
      | callSent result => simp at unanswering
      | callReceived result => simp at unanswering
      | cancel =>
          cases Option.some.inj stepped
          rfl
      | close =>
          cases Option.some.inj stepped
          rfl
      | awaitConnection =>
          rw [← serving_awaitConnection server, Option.some.inj stepped]
      | abandon =>
          simp only [step] at stepped
          split at stepped
          next => exact (congrArg (·.1.serving) (Option.some.inj stepped)).symm
          next => simp at stepped
      | accepted result =>
          simp only [step] at stepped
          split at stepped
          next trace _ _ =>
            rw [← serving_receive server trace result,
              Option.some.inj stepped]
          next => simp at stepped
      | turn =>
          simp only [step] at stepped
          split at stepped
          next request rest _ _ =>
            rw [← serving_begin { server with waiting := rest } request,
              Option.some.inj stepped]
          next => simp at stepped
      | notice ticket =>
          simp only [step] at stepped
          split at stepped
          next => cases Option.some.inj stepped; rfl
          next => simp at stepped
      | closed ticket result =>
          simp only [step] at stepped
          split at stepped
          next =>
            rw [← serving_transportClosed server ticket result,
              Option.some.inj stepped]
          next => simp at stepped
  | _ => rfl

/-! ## Along a run -/

/-- What the calls to serve so far make of a server. -/
structure Claimed (events : List Event) (server : Server) : Prop where
  /-- The first call to serve claims the server, whatever it comes to. -/
  serving : server.serving = true ↔ bindings events ≠ []
  /-- A client is received exactly if the first call could bind. -/
  received :
    server.reception ≠ .absent ↔ (bindings events).head? = some (.ok ())
  /-- Without a reception a server shows only whether it was closed. -/
  shown :
    server.reception = .absent →
      server.state = if events.any Event.hangsUp then .closed else .idle

theorem bindings_snoc (events : List Event) (event : Event) :
    bindings (events ++ [event]) =
      bindings events ++ event.binding?.toList :=
  filterMap_snoc _ events event

/-- A reception that is there stays there. -/
theorem present_of_step
    (present : server.reception ≠ .absent)
    (stepped : step server event = some (next, effects)) :
    next.reception ≠ .absent := by
  cases bearing_of_move (move_of_step stepped) with
  | apart reception session state =>
      rw [reception]
      exact present
  | listening unserved reception session => simp [reception]
  | failed failure reception session state => simp [reception]
  | entered advance reception session => simp [reception]
  | agreed unset advance reception found => simp [reception]

/-- Only a call to serve that can bind makes a reception. -/
theorem absent_of_step
    (absent : server.reception = .absent)
    (other : ∀ trace, event ≠ .serve trace (.ok ()))
    (stepped : step server event = some (next, effects)) :
    next.reception = .absent := by
  have inactive : ¬server.reception.active = true := by
    simp [absent, Reception.active]
  cases bearing_of_move (move_of_step stepped) with
  | apart reception session state => exact reception.trans absent
  | listening unserved reception session => exact absurd rfl (other _)
  | failed failure reception session state =>
      exact absurd failure.active inactive
  | entered advance reception session => exact absurd advance.active inactive
  | agreed unset advance reception found =>
      exact absurd advance.active inactive

theorem state_of_hangsUp
    (hangsUp : event.hangsUp = true)
    (stepped : step server event = some (next, effects)) :
    next.state = .closed := by
  obtain ⟨ticket, rfl⟩ := eq_closed_of_hangsUp hangsUp
  simp only [step] at stepped
  split at stepped
  next =>
    cases Option.some.inj stepped
    rfl
  next => simp at stepped

theorem state_of_absent
    (orderly : Orderly server) (stays : event.hangsUp = false)
    (stepped : step server event = some (next, effects))
    (absent : next.reception = .absent) :
    next.state = server.state := by
  have unfinished : next.reception ≠ .finished := by
    simp [absent]
  cases bearing_of_move (move_of_step stepped) with
  | apart reception session state =>
      rcases state with same | closed
      · exact same
      · rcases (shown_of_step stepped).closed orderly closed with
          before | ⟨ticket, rfl⟩ | ⟨finished, _⟩
        · rw [closed, before]
        · simp [Event.hangsUp] at stays
        · exact absurd finished unfinished
  | listening unserved reception session => simp [reception] at absent
  | failed failure reception session state => exact absurd reception unfinished
  | entered advance reception session => simp [reception] at absent
  | agreed unset advance reception found =>
      exact absurd reception unfinished

section Step

variable {events : List Event}

theorem claimed_new (options : ServerOptions) :
    Claimed [] (new options) where
  serving := by simp [new, bindings]
  received := by simp [new, bindings]
  shown := fun _ => rfl

/-- A call to serve counts only if it is the first. -/
theorem Claimed.of_serve
    {trace : TraceContext} {bound : Except TransportError Unit}
    (claimed : Claimed events server)
    (stepped : step server (.serve trace bound) = some (next, effects)) :
    next.reception ≠ .absent ↔
      (bindings events ++ [bound]).head? = some (.ok ()) := by
  obtain ⟨result, attempt⟩ := attempt_of_serve claimed.serving trace bound
  have received := claimed.received
  have reaction : serve server trace bound = (next, effects) :=
    Option.some.inj stepped
  rw [reaction] at attempt
  generalize bindings events = earlier at attempt received
  cases attempt with
  | listening => simp
  | unbound error => simpa using received
  | refused before bound =>
      obtain ⟨first, rest, rfl⟩ := List.exists_cons_of_ne_nil before
      exact received

theorem Claimed.of_step
    (claimed : Claimed events server) (orderly : Orderly server)
    (stepped : step server event = some (next, effects)) :
    Claimed (events ++ [event]) next where
  serving := by
    rw [bindings_snoc]
    cases binds : event.binding? with
    | none =>
        rw [serving_of_step binds stepped, claimed.serving]
        simp
    | some bound =>
        obtain ⟨trace, rfl⟩ := eq_serve_of_binding? binds
        have served : next.serving = true := by
          rw [← serving_serve server trace bound, Option.some.inj stepped]
        simp [served]
  received := by
    rw [bindings_snoc]
    cases binds : event.binding? with
    | none =>
        have other : ∀ trace, event ≠ .serve trace (.ok ()) := by
          rintro trace rfl
          simp [Event.binding?] at binds
        simp only [Option.toList_none, List.append_nil, ← claimed.received]
        constructor
        · intro present absent
          exact present (absent_of_step absent other stepped)
        · intro present
          exact present_of_step present stepped
    | some bound =>
        obtain ⟨trace, rfl⟩ := eq_serve_of_binding? binds
        exact claimed.of_serve stepped
  shown := by
    intro absent
    have before : server.reception = .absent := by
      by_contra present
      exact present_of_step present stepped absent
    rw [List.any_append, List.any_cons, List.any_nil, Bool.or_false]
    cases hung : event.hangsUp with
    | true => simp [state_of_hangsUp hung stepped]
    | false =>
        rw [state_of_absent orderly hung stepped absent, Bool.or_false]
        exact claimed.shown before

end Step

theorem claimed_run
    {options : ServerOptions} {events : List Event}
    (ran : run step (new options) events = some (server, effects)) :
    Claimed events server := by
  refine run_induction (fun state seen _ => Claimed seen state)
    (claimed_new options) ?_ ran
  intro state seen said event next more reached claimed stepped
  exact claimed.of_step (account_run reached).2.orderly stepped

/-- A server that refuses to serve but will never receive anybody. -/
structure Barred (server : Server) : Prop where
  barren : Barren server
  unreceived :
    ∀ later final said,
      run step server later = some (final, said) →
        final.reception = .absent ∧ .accept ∉ said
  refusing :
    ∀ later final said,
      run step server later = some (final, said) →
        ∀ trace bound,
          step final (.serve trace bound) =
            some ({ final with nextTicket := final.nextTicket + 1 },
              [.finish final.nextTicket (.result (.error .alreadyServing))])

/-- Nobody is asked for by a server that was told to serve before. -/
theorem accept_not_mem_of_unattended
    {later : List Event} {final : Server} {said : List Effect}
    (unattended : Unattended server)
    (ran : run step server later = some (final, said)) : .accept ∉ said := by
  refine run_induction (fun _ _ said => .accept ∉ said) (by simp) ?_ ran
  intro state events said event following more reached unasked stepped asked
  have served := (unattended.of_run reached).1.served
  rcases List.mem_append.mp asked with earlier | last
  · exact unasked earlier
  · have unserved := ((shown_of_step stepped).accept_mem last).1
    simp [served] at unserved

theorem Unattended.barred
    (unattended : Unattended server) (absent : server.reception = .absent) :
    Barred server where
  barren := unattended.barren
  unreceived := by
    intro later final said ran
    obtain ⟨_, same, _⟩ := unattended.of_run ran
    exact ⟨same.trans absent, accept_not_mem_of_unattended unattended ran⟩
  refusing := by
    intro later final said ran trace bound
    have served := (unattended.of_run ran).1.served
    exact congrArg some (serve_of_serving served trace bound)

/-- What becomes of a server by its calls to serve. -/
structure Admission (events : List Event) (server : Server) : Prop
    extends Claimed events server where
  /-- Every call to serve ends at once, and only the first one counts. -/
  attempted :
    ∀ trace bound, ∃ result next said,
      step server (.serve trace bound) = some (next, said) ∧
        Attempt server trace (bindings events) bound result next said
  /-- A call that fails starts nothing but leaves the server claimed. -/
  failed :
    ∀ trace bound next said error,
      step server (.serve trace bound) = some (next, said) →
        .finish server.nextTicket (.result (.error error)) ∈ said →
          next =
              { server with
                serving := true, nextTicket := server.nextTicket + 1 } ∧
            said =
              [.finish server.nextTicket (.result (.error error))] ∧
            (next.serving = server.serving ↔ bindings events ≠ []) ∧
            (error = .alreadyServing ↔ bindings events ≠ [])
  /-- Nothing makes up for a first call that failed. -/
  barred :
    ∀ error, (bindings events).head? = some (.error error) → Barred server

theorem Claimed.attempted
    {events : List Event} (claimed : Claimed events server)
    (trace : TraceContext) (bound : Except TransportError Unit) :
    ∃ result next said,
      step server (.serve trace bound) = some (next, said) ∧
        Attempt server trace (bindings events) bound result next said := by
  obtain ⟨result, attempt⟩ := attempt_of_serve claimed.serving trace bound
  exact ⟨result, _, _, rfl, attempt⟩

theorem Claimed.failed
    {events : List Event} {trace : TraceContext}
    {bound : Except TransportError Unit} {error : ProtocolError}
    (claimed : Claimed events server)
    (stepped : step server (.serve trace bound) = some (next, effects))
    (fails : .finish server.nextTicket (.result (.error error)) ∈ effects) :
    next =
        { server with serving := true, nextTicket := server.nextTicket + 1 } ∧
      effects = [.finish server.nextTicket (.result (.error error))] ∧
      (next.serving = server.serving ↔ bindings events ≠ []) ∧
      (error = .alreadyServing ↔ bindings events ≠ []) := by
  obtain ⟨result, _, _, same, attempt⟩ := claimed.attempted trace bound
  obtain ⟨rfl, rfl⟩ := Prod.mk.inj (Option.some.inj (same.symm.trans stepped))
  have serving := claimed.serving
  generalize bindings events = earlier at attempt serving
  cases attempt with
  | listening => simp at fails
  | unbound reason =>
      have unserved : server.serving = false := by simpa using serving
      obtain rfl : error = ProtocolError.ofTransport reason := by
        simpa using fails
      simp [unserved, ofTransport_ne_alreadyServing]
  | refused before bound =>
      have served : server.serving = true := serving.mpr before
      obtain rfl : error = .alreadyServing := by simpa using fails
      refine ⟨?_, rfl, by simp [before], by simp [before]⟩
      rw [← served]

theorem Claimed.barred
    {events : List Event} {error : TransportError}
    (claimed : Claimed events server) (orderly : Orderly server)
    (unbound : (bindings events).head? = some (.error error)) :
    Barred server := by
  have absent : server.reception = .absent := by
    by_contra present
    simp [claimed.received.mp present] at unbound
  have served : server.serving = true := by
    apply claimed.serving.mpr
    rintro none
    simp [none] at unbound
  have unset := orderly.session_eq_none_of_unfinished (by simp [absent])
  exact Unattended.barred ⟨orderly, served, by simp [absent, Reception.active],
    unset⟩ absent

/--
Only the first call to serve can succeed, and it claims the server even if it
fails.  A call that fails changes nothing but that claim, so that it leaves
the server as it was exactly if there was a call before.
-/
theorem first_serve_claims
    {options : ServerOptions} {events : List Event}
    (ran : run step (new options) events = some (server, effects)) :
    Admission events server := by
  have claimed := claimed_run ran
  have orderly := (account_run ran).2.orderly
  constructor
  · exact claimed
  · exact claimed.attempted
  · intro trace bound next said error stepped fails
    exact claimed.failed stepped fails
  · intro error unbound
    exact claimed.barred orderly unbound

/-- A server is told to serve at an address that cannot be bound. -/
def unboundVisit : List Event :=
  [.serve .none (.error (.io .other))]

theorem first_serve_claims_unboundVisit :
    ∃ server effects,
      run step (new ⟨"build.sock", [.first]⟩) unboundVisit =
          some (server, effects) ∧
        bindings unboundVisit = [.error (.io .other)] ∧
        Barred server := by
  obtain ⟨server, effects, ran⟩ :
      ∃ server effects,
        run step (new ⟨"build.sock", [.first]⟩) unboundVisit =
          some (server, effects) :=
    ⟨_, _, rfl⟩
  exact ⟨server, effects, ran, rfl,
    (first_serve_claims ran).barred (.io .other) rfl⟩

/--
The first call fails and leaves the server claimed.  The second one, which
could bind, is refused, where it would have started to listen as a first one.
-/
theorem refused_after_unbound :
    ∃ server effects next said,
      run step (new ⟨"build.sock", [.first]⟩) unboundVisit =
          some (server, effects) ∧
        effects =
          [.finish 0 (.result (.error (.transport (.io .other))))] ∧
        (new ⟨"build.sock", [.first]⟩).serving = false ∧
        server.serving = true ∧
        step server (.serve .none (.ok ())) = some (next, said) ∧
        said = [.finish 1 (.result (.error .alreadyServing))] ∧
        next.reception = .absent ∧
        (step (new ⟨"build.sock", [.first]⟩) (.serve .none (.ok ()))).map
            (·.1.reception) =
          some (.accepting .none) :=
  ⟨_, _, _, _, rfl, rfl, rfl, rfl, rfl, rfl, rfl, rfl⟩

end BuildWatch.Server
