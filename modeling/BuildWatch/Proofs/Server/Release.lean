import BuildWatch.Proofs.Runs
import BuildWatch.Proofs.Server.Gates

/-!
# How a closed server lets everybody go

Once the transport of a server is closed, it answers everything that it is
asked for, and every answer is an error.  Each step that is left to the tasks
then takes something off the load of the server, be it the reception, the
call that has the exchange, a call in line or a call that watches or closes.
So the tasks come to an end, whatever the order of their steps, and behind
it nobody waits.
-/

namespace BuildWatch.Server

variable {server next : Server} {event : Event} {effects more : List Effect}

/-! ## Without a peer -/

/-- Whether an error is what a closed transport fails to receive with. -/
def hungUp (error : TransportError) : Bool :=
  error = .closed || error = .notConnected

/--
Whether an event is a step of the tasks that needs no peer, where the
transport answers as if it were closed.  Accepting may come to anything, as
long as it does not wait.
-/
def Event.lifeless : Event → Bool
  | .abandon => true
  | .accepted _ => true
  | .handshakeSent (.error error) => error = .notConnected
  | .handshakeReceived (.error error) => hungUp error
  | .turn => true
  | .callSent (.error error) => error = .notConnected
  | .callReceived (.error error) => hungUp error
  | .notice _ => true
  | .closed _ _ => true
  | _ => false

/-- Whether an event is what a caller does. -/
def Event.called : Event → Bool
  | .serve _ _ => true
  | .cancel => true
  | .call _ => true
  | .awaitConnection => true
  | .close => true
  | _ => false

/-- Whether an event says that a message was sent. -/
def Event.delivers : Event → Bool
  | .handshakeSent (.ok _) => true
  | .callSent (.ok _) => true
  | _ => false

/-- The calls that tell the client something and are not over. -/
def telling (server : Server) : List Ticket :=
  server.holder.toList.map (·.ticket) ++ server.waiting.map (·.ticket)

/-- The calls that are not over. -/
def unfinished (server : Server) : List Ticket :=
  server.telling ++ server.bystanders

/-- How many steps a reception can still take without a peer. -/
def toll : Reception → Nat
  | .accepting _ => 2
  | .shaking _ _ => 1
  | _ => 0

/-- How many steps the tasks can still take without a peer. -/
def load (server : Server) : Nat :=
  toll server.reception + server.holder.toList.length
    + 2 * server.waiting.length + server.watchers.length
    + server.closers.length

/-- What a step without a peer comes to. -/
inductive Fades (server : Server) : Event → Server → List Effect → Prop where
  /-- The reception gives up. -/
  | gaveUp {event : Event} {effects : List Effect}
      (active : server.reception.active = true) :
      Fades server event
        { server with state := .closed, reception := .finished } effects
  /-- The reception was given somebody and has to talk. -/
  | met {trace : TraceContext} {effects : List Effect}
      (waiting : server.reception = .accepting trace) :
      Fades server (.accepted (.ok ()))
        { server with
          state := .negotiating
          reception := .shaking trace ServerHandshake.start }
        effects
  /-- The first call in line gets the exchange. -/
  | turned {request : Request} {rest : List Request} {next : Server}
      {message : Message}
      (free : server.holder = none) (lined : server.waiting = request :: rest)
      (begun : Begun { server with waiting := rest } request next message) :
      Fades server .turn next [.send .exchange message]
  /-- The call that has the exchange fails. -/
  | returned {event : Event} {holder : Holder} {error : TransportError}
      (held : server.holder = some holder)
      (answers : event.answersSend = true ∨ event.answersReceive = true) :
      Fades server event { server with holder := none }
        [.finish holder.ticket (.result (.error (.transport error)))]
  | noticed {ticket : Ticket} (watching : ticket ∈ server.watchers) :
      Fades server (.notice ticket)
        { server with watchers := server.watchers.erase ticket }
        [.finish ticket (.connection server.state.version?)]
  | closed {ticket : Ticket} (closing : ticket ∈ server.closers) :
      Fades server (.closed ticket (.ok ()))
        { server with
          state := .closed, closers := server.closers.erase ticket }
        [.publish .closed, .finish ticket (.result (.ok ()))]
  | unclosed {ticket : Ticket} {error : TransportError}
      (closing : ticket ∈ server.closers) :
      Fades server (.closed ticket (.error error))
        { server with closers := server.closers.erase ticket }
        [.finish ticket (.result (.error (ProtocolError.ofTransport error)))]

theorem ofTransport_of_hungUp
    {error : TransportError} (gone : hungUp error = true) :
    ProtocolError.ofTransport error = .transport error := by
  cases error <;> simp_all [hungUp, ProtocolError.ofTransport]

theorem fades_of_failHandshake
    (active : server.reception.active = true)
    (reaction : failHandshake server = (next, effects)) :
    Fades server event next effects := by
  obtain ⟨rfl, rfl⟩ := Prod.mk.inj reaction
  exact .gaveUp active

/-- Every step without a peer takes something off. -/
theorem fades_of_step
    (lifeless : event.lifeless = true)
    (stepped : step server event = some (next, effects)) :
    Fades server event next effects := by
  cases event with
  | serve | cancel | call | awaitConnection | close =>
      simp [Event.lifeless] at lifeless
  | abandon =>
      simp only [step] at stepped
      split at stepped
      next trace waiting cancelled =>
        obtain ⟨rfl, rfl⟩ := Prod.mk.inj (Option.some.inj stepped)
        exact .gaveUp (by rw [waiting]; rfl)
      next => simp at stepped
  | accepted result =>
      simp only [step] at stepped
      split at stepped
      next trace waiting live =>
        have reaction := Option.some.inj stepped
        have active : server.reception.active = true := by rw [waiting]; rfl
        cases result with
        | ok _ =>
            obtain ⟨rfl, rfl⟩ := Prod.mk.inj reaction
            exact .met waiting
        | error error =>
            cases error <;>
              (obtain ⟨rfl, rfl⟩ := Prod.mk.inj reaction
               exact .gaveUp active)
      next => simp at stepped
  | handshakeSent result =>
      cases result with
      | ok => simp [Event.lifeless] at lifeless
      | error error =>
          simp only [step] at stepped
          split at stepped
          next trace stage waiting =>
            exact fades_of_failHandshake (by rw [waiting]; rfl)
              (Option.some.inj stepped)
          next => simp at stepped
  | handshakeReceived result =>
      cases result with
      | ok => simp [Event.lifeless] at lifeless
      | error error =>
          simp only [step] at stepped
          split at stepped
          next trace stage waiting =>
            exact fades_of_failHandshake (by rw [waiting]; rfl)
              (Option.some.inj stepped)
          next => simp at stepped
  | turn =>
      simp only [step] at stepped
      split at stepped
      next request rest free lined =>
        obtain ⟨message, rfl, begun⟩ :=
          begun_of_begin (Option.some.inj stepped).symm
        exact .turned free lined begun
      next => simp at stepped
  | callSent result =>
      cases result with
      | ok => simp [Event.lifeless] at lifeless
      | error error =>
          obtain rfl : error = .notConnected := by
            simpa [Event.lifeless] using lifeless
          simp only [step] at stepped
          split at stepped
          next holder held =>
            simp only [transferSent] at stepped
            split at stepped
            next => simp at stepped
            next =>
              obtain ⟨rfl, rfl⟩ := Prod.mk.inj (Option.some.inj stepped)
              exact .returned held (.inl rfl)
          next => simp at stepped
  | callReceived result =>
      cases result with
      | ok => simp [Event.lifeless] at lifeless
      | error error =>
          simp only [step] at stepped
          split at stepped
          next ticket number held =>
            obtain ⟨rfl, rfl⟩ := Prod.mk.inj (Option.some.inj stepped)
            rw [ofTransport_of_hungUp lifeless]
            exact .returned held (.inr rfl)
          next => simp at stepped
  | notice ticket =>
      simp only [step] at stepped
      split at stepped
      next settled =>
        obtain ⟨rfl, rfl⟩ := Prod.mk.inj (Option.some.inj stepped)
        simp only [Bool.and_eq_true, List.contains_iff_mem] at settled
        exact .noticed settled.1
      next => simp at stepped
  | closed ticket result =>
      simp only [step] at stepped
      split at stepped
      next closing =>
        rw [List.contains_iff_mem] at closing
        cases result with
        | ok _ =>
            obtain ⟨rfl, rfl⟩ := Prod.mk.inj (Option.some.inj stepped)
            exact .closed closing
        | error error =>
            obtain ⟨rfl, rfl⟩ := Prod.mk.inj (Option.some.inj stepped)
            exact .unclosed closing
      next => simp at stepped

/-- What a call that starts comes to at first. -/
inductive Enters (server : Server) : Event → Server → List Effect → Prop where
  /-- The call is over at once. -/
  | ended {event : Event} {serving : Bool} {outcome : Outcome} :
      Enters server event
        { server with serving, nextTicket := server.nextTicket + 1 }
        [.finish server.nextTicket outcome]
  | told : Enters server .cancel { server with cancelled := true } []
  | listening {trace : TraceContext} :
      Enters server (.serve trace (.ok ()))
        { server with
          state := .listening
          serving := true
          reception := .accepting trace
          nextTicket := server.nextTicket + 1 }
        [.publish .listening, .accept,
          .finish server.nextTicket (.result (.ok ()))]
  | queued {request : Request}
      (numbered : request.ticket = server.nextTicket) :
      Enters server (.call request.errand)
        { server with
          nextTicket := server.nextTicket + 1
          waiting := server.waiting ++ [request] }
        []
  /-- The call finds the exchange free. -/
  | started {request : Request} {next : Server} {message : Message}
      (numbered : request.ticket = server.nextTicket)
      (free : server.holder = none)
      (begun :
        Begun { server with nextTicket := server.nextTicket + 1 } request next
          message) :
      Enters server (.call request.errand) next [.send .exchange message]
  | watches (unsettled : server.state.settled = false) :
      Enters server .awaitConnection
        { server with
          nextTicket := server.nextTicket + 1
          watchers := server.watchers ++ [server.nextTicket] }
        []
  | closes :
      Enters server .close
        { server with
          nextTicket := server.nextTicket + 1
          closers := server.closers ++ [server.nextTicket] }
        [.close server.nextTicket]

theorem enters_of_step
    (called : event.called = true)
    (stepped : step server event = some (next, effects)) :
    Enters server event next effects := by
  cases event with
  | serve trace bound =>
      have reaction : serve server trace bound = (next, effects) :=
        Option.some.inj stepped
      simp only [serve] at reaction
      split at reaction
      next served =>
        obtain ⟨rfl, rfl⟩ := Prod.mk.inj reaction
        exact .ended
      next unserved =>
        split at reaction
        next error =>
          obtain ⟨rfl, rfl⟩ := Prod.mk.inj reaction
          exact .ended
        next =>
          obtain ⟨rfl, rfl⟩ := Prod.mk.inj reaction
          exact .listening
  | cancel =>
      obtain ⟨rfl, rfl⟩ := Prod.mk.inj (Option.some.inj stepped)
      exact .told
  | call errand =>
      have reaction : start server errand = (next, effects) :=
        Option.some.inj stepped
      simp only [start] at reaction
      split at reaction
      next unset =>
        obtain ⟨rfl, rfl⟩ := Prod.mk.inj reaction
        exact .ended
      next session found =>
        split at reaction
        next free =>
          simp only [Bool.and_eq_true, Option.isNone_iff_eq_none] at free
          obtain ⟨message, rfl, begun⟩ := begun_of_begin reaction.symm
          exact @Enters.started server
            ⟨server.nextTicket, session, errand⟩ next message rfl free.1
            begun
        next busy =>
          obtain ⟨rfl, rfl⟩ := Prod.mk.inj reaction
          exact @Enters.queued server
            ⟨server.nextTicket, session, errand⟩ rfl
  | awaitConnection =>
      have reaction : awaitConnection server = (next, effects) :=
        Option.some.inj stepped
      simp only [awaitConnection] at reaction
      split at reaction
      next settled =>
        obtain ⟨rfl, rfl⟩ := Prod.mk.inj reaction
        exact .ended
      next unsettled =>
        obtain ⟨rfl, rfl⟩ := Prod.mk.inj reaction
        exact .watches (by simpa using unsettled)
  | close =>
      obtain ⟨rfl, rfl⟩ := Prod.mk.inj (Option.some.inj stepped)
      exact .closes
  | abandon | accepted | handshakeSent | handshakeReceived | turn | callSent
  | callReceived | notice | closed =>
      simp [Event.called] at called

/-! ## The load -/

theorem toll_pos {reception : Reception} (active : reception.active = true) :
    0 < toll reception := by
  cases reception <;> simp_all [toll, Reception.active]

theorem length_erase_lt
    {ticket : Ticket} {tickets : List Ticket} (member : ticket ∈ tickets) :
    (tickets.erase ticket).length < tickets.length := by
  have nonempty := List.length_pos_of_mem member
  rw [List.length_erase_of_mem member]
  omega

/-- Every step without a peer takes something off the load. -/
theorem load_of_fades (fades : Fades server event next effects) :
    next.load < server.load := by
  cases fades with
  | gaveUp active =>
      have pending := toll_pos active
      have past : toll .finished = 0 := rfl
      simp only [load, past]
      omega
  | met waiting => simp [load, waiting, toll]
  | turned free lined begun =>
      cases begun <;>
        simp only [load, free, lined, List.length_cons, Option.toList_some,
          Option.toList_none, List.length_nil] <;>
        omega
  | returned held answers => simp [load, held]
  | noticed watching =>
      have shorter := length_erase_lt watching
      simp only [load]
      omega
  | closed closing =>
      have shorter := length_erase_lt closing
      simp only [load]
      omega
  | unclosed closing =>
      have shorter := length_erase_lt closing
      simp only [load]
      omega

/-- A call that starts adds at most two to the load. -/
theorem load_of_enters (enters : Enters server event next effects) :
    next.load ≤ server.load + 2 := by
  cases enters with
  | ended => simp only [load]; omega
  | told => simp only [load]; omega
  | listening => simp only [load, toll]; omega
  | queued numbered => simp [load]; omega
  | started numbered free begun =>
      cases begun <;> simp [load, free] <;> omega
  | watches unsettled => simp [load]; omega
  | closes => simp [load]; omega

/-! ## What becomes of calls -/

section Calls

variable {told : Except ProtocolError Unit → Prop}
  {seen : Option Version → Prop}

/--
What became of the calls of a server some steps later: each is not over yet,
or it ended as those that tell and those that watch are to end.
-/
structure Carried (told : Except ProtocolError Unit → Prop)
    (seen : Option Version → Prop) (server : Server) (effects : List Effect)
    (next : Server) : Prop where
  telling :
    ∀ ticket ∈ server.telling,
      ticket ∈ next.telling ∨
        ∃ result, .finish ticket (.result result) ∈ effects ∧ told result
  watching :
    ∀ ticket ∈ server.watchers,
      ticket ∈ next.watchers ∨
        ∃ found, .finish ticket (.connection found) ∈ effects ∧ seen found
  closing :
    ∀ ticket ∈ server.closers,
      ticket ∈ next.closers ∨
        ∃ result, .finish ticket (.result result) ∈ effects
  /-- A call that started since is under way, or it is over. -/
  started :
    ∀ ticket, server.nextTicket ≤ ticket → ticket < next.nextTicket →
      ticket ∈ next.unfinished ∨ ∃ outcome, .finish ticket outcome ∈ effects

theorem Carried.unfinished
    {ticket : Ticket} (carried : Carried told seen server effects next)
    (pending : ticket ∈ server.unfinished) :
    ticket ∈ next.unfinished ∨
      ∃ outcome, .finish ticket outcome ∈ effects := by
  simp only [Server.unfinished, bystanders, List.mem_append] at pending ⊢
  rcases pending with tells | watches | closes
  · rcases carried.telling ticket tells with still | ⟨result, ended, _⟩
    · exact .inl (.inl still)
    · exact .inr ⟨_, ended⟩
  · rcases carried.watching ticket watches with still | ⟨found, ended, _⟩
    · exact .inl (.inr (.inl still))
    · exact .inr ⟨_, ended⟩
  · rcases carried.closing ticket closes with still | ⟨result, ended⟩
    · exact .inl (.inr (.inr still))
    · exact .inr ⟨_, ended⟩

theorem Carried.refl (server : Server) :
    Carried told seen server [] server where
  telling := fun _ member => .inl member
  watching := fun _ member => .inl member
  closing := fun _ member => .inl member
  started := fun _ late early => absurd early (Nat.not_lt.mpr late)

theorem Carried.trans
    {final : Server} (first : Carried told seen server effects next)
    (second : Carried told seen next more final) :
    Carried told seen server (effects ++ more) final where
  telling := by
    intro ticket member
    rcases first.telling ticket member with still | ⟨result, ended, as⟩
    · rcases second.telling ticket still with last | ⟨result, ended, as⟩
      · exact .inl last
      · exact .inr ⟨result, List.mem_append_right _ ended, as⟩
    · exact .inr ⟨result, List.mem_append_left _ ended, as⟩
  watching := by
    intro ticket member
    rcases first.watching ticket member with still | ⟨found, ended, as⟩
    · rcases second.watching ticket still with last | ⟨found, ended, as⟩
      · exact .inl last
      · exact .inr ⟨found, List.mem_append_right _ ended, as⟩
    · exact .inr ⟨found, List.mem_append_left _ ended, as⟩
  closing := by
    intro ticket member
    rcases first.closing ticket member with still | ⟨result, ended⟩
    · rcases second.closing ticket still with last | ⟨result, ended⟩
      · exact .inl last
      · exact .inr ⟨result, List.mem_append_right _ ended⟩
    · exact .inr ⟨result, List.mem_append_left _ ended⟩
  started := by
    intro ticket late early
    rcases Nat.lt_or_ge ticket next.nextTicket with before | since
    · rcases first.started ticket late before with still | ⟨outcome, ended⟩
      · rcases second.unfinished still with last | ⟨outcome, ended⟩
        · exact .inl last
        · exact .inr ⟨outcome, List.mem_append_right _ ended⟩
      · exact .inr ⟨outcome, List.mem_append_left _ ended⟩
    · rcases second.started ticket since early with last | ⟨outcome, ended⟩
      · exact .inl last
      · exact .inr ⟨outcome, List.mem_append_right _ ended⟩

/-- A step that starts no call. -/
theorem carried_of_same_number
    (numbered : next.nextTicket = server.nextTicket)
    (telling :
      ∀ ticket ∈ server.telling,
        ticket ∈ next.telling ∨
          ∃ result, .finish ticket (.result result) ∈ effects ∧ told result)
    (watching :
      ∀ ticket ∈ server.watchers,
        ticket ∈ next.watchers ∨
          ∃ found, .finish ticket (.connection found) ∈ effects ∧ seen found)
    (closing :
      ∀ ticket ∈ server.closers,
        ticket ∈ next.closers ∨
          ∃ result, .finish ticket (.result result) ∈ effects) :
    Carried told seen server effects next where
  telling
  watching
  closing
  started := by
    intro ticket late early
    rw [numbered] at early
    exact absurd early (Nat.not_lt.mpr late)

/-- A step that keeps all calls and starts at most one. -/
theorem carried_of_kept
    (telling : server.telling ⊆ next.telling)
    (watching : server.watchers ⊆ next.watchers)
    (closing : server.closers ⊆ next.closers)
    (numbered : next.nextTicket ≤ server.nextTicket + 1)
    (own :
      server.nextTicket < next.nextTicket →
        server.nextTicket ∈ next.unfinished ∨
          ∃ outcome, .finish server.nextTicket outcome ∈ effects) :
    Carried told seen server effects next where
  telling := fun _ member => .inl (telling member)
  watching := fun _ member => .inl (watching member)
  closing := fun _ member => .inl (closing member)
  started := by
    intro ticket late early
    obtain rfl : ticket = server.nextTicket :=
      Nat.le_antisymm
        (Nat.le_of_lt_succ (Nat.lt_of_lt_of_le early numbered)) late
    exact own early

/-- A step that neither starts a call nor ends one. -/
theorem carried_of_same
    (telling : server.telling ⊆ next.telling)
    (watching : next.watchers = server.watchers)
    (closing : next.closers = server.closers)
    (numbered : next.nextTicket = server.nextTicket) :
    Carried told seen server effects next := by
  refine carried_of_same_number numbered
    (fun _ member => .inl (telling member)) ?_ ?_
  · rw [watching]
    exact fun _ member => .inl member
  · rw [closing]
    exact fun _ member => .inl member

/-- The call that has the exchange ends. -/
theorem carried_of_returned
    {holder : Holder} {result : Except ProtocolError Unit}
    (held : server.holder = some holder) (as : told result)
    (ended : .finish holder.ticket (.result result) ∈ effects) :
    Carried told seen server effects { server with holder := none } := by
  refine carried_of_same_number rfl ?_ (fun _ member => .inl member)
    fun _ member => .inl member
  intro ticket member
  simp only [telling, held, Option.toList_some, List.map_cons, List.map_nil,
    List.singleton_append, List.mem_cons] at member
  rcases member with rfl | lined
  · exact .inr ⟨result, ended, as⟩
  · exact .inl lined

/-- A ticket that leaves a line is the only one that does. -/
theorem mem_erase_or_eq
    {ticket ended : Ticket} {tickets : List Ticket}
    (member : ticket ∈ tickets) :
    ticket ∈ tickets.erase ended ∨ ticket = ended := by
  by_cases same : ticket = ended
  · exact .inr same
  · exact .inl ((List.mem_erase_of_ne same).mpr member)

theorem carried_of_fades
    (failing : ∀ error, told (.error (.transport error)))
    (sees : server.watchers ≠ [] → seen server.state.version?)
    (fades : Fades server event next effects) :
    Carried told seen server effects next := by
  cases fades with
  | gaveUp active => exact carried_of_same (List.Subset.refl _) rfl rfl rfl
  | met waiting => exact carried_of_same (List.Subset.refl _) rfl rfl rfl
  | turned free lined begun =>
      cases begun <;>
        exact carried_of_same (by simp [telling, free, lined]) rfl rfl rfl
  | returned held answers =>
      exact carried_of_returned held (failing _) (List.mem_singleton_self _)
  | noticed watching =>
      refine carried_of_same_number rfl (fun _ member => .inl member) ?_
        fun _ member => .inl member
      intro ticket member
      refine (mem_erase_or_eq member).imp_right ?_
      rintro rfl
      exact ⟨_, List.mem_singleton_self _, sees (List.ne_nil_of_mem watching)⟩
  | closed closing =>
      refine carried_of_same_number rfl (fun _ member => .inl member)
        (fun _ member => .inl member) ?_
      intro ticket member
      refine (mem_erase_or_eq member).imp_right ?_
      rintro rfl
      exact ⟨.ok (), by simp⟩
  | unclosed closing =>
      refine carried_of_same_number rfl (fun _ member => .inl member)
        (fun _ member => .inl member) ?_
      intro ticket member
      refine (mem_erase_or_eq member).imp_right ?_
      rintro rfl
      exact ⟨_, List.mem_singleton_self _⟩

/-- A call that starts is under way, or it is over at once. -/
theorem carried_of_enters (enters : Enters server event next effects) :
    Carried told seen server effects next := by
  cases enters with
  | ended =>
      refine carried_of_kept (List.Subset.refl _) (List.Subset.refl _)
        (List.Subset.refl _) (Nat.le_refl _) fun _ => ?_
      exact .inr ⟨_, List.mem_singleton_self _⟩
  | told => exact carried_of_same (List.Subset.refl _) rfl rfl rfl
  | listening =>
      refine carried_of_kept (List.Subset.refl _) (List.Subset.refl _)
        (List.Subset.refl _) (Nat.le_refl _) fun _ => ?_
      exact .inr ⟨.result (.ok ()), by simp⟩
  | queued numbered =>
      refine carried_of_kept ?_ (List.Subset.refl _) (List.Subset.refl _)
        (Nat.le_refl _) fun _ => .inl ?_
      · intro ticket member
        simp only [telling, List.map_append, List.mem_append] at member ⊢
        exact member.imp_right .inl
      · simp [unfinished, telling, numbered]
  | started numbered free begun =>
      cases begun with
      | cycle errand =>
          refine carried_of_kept ?_ (List.Subset.refl _) (List.Subset.refl _)
            (Nat.le_refl _) fun _ => .inl ?_
          · simp [telling, free]
          · simp [unfinished, telling, numbered]
      | exit errand =>
          refine carried_of_kept ?_ (List.Subset.refl _) (List.Subset.refl _)
            (Nat.le_refl _) fun _ => .inl ?_
          · simp [telling, free]
          · simp [unfinished, telling, numbered]
  | watches unsettled =>
      refine carried_of_kept (List.Subset.refl _)
        (List.subset_append_left _ _) (List.Subset.refl _) (Nat.le_refl _)
        fun _ => .inl ?_
      simp [unfinished, bystanders]
  | closes =>
      refine carried_of_kept (List.Subset.refl _) (List.Subset.refl _)
        (List.subset_append_left _ _) (Nat.le_refl _) fun _ => .inl ?_
      simp [unfinished, bystanders]

/-! ## Every call is accounted for -/

/-- An answer of the transport to a message ends at most the call it is for. -/
theorem carried_of_answer
    (any : ∀ result, told result)
    (answers : event.answersSend = true ∨ event.answersReceive = true)
    (move : Move server event next effects) :
    Carried told seen server effects next := by
  cases move with
  | aside uncalled unanswering shown claimed numbered silent stood ended =>
      rw [unanswering.1, unanswering.2] at answers
      simp at answers
  | listening unserved => simp at answers
  | failed log failure logged =>
      exact carried_of_same (List.Subset.refl _) rfl rfl rfl
  | entered state shown advance said asked unended =>
      exact carried_of_same (List.Subset.refl _) rfl rfl rfl
  | agreed unset advance =>
      exact carried_of_same (List.Subset.refl _) rfl rfl rfl
  | turnedAway unset => simp at answers
  | queued found => simp at answers
  | started found free unlined begins => simp at answers
  | turned free lined begins => simp at answers
  | cycleSent held =>
      exact carried_of_same (by simp [telling, held]) rfl rfl rfl
  | waited held verdict =>
      exact carried_of_same (List.Subset.refl _) rfl rfl rfl
  | returned log ending logged =>
      cases ending with
      | cycleUnsent held | exitUnsent held | exitSent held | unreceived held
      | answered held verdict | refused held verdict =>
          exact carried_of_returned held (any _)
            (List.mem_append_right _ (List.mem_singleton_self _))

/-- What an event is: a call, a step of a task or an answer to a message. -/
theorem called_or_lifeless_or_answers (event : Event) :
    event.called = true ∨ event.lifeless = true ∨
      (event.answersSend = true ∨ event.answersReceive = true) := by
  cases event <;> simp [Event.called, Event.lifeless]

/-- No step loses a call. -/
theorem carried_of_step
    (stepped : step server event = some (next, effects)) :
    Carried (fun _ => True) (fun _ => True) server effects next := by
  rcases called_or_lifeless_or_answers event with called | lifeless | answers
  · exact carried_of_enters (enters_of_step called stepped)
  · exact carried_of_fades (fun _ => trivial) (fun _ => trivial)
      (fades_of_step lifeless stepped)
  · exact carried_of_answer (fun _ => trivial) answers (move_of_step stepped)

/-- No run loses a call. -/
theorem carried_run
    {events : List Event}
    (ran : run step server events = some (next, effects)) :
    Carried (fun _ => True) (fun _ => True) server effects next :=
  run_invariant
    (fun state _ effects =>
      Carried (fun _ => True) (fun _ => True) server effects state)
    (.refl server)
    (fun _ _ _ _ _ _ carried stepped =>
      carried.trans (carried_of_step stepped))
    ran

end Calls

/-- A call that could not tell the client anything. -/
def Undelivered (result : Except ProtocolError Unit) : Prop :=
  ∃ error, result = .error (.transport error)

/-- No call that waits for the client has one to see. -/
def Unmet (server : Server) : Prop :=
  server.watchers = [] ∨ server.state.version? = none

/-! ## What is shown -/

theorem unmet_of_fades
    (unmet : Unmet server) (fades : Fades server event next effects) :
    Unmet next := by
  cases fades with
  | gaveUp active => exact .inr rfl
  | met waiting => exact .inr rfl
  | turned free lined begun => cases begun <;> exact unmet
  | returned held answers => exact unmet
  | noticed watching =>
      refine .inr (unmet.resolve_left fun unwatched => ?_)
      simp [unwatched] at watching
  | closed closing => exact .inr rfl
  | unclosed closing => exact unmet

theorem unmet_of_enters
    (unmet : Unmet server) (enters : Enters server event next effects) :
    Unmet next := by
  cases enters with
  | ended => exact unmet
  | told => exact unmet
  | listening => exact .inr rfl
  | queued numbered => exact unmet
  | started numbered free begun => cases begun <;> exact unmet
  | watches unsettled =>
      refine .inr ?_
      cases shown : server.state <;>
        simp_all [ConnectionState.settled, ConnectionState.version?]
  | closes => exact unmet

/-- A server that is closed, or will be when its reception is over. -/
def Closing (server : Server) : Prop :=
  server.state = .closed ∨ server.reception.active = true

theorem closing_of_fades
    (closing : Closing server ∨ ∃ ticket, event = .closed ticket (.ok ()))
    (fades : Fades server event next effects) : Closing next := by
  cases fades with
  | gaveUp active => exact .inl rfl
  | met waiting => exact .inr rfl
  | turned free lined begun =>
      rcases closing with closing | ⟨ticket, other⟩
      · cases begun <;> exact closing
      · cases other
  | returned held answers =>
      rcases closing with closing | ⟨ticket, rfl⟩
      · exact closing
      · simp at answers
  | noticed watching =>
      rcases closing with closing | ⟨ticket, other⟩
      · exact closing
      · cases other
  | closed closing => exact .inl rfl
  | unclosed member =>
      rcases closing with closing | ⟨ticket, other⟩
      · exact closing
      · cases other

theorem closing_of_enters
    (closing : Closing server) (enters : Enters server event next effects) :
    Closing next := by
  cases enters with
  | ended => exact closing
  | told => exact closing
  | listening => exact .inr rfl
  | queued numbered => exact closing
  | started numbered free begun => cases begun <;> exact closing
  | watches unsettled => exact closing
  | closes => exact closing

/-! ## Along a run without a peer -/

/-- What has become of a server some steps later, without a peer. -/
structure Ebbed (server : Server) (events : List Event)
    (effects : List Effect) (next : Server) : Prop where
  carried : Carried Undelivered (· = none) server effects next
  unmet : Unmet next
  closing : ∀ ticket, .closed ticket (.ok ()) ∈ events → Closing next
  load :
    events.countP Event.lifeless + next.load ≤
      server.load + 2 * events.countP Event.called

theorem not_called_of_lifeless (lifeless : event.lifeless = true) :
    event.called = false := by
  cases event <;> simp_all [Event.lifeless, Event.called]

theorem Ebbed.step
    {final : Server} {events : List Event}
    (ebbed : Ebbed server events effects next)
    (peerless : event.lifeless = true ∨ event.called = true)
    (stepped : Server.step next event = some (final, more)) :
    Ebbed server (events ++ [event]) (effects ++ more) final := by
  obtain ⟨carried, unmet, closing, load⟩ := ebbed
  rcases peerless with lifeless | called
  · have fades := fades_of_step lifeless stepped
    have lighter := load_of_fades fades
    have uncalled := not_called_of_lifeless lifeless
    have unseen (watching : next.watchers ≠ []) :
        next.state.version? = none := unmet.resolve_left watching
    refine ⟨carried.trans
      (carried_of_fades (fun error => ⟨error, rfl⟩) unseen fades),
      unmet_of_fades unmet fades, ?_, ?_⟩
    · intro ticket member
      refine closing_of_fades ?_ fades
      rcases List.mem_append.mp member with before | own
      · exact .inl (closing ticket before)
      · exact .inr ⟨ticket, (List.mem_singleton.mp own).symm⟩
    · simp only [List.countP_append, List.countP_singleton, lifeless,
        uncalled, if_true, Bool.false_eq_true, if_false]
      omega
  · have enters := enters_of_step called stepped
    have heavier := load_of_enters enters
    have deliberate : event.lifeless = false := by
      cases lifeless : event.lifeless with
      | false => rfl
      | true => simp [not_called_of_lifeless lifeless] at called
    refine ⟨carried.trans (carried_of_enters enters),
      unmet_of_enters unmet enters, ?_, ?_⟩
    · intro ticket member
      refine closing_of_enters (closing ticket ?_) enters
      rcases List.mem_append.mp member with before | own
      · exact before
      · rw [← List.mem_singleton.mp own] at called
        simp [Event.called] at called
    · simp only [List.countP_append, List.countP_singleton, deliberate,
        called, if_true, Bool.false_eq_true, if_false]
      omega

theorem ebbed_run
    {events : List Event}
    (unmet : Unmet server)
    (peerless :
      ∀ event ∈ events, event.lifeless = true ∨ event.called = true)
    (ran : run step server events = some (next, effects)) :
    Ebbed server events effects next := by
  induction events using List.reverseRecOn generalizing next effects with
  | nil =>
      obtain ⟨rfl, rfl⟩ := Prod.mk.inj (Option.some.inj ran)
      exact ⟨.refl server, unmet, by simp, by simp⟩
  | append_singleton events event ih =>
      obtain ⟨middle, before, more, first, last, rfl⟩ :=
        run_snoc_eq_some_iff.mp ran
      refine (ih ?_ first).step ?_ last
      · exact fun other member => peerless other (by simp [member])
      · exact peerless event (by simp)

/-! ## At rest -/

/-- Whether the tasks of a server can do nothing more without a peer. -/
def AtRest (server : Server) : Prop :=
  ∀ event, event.lifeless = true → server.step event = none

/-- A server that carries no load is at rest. -/
theorem atRest_of_load_eq_zero (unloaded : server.load = 0) :
    AtRest server := by
  intro event lifeless
  cases stepped : server.step event with
  | none => rfl
  | some reaction =>
      have lighter := load_of_fades (fades_of_step lifeless stepped)
      omega

theorem AtRest.closers_eq_nil (rests : AtRest server) :
    server.closers = [] := by
  cases closers : server.closers with
  | nil => rfl
  | cons ticket others =>
      have stuck := rests (.closed ticket (.ok ())) rfl
      simp [step, closers] at stuck

theorem AtRest.holder_eq_none (rests : AtRest server) :
    server.holder = none := by
  cases held : server.holder with
  | none => rfl
  | some holder =>
      obtain ⟨ticket, transfer⟩ := holder
      cases transfer with
      | awaiting number =>
          have stuck := rests (.callReceived (.error .closed)) (by decide)
          simp [step, held] at stuck
      | sendingCycle number =>
          have stuck := rests (.callSent (.error .notConnected)) (by decide)
          simp [step, held, transferSent] at stuck
      | sendingExit =>
          have stuck := rests (.callSent (.error .notConnected)) (by decide)
          simp [step, held, transferSent] at stuck

theorem AtRest.waiting_eq_nil (rests : AtRest server) :
    server.waiting = [] := by
  cases lined : server.waiting with
  | nil => rfl
  | cons request others =>
      have stuck := rests .turn rfl
      simp [step, rests.holder_eq_none, lined] at stuck

theorem AtRest.active_eq_false (rests : AtRest server) :
    server.reception.active = false := by
  cases waiting : server.reception with
  | absent => rfl
  | finished => rfl
  | accepting trace =>
      cases cancelled : server.cancelled with
      | true =>
          have stuck := rests .abandon rfl
          simp [step, waiting, cancelled] at stuck
      | false =>
          have stuck := rests (.accepted (.error .notAccepted)) (by decide)
          simp [step, waiting, cancelled] at stuck
  | shaking trace stage =>
      cases stage with
      | sending sending =>
          have stuck :=
            rests (.handshakeSent (.error .notConnected)) (by decide)
          simp [step, waiting] at stuck
      | receiving receiving =>
          have stuck := rests (.handshakeReceived (.error .closed)) (by decide)
          simp [step, waiting] at stuck

theorem AtRest.watchers_eq_nil
    (rests : AtRest server) (closed : server.state = .closed) :
    server.watchers = [] := by
  cases watching : server.watchers with
  | nil => rfl
  | cons ticket others =>
      have stuck := rests (.notice ticket) rfl
      simp [step, watching, closed, ConnectionState.settled] at stuck

/-- The tasks of a server come to rest without a peer. -/
theorem runs_to_rest (server : Server) :
    ∃ events final effects,
      (∀ event ∈ events, event.lifeless = true) ∧
        run step server events = some (final, effects) ∧ AtRest final := by
  induction carried : server.load using Nat.strongRecOn
    generalizing server with
  | ind load ih =>
      by_cases rests : AtRest server
      · exact ⟨[], server, [], by simp, rfl, rests⟩
      · obtain ⟨event, lifeless, possible⟩ :
            ∃ event : Event, event.lifeless = true ∧
              server.step event ≠ none := by
          simpa [AtRest] using rests
        obtain ⟨⟨next, effects⟩, stepped⟩ :=
          Option.ne_none_iff_exists'.mp possible
        have lighter := load_of_fades (fades_of_step lifeless stepped)
        obtain ⟨events, final, more, others, ran, rested⟩ :=
          ih next.load (carried ▸ lighter) next rfl
        refine ⟨event :: events, final, effects ++ more, ?_, ?_, rested⟩
        · rintro other (_ | ⟨_, member⟩)
          · exact lifeless
          · exact others other member
        · exact run_cons_eq_some_iff.mpr
            ⟨next, effects, more, stepped, ran, rfl⟩

/-! ## Behind a closed server -/

/-- What has become of a server that was closed and is at rest. -/
structure Released (server : Server) (said : List Effect) (final : Server) :
    Prop where
  closed : final.state = .closed
  unreceived : final.reception.active = false
  unfinished : final.unfinished = []
  /-- Whoever had something to tell is told that it cannot be sent. -/
  undelivered :
    ∀ ticket ∈ server.telling,
      ∃ result,
        .finish ticket (.result result) ∈ said ∧ Undelivered result
  /-- Whoever waited for the client is told that there is none. -/
  unmet :
    ∀ ticket ∈ server.watchers, .finish ticket (.connection none) ∈ said
  ended :
    ∀ ticket, ticket ∈ server.unfinished ∨
        server.nextTicket ≤ ticket ∧ ticket < final.nextTicket →
      ∃ outcome, .finish ticket outcome ∈ said

theorem AtRest.unfinished_eq_nil
    (rests : AtRest server) (closed : server.state = .closed) :
    server.unfinished = [] := by
  simp [unfinished, telling, bystanders, rests.holder_eq_none,
    rests.waiting_eq_nil, rests.watchers_eq_nil closed, rests.closers_eq_nil]

/-- Nobody is left in a server that ebbed away behind a close. -/
theorem released_of_ebbed
    {final : Server} {events : List Event} {said : List Effect}
    (ebbed : Ebbed server events said final) (rests : AtRest final)
    (answered : ∃ ticket, .closed ticket (.ok ()) ∈ events) :
    Released server said final := by
  have unreceived := rests.active_eq_false
  have closed : final.state = .closed := by
    obtain ⟨ticket, member⟩ := answered
    refine (ebbed.closing ticket member).resolve_right ?_
    simp [unreceived]
  have emptied := rests.unfinished_eq_nil closed
  refine ⟨closed, unreceived, emptied, ?_, ?_, ?_⟩
  · intro ticket member
    refine (ebbed.carried.telling ticket member).resolve_left ?_
    simp [telling, rests.holder_eq_none, rests.waiting_eq_nil]
  · intro ticket member
    obtain ⟨found, ended, rfl⟩ :=
      (ebbed.carried.watching ticket member).resolve_left
        (by simp [rests.watchers_eq_nil closed])
    exact ended
  · rintro ticket (pending | ⟨late, early⟩)
    · exact (ebbed.carried.unfinished pending).resolve_left (by simp [emptied])
    · exact (ebbed.carried.started ticket late early).resolve_left
        (by simp [emptied])

/-- A call that waits although nobody notices has no client to see. -/
theorem unmet_of_patient
    (patient : ∀ ticket, server.step (.notice ticket) = none) :
    Unmet server := by
  cases watching : server.watchers with
  | nil => exact .inl watching
  | cons ticket others =>
      have unsettled := patient ticket
      refine .inr ?_
      cases shown : server.state <;>
        simp_all [step, ConnectionState.settled, ConnectionState.version?]

/-- Nothing is sent in a step without a peer. -/
theorem not_delivers_of_peerless
    (peerless : event.lifeless = true ∨ event.called = true) :
    event.delivers = false := by
  cases event with
  | handshakeSent result | callSent result =>
      cases result <;> simp_all [Event.lifeless, Event.called, Event.delivers]
  | _ => rfl

/--
Closing asks the transport to close and lets everybody go.  If no call that
waits for the client could go on when the server is closed, and the transport
answers as closed from then on, then the tasks can take only so many steps
more, send nothing, and can come to rest.  Once the close has returned and
they are at rest, every call that ever started is over: whoever had something
to tell could not send it, and whoever waited for the client has learned that
there is none.
-/
theorem close_releases
    {options : ServerOptions} {events later : List Event}
    {said : List Effect} {final : Server}
    (ran : run step (new options) events = some (server, effects))
    (patient : ∀ ticket, server.step (.notice ticket) = none)
    (closing : run step server (.close :: later) = some (final, said))
    (peerless :
      ∀ event ∈ later, event.lifeless = true ∨ event.called = true) :
    (∃ rest, said = .close server.nextTicket :: rest) ∧
      later.countP Event.lifeless ≤
        server.load + 2 * (later.countP Event.called + 1) ∧
      (∀ event ∈ later, event.delivers = false) ∧
      (∃ events rested told,
        (∀ event ∈ events, event.lifeless = true) ∧
          run step final events = some (rested, told) ∧ AtRest rested) ∧
      (AtRest final → .closed server.nextTicket (.ok ()) ∈ later →
        Released server said final ∧
          ∀ ticket < final.nextTicket,
            ∃ outcome, .finish ticket outcome ∈ effects ++ said) := by
  have ebbed : Ebbed server (.close :: later) said final := by
    refine ebbed_run (unmet_of_patient patient) ?_ closing
    rintro event (_ | ⟨_, member⟩)
    · exact .inr rfl
    · exact peerless event member
  refine ⟨?_, ?_, fun event member =>
    not_delivers_of_peerless (peerless event member), runs_to_rest final, ?_⟩
  · obtain ⟨closed, asked, rest, stepped, _, rfl⟩ :=
      run_cons_eq_some_iff.mp closing
    obtain ⟨rfl, rfl⟩ := Prod.mk.inj (Option.some.inj stepped)
    exact ⟨rest, rfl⟩
  · have counted := ebbed.load
    simp only [List.countP_cons, Event.lifeless, Event.called, if_true,
      Bool.false_eq_true, if_false] at counted
    omega
  · intro rests answered
    have released :=
      released_of_ebbed ebbed rests ⟨_, List.mem_cons_of_mem _ answered⟩
    refine ⟨released, fun ticket early => ?_⟩
    rcases Nat.lt_or_ge ticket server.nextTicket with before | since
    · rcases (carried_run ran).started ticket (Nat.zero_le _) before
        with still | ⟨outcome, ended⟩
      · obtain ⟨outcome, ended⟩ := released.ended ticket (.inl still)
        exact ⟨outcome, List.mem_append_right _ ended⟩
      · exact ⟨outcome, List.mem_append_left _ ended⟩
    · obtain ⟨outcome, ended⟩ := released.ended ticket (.inr ⟨since, early⟩)
      exact ⟨outcome, List.mem_append_right _ ended⟩

/-- A client of version 0 is told of a change; two calls are in line. -/
def crowdedVisit : List Event :=
  [.serve .none (.ok ()), .accepted (.ok ()), .handshakeSent (.ok ()),
    .handshakeReceived (.ok (Message.plain (.negotiateResponse .legacy))),
    .call (.cycle .none .runfiles KeyMap.empty), .callSent (.ok ()),
    .call (.cycle .none .sources KeyMap.empty), .call (.exit .none "")]

/-- How everybody leaves; two calls come late. -/
def evacuation : List Event :=
  [.closed 4 (.ok ()), .callReceived (.error .closed), .turn,
    .callSent (.error .notConnected), .turn, .awaitConnection,
    .callSent (.error .notConnected), .call (.exit .none ""),
    .callSent (.error .notConnected)]

theorem close_releases_crowdedVisit :
    ∃ server effects final said,
      run step (new ⟨"build.sock", [.legacy]⟩) crowdedVisit =
          some (server, effects) ∧
        run step server (.close :: evacuation) = some (final, said) ∧
        server.telling = [1, 2, 3] ∧ final.unfinished = [] ∧
        ∀ ticket < final.nextTicket,
          ∃ outcome, .finish ticket outcome ∈ effects ++ said := by
  obtain ⟨server, effects, final, said, ran, closing, telling, unwatched,
      numbered, unloaded⟩ :
      ∃ server effects final said,
        run step (new ⟨"build.sock", [.legacy]⟩) crowdedVisit =
            some (server, effects) ∧
          run step server (.close :: evacuation) = some (final, said) ∧
          server.telling = [1, 2, 3] ∧ server.watchers = [] ∧
          server.nextTicket = 4 ∧ final.load = 0 :=
    ⟨_, _, _, _, rfl, rfl, rfl, rfl, rfl, rfl⟩
  have released :=
    (close_releases ran (by simp [step, unwatched]) closing
      (by decide)).2.2.2.2 (atRest_of_load_eq_zero unloaded)
      (by simp [numbered, evacuation])
  exact ⟨server, effects, final, said, ran, closing, telling,
    released.1.unfinished, released.2⟩

end BuildWatch.Server
