import BuildWatch.Handshake.Client
import BuildWatch.Handshake.Server

/-!
# What leads from one stage of a handshake to the next

A stage in which a side waits goes on exactly if the message is the one that
the stage asks for.  These equivalences say which one that is and where it
leads, so that later proofs never look into the stages themselves.
-/

namespace BuildWatch

namespace Version

/-- Whoever subscribes has exchanged capabilities before. -/
theorem hasCapabilities_of_hasSubscription
    {version : Version} (subscribes : version.hasSubscription = true) :
    version.hasCapabilities = true := by
  simp only [hasSubscription, decide_eq_true_eq] at subscribes
  simp only [hasCapabilities, decide_eq_true_eq]
  have least := UInt32.le_iff_toNat_le.mp subscribes
  apply UInt32.lt_iff_toNat_lt.mpr
  change 2 ≤ version.number.toNat at least
  change 0 < version.number.toNat
  omega

/-- Without capabilities there is nothing to subscribe to. -/
theorem hasSubscription_eq_false
    {version : Version} (incapable : version.hasCapabilities = false) :
    version.hasSubscription = false := by
  cases subscribes : version.hasSubscription with
  | false => rfl
  | true =>
      rw [hasCapabilities_of_hasSubscription subscribes] at incapable
      exact incapable

end Version

namespace ServerHandshake

theorem subscribe_eq_next_iff
    {version : Version} {capabilities : Option Capabilities} {stage : Stage} :
    subscribe version capabilities = .next stage ↔
      version.hasSubscription = true ∧
        stage = .receiving (.subscription version capabilities) := by
  unfold subscribe
  split
  next subscribes => simp [subscribes, eq_comm]
  next silent => simp [silent]

theorem subscribe_eq_agreed_iff
    {version : Version} {capabilities : Option Capabilities}
    {session : Session} :
    subscribe version capabilities = .agreed session ↔
      version.hasSubscription = false ∧
        session = ⟨version, capabilities, none⟩ := by
  unfold subscribe
  split
  next subscribes => simp [subscribes]
  next silent => simp [silent, eq_comm]

theorem negotiate_eq_next_iff {version : Version} {stage : Stage} :
    negotiate version = .next stage ↔
      version.hasCapabilities = true ∧
        stage = .receiving (.request version) := by
  unfold negotiate
  split
  next capable => simp [capable, eq_comm]
  next incapable =>
    have silent :=
      Version.hasSubscription_eq_false (by simpa using incapable)
    simp [subscribe, silent, incapable]

theorem negotiate_eq_agreed_iff {version : Version} {session : Session} :
    negotiate version = .agreed session ↔
      version.hasCapabilities = false ∧
        session = ⟨version, none, none⟩ := by
  unfold negotiate
  split
  next capable => simp [capable]
  next incapable =>
    rw [subscribe_eq_agreed_iff]
    constructor
    · rintro ⟨_, equal⟩
      exact ⟨by simpa using incapable, equal⟩
    · rintro ⟨_, equal⟩
      exact ⟨Version.hasSubscription_eq_false (by simpa using incapable),
        equal⟩

variable {supported : List Version} {message : Message}
  {progress : Progress Stage Session}

theorem received_choice_iff :
    Receiving.choice.received supported message = .ok progress ↔
      ∃ version ∈ supported,
        message.body = .negotiateResponse version ∧
          progress = negotiate version := by
  constructor
  · intro received
    simp only [Receiving.received] at received
    split at received
    next version body =>
      split at received
      next member =>
        exact ⟨version, member, body, (Except.ok.inj received).symm⟩
      next => simp at received
    next => simp at received
  · rintro ⟨version, member, body, rfl⟩
    simp [Receiving.received, body, member]

theorem received_request_iff {version : Version} :
    (Receiving.request version).received supported message = .ok progress ↔
      ∃ requested capabilities,
        message.body = .caps requested ∧
          Capabilities.ofWire (some requested) = .ok capabilities ∧
          progress = .next (.sending (.grant version capabilities)) := by
  constructor
  · intro received
    simp only [Receiving.received] at received
    split at received
    next requested body =>
      split at received
      next capabilities accepted =>
        exact ⟨requested, capabilities, body, accepted,
          (Except.ok.inj received).symm⟩
      next => simp at received
    next => simp at received
  · rintro ⟨requested, capabilities, body, accepted, rfl⟩
    simp [Receiving.received, body, accepted]

theorem received_subscription_iff
    {version : Version} {capabilities : Option Capabilities} :
    (Receiving.subscription version capabilities).received supported message =
        .ok progress ↔
      ∃ watchType,
        message.body = .subscribe watchType ∧
          progress =
            .next (.sending (.confirm version capabilities watchType)) := by
  constructor
  · intro received
    simp only [Receiving.received] at received
    split at received
    next watchType body =>
      exact ⟨watchType, body, (Except.ok.inj received).symm⟩
    next => simp at received
  · rintro ⟨watchType, body, rfl⟩
    simp [Receiving.received, body]

end ServerHandshake

namespace ClientHandshake

variable {supported : List Version} {message : Message}
  {progress : Progress Stage Agreement}

theorem received_offer_iff :
    Receiving.offer.received supported message = .ok progress ↔
      ∃ offered version,
        message.body = .negotiate offered ∧
          Version.select offered supported = some version ∧
          progress = .next (.sending (.choose version)) := by
  constructor
  · intro received
    simp only [Receiving.received] at received
    split at received
    next offered body =>
      split at received
      next version selected =>
        exact ⟨offered, version, body, selected,
          (Except.ok.inj received).symm⟩
      next => simp at received
    next => simp at received
  · rintro ⟨offered, version, body, selected, rfl⟩
    simp [Receiving.received, body, selected]

theorem received_grant_iff {version : Version} :
    (Receiving.grant version).received supported message = .ok progress ↔
      ∃ granted capabilities,
        message.body = .capsResponse granted ∧
          Capabilities.ofWire (some granted) = .ok capabilities ∧
          progress = .agreed ⟨version, some capabilities⟩ := by
  constructor
  · intro received
    simp only [Receiving.received] at received
    split at received
    next granted body =>
      split at received
      next capabilities accepted =>
        exact ⟨granted, capabilities, body, accepted,
          (Except.ok.inj received).symm⟩
      next => simp at received
    next => simp at received
  · rintro ⟨granted, capabilities, body, accepted, rfl⟩
    simp [Receiving.received, body, accepted]

end ClientHandshake

end BuildWatch
