import BuildWatch.Proofs.Capability
import BuildWatch.Proofs.Dialogue.Channels
import BuildWatch.Proofs.Message.RoundTrip

/-!
# What the other side says

Each side of a handshake takes its next step by what the other side has said,
and what the other side has said is known place by place.
-/

namespace BuildWatch

/-! ## What is said at which place -/

namespace ServerHandshake

variable {supported : List Version} {heard : List Receipt}
  {said : List Message} {message : Message}

/-- A server starts with its offer. -/
theorem Uttered.first
    (uttered : Uttered supported heard said)
    (found : said[0]? = some message) :
    message = Message.plain (.negotiate supported) := by
  obtain ⟨trace, version, capabilities, news, ⟨rest, whole⟩, _, _⟩ := uttered
  have place := getElem?_append_of_eq_some found rest
  rw [whole] at place
  unfold opening at place
  split at place
  · simpa [offer, Sending.message] using place.symm
  · split at place <;> simpa [offer, Sending.message] using place.symm

/-- On versions with capabilities a server goes on with what it grants. -/
theorem Uttered.second
    (uttered : Uttered supported heard said)
    (found : said[1]? = some message) :
    ∃ version, Chosen supported heard version ∧
      (version.hasCapabilities = true →
        ∃ trace capabilities, message = grant trace capabilities ∧
          Requested heard capabilities) := by
  obtain ⟨trace, version, capabilities, news, ⟨rest, whole⟩, _, known⟩ :=
    uttered
  have long : 1 < said.length := (List.getElem?_eq_some_iff.mp found).1
  obtain ⟨chosen, requested⟩ := known long
  refine ⟨version, chosen, ?_⟩
  intro capable
  have place := getElem?_append_of_eq_some found rest
  rw [whole] at place
  refine ⟨trace, capabilities, ?_, requested capable⟩
  unfold opening at place
  split at place
  · simpa using place.symm
  · simpa [capable] using place.symm

/-- On versions with subscriptions a server confirms them. -/
theorem Uttered.third
    (uttered : Uttered supported heard said)
    (found : said[2]? = some message) :
    ∃ version, Chosen supported heard version ∧
      (version.hasSubscription = true → message = confirmation) := by
  obtain ⟨trace, version, capabilities, news, ⟨rest, whole⟩, _, known⟩ :=
    uttered
  have long : 2 < said.length := (List.getElem?_eq_some_iff.mp found).1
  refine ⟨version, (known (by omega)).1, ?_⟩
  intro subscribes
  have place := getElem?_append_of_eq_some found rest
  rw [whole, opening, if_pos subscribes] at place
  simpa using place.symm

end ServerHandshake

namespace ClientHandshake

variable {watchType : String} {request : CapabilityRequest}
  {version : Version} {said answers : List Message} {message : Message}

theorem first_of_opening
    (begins : said <+: opening watchType request version ++ answers)
    (found : said[0]? = some message) : message = choice version := by
  obtain ⟨rest, whole⟩ := begins
  have place := getElem?_append_of_eq_some found rest
  rw [whole] at place
  unfold opening attachment at place
  split at place
  · simpa using place.symm
  · split at place <;> simpa using place.symm

theorem second_of_opening
    (begins : said <+: opening watchType request version ++ answers)
    (found : said[1]? = some message)
    (capable : version.hasCapabilities = true) : message = wish request := by
  obtain ⟨rest, whole⟩ := begins
  have place := getElem?_append_of_eq_some found rest
  rw [whole] at place
  unfold opening attachment at place
  rw [if_pos capable] at place
  split at place <;> simpa using place.symm

theorem third_of_opening
    (begins : said <+: opening watchType request version ++ answers)
    (found : said[2]? = some message)
    (subscribes : version.hasSubscription = true) :
    message = subscription watchType := by
  obtain ⟨rest, whole⟩ := begins
  have place := getElem?_append_of_eq_some found rest
  rw [whole, opening, if_pos subscribes] at place
  simpa using place.symm

end ClientHandshake

namespace Dialogue

/-- A message that fits is read as it was. -/
theorem read_encode
    {message : Message} (portable : Message.Portable message) :
    read message.encode = .ok message := by
  rw [read, Message.decode_encode portable]
  rfl

/-- What a server grants fits a message if its capabilities do. -/
theorem portable_grant
    {trace : TraceContext} {capabilities : Capabilities}
    (fit : Json.Fits 126 (Json.object capabilities.toWire)) :
    Message.Portable (ServerHandshake.grant trace capabilities) := by
  have carries :
      ∀ value,
        Message.carried?
            (.capsResponse (Json.object capabilities.toWire)) =
          some value → Json.Fits 126 value := by
    intro value carried
    cases carried
    exact fit
  simp only [ServerHandshake.grant]
  split
  · exact Message.portable_of_carried rfl carries
  · exact Message.portable_plain carries

section Places

variable {server : ServerOptions} {client : ClientOptions}
  {request : CapabilityRequest} {dialogue : Dialogue}
  {journal : List Entry}

theorem Joint.server_course
    (joint : Joint server client request dialogue journal) :
    Server.Course server dialogue.server (served journal) := by
  obtain ⟨events, ran, _⟩ := joint.reached
  exact Server.course_run ran

/-- What a server has said, up to what became of its handshake. -/
theorem Joint.server_uttered
    (joint : Joint server client request dialogue journal) :
    ServerHandshake.Uttered server.supported
      (Server.shakes (served journal)) (Server.said (served journal)) := by
  have course := joint.server_course
  rw [← course.same]
  exact course.talk.uttered

/-- The client receives the versions that the server supports. -/
theorem Joint.offer_heard
    (joint : Joint server client request dialogue journal)
    {receipt : Receipt}
    (found : (Consumer.heard (consumed journal))[0]? = some receipt) :
    receipt = .ok (Message.plain (.negotiate server.supported)) := by
  obtain ⟨message, place, rfl⟩ := joint.consumer_heard found
  rw [joint.server_uttered.first place]
  exact read_encode (Message.portable_plain (by simp [Message.carried?]))

/-- What the client picks is the first version that both support. -/
theorem Joint.selected
    (joint : Joint server client request dialogue journal)
    {version : Version}
    (offered :
      ClientHandshake.Offered client.supported
        (Consumer.heard (consumed journal)) version) :
    Version.select server.supported client.supported = some version := by
  obtain ⟨message, versions, found, body, selected⟩ := offered
  cases joint.offer_heard found
  cases body
  exact selected

/-- What the client has said begins with its choice. -/
theorem Joint.client_uttered
    (joint : Joint server client request dialogue journal) :
    ∃ version answers,
      Consumer.said (consumed journal) <+:
          ClientHandshake.opening client.watchType request version ++
            answers ∧
        (Consumer.said (consumed journal) ≠ [] →
          Version.select server.supported client.supported =
            some version) := by
  have course := joint.consumer
  obtain ⟨version, answers, begins, offered⟩ := course.phase.uttered
  rw [course.same] at begins offered
  exact ⟨version, answers, begins, fun spoken =>
    joint.selected (offered spoken)⟩

theorem ne_nil_of_getElem?
    {α : Type} {items : List α} {place : Nat} {item : α}
    (found : items[place]? = some item) : items ≠ [] := by
  rintro rfl
  simp at found

/-- The server receives the version that both support, or the end. -/
theorem Joint.choice_heard
    (joint : Joint server client request dialogue journal)
    {receipt : Receipt}
    (found : (Server.heard (served journal))[0]? = some receipt) :
    receipt = .error .closed ∨
      ∃ version, receipt = .ok (ClientHandshake.choice version) ∧
        Version.select server.supported client.supported =
          some version := by
  rcases joint.server_heard found with missed | ⟨message, place, rfl⟩
  · exact .inl missed
  · obtain ⟨version, answers, begins, selected⟩ := joint.client_uttered
    rw [ClientHandshake.first_of_opening begins place]
    refine .inr ⟨version, ?_, selected (ne_nil_of_getElem? place)⟩
    exact read_encode (Message.portable_plain (by simp [Message.carried?]))

/-- What is received for the handshake is what is received first of all. -/
theorem Joint.shaken
    (joint : Joint server client request dialogue journal)
    {place : Nat} {receipt : Receipt}
    (found : (Server.shakes (served journal))[place]? = some receipt) :
    (Server.heard (served journal))[place]? = some receipt := by
  rw [joint.server_course.heard]
  exact getElem?_append_of_eq_some found _

/-- The version that the server takes is the one that both support. -/
theorem Joint.chosen
    (joint : Joint server client request dialogue journal)
    {version : Version}
    (chosen :
      ServerHandshake.Chosen server.supported
        (Server.shakes (served journal)) version) :
    Version.select server.supported client.supported = some version := by
  obtain ⟨message, found, body, _⟩ := chosen
  rcases joint.choice_heard (joint.shaken found) with
    missed | ⟨own, equal, selected⟩
  · cases missed
  · cases equal
    cases body
    exact selected

/-- A place of the opening is a message of the opening, or the end. -/
theorem Joint.opening_heard
    (joint : Joint server client request dialogue journal)
    {version : Version} {place : Nat} {receipt : Receipt}
    (selected :
      Version.select server.supported client.supported = some version)
    (found : (Server.heard (served journal))[place]? = some receipt) :
    receipt = .error .closed ∨
      ∃ message answers,
        Consumer.said (consumed journal) <+:
            ClientHandshake.opening client.watchType request version ++
              answers ∧
          (Consumer.said (consumed journal))[place]? = some message ∧
          receipt = read message.encode := by
  rcases joint.server_heard found with missed | ⟨message, said, rfl⟩
  · exact .inl missed
  · obtain ⟨own, answers, begins, same⟩ := joint.client_uttered
    rw [same (ne_nil_of_getElem? said)] at selected
    cases selected
    exact .inr ⟨message, answers, begins, said, rfl⟩

/-- The server receives what the client wishes, or the end. -/
theorem Joint.wish_heard
    (joint : Joint server client request dialogue journal)
    (fit : request.Fits) {version : Version} {receipt : Receipt}
    (selected :
      Version.select server.supported client.supported = some version)
    (capable : version.hasCapabilities = true)
    (found : (Server.heard (served journal))[1]? = some receipt) :
    receipt = .error .closed ∨
      receipt = .ok (ClientHandshake.wish request) := by
  rcases joint.opening_heard selected found with
    missed | ⟨message, answers, begins, said, rfl⟩
  · exact .inl missed
  · rw [ClientHandshake.second_of_opening begins said capable]
    refine .inr (read_encode (Message.portable_plain ?_))
    intro value carried
    cases carried
    exact fit.toWire

/-- The server receives the subscription, or the end. -/
theorem Joint.subscription_heard
    (joint : Joint server client request dialogue journal)
    {version : Version} {receipt : Receipt}
    (selected :
      Version.select server.supported client.supported = some version)
    (subscribes : version.hasSubscription = true)
    (found : (Server.heard (served journal))[2]? = some receipt) :
    receipt = .error .closed ∨
      receipt = .ok (ClientHandshake.subscription client.watchType) := by
  rcases joint.opening_heard selected found with
    missed | ⟨message, answers, begins, said, rfl⟩
  · exact .inl missed
  · rw [ClientHandshake.third_of_opening begins said subscribes]
    refine .inr (read_encode (Message.portable_plain ?_))
    simp [Message.carried?]

/-- The server understands a request as everybody else does. -/
theorem Joint.requested
    (joint : Joint server client request dialogue journal)
    (fit : request.Fits) {version : Version}
    {capabilities other : Capabilities}
    (accepted :
      Capabilities.ofWire (some (Json.object request.toWire)) =
        .ok capabilities)
    (selected :
      Version.select server.supported client.supported = some version)
    (capable : version.hasCapabilities = true)
    (requested :
      ServerHandshake.Requested (Server.shakes (served journal)) other) :
    other = capabilities := by
  obtain ⟨message, value, found, body, meaning⟩ := requested
  rcases joint.wish_heard fit selected capable (joint.shaken found) with
    missed | equal
  · cases missed
  · cases equal
    cases body
    rw [accepted] at meaning
    exact (Except.ok.inj meaning).symm

/-- The client receives the capabilities that its request means. -/
theorem Joint.grant_heard
    (joint : Joint server client request dialogue journal)
    (fit : request.Fits) {version : Version} {capabilities : Capabilities}
    {receipt : Receipt}
    (accepted :
      Capabilities.ofWire (some (Json.object request.toWire)) =
        .ok capabilities)
    (selected :
      Version.select server.supported client.supported = some version)
    (capable : version.hasCapabilities = true)
    (found : (Consumer.heard (consumed journal))[1]? = some receipt) :
    ∃ message, receipt = .ok message ∧
      message.body =
        .capsResponse (Json.object capabilities.toWire) := by
  obtain ⟨message, place, rfl⟩ := joint.consumer_heard found
  obtain ⟨own, chosen, granted⟩ := joint.server_uttered.second place
  have same := joint.chosen chosen
  rw [selected] at same
  cases same
  obtain ⟨trace, other, rfl, requested⟩ := granted capable
  obtain rfl := joint.requested fit accepted selected capable requested
  have body :
      (ServerHandshake.grant trace other).body =
        .capsResponse (Json.object other.toWire) := by
    simp only [ServerHandshake.grant]
    split <;> rfl
  exact ⟨_, read_encode (portable_grant (fit.granted accepted)), body⟩

/-- The client receives the confirmation of its subscription. -/
theorem Joint.confirmation_heard
    (joint : Joint server client request dialogue journal)
    {version : Version} {receipt : Receipt}
    (selected :
      Version.select server.supported client.supported = some version)
    (subscribes : version.hasSubscription = true)
    (found : (Consumer.heard (consumed journal))[2]? = some receipt) :
    receipt = .ok ServerHandshake.confirmation := by
  obtain ⟨message, place, rfl⟩ := joint.consumer_heard found
  obtain ⟨own, chosen, confirmed⟩ := joint.server_uttered.third place
  have same := joint.chosen chosen
  rw [selected] at same
  cases same
  rw [confirmed subscribes]
  exact read_encode (Message.portable_plain (by simp [Message.carried?]))

end Places

end Dialogue

end BuildWatch
