import BuildWatch.Proofs.Capability.Scopes
import BuildWatch.Proofs.Message.RoundTrip

/-!
# Capabilities are canonical

What a request means has at least one scope, none of them twice, and no entry
that has a meaning of its own under another name.  Written down and read again
it means the same.
-/

namespace BuildWatch

namespace Capabilities

/-- What every meaning of a capability value looks like. -/
structure Canonical (capabilities : Capabilities) : Prop where
  inhabited : capabilities.scopes ≠ []
  distinct : capabilities.scopes.Nodup
  foreign :
    ∀ entry ∈ capabilities.extensions.entries, isExtension entry.1 = true

/-! ## Scopes -/

theorem readScopeList_listToJson
    {scopes : List Scope} (inhabited : scopes ≠ [])
    (distinct : scopes.Nodup) :
    readScopeList (Scope.listToJson scopes) = .ok scopes :=
  readScopeList_eq_ok_iff.mpr
    ⟨scopes, inhabited, rfl, (eraseDups_eq_self distinct).symm⟩

theorem canonical_of_readScopeList
    {json : Json} {scopes : List Scope}
    (read : readScopeList json = .ok scopes) :
    scopes ≠ [] ∧ scopes.Nodup := by
  obtain ⟨requested, inhabited, _, rfl⟩ := readScopeList_eq_ok_iff.mp read
  obtain ⟨first, rest, rfl⟩ := List.exists_cons_of_ne_nil inhabited
  exact ⟨by simp [List.eraseDups_cons], nodup_eraseDups _⟩

/-! ## Whole values -/

/-- Only the value `true` is read as a wish for traces. -/
theorem readOtel_eq_true_iff {json : Json} :
    readOtel json = true ↔ json = Json.bool true := by
  rw [← Json.asBool?_eq_some_iff]
  unfold readOtel
  cases json.asBool? <;> simp

theorem canonical_default : Canonical default where
  inhabited := by simp [default]
  distinct := by simp [default]
  foreign := by simp [default, KeyMap.empty]

/-- What the meaning of an object consists of. -/
theorem ofEntries_eq_ok_iff
    {entries : KeyMap Json} {capabilities : Capabilities} :
    ofEntries entries = .ok capabilities ↔
      ((entries.get? "scope" = none ∧
          capabilities.scopes = default.scopes) ∨
        ∃ value, entries.get? "scope" = some value ∧
          readScopeList value = .ok capabilities.scopes) ∧
        capabilities.otel = (entries.get? "otel").map readOtel ∧
        capabilities.extensions = entries.filterKeys isExtension := by
  obtain ⟨scopes, otel, extensions⟩ := capabilities
  unfold ofEntries
  cases found : entries.get? "scope" with
  | none =>
      simp [bind, Except.bind, pure, Except.pure, eq_comm]
  | some value =>
      cases read : readScopeList value with
      | error error => simp [read, bind, Except.bind]
      | ok known =>
          simp [read, bind, Except.bind, pure, Except.pure, eq_comm]

theorem canonical_of_ofEntries
    {entries : KeyMap Json} {capabilities : Capabilities}
    (accepted : ofEntries entries = .ok capabilities) :
    Canonical capabilities := by
  obtain ⟨scopePart, _, extensions⟩ := ofEntries_eq_ok_iff.mp accepted
  have listed : capabilities.scopes ≠ [] ∧ capabilities.scopes.Nodup := by
    rcases scopePart with ⟨_, scopes⟩ | ⟨value, _, read⟩
    · rw [scopes]
      exact ⟨canonical_default.inhabited, canonical_default.distinct⟩
    · exact canonical_of_readScopeList read
  refine ⟨listed.1, listed.2, ?_⟩
  rw [extensions]
  intro entry member
  exact (List.mem_filter.mp member).2

theorem canonical_of_ofWire
    {value : Option Json} {capabilities : Capabilities}
    (accepted : ofWire value = .ok capabilities) : Canonical capabilities := by
  unfold ofWire at accepted
  split at accepted
  next =>
    cases accepted
    exact canonical_default
  next json =>
    split at accepted
    next =>
      cases accepted
      exact canonical_default
    next entries _ => exact canonical_of_ofEntries accepted
    next => simp at accepted

/-- Canonical capabilities mean themselves. -/
theorem ofWire_toWire
    {capabilities : Capabilities} (canonical : Canonical capabilities) :
    ofWire (some (Json.object capabilities.toWire)) = .ok capabilities := by
  obtain ⟨scopes, otel, extensions⟩ := capabilities
  obtain ⟨inhabited, distinct, foreign⟩ := canonical
  have kept : extensions.filterKeys isExtension = extensions :=
    KeyMap.filterKeys_eq_self foreign
  have noOtel : extensions.get? "otel" = none := by
    rw [← kept, KeyMap.get?_filterKeys]
    rfl
  have scope :
      (toWire ⟨scopes, otel, extensions⟩).get? "scope" =
        some (Scope.listToJson scopes) := by
    cases otel <;>
      simp [toWire, KeyMap.insertScopes, KeyMap.insertOtel,
        KeyMap.get?_insert]
  have traced :
      ((toWire ⟨scopes, otel, extensions⟩).get? "otel").map readOtel =
        otel := by
    cases otel <;>
      simp [toWire, KeyMap.insertScopes, KeyMap.insertOtel,
        KeyMap.get?_insert, noOtel, readOtel]
  have rest :
      (toWire ⟨scopes, otel, extensions⟩).filterKeys isExtension =
        extensions := by
    cases otel with
    | none =>
        rw [toWire, KeyMap.insertOtel, KeyMap.insertScopes,
          KeyMap.filterKeys_insert (by decide), kept]
    | some enabled =>
        rw [toWire, KeyMap.insertOtel, KeyMap.insertScopes,
          KeyMap.filterKeys_insert (by decide),
          KeyMap.filterKeys_insert (by decide), kept]
  have read := readScopeList_listToJson inhabited distinct
  unfold ofWire
  simp only [Json.view_object, ofEntries, scope, read, traced, rest, bind,
    Except.bind, pure, Except.pure]

end Capabilities

/-! ## Values that fit a message -/

theorem fits_listToJson (scopes : List Scope) :
    Json.Fits 1 (Scope.listToJson scopes) := by
  apply Json.fits_array
  intro item member
  obtain ⟨scope, _, rfl⟩ := List.mem_map.mp member
  exact Json.fits_string 0 scope.name

/-- Whether the entries of a request fit a message. -/
def CapabilityRequest.Fits (request : CapabilityRequest) : Prop :=
  ∀ entry ∈ request.extensions.entries, Json.Fits 125 entry.2

theorem fits_entries
    {entries : KeyMap Json} (scopes : Option (List Scope))
    (otel : Option Bool)
    (fit : ∀ entry ∈ entries.entries, Json.Fits 125 entry.2) :
    ∀ entry ∈ ((entries.insertScopes scopes).insertOtel otel).entries,
      Json.Fits 125 entry.2 := by
  have scopePart :
      ∀ entry ∈ (entries.insertScopes scopes).entries,
        Json.Fits 125 entry.2 := by
    cases scopes with
    | none => exact fit
    | some known =>
        exact KeyMap.forall_mem_insert fit
          ((fits_listToJson known).mono (by decide))
  cases otel with
  | none => exact scopePart
  | some enabled => exact KeyMap.forall_mem_insert scopePart (Json.fits_bool 125 _)

theorem CapabilityRequest.Fits.toWire
    {request : CapabilityRequest} (fit : request.Fits) :
    Json.Fits 126 (Json.object request.toWire) :=
  Json.fits_object (fits_entries request.scope request.otel fit)

/-- What a request means fits a message if the request does. -/
theorem CapabilityRequest.Fits.granted
    {request : CapabilityRequest} {capabilities : Capabilities}
    (fit : request.Fits)
    (accepted :
      Capabilities.ofWire (some (Json.object request.toWire)) =
        .ok capabilities) :
    Json.Fits 126 (Json.object capabilities.toWire) := by
  have entries :
      capabilities.extensions =
        request.toWire.filterKeys Capabilities.isExtension := by
    rw [Capabilities.ofWire, Json.view_object] at accepted
    exact (Capabilities.ofEntries_eq_ok_iff.mp accepted).2.2
  apply Json.fits_object
  apply fits_entries
  rw [entries]
  intro entry member
  exact fits_entries request.scope request.otel fit entry
    (List.mem_filter.mp member).1

end BuildWatch
