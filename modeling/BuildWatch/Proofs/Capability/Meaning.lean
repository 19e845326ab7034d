import BuildWatch.Proofs.Capability
import BuildWatch.Proofs.KeyMap.Traversal

/-!
# What capability values mean

A capability value asks for scopes, for traces and for things that this
library gives no meaning to.  It is refused exactly for the first offence in
its list of scopes, and what it means is its own normal form.
-/

namespace BuildWatch.Capabilities

/-! ## Whole values -/

/-- What a capability value asks for; `null` asks for nothing. -/
inductive Asks : Json → KeyMap Json → Prop where
  | nothing : Asks Json.null KeyMap.empty
  | entries (entries : KeyMap Json) : Asks (Json.object entries) entries

theorem ofWire_of_asks
    {json : Json} {entries : KeyMap Json} (asks : Asks json entries) :
    ofWire (some json) = ofEntries entries := by
  cases asks with
  | nothing => rfl
  | entries => simp only [ofWire, Json.view_object]

theorem ofWire_of_other
    {json : Json} (notNull : json ≠ Json.null)
    (notObject : ∀ entries, json ≠ Json.object entries) :
    ofWire (some json) = .error (.notAnObject json.kind) := by
  unfold ofWire
  split
  next looks =>
    cases looks
  next found looks =>
    cases looks
    split
    next null => exact absurd (Json.eq_of_view null) notNull
    next entries object =>
      exact absurd (Json.eq_of_view object) (notObject entries)
    next => rfl

theorem exists_asks_or
    (json : Json) :
    (∃ entries, Asks json entries) ∨
      (json ≠ Json.null ∧ ∀ entries, json ≠ Json.object entries) := by
  by_cases null : json = Json.null
  · exact .inl ⟨KeyMap.empty, null ▸ Asks.nothing⟩
  · by_cases object : ∃ entries, json = Json.object entries
    · obtain ⟨entries, rfl⟩ := object
      exact .inl ⟨entries, .entries entries⟩
    · exact .inr ⟨null, fun entries same => object ⟨entries, same⟩⟩

/-- What the entries of a capability value mean. -/
structure Means (entries : KeyMap Json) (capabilities : Capabilities) : Prop
    where
  scopes :
    (entries.get? "scope" = none ∧ capabilities.scopes = [.runfiles]) ∨
      ∃ requested, requested ≠ [] ∧
        entries.get? "scope" = some (Scope.listToJson requested) ∧
        capabilities.scopes = requested.eraseDups
  untraced : capabilities.otel = none ↔ entries.get? "otel" = none
  traced :
    capabilities.otel = some true ↔
      entries.get? "otel" = some (Json.bool true)
  extensions :
    ∀ key, capabilities.extensions.get? key =
      if key = "scope" ∨ key = "otel" then none else entries.get? key

theorem otel_eq_iff {flag : Option Bool} {place : Option Json} :
    flag = place.map readOtel ↔
      (flag = none ↔ place = none) ∧
        (flag = some true ↔ place = some (Json.bool true)) := by
  cases place with
  | none => cases flag <;> simp
  | some json =>
      cases flag with
      | none => simp
      | some truth =>
          cases truth <;> cases looks : readOtel json <;>
            simp [← readOtel_eq_true_iff, looks]

theorem extensions_eq_iff {entries extensions : KeyMap Json} :
    extensions = entries.filterKeys isExtension ↔
      ∀ key, extensions.get? key =
        if key = "scope" ∨ key = "otel" then none else entries.get? key := by
  have kept key :
      (entries.filterKeys isExtension).get? key =
        if key = "scope" ∨ key = "otel" then none else entries.get? key := by
    rw [KeyMap.get?_filterKeys]
    by_cases scope : key = "scope" <;> by_cases otel : key = "otel" <;>
      simp [isExtension, scope, otel]
  constructor
  · rintro rfl key
    exact kept key
  · intro same
    exact KeyMap.ext_get? fun key => (same key).trans (kept key).symm

/-- Entries are read as what they mean. -/
theorem ofEntries_eq_ok_iff_means
    {entries : KeyMap Json} {capabilities : Capabilities} :
    ofEntries entries = .ok capabilities ↔ Means entries capabilities := by
  rw [ofEntries_eq_ok_iff, otel_eq_iff, extensions_eq_iff]
  simp only [readScopeList_eq_ok_iff]
  constructor
  · rintro ⟨scopes, ⟨untraced, traced⟩, extensions⟩
    refine ⟨?_, untraced, traced, extensions⟩
    rcases scopes with given | ⟨value, found, requested, inhabited, rfl, same⟩
    · exact .inl given
    · exact .inr ⟨requested, inhabited, found, same⟩
  · rintro ⟨scopes, untraced, traced, extensions⟩
    refine ⟨?_, ⟨untraced, traced⟩, extensions⟩
    rcases scopes with given | ⟨requested, inhabited, found, same⟩
    · exact .inl given
    · exact .inr ⟨_, found, requested, inhabited, rfl, same⟩

/-- What is wrong with a capability value: the first offence in it. -/
inductive Offends : Json → CapabilityError → Prop where
  | notAnObject {json : Json} {found : Json.Kind} (notNull : json ≠ Json.null)
      (notObject : ∀ entries, json ≠ Json.object entries)
      (named : json.TypeName found.name) :
      Offends json (.notAnObject found)
  | scope {entries : KeyMap Json} {value : Json} {error : CapabilityError}
      (found : entries.get? "scope" = some value)
      (offends : ListOffends value error) :
      Offends (Json.object entries) error

theorem ofEntries_eq_error_iff
    {entries : KeyMap Json} {error : CapabilityError} :
    ofEntries entries = .error error ↔
      ∃ value, entries.get? "scope" = some value ∧ ListOffends value error := by
  simp only [← readScopeList_eq_error_iff]
  unfold ofEntries
  cases entries.get? "scope" with
  | none => simp [bind, Except.bind, pure, Except.pure]
  | some value =>
      cases read : readScopeList value <;>
        simp [read, bind, Except.bind, pure, Except.pure]

theorem ofWire_eq_ok_iff {json : Json} {capabilities : Capabilities} :
    ofWire (some json) = .ok capabilities ↔
      ∃ entries, Asks json entries ∧ Means entries capabilities := by
  constructor
  · intro accepted
    rcases exists_asks_or json with ⟨entries, asks⟩ | ⟨notNull, notObject⟩
    · rw [ofWire_of_asks asks] at accepted
      exact ⟨entries, asks, ofEntries_eq_ok_iff_means.mp accepted⟩
    · rw [ofWire_of_other notNull notObject] at accepted
      cases accepted
  · rintro ⟨entries, asks, means⟩
    rw [ofWire_of_asks asks]
    exact ofEntries_eq_ok_iff_means.mpr means

theorem ofWire_eq_error_iff {json : Json} {error : CapabilityError} :
    ofWire (some json) = .error error ↔ Offends json error := by
  constructor
  · intro refused
    rcases exists_asks_or json with ⟨entries, asks⟩ | ⟨notNull, notObject⟩
    · rw [ofWire_of_asks asks] at refused
      obtain ⟨value, found, offends⟩ := ofEntries_eq_error_iff.mp refused
      cases asks with
      | nothing => cases found
      | entries => exact .scope found offends
    · rw [ofWire_of_other notNull notObject] at refused
      cases refused
      exact .notAnObject notNull notObject (Json.typeName_kind json)
  · rintro (⟨notNull, notObject, named⟩ | ⟨found, offends⟩)
    · obtain rfl := Json.typeName_iff.mp named
      exact ofWire_of_other notNull notObject
    · rw [ofWire_of_asks (.entries _)]
      exact ofEntries_eq_error_iff.mpr ⟨_, found, offends⟩

/-- Which capability values have a meaning. -/
def Acceptable (json : Json) : Prop :=
  json = Json.null ∨
    ∃ entries, json = Json.object entries ∧
      ∀ value, entries.get? "scope" = some value →
        ∃ items, items ≠ [] ∧ value = Json.array items ∧
          ∀ item ∈ items, IsScopeName item

theorem exists_ofWire_iff {json : Json} :
    (∃ capabilities, ofWire (some json) = .ok capabilities) ↔
      Acceptable json := by
  constructor
  · rintro ⟨capabilities, accepted⟩
    obtain ⟨entries, asks, means⟩ := ofWire_eq_ok_iff.mp accepted
    cases asks with
    | nothing => exact .inl rfl
    | entries =>
        refine .inr ⟨entries, rfl, fun value found => ?_⟩
        rcases means.scopes with
          ⟨absent, _⟩ | ⟨requested, inhabited, listed, _⟩
        · cases absent.symm.trans found
        · cases listed.symm.trans found
          exact ⟨_, by simpa using inhabited, listToJson_eq requested,
            exists_requested_iff.mp ⟨requested, rfl⟩⟩
  · rintro (rfl | ⟨entries, rfl, proper⟩)
    · exact ⟨default, rfl⟩
    · obtain ⟨scopes, read⟩ : ∃ scopes,
          (entries.get? "scope" = none ∧ scopes = default.scopes) ∨
            ∃ value, entries.get? "scope" = some value ∧
              readScopeList value = .ok scopes := by
        cases found : entries.get? "scope" with
        | none => exact ⟨_, .inl ⟨rfl, rfl⟩⟩
        | some value =>
            obtain ⟨items, inhabited, rfl, named⟩ := proper value found
            obtain ⟨requested, rfl⟩ := exists_requested_iff.mpr named
            exact ⟨requested.eraseDups, .inr ⟨_, rfl,
              readScopeList_eq_ok_iff.mpr
                ⟨requested, by simpa using inhabited, rfl, rfl⟩⟩⟩
      refine ⟨⟨scopes, (entries.get? "otel").map readOtel,
        entries.filterKeys isExtension⟩, ?_⟩
      rw [ofWire_of_asks (.entries entries)]
      exact ofEntries_eq_ok_iff.mpr ⟨read, rfl, rfl⟩

/-- The written form of what a capability value means. -/
def normalize (json : Json) : Except CapabilityError (KeyMap Json) :=
  (ofWire (some json)).map toWire

/-- What is written in its normal form stays as it is. -/
theorem normalize_normalize (json : Json) :
    (normalize json >>= fun wire => normalize (Json.object wire)) =
      normalize json := by
  unfold normalize
  cases accepted : ofWire (some json) with
  | error error => rfl
  | ok capabilities =>
      have again := ofWire_toWire (canonical_of_ofWire accepted)
      change (ofWire (some (Json.object capabilities.toWire))).map toWire = _
      rw [again]

/--
A capability value has a meaning exactly if it lists no scopes or some scopes
and nothing else, and is otherwise refused for its first offence.  Its meaning
is in normal form, which means itself.
-/
theorem capabilities_canonical :
    (∀ json, (∃ capabilities, ofWire (some json) = .ok capabilities) ↔
      Acceptable json) ∧
    (∀ json error, ofWire (some json) = .error error ↔ Offends json error) ∧
    (∀ json capabilities, ofWire (some json) = .ok capabilities ↔
      ∃ entries, Asks json entries ∧ Means entries capabilities) ∧
    (∀ json capabilities, ofWire (some json) = .ok capabilities →
      capabilities.scopes ≠ [] ∧ capabilities.scopes.Nodup ∧
        ofWire (some (Json.object capabilities.toWire)) = .ok capabilities) ∧
    ∀ json, (normalize json >>= fun wire => normalize (Json.object wire)) =
      normalize json := by
  refine ⟨fun _ => exists_ofWire_iff, fun _ _ => ofWire_eq_error_iff,
    fun _ _ => ofWire_eq_ok_iff, ?_, normalize_normalize⟩
  intro json capabilities accepted
  have canonical := canonical_of_ofWire accepted
  exact ⟨canonical.inhabited, canonical.distinct, ofWire_toWire canonical⟩

/-- A request with a repeated scope, a wrong flag and a foreign entry. -/
def repetitiveRequest : Json :=
  Json.object (KeyMap.ofList
    [("scope", Scope.listToJson [.sources, .runfiles, .sources]),
      ("otel", Json.string "yes"), ("future", Json.word 1)])

theorem capabilities_canonical_repetitiveRequest :
    ofWire (some repetitiveRequest) =
        .ok ⟨[.sources, .runfiles], some false,
          KeyMap.empty.insert "future" (Json.word 1)⟩ ∧
      ofWire (some (Json.object (toWire ⟨[.sources, .runfiles], some false,
          KeyMap.empty.insert "future" (Json.word 1)⟩))) =
        .ok ⟨[.sources, .runfiles], some false,
          KeyMap.empty.insert "future" (Json.word 1)⟩ := by
  have accepted :
      ofWire (some repetitiveRequest) =
        .ok ⟨[.sources, .runfiles], some false,
          KeyMap.empty.insert "future" (Json.word 1)⟩ := by
    rfl
  exact ⟨accepted, (capabilities_canonical.2.2.2.1 _ _ accepted).2.2⟩

end BuildWatch.Capabilities
