import BuildWatch.Proofs.Capability.Meaning
import Mathlib.Data.List.Induction

/-!
# What requests mean

A request is built step by step.  The last word on a setting counts, and so
does the last entry of a key.  Written down and read on the other side, the
settings that have a meaning of their own are taken as they were made,
whatever entries bear their names; where no such setting was made, an entry of
its name is read in its place.
-/

namespace BuildWatch.CapabilityRequest

/-! ## Building a request -/

/-- One step of building a request. -/
inductive Step where
  | scope (scopes : List Scope)
  | otel (enabled : Bool)
  | extension (key : String) (value : Json)

def take (request : CapabilityRequest) : Step → CapabilityRequest
  | .scope scopes => request.withScope scopes
  | .otel enabled => request.withOtel enabled
  | .extension key value => request.withExtension key value

/-- The request that steps build, in their order. -/
def build (steps : List Step) : CapabilityRequest :=
  steps.foldl take empty

/-- The scopes that a step sets. -/
def Step.scope? : Step → Option (List Scope)
  | .scope scopes => some scopes
  | _ => none

/-- What a step says of traces. -/
def Step.otel? : Step → Option Bool
  | .otel enabled => some enabled
  | _ => none

/-- What a step binds a key to. -/
def Step.entry? (key : String) : Step → Option Json
  | .extension other value => if key = other then some value else none
  | _ => none

/-- A part of a request that a step either sets or leaves alone. -/
structure Latest {α : Type} (part : CapabilityRequest → Option α)
    (set? : Step → Option α) : Prop where
  unset : part empty = none
  take : ∀ request step,
    part (request.take step) = (set? step).or (part request)

section Latest

variable {α : Type} {part : CapabilityRequest → Option α}
  {set? : Step → Option α}

/-- The last step that sets a part of the request counts. -/
theorem Latest.build (latest : Latest part set?) (steps : List Step) :
    part (build steps) = (steps.filterMap set?).getLast? := by
  induction steps using List.reverseRecOn with
  | nil => exact latest.unset
  | append_singleton earlier step ih =>
      have taken :
          CapabilityRequest.build (earlier ++ [step]) =
            (CapabilityRequest.build earlier).take step := by
        simp [CapabilityRequest.build]
      rw [taken, latest.take, ih, List.filterMap_append, List.getLast?_append]
      cases sets : set? step <;> simp [sets]

/-- A step that leaves a part alone could as well be missing. -/
theorem Latest.build_insert
    (latest : Latest part set?) {step : Step} (leaves : set? step = none)
    (before after : List Step) :
    part (CapabilityRequest.build (before ++ step :: after)) =
      part (CapabilityRequest.build (before ++ after)) := by
  simp [latest.build, leaves]

theorem Latest.exists_of_mem
    (latest : Latest part set?) {step : Step} {steps : List Step} {value : α}
    (member : step ∈ steps) (sets : set? step = some value) :
    ∃ last, part (CapabilityRequest.build steps) = some last := by
  rw [latest.build, ← Option.isSome_iff_exists, List.getLast?_isSome]
  exact List.ne_nil_of_mem (List.mem_filterMap.mpr ⟨step, member, sets⟩)

end Latest

theorem latest_scope : Latest scope Step.scope? where
  unset := rfl
  take _ step := by cases step <;> rfl

theorem latest_otel : Latest otel Step.otel? where
  unset := rfl
  take _ step := by cases step <;> rfl

theorem latest_entry (key : String) :
    Latest (fun request => request.extensions.get? key) (Step.entry? key) where
  unset := rfl
  take request step := by
    cases step with
    | scope scopes => rfl
    | otel enabled => rfl
    | extension other value =>
        simp only [CapabilityRequest.take, withExtension, KeyMap.get?_insert,
          Step.entry?]
        split <;> rfl

/-! ## The written form -/

/-- What the settings with a meaning of their own write under a name. -/
def settled (request : CapabilityRequest) (name : String) : Option Json :=
  if name = "scope" then request.scope.map Scope.listToJson
  else if name = "otel" then request.otel.map Json.bool
  else none

/-- Settings are written over entries of their names. -/
theorem get?_toWire (request : CapabilityRequest) (name : String) :
    request.toWire.get? name =
      (request.settled name).or (request.extensions.get? name) := by
  obtain ⟨scope, otel, extensions⟩ := request
  by_cases scopeName : name = "scope"
  · subst scopeName
    cases scope <;> cases otel <;>
      simp [toWire, KeyMap.insertScopes, KeyMap.insertOtel, settled,
        KeyMap.get?_insert]
  · by_cases otelName : name = "otel"
    · subst otelName
      cases scope <;> cases otel <;>
        simp [toWire, KeyMap.insertScopes, KeyMap.insertOtel, settled,
          KeyMap.get?_insert]
    · cases scope <;> cases otel <;>
        simp [toWire, KeyMap.insertScopes, KeyMap.insertOtel, settled,
          KeyMap.get?_insert, scopeName, otelName]

/-- Nothing is written exactly of a request that asks for nothing. -/
theorem isEmpty_iff (request : CapabilityRequest) :
    request.isEmpty = true ↔ request.toWire = KeyMap.empty := by
  constructor
  · intro nothing
    obtain ⟨scope, otel, extensions⟩ := request
    simp only [isEmpty, Bool.and_eq_true, Option.isNone_iff_eq_none,
      KeyMap.isEmpty, List.isEmpty_iff] at nothing
    obtain ⟨⟨rfl, rfl⟩, none⟩ := nothing
    exact KeyMap.ext none
  · intro nothing
    have unwritten name :
        request.settled name = none ∧ request.extensions.get? name = none := by
      have absent := request.get?_toWire name
      rw [nothing, KeyMap.get?_empty] at absent
      exact Option.or_eq_none_iff.mp absent.symm
    have scope : request.scope = none := by
      simpa [settled] using (unwritten "scope").1
    have otel : request.otel = none := by
      simpa [settled] using (unwritten "otel").1
    have extensions : request.extensions = KeyMap.empty :=
      KeyMap.ext_get? fun name => (unwritten name).2
    simp only [isEmpty, scope, otel, extensions]
    rfl

/-! ## The meaning -/

/-- The scopes that a request asks for. -/
def askedScopes (request : CapabilityRequest) :
    Except CapabilityError (List Scope) :=
  match request.scope with
  | some [] => .error .emptyScope
  | some scopes => .ok scopes.eraseDups
  | none =>
      match request.extensions.get? "scope" with
      | some value => Capabilities.readScopeList value
      | none => .ok [.runfiles]

/-- Whether a request asks for traces. -/
def askedOtel (request : CapabilityRequest) : Option Bool :=
  match request.otel with
  | some enabled => some enabled
  | none =>
      (request.extensions.get? "otel").map fun value => value = Json.bool true

theorem readScopes_toWire (request : CapabilityRequest) :
    (match request.toWire.get? "scope" with
      | none => pure Capabilities.default.scopes
      | some value => Capabilities.readScopeList value) =
      request.askedScopes := by
  rw [get?_toWire, askedScopes, settled, if_pos rfl]
  cases request.scope with
  | none =>
      rw [Option.map_none, Option.none_or]
      cases request.extensions.get? "scope" <;> rfl
  | some scopes =>
      rw [Option.map_some, Option.some_or]
      cases scopes with
      | nil => rfl
      | cons scope rest =>
          exact Capabilities.readScopeList_eq_ok_iff.mpr
            ⟨scope :: rest, List.cons_ne_nil _ _, rfl, rfl⟩

theorem readOtel_toWire (request : CapabilityRequest) :
    (request.toWire.get? "otel").map Capabilities.readOtel =
      request.askedOtel := by
  have read (value : Json) :
      Capabilities.readOtel value = decide (value = Json.bool true) := by
    rw [Bool.eq_iff_iff, decide_eq_true_iff]
    exact Capabilities.readOtel_eq_true_iff
  rw [get?_toWire, askedOtel, settled]
  cases request.otel with
  | none => simp [funext read]
  | some enabled => simp [Capabilities.readOtel]

theorem extensions_toWire (request : CapabilityRequest) :
    request.toWire.filterKeys Capabilities.isExtension =
      (request.extensions.erase "scope").erase "otel" := by
  apply KeyMap.ext_get?
  intro key
  simp only [KeyMap.erase, KeyMap.get?_filterKeys, Capabilities.isExtension,
    get?_toWire, settled]
  by_cases scope : key = "scope" <;> by_cases otel : key = "otel" <;>
    simp [scope, otel]

/-- What a request means on either side of a connection. -/
theorem ofWire_toWire_eq (request : CapabilityRequest) :
    Capabilities.ofWire (some (Json.object request.toWire)) =
      request.askedScopes.map fun scopes =>
        ⟨scopes, request.askedOtel,
          (request.extensions.erase "scope").erase "otel"⟩ := by
  rw [Capabilities.ofWire_of_asks (.entries _), Capabilities.ofEntries,
    readOtel_toWire, extensions_toWire, ← readScopes_toWire]
  cases request.toWire.get? "scope" with
  | none => rfl
  | some value => cases Capabilities.readScopeList value <;> rfl

/-! ## Settings win -/

/-- Whether steps make the setting of a name. -/
def Settles (steps : List Step) (name : String) : Prop :=
  (name = "scope" ∧ ∃ scopes, Step.scope scopes ∈ steps) ∨
    (name = "otel" ∧ ∃ enabled, Step.otel enabled ∈ steps)

theorem exists_settled_of_settles
    {steps : List Step} {name : String} (settles : Settles steps name) :
    ∃ value, (build steps).settled name = some value := by
  rcases settles with ⟨rfl, scopes, member⟩ | ⟨rfl, enabled, member⟩
  · obtain ⟨last, asked⟩ := latest_scope.exists_of_mem member rfl
    exact ⟨Scope.listToJson last, by simp [settled, asked]⟩
  · obtain ⟨last, asked⟩ := latest_otel.exists_of_mem member rfl
    exact ⟨Json.bool last, by simp [settled, asked]⟩

/-- A setting hides every entry of its name, wherever that was added. -/
theorem toWire_build_of_settles
    {before after : List Step} {key : String}
    (settles : Settles (before ++ after) key) (value : Json) :
    (build (before ++ .extension key value :: after)).toWire =
      (build (before ++ after)).toWire := by
  have settings name :
      (build (before ++ .extension key value :: after)).settled name =
        (build (before ++ after)).settled name := by
    unfold settled
    rw [latest_scope.build_insert rfl, latest_otel.build_insert rfl]
  apply KeyMap.ext_get?
  intro name
  rw [get?_toWire, get?_toWire, settings]
  by_cases hidden : name = key
  · obtain ⟨value, settled⟩ := exists_settled_of_settles (hidden ▸ settles)
    rw [settled, Option.some_or, Option.some_or]
  · have leaves : Step.entry? name (.extension key value) = none :=
      if_neg hidden
    rw [(latest_entry name).build_insert leaves]

/--
Whatever the steps that build a request, the last word on every part of it
counts, what is read of its written form is what it asks for, a setting hides
every entry of its name, and nothing is written exactly if nothing is asked
for.
-/
theorem requests_mean_alike :
    (∀ steps,
      (build steps).scope = (steps.filterMap Step.scope?).getLast? ∧
        (build steps).otel = (steps.filterMap Step.otel?).getLast? ∧
        ∀ key, (build steps).extensions.get? key =
          (steps.filterMap (Step.entry? key)).getLast?) ∧
    (∀ steps, Capabilities.ofWire (some (Json.object (build steps).toWire)) =
      (build steps).askedScopes.map fun scopes =>
        ⟨scopes, (build steps).askedOtel,
          ((build steps).extensions.erase "scope").erase "otel"⟩) ∧
    (∀ before after key, Settles (before ++ after) key → ∀ value,
      (build (before ++ .extension key value :: after)).toWire =
        (build (before ++ after)).toWire) ∧
    ∀ steps, (build steps).isEmpty = true ↔
      (build steps).toWire = KeyMap.empty := by
  refine ⟨?_, fun _ => ofWire_toWire_eq _,
    fun _ _ _ => toWire_build_of_settles, fun _ => isEmpty_iff _⟩
  intro steps
  exact ⟨latest_scope.build steps, latest_otel.build steps,
    fun key => (latest_entry key).build steps⟩

/-- An entry that bears the name of a setting made before it. -/
theorem requests_mean_alike_lateEntry :
    Settles ([.scope [.sources, .sources]] ++ [.otel true]) "scope" ∧
      (build [.scope [.sources, .sources],
        .extension "scope" (Json.string "all"), .otel true]).toWire =
        (build [.scope [.sources, .sources], .otel true]).toWire ∧
      Capabilities.ofWire (some (Json.object
        (build [.scope [.sources, .sources], .otel true]).toWire)) =
        .ok ⟨[.sources], some true, KeyMap.empty⟩ := by
  have settles :
      Settles ([.scope [.sources, .sources]] ++ [.otel true]) "scope" :=
    .inl ⟨rfl, _, List.mem_cons_self⟩
  refine ⟨settles, ?_, ?_⟩
  · exact requests_mean_alike.2.2.1 _ _ _ settles (Json.string "all")
  · rw [requests_mean_alike.2.1]
    rfl

end BuildWatch.CapabilityRequest
