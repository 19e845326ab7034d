import BuildWatch.Proofs.KeyMap.Traversal
import BuildWatch.Proofs.Message.Codec

/-!
# Places of a message

Some places of a message are strict: what stands there has to be of one form.
Others are lenient: they hold a proper value or count as empty.  Every reader
of a place is given here by the values that it accepts and by what it takes
from them, without a word about how it goes about it.
-/

namespace BuildWatch

namespace Message

/-! ## Places -/

section Places

variable {α : Type}

/-- Whether a place holds a proper value that stands for something. -/
def Shows (proper : α → Json → Prop) (place : Option Json) (known : α) : Prop :=
  ∃ json, place = some json ∧ proper known json

/-- A lenient place: its proper value is known, and anything else is nothing. -/
def Holds (proper : α → Json → Prop) (place : Option Json) (value : Option α) :
    Prop :=
  ∀ known, value = some known ↔ Shows proper place known

/-- A place that may be empty, and then is what it is by default. -/
def Defaulted (proper : α → Json → Prop) (default : α) (place : Option Json)
    (value : α) : Prop :=
  (place = none ∧ value = default) ∨ Shows proper place value

/-- Whether two lenient places hold the same proper value, or both none. -/
def Agree (proper : α → Json → Prop) (left right : Option Json) : Prop :=
  ∀ known, Shows proper left known ↔ Shows proper right known

section Readers

variable {proper : α → Json → Prop} {read : Json → Option α}
  (reads : ∀ json known, read json = some known ↔ proper known json)

include reads

theorem bind_eq_some_iff_shows {place : Option Json} {known : α} :
    place.bind read = some known ↔ Shows proper place known := by
  simp only [Option.bind_eq_some_iff, Shows, reads]

/-- A reader of proper values reads what a lenient place holds. -/
theorem bind_eq_iff_holds {place : Option Json} {value : Option α} :
    place.bind read = value ↔ Holds proper place value := by
  rw [Option.ext_iff]
  refine forall_congr' fun known => ?_
  rw [bind_eq_some_iff_shows reads]
  exact Iff.comm

/-- A reader of proper values reads the same exactly where places agree. -/
theorem bind_eq_bind_iff_agree {left right : Option Json} :
    left.bind read = right.bind read ↔ Agree proper left right := by
  rw [Option.ext_iff]
  refine forall_congr' fun known => ?_
  rw [bind_eq_some_iff_shows reads, bind_eq_some_iff_shows reads]

end Readers

end Places

/-- A flag is known from a truth value alone. -/
def IsFlag (truth : Bool) (json : Json) : Prop :=
  json = Json.bool truth

/-- A scope is known from its name alone. -/
def IsScope (scope : Scope) (json : Json) : Prop :=
  json = Json.string scope.name

/-- An identifier is known from a text that is not empty. -/
def IsIdentifier (text : String) (json : Json) : Prop :=
  json = Json.string text ∧ text ≠ ""

def IsText (text : String) (json : Json) : Prop :=
  json = Json.string text

/-- Whether a value is an integer of 32 bits. -/
def IsWord (json : Json) : Prop :=
  ∃ number, json = Json.integer number ∧
    0 ≤ number.value ∧ number.value ≤ 4294967295

theorem isWord_iff {json : Json} : IsWord json ↔ ∃ word, json = Json.word word := by
  constructor
  · rintro ⟨number, rfl, least, greatest⟩
    obtain ⟨word, found⟩ : ∃ word, number.toWord? = some word := by
      unfold Json.Integer.toWord?
      rw [if_pos ⟨least, by omega⟩]
      exact ⟨_, rfl⟩
    exact ⟨word, congrArg Json.integer (Json.Integer.toWord?_eq_some_iff.mp found)⟩
  · rintro ⟨word, rfl⟩
    have small := word.toNat_lt
    refine ⟨Json.Integer.ofWord word, rfl, ?_⟩
    simp only [Json.Integer.ofWord]
    omega

theorem readWord_eq_ok_iff {json : Json} {word : UInt32} :
    readWord json = .ok word ↔ json = Json.word word := by
  constructor
  · intro read
    unfold readWord at read
    split at read
    next number looks =>
      rw [← Json.view_inj, looks, Json.view_word, Json.View.integer.injEq]
      cases found : number.toWord? with
      | none => simp [found] at read
      | some known =>
          rw [found] at read
          cases read
          exact Json.Integer.toWord?_eq_some_iff.mp found
    next => cases read
  · rintro rfl
    exact readWord_word word

theorem readVersion_eq_ok_iff {json : Json} {version : Version} :
    readVersion json = .ok version ↔ json = Json.word version.number := by
  obtain ⟨number⟩ := version
  unfold readVersion
  rw [← readWord_eq_ok_iff]
  cases readWord json <;> simp [Except.map]

theorem readVersions_eq_ok_iff {json : Json} {versions : List Version} :
    readVersions json = .ok versions ↔
      json = Json.array (versions.map fun version => Json.word version.number) := by
  rw [← Json.view_inj, Json.view_array]
  unfold readVersions
  cases json.view with
  | array items =>
      rw [Json.View.array.injEq]
      exact mapM_eq_ok_iff fun _ _ => readVersion_eq_ok_iff
  | _ => simp

theorem bind_asString?_eq_some_iff {place : Option Json} {text : String} :
    place.bind Json.asString? = some text ↔ place = some (Json.string text) := by
  simp [Option.bind_eq_some_iff, Json.asString?_eq_some_iff]

theorem readText_eq_ok_iff {json : Json} {text : String} :
    readText json = .ok text ↔ json = Json.string text := by
  rw [← Json.view_inj, Json.view_string]
  unfold readText
  cases json.view <;> simp

/-! ## Changed paths -/

/--
A value with a place for each of two flags: an object, or a list that leaves
out what it does not say.
-/
inductive Flagged : Json → (symlink source : Option Json) → Prop where
  | object (fields : KeyMap Json) :
      Flagged (Json.object fields) (fields.get? "is_symlink")
        (fields.get? "is_source")
  | array (items : List Json) (short : items.length ≤ 2) :
      Flagged (Json.array items) items[0]? items[1]?

/-- What a value says of a changed path. -/
inductive Describes : Json → Option SourceInfo → Prop where
  | deleted : Describes Json.null none
  | known {json : Json} {symlink source : Option Json} {info : SourceInfo}
      (flagged : Flagged json symlink source)
      (isSymlink : Holds IsFlag symlink info.isSymlink)
      (isSource : Holds IsFlag source info.isSource) :
      Describes json (some info)

theorem bind_asBool?_eq_iff {place : Option Json} {flag : Option Bool} :
    place.bind Json.asBool? = flag ↔ Holds IsFlag place flag :=
  bind_eq_iff_holds fun _ _ => Json.asBool?_eq_some_iff

theorem bind_asBool?_eq_iff_agree {left right : Option Json} :
    left.bind Json.asBool? = right.bind Json.asBool? ↔
      Agree IsFlag left right :=
  bind_eq_bind_iff_agree fun _ _ => Json.asBool?_eq_some_iff

theorem readChange_of_flagged
    {json : Json} {symlink source : Option Json}
    (flagged : Flagged json symlink source) :
    readChange json =
      .ok (some ⟨symlink.bind Json.asBool?, source.bind Json.asBool?⟩) := by
  cases flagged with
  | object fields => simp [readChange]
  | array items short =>
      have notLong : ¬ 2 < items.length := Nat.not_lt.mpr short
      simp [readChange, notLong]

theorem readChange_eq_ok_iff {json : Json} {change : Option SourceInfo} :
    readChange json = .ok change ↔ Describes json change := by
  constructor
  · intro read
    have known
        {symlink source : Option Json}
        (flagged : Flagged json symlink source) : Describes json change := by
      rw [readChange_of_flagged flagged] at read
      cases read
      exact .known flagged (bind_asBool?_eq_iff.mp rfl)
        (bind_asBool?_eq_iff.mp rfl)
    cases looks : json.view with
    | null =>
        obtain rfl : json = Json.null := Json.eq_of_view looks
        simp [readChange] at read
        subst read
        exact .deleted
    | object fields =>
        obtain rfl : json = Json.object fields := Json.eq_of_view looks
        exact known (.object fields)
    | array items =>
        obtain rfl : json = Json.array items := Json.eq_of_view looks
        by_cases short : items.length ≤ 2
        · exact known (.array items short)
        · simp [readChange, Nat.lt_of_not_le short] at read
    | _ => simp [readChange, looks] at read
  · rintro (_ | ⟨flagged, isSymlink, isSource⟩)
    · simp [readChange]
    · rw [readChange_of_flagged flagged, bind_asBool?_eq_iff.mpr isSymlink,
        bind_asBool?_eq_iff.mpr isSource]

/-- What a value says of all changed paths. -/
def Lists (changes : Changes) (json : Json) : Prop :=
  ∃ paths, json = Json.object paths ∧
    ∀ path, Option.Rel Describes (paths.get? path) (changes.get? path)

theorem readChanges_eq_ok_iff {json : Json} {changes : Changes} :
    readChanges json = .ok changes ↔ Lists changes json := by
  have path (value : Option Json) (change : Option (Option SourceInfo)) :
      value.map readChange = change.map .ok ↔
        Option.Rel Describes value change := by
    cases value <;> cases change <;> simp [readChange_eq_ok_iff]
  unfold Lists
  simp only [← Json.view_inj, Json.view_object, ← path]
  unfold readChanges
  cases json.view with
  | object paths => simp [KeyMap.traverse_eq_ok_iff]
  | _ => simp

/-! ## Fields -/

section Fields

variable {α : Type} {fields : KeyMap Json} {name : String}
  {read : Json → Except Fault α}

theorem optionalField_eq_ok_iff {result : Option α} :
    optionalField fields name read = .ok result ↔
      (fields.get? name).map read = result.map .ok := by
  unfold optionalField
  cases fields.get? name with
  | none => cases result <;> simp
  | some value =>
      cases reads : read value <;> cases result <;> simp [Except.map, reads]

theorem requiredField_eq_ok_iff
    {write : α → Json}
    (reads : ∀ json item, read json = .ok item ↔ json = write item)
    {result : α} :
    requiredField fields name read = .ok result ↔
      fields.get? name = some (write result) := by
  constructor
  · intro readField
    obtain ⟨found, reading, isPresent⟩ := bind_eq_ok_iff.mp readField
    cases found with
    | none => cases isPresent
    | some value =>
        cases isPresent
        have read := optionalField_eq_ok_iff.mp reading
        obtain ⟨json, looks, known⟩ := Option.map_eq_some_iff.mp read
        rw [looks, (reads json result).mp known]
  · intro looks
    exact requiredField_of_get? looks ((reads _ result).mpr rfl)

/-- A field that may be missing is read, or is what it is by default. -/
theorem exists_optionalField_iff
    {proper : α → Json → Prop}
    (reads : ∀ json item, read json = .ok item ↔ proper item json)
    {default result : α} :
    (∃ found, optionalField fields name read = .ok found ∧
        found.getD default = result) ↔
      Defaulted proper default (fields.get? name) result := by
  simp only [optionalField_eq_ok_iff, Defaulted, Shows]
  cases fields.get? name with
  | none => simp [eq_comm]
  | some value =>
      simp only [Option.map_some, reduceCtorEq, false_and, false_or,
        Option.some.injEq, exists_eq_left', ← reads]
      constructor
      · rintro ⟨found, same, rfl⟩
        cases found with
        | none => cases same
        | some item => exact Option.some.inj same
      · intro known
        exact ⟨some result, congrArg some known, rfl⟩

end Fields

end Message

end BuildWatch
