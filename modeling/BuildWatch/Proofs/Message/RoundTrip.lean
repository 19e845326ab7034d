import BuildWatch.Message.Decode
import BuildWatch.Proofs.Json.RoundTrip
import BuildWatch.Proofs.Json.Views
import BuildWatch.Proofs.Readings

/-!
# Messages read back

Every field of a message is found again under its name, and what its kind
asks for is read from it as it was written.  A message is therefore read back
from its text, as far as the text stands for a JSON value at all.
-/

namespace BuildWatch

namespace KeyMap

theorem get?_insertSome
    (map : KeyMap Json) (key other : String) (value : Option Json) :
    (map.insertSome key value).get? other =
      if other = key then value.or (map.get? other) else map.get? other := by
  cases value with
  | none => simp [insertSome]
  | some bound =>
      simp only [insertSome, get?_insert, Option.some_or]

theorem forall_mem_insertSome
    {holds : Json → Prop} {map : KeyMap Json} {key : String}
    {value : Option Json}
    (all : ∀ entry ∈ map.entries, holds entry.2)
    (new : ∀ bound, value = some bound → holds bound) :
    ∀ entry ∈ (map.insertSome key value).entries, holds entry.2 := by
  cases value with
  | none => exact all
  | some bound => exact forall_mem_insert all (new bound rfl)

end KeyMap

namespace Message

/-! ## Fields -/

theorem readWord_integer
    {number : Json.Integer} {word : UInt32}
    (inRange : number.toWord? = some word) :
    readWord (Json.integer number) = .ok word := by
  unfold readWord
  rw [Json.view_integer]
  dsimp only
  rw [inRange]

@[simp]
theorem readWord_word (word : UInt32) :
    readWord (Json.word word) = .ok word := by
  rw [Json.word]
  exact readWord_integer (Json.Integer.toWord?_ofWord word)

theorem readVersion_word (version : Version) :
    readVersion (Json.word version.number) = .ok version := by
  rw [readVersion, readWord_word]
  rfl

/-- Reading what was written for every item gives the items back. -/
theorem readVersions_array (versions : List Version) :
    readVersions
        (Json.array (versions.map fun version => Json.word version.number)) =
      .ok versions := by
  unfold readVersions
  rw [Json.view_array]
  exact mapM_map readVersion_word versions

theorem readChange_changeToJson (change : Option SourceInfo) :
    readChange (SourceInfo.changeToJson change) = .ok change := by
  cases change with
  | none => simp [readChange, SourceInfo.changeToJson]
  | some info =>
      obtain ⟨isSymlink, isSource⟩ := info
      cases isSymlink <;> cases isSource <;>
        simp [readChange, SourceInfo.changeToJson, SourceInfo.toJson,
          KeyMap.get?_insert]

theorem readChanges_toJson (changes : Changes) :
    readChanges changes.toJson = .ok changes := by
  simp only [readChanges, Changes.toJson, Json.view_object]
  exact KeyMap.traverse_map readChange_changeToJson changes

/-- The fields that do not depend on the kind of a message. -/
def isCommon (name : String) : Bool :=
  name = "kind" || name = "trace_id" || name = "span_id"

theorem get?_fields
    {name : String} (special : isCommon name = false) (message : Message) :
    message.fields.get? name = message.body.fields.get? name := by
  simp only [isCommon, Bool.or_eq_false_iff, decide_eq_false_iff_not] at special
  obtain ⟨⟨notKind, notTrace⟩, notSpan⟩ := special
  simp [fields, KeyMap.get?_insertSome, KeyMap.get?_insert, notKind, notTrace,
    notSpan]

theorem get?_kind (message : Message) :
    message.fields.get? "kind" = some (Json.string message.kind.name) := by
  simp [fields, KeyMap.get?_insertSome, KeyMap.get?_insert]

section Found

variable {α : Type} {fields : KeyMap Json} {name : String} {value : Json}
  {read : Json → Except Fault α} {result : α}

theorem optionalField_of_get?
    (found : fields.get? name = some value)
    (reads : read value = .ok result) :
    optionalField fields name read = .ok (some result) := by
  simp [optionalField, found, reads, Except.map]

theorem requiredField_of_get?
    (found : fields.get? name = some value)
    (reads : read value = .ok result) :
    requiredField fields name read = .ok result := by
  rw [requiredField, optionalField_of_get? found reads]
  rfl

end Found

/-- What belongs to the kind of a message is read as it was written. -/
theorem readBody_fields (message : Message) :
    readBody message.fields message.kind = .ok message.body := by
  obtain ⟨trace, body⟩ := message
  have own :
      ∀ name, isCommon name = false →
        (Message.mk trace body).fields.get? name = body.fields.get? name :=
    fun name special => get?_fields special ⟨trace, body⟩
  cases body with
  | negotiate versions =>
      have reads :=
        requiredField_of_get? (own "versions" (by decide))
          (readVersions_array versions)
      simp only [kind, MessageBody.kind, readBody, reads]
      rfl
  | negotiateResponse version =>
      have reads :=
        requiredField_of_get? (own "version" (by decide))
          (readVersion_word version)
      simp only [kind, MessageBody.kind, readBody, reads]
      rfl
  | caps requested =>
      have found := own "caps" (by decide)
      simp only [kind, MessageBody.kind, readBody, found]
      rfl
  | capsResponse granted =>
      have found := own "caps" (by decide)
      simp only [kind, MessageBody.kind, readBody, found]
      rfl
  | subscribe watchType =>
      have text : readText (Json.string watchType) = .ok watchType := by
        simp [readText]
      have reads :=
        requiredField_of_get? (own "watch_type" (by decide)) text
      simp only [kind, MessageBody.kind, readBody, reads]
      rfl
  | subscribeResponse => rfl
  | cycle number scope sources =>
      have readNumber :
          optionalField (Message.mk trace (.cycle number scope sources)).fields
            "cycle_id" readWord = .ok (some number) := by
        refine optionalField_of_get? ?_ (readWord_word number)
        rw [own "cycle_id" (by decide)]
        simp [MessageBody.fields, KeyMap.get?_insert, KeyMap.get?_insertSome]
      have readSources :
          optionalField (Message.mk trace (.cycle number scope sources)).fields
            "sources" readChanges = .ok (some sources) := by
        refine optionalField_of_get? ?_ (readChanges_toJson sources)
        rw [own "sources" (by decide)]
        simp [MessageBody.fields, KeyMap.get?_insert]
      have known :
          ((Message.mk trace (.cycle number scope sources)).fields.get?
            "scope").bind readScope = scope := by
        rw [own "scope" (by decide)]
        cases scope <;>
          simp [MessageBody.fields, KeyMap.get?_insert,
            KeyMap.get?_insertSome, readScope]
      simp only [kind, MessageBody.kind, readBody, readNumber, readSources,
        known]
      rfl
  | acknowledgment step number =>
      have reads :=
        requiredField_of_get? (own "cycle_id" (by decide))
          (readWord_word number)
      simp only [kind, MessageBody.kind, readBody, reads]
      rfl
  | exit description =>
      have text : readText (Json.string description) = .ok description := by
        simp [readText]
      have reads :=
        optionalField_of_get? (own "description" (by decide)) text
      simp only [kind, MessageBody.kind, readBody, reads]
      rfl

/-! ## Trace identifiers -/

/-- A text that is not empty. -/
def named (identifier : Option String) : Option String :=
  identifier.filter (· ≠ "")

/-- Empty identifiers are lost. -/
theorem readTrace_fields (message : Message) :
    readTrace message.fields =
      ⟨named message.trace.traceId, named message.trace.spanId⟩ := by
  have reads :
      ∀ name identifier,
        message.fields.get? name = identifier.map Json.string →
          readIdentifier message.fields name = named identifier := by
    intro name identifier found
    cases identifier <;> simp [readIdentifier, found, named]
  have noTrace : message.body.fields.get? "trace_id" = none := by
    cases message.body <;>
      simp [MessageBody.fields, KeyMap.get?_insert, KeyMap.get?_insertSome]
  have noSpan : message.body.fields.get? "span_id" = none := by
    cases message.body <;>
      simp [MessageBody.fields, KeyMap.get?_insert, KeyMap.get?_insertSome]
  have traceId :
      message.fields.get? "trace_id" =
        message.trace.traceId.map Json.string := by
    simp [fields, KeyMap.get?_insertSome, KeyMap.get?_insert, noTrace]
  have spanId :
      message.fields.get? "span_id" =
        message.trace.spanId.map Json.string := by
    simp [fields, KeyMap.get?_insertSome, KeyMap.get?_insert, noSpan]
  rw [readTrace, reads _ _ traceId, reads _ _ spanId]

/-! ## Whole messages -/

theorem readJson_toJson (message : Message) :
    readJson message.toJson =
      .ok
        ⟨⟨named message.trace.traceId, named message.trace.spanId⟩,
          message.body⟩ := by
  simp [readJson, toJson, readFields, get?_kind, readBody_fields,
    readTrace_fields]

/-- What a message has to be for its text to keep it. -/
structure Portable (message : Message) : Prop where
  fits : Json.Fits Json.maximumDepth message.toJson
  traced : message.trace.traceId ≠ some ""
  spanned : message.trace.spanId ≠ some ""

/-- A message is read back from its text. -/
theorem decode_encode
    {message : Message} (portable : Portable message) :
    decode message.encode = .ok message := by
  obtain ⟨⟨exact, shallow⟩, traced, spanned⟩ := portable
  have parsed := Json.parse?_text message.toJson exact
  rw [if_pos shallow] at parsed
  have traceId : named message.trace.traceId = message.trace.traceId := by
    cases found : message.trace.traceId <;> simp_all [named]
  have spanId : named message.trace.spanId = message.trace.spanId := by
    cases found : message.trace.spanId <;> simp_all [named]
  rw [decode, encode, parsed]
  simp only [readJson_toJson, traceId, spanId]
  rfl

/-! ## Messages that fit -/

/-- The value that a message carries for others. -/
def carried? : MessageBody → Option Json
  | .caps requested => some requested
  | .capsResponse granted => some granted
  | _ => none

theorem fits_changeToJson (change : Option SourceInfo) :
    Json.Fits 1 (SourceInfo.changeToJson change) := by
  cases change with
  | none => exact Json.fits_null 1
  | some info =>
      have flag :
          ∀ (map : KeyMap Json) (name : String) (truth : Option Bool),
            (∀ entry ∈ map.entries, Json.Fits 0 entry.2) →
              ∀ entry ∈ (map.insertSome name (truth.map Json.bool)).entries,
                Json.Fits 0 entry.2 := by
        intro map name truth all
        apply KeyMap.forall_mem_insertSome all
        intro bound known
        obtain ⟨value, _, rfl⟩ := Option.map_eq_some_iff.mp known
        exact Json.fits_bool 0 value
      obtain ⟨isSymlink, isSource⟩ := info
      have flags :=
        flag (KeyMap.empty.insertSome "is_source" (isSource.map Json.bool))
          "is_symlink" isSymlink
          (flag KeyMap.empty "is_source" isSource (by simp [KeyMap.empty]))
      have same :
          SourceInfo.changeToJson (some ⟨isSymlink, isSource⟩) =
            Json.object
              ((KeyMap.empty.insertSome "is_source"
                (isSource.map Json.bool)).insertSome "is_symlink"
                  (isSymlink.map Json.bool)) := by
        cases isSymlink <;> cases isSource <;> rfl
      rw [same]
      exact Json.fits_object flags

theorem fits_body
    {depth : Nat} {body : MessageBody}
    (carries :
      ∀ value, carried? body = some value → Json.Fits (depth + 2) value) :
    ∀ entry ∈ body.fields.entries, Json.Fits (depth + 2) entry.2 := by
  have nothing :
      ∀ entry ∈ (KeyMap.empty : KeyMap Json).entries,
        Json.Fits (depth + 2) entry.2 := by
    simp [KeyMap.empty]
  cases body with
  | negotiate versions =>
      apply KeyMap.forall_mem_insert nothing
      apply Json.fits_array
      intro item member
      obtain ⟨version, _, rfl⟩ := List.mem_map.mp member
      exact Json.fits_word (depth + 1) version.number
  | negotiateResponse version =>
      exact KeyMap.forall_mem_insert nothing (Json.fits_word _ _)
  | caps requested =>
      exact KeyMap.forall_mem_insert nothing (carries requested rfl)
  | capsResponse granted =>
      exact KeyMap.forall_mem_insert nothing (carries granted rfl)
  | subscribe watchType =>
      exact KeyMap.forall_mem_insert nothing (Json.fits_string _ watchType)
  | subscribeResponse => exact nothing
  | cycle number scope sources =>
      refine KeyMap.forall_mem_insert
        (KeyMap.forall_mem_insertSome
          (KeyMap.forall_mem_insert nothing (Json.fits_word _ number)) ?_)
        ?_
      · intro bound known
        obtain ⟨name, _, rfl⟩ := Option.map_eq_some_iff.mp known
        exact Json.fits_string _ name.name
      · apply Json.fits_object
        intro entry member
        obtain ⟨change, _, rfl⟩ := List.mem_map.mp member
        exact (fits_changeToJson change.2).mono (Nat.le_add_left 1 depth)
  | acknowledgment step number =>
      exact KeyMap.forall_mem_insert nothing (Json.fits_word _ number)
  | exit description =>
      exact KeyMap.forall_mem_insert nothing
        (Json.fits_string _ description)

/-- A message is nested one deeper than what it carries. -/
theorem fits_toJson
    {depth : Nat} {message : Message}
    (carries :
      ∀ value, carried? message.body = some value →
        Json.Fits (depth + 2) value) :
    Json.Fits (depth + 3) message.toJson := by
  have text :
      ∀ identifier : Option String,
        ∀ bound, identifier.map Json.string = some bound →
          Json.Fits (depth + 2) bound := by
    intro identifier bound known
    obtain ⟨name, _, rfl⟩ := Option.map_eq_some_iff.mp known
    exact Json.fits_string _ name
  apply Json.fits_object
  exact KeyMap.forall_mem_insertSome
    (KeyMap.forall_mem_insertSome
      (KeyMap.forall_mem_insert (fits_body carries) (Json.fits_string _ _))
      (text _))
    (text _)

theorem identifier_ne_empty
    {digits : Nat} (wide : digits ≠ 0) (number : Nat) :
    TraceContext.identifier digits number ≠ some "" := by
  unfold TraceContext.identifier
  split
  · simp
  · intro empty
    have nil : Hex.padded digits number = [] := by
      have text := congrArg (Option.map String.toList) empty
      simpa using text
    cases digits with
    | zero => exact wide rfl
    | succ more => simp [Hex.padded] at nil

/-- A message with the identifiers of a span fits if what it carries does. -/
theorem portable_of_carried
    {message : Message} {context : TraceContext}
    (traced : message.trace = context.fields)
    (carries :
      ∀ value, carried? message.body = some value → Json.Fits 126 value) :
    Portable message where
  fits := fits_toJson carries
  traced := by
    rw [traced]
    exact identifier_ne_empty (by decide) _
  spanned := by
    rw [traced]
    exact identifier_ne_empty (by decide) _

/-- A message without identifiers fits if what it carries does. -/
theorem portable_plain
    {body : MessageBody}
    (carries : ∀ value, carried? body = some value → Json.Fits 126 value) :
    Portable (plain body) :=
  portable_of_carried TraceContext.fields_none.symm carries

end Message

end BuildWatch
