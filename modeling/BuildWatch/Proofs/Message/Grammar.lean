import BuildWatch.Proofs.Message.Faults
import Mathlib.Data.Set.List

/-!
# The grammar of messages

Which JSON values are messages, and what each of them says.  Reading a value
gives exactly the message that its fields mean, and fails exactly if they mean
none.  Fields that are none of the kind's, and values that are not proper in a
lenient place, play no part.
-/

namespace BuildWatch.Message

/-! ## What a message says -/

/-- What the fields of an object say, as far as they belong to one kind. -/
inductive Says (fields : KeyMap Json) : MessageBody → Prop where
  | negotiate {versions : List Version}
      (listed :
        fields.get? "versions" =
          some (Json.array
            (versions.map fun version => Json.word version.number))) :
      Says fields (.negotiate versions)
  | negotiateResponse {version : Version}
      (chosen : fields.get? "version" = some (Json.word version.number)) :
      Says fields (.negotiateResponse version)
  | caps : Says fields (.caps ((fields.get? "caps").getD Json.null))
  | capsResponse :
      Says fields (.capsResponse ((fields.get? "caps").getD Json.null))
  | subscribe {watchType : String}
      (named : fields.get? "watch_type" = some (Json.string watchType)) :
      Says fields (.subscribe watchType)
  | subscribeResponse : Says fields .subscribeResponse
  | cycle {number : CycleId} {scope : Option Scope} {sources : Changes}
      (numbered : fields.get? "cycle_id" = some (Json.word number))
      (narrowed : Holds IsScope (fields.get? "scope") scope)
      (listed :
        Defaulted Lists KeyMap.empty (fields.get? "sources") sources) :
      Says fields (.cycle number scope sources)
  | acknowledgment {step : Acknowledgment} {number : CycleId}
      (numbered : fields.get? "cycle_id" = some (Json.word number)) :
      Says fields (.acknowledgment step number)
  | exit {description : String}
      (described :
        Defaulted IsText "" (fields.get? "description") description) :
      Says fields (.exit description)

theorem readScope_eq_some_iff {json : Json} {scope : Scope} :
    readScope json = some scope ↔ IsScope scope json := by
  simp only [readScope, Option.bind_eq_some_iff, Json.asString?_eq_some_iff,
    Scope.ofName?_eq_some_iff, IsScope]
  constructor
  · rintro ⟨name, rfl, rfl⟩
    rfl
  · rintro rfl
    exact ⟨scope.name, rfl, rfl⟩

theorem bind_readScope_eq_iff {place : Option Json} {scope : Option Scope} :
    place.bind readScope = scope ↔ Holds IsScope place scope :=
  bind_eq_iff_holds fun _ _ => readScope_eq_some_iff

theorem bind_readScope_eq_iff_agree {left right : Option Json} :
    left.bind readScope = right.bind readScope ↔ Agree IsScope left right :=
  bind_eq_bind_iff_agree fun _ _ => readScope_eq_some_iff

section Fields

variable {fields : KeyMap Json} {kind : MessageKind} {body : MessageBody}

/-- What a kind with one required field makes of it. -/
theorem requiredBody_eq_ok_iff
    {α : Type} {name : String} {read : Json → Except Fault α}
    {write : α → Json} {make : α → MessageBody}
    (reads : ∀ json item, read json = .ok item ↔ json = write item) :
    (requiredField fields name read >>= fun item => pure (make item)) =
        .ok body ↔
      ∃ item, fields.get? name = some (write item) ∧ make item = body := by
  simp only [bind_eq_ok_iff, requiredField_eq_ok_iff reads, pure, Except.pure,
    Except.ok.injEq]

theorem says_of_readBody (read : readBody fields kind = .ok body) :
    Says fields body := by
  cases kind with
  | negotiate =>
      obtain ⟨versions, listed, rfl⟩ :=
        (requiredBody_eq_ok_iff fun _ _ => readVersions_eq_ok_iff).mp read
      exact .negotiate listed
  | negotiateResponse =>
      obtain ⟨version, chosen, rfl⟩ :=
        (requiredBody_eq_ok_iff fun _ _ => readVersion_eq_ok_iff).mp read
      exact .negotiateResponse chosen
  | caps =>
      cases read
      exact .caps
  | capsResponse =>
      cases read
      exact .capsResponse
  | subscribe =>
      obtain ⟨watchType, named, rfl⟩ :=
        (requiredBody_eq_ok_iff fun _ _ => readText_eq_ok_iff).mp read
      exact .subscribe named
  | subscribeResponse =>
      cases read
      exact .subscribeResponse
  | cycle =>
      obtain ⟨cycle, readCycle, afterCycle⟩ := bind_eq_ok_iff.mp read
      obtain ⟨listed, readListed, afterListed⟩ := bind_eq_ok_iff.mp afterCycle
      obtain ⟨number, isPresent, same⟩ := bind_eq_ok_iff.mp afterListed
      cases same
      -- The number is looked for twice: as a field, and as one that is needed.
      have readNumber : requiredField fields "cycle_id" readWord = .ok number :=
        bind_eq_ok_iff.mpr ⟨cycle, readCycle, isPresent⟩
      refine .cycle ?_ (bind_readScope_eq_iff.mp rfl) ?_
      · exact (requiredField_eq_ok_iff fun _ _ => readWord_eq_ok_iff).mp
          readNumber
      · exact (exists_optionalField_iff fun _ _ => readChanges_eq_ok_iff).mp
          ⟨listed, readListed, rfl⟩
  | acknowledgment step =>
      obtain ⟨number, numbered, rfl⟩ :=
        (requiredBody_eq_ok_iff fun _ _ => readWord_eq_ok_iff).mp read
      exact .acknowledgment numbered
  | exit =>
      obtain ⟨found, described, same⟩ := bind_eq_ok_iff.mp read
      cases same
      refine .exit ((exists_optionalField_iff ?_).mp ⟨found, described, rfl⟩)
      exact fun _ _ => readText_eq_ok_iff

theorem readBody_of_says (stated : Says fields body) :
    readBody fields body.kind = .ok body := by
  cases stated with
  | negotiate listed =>
      exact (requiredBody_eq_ok_iff fun _ _ => readVersions_eq_ok_iff).mpr
        ⟨_, listed, rfl⟩
  | negotiateResponse chosen =>
      exact (requiredBody_eq_ok_iff fun _ _ => readVersion_eq_ok_iff).mpr
        ⟨_, chosen, rfl⟩
  | caps => rfl
  | capsResponse => rfl
  | subscribe named =>
      exact (requiredBody_eq_ok_iff fun _ _ => readText_eq_ok_iff).mpr
        ⟨_, named, rfl⟩
  | subscribeResponse => rfl
  | @cycle number scope sources numbered narrowed listed =>
      obtain ⟨cycle, readCycle, isPresent⟩ := bind_eq_ok_iff.mp
        ((requiredField_eq_ok_iff fun _ _ => readWord_eq_ok_iff).mpr numbered)
      obtain ⟨found, readListed, rfl⟩ :=
        (exists_optionalField_iff fun _ _ => readChanges_eq_ok_iff).mpr listed
      refine bind_eq_ok_iff.mpr ⟨cycle, readCycle, ?_⟩
      refine bind_eq_ok_iff.mpr ⟨found, readListed, ?_⟩
      refine bind_eq_ok_iff.mpr ⟨number, isPresent, ?_⟩
      rw [bind_readScope_eq_iff.mpr narrowed]
      rfl
  | acknowledgment numbered =>
      exact (requiredBody_eq_ok_iff fun _ _ => readWord_eq_ok_iff).mpr
        ⟨_, numbered, rfl⟩
  | exit described =>
      obtain ⟨found, readDescription, rfl⟩ :=
        (exists_optionalField_iff fun _ _ => readText_eq_ok_iff).mpr described
      exact bind_eq_ok_iff.mpr ⟨found, readDescription, rfl⟩

/-- Reading the fields of a kind gives what they say. -/
theorem readBody_eq_ok_iff :
    readBody fields kind = .ok body ↔ body.kind = kind ∧ Says fields body := by
  constructor
  · intro read
    exact ⟨kind_of_readBody read, says_of_readBody read⟩
  · rintro ⟨rfl, stated⟩
    exact readBody_of_says stated

end Fields

/-- What an object says, as a message. -/
structure Meant (fields : KeyMap Json) (message : Message) : Prop where
  kind : fields.get? "kind" = some (Json.string message.kind.name)
  body : Says fields message.body
  traceId :
    Holds IsIdentifier (fields.get? "trace_id") message.trace.traceId
  spanId : Holds IsIdentifier (fields.get? "span_id") message.trace.spanId

/-- The identifier that a value stands for. -/
def identifier? (json : Json) : Option String :=
  json.asString?.filter (· ≠ "")

theorem identifier?_eq_some_iff {json : Json} {text : String} :
    identifier? json = some text ↔ IsIdentifier text json := by
  simp [identifier?, IsIdentifier, Option.filter_eq_some_iff,
    Json.asString?_eq_some_iff]

theorem readIdentifier_eq_bind (fields : KeyMap Json) (name : String) :
    readIdentifier fields name = (fields.get? name).bind identifier? := by
  unfold readIdentifier identifier?
  cases fields.get? name <;> rfl

theorem readIdentifier_eq_iff
    {fields : KeyMap Json} {name : String} {identifier : Option String} :
    readIdentifier fields name = identifier ↔
      Holds IsIdentifier (fields.get? name) identifier := by
  rw [readIdentifier_eq_bind]
  exact bind_eq_iff_holds fun _ _ => identifier?_eq_some_iff

theorem readIdentifier_eq_iff_agree
    {left right : KeyMap Json} {name : String} :
    readIdentifier left name = readIdentifier right name ↔
      Agree IsIdentifier (left.get? name) (right.get? name) := by
  rw [readIdentifier_eq_bind, readIdentifier_eq_bind]
  exact bind_eq_bind_iff_agree fun _ _ => identifier?_eq_some_iff

theorem ofJson_eq_ok_iff {json : Json} {message : Message} :
    ofJson json = .ok message ↔ readJson json = .ok message := by
  unfold ofJson
  cases readJson json <;> simp [Except.mapError]

/-- Reading a value gives what it means. -/
theorem ofJson_eq_ok_iff_meant {json : Json} {message : Message} :
    ofJson json = .ok message ↔
      ∃ fields, json = Json.object fields ∧ Meant fields message := by
  rw [ofJson_eq_ok_iff, readJson_eq_ok_iff]
  constructor
  · rintro ⟨fields, name, kind, rfl, named, known, readAll, trace⟩
    obtain ⟨rfl, stated⟩ := readBody_eq_ok_iff.mp readAll
    have same : message.kind.name = name :=
      MessageKind.name_of_ofName?_eq_some known
    refine ⟨fields, rfl, ?_, stated, ?_, ?_⟩
    · rw [same]
      exact bind_asString?_eq_some_iff.mp named
    · exact readIdentifier_eq_iff.mp (congrArg TraceFields.traceId trace).symm
    · exact readIdentifier_eq_iff.mp (congrArg TraceFields.spanId trace).symm
  · rintro ⟨fields, rfl, kind, stated, traceId, spanId⟩
    refine ⟨fields, message.kind.name, message.kind, rfl,
      bind_asString?_eq_some_iff.mpr kind, MessageKind.ofName?_name _,
      readBody_eq_ok_iff.mpr ⟨rfl, stated⟩, ?_⟩
    rw [readTrace, readIdentifier_eq_iff.mpr traceId,
      readIdentifier_eq_iff.mpr spanId]

/-! ## Which values are messages -/

/-- What may stand for a changed path. -/
def IsChange (json : Json) : Prop :=
  json = Json.null ∨ (∃ fields, json = Json.object fields) ∨
    ∃ items, json = Json.array items ∧ items.length ≤ 2

theorem exists_describes_iff {json : Json} :
    (∃ change, Describes json change) ↔ IsChange json := by
  have known
      {symlink source : Option Json} (flagged : Flagged json symlink source) :
      ∃ change, Describes json change :=
    ⟨_, readChange_eq_ok_iff.mp (readChange_of_flagged flagged)⟩
  constructor
  · rintro ⟨change, _ | ⟨flagged, _, _⟩⟩
    · exact .inl rfl
    · cases flagged with
      | object fields => exact .inr (.inl ⟨fields, rfl⟩)
      | array items short => exact .inr (.inr ⟨items, rfl, short⟩)
  · rintro (rfl | ⟨fields, rfl⟩ | ⟨items, rfl, short⟩)
    · exact ⟨none, .deleted⟩
    · exact known (.object fields)
    · exact known (.array items short)

theorem exists_lists_iff {json : Json} :
    (∃ changes, Lists changes json) ↔
      ∃ paths, json = Json.object paths ∧
        ∀ entry ∈ paths.entries, IsChange entry.2 := by
  have read paths :
      (∃ changes, KeyMap.traverse readChange paths = .ok changes) ↔
        ∀ entry ∈ paths.entries, IsChange entry.2 := by
    simp only [KeyMap.exists_traverse_iff, readChange_eq_ok_iff,
      exists_describes_iff]
  constructor
  · rintro ⟨changes, paths, rfl, listed⟩
    have readAll := readChanges_eq_ok_iff.mpr ⟨paths, rfl, listed⟩
    simp only [readChanges, Json.view_object] at readAll
    exact ⟨paths, rfl, (read paths).mp ⟨changes, readAll⟩⟩
  · rintro ⟨paths, rfl, each⟩
    obtain ⟨changes, readAll⟩ := (read paths).mpr each
    refine ⟨changes, readChanges_eq_ok_iff.mp ?_⟩
    simpa only [readChanges, Json.view_object] using readAll

theorem exists_versions_iff {items : List Json} :
    (∃ versions : List Version,
        items = versions.map fun version => Json.word version.number) ↔
      ∀ item ∈ items, IsWord item := by
  have word item :
      (∃ version : Version, Json.word version.number = item) ↔ IsWord item := by
    rw [isWord_iff]
    exact ⟨fun ⟨version, same⟩ => ⟨version.number, same.symm⟩,
      fun ⟨word, same⟩ => ⟨⟨word⟩, same.symm⟩⟩
  have listed := Set.ext_iff.mp
    (Set.range_list_map fun version : Version => Json.word version.number) items
  simpa only [Set.mem_range, Set.mem_ofPred_eq, word, @eq_comm _ items]
    using listed

/-- Whether a field is there and is a number. -/
def HasWord (fields : KeyMap Json) (name : String) : Prop :=
  ∃ value, fields.get? name = some value ∧ IsWord value

theorem hasWord_iff {fields : KeyMap Json} {name : String} :
    HasWord fields name ↔
      ∃ word, fields.get? name = some (Json.word word) := by
  simp only [HasWord, isWord_iff]
  constructor
  · rintro ⟨_, looks, word, rfl⟩
    exact ⟨word, looks⟩
  · rintro ⟨word, looks⟩
    exact ⟨_, looks, word, rfl⟩

/-- What a kind asks of the fields of an object. -/
def WellFormed (fields : KeyMap Json) : MessageKind → Prop
  | .negotiate =>
      ∃ items, fields.get? "versions" = some (Json.array items) ∧
        ∀ item ∈ items, IsWord item
  | .negotiateResponse => HasWord fields "version"
  | .caps => True
  | .capsResponse => True
  | .subscribe => ∃ text, fields.get? "watch_type" = some (Json.string text)
  | .subscribeResponse => True
  | .cycle =>
      HasWord fields "cycle_id" ∧
        ∀ value, fields.get? "sources" = some value →
          ∃ paths, value = Json.object paths ∧
            ∀ entry ∈ paths.entries, IsChange entry.2
  | .acknowledgment _ => HasWord fields "cycle_id"
  | .exit =>
      ∀ value, fields.get? "description" = some value →
        ∃ text, value = Json.string text

/-- A place with a default holds something unless something wrong is there. -/
theorem exists_defaulted_iff
    {α : Type} {proper : α → Json → Prop} {default : α} {place : Option Json} :
    (∃ value, Defaulted proper default place value) ↔
      ∀ json, place = some json → ∃ value, proper value json := by
  unfold Defaulted Shows
  cases place with
  | none => simp
  | some json => simp

/-- The fields of an object say something exactly if they are well formed. -/
theorem exists_says_iff {fields : KeyMap Json} {kind : MessageKind} :
    (∃ body, body.kind = kind ∧ Says fields body) ↔ WellFormed fields kind := by
  constructor
  · rintro ⟨body, rfl, stated⟩
    cases stated with
    | negotiate listed => exact ⟨_, listed, exists_versions_iff.mp ⟨_, rfl⟩⟩
    | negotiateResponse chosen => exact hasWord_iff.mpr ⟨_, chosen⟩
    | caps => trivial
    | capsResponse => trivial
    | subscribe named => exact ⟨_, named⟩
    | subscribeResponse => trivial
    | cycle numbered narrowed listed =>
        refine ⟨hasWord_iff.mpr ⟨_, numbered⟩, ?_⟩
        intro value looks
        exact exists_lists_iff.mp
          (exists_defaulted_iff.mp ⟨_, listed⟩ value looks)
    | acknowledgment numbered => exact hasWord_iff.mpr ⟨_, numbered⟩
    | exit described => exact exists_defaulted_iff.mp ⟨_, described⟩
  · intro wellFormed
    cases kind with
    | negotiate =>
        obtain ⟨items, listed, words⟩ := wellFormed
        obtain ⟨versions, rfl⟩ := exists_versions_iff.mpr words
        exact ⟨_, rfl, .negotiate listed⟩
    | negotiateResponse =>
        obtain ⟨word, chosen⟩ := hasWord_iff.mp wellFormed
        exact ⟨.negotiateResponse ⟨word⟩, rfl, .negotiateResponse chosen⟩
    | caps => exact ⟨_, rfl, .caps⟩
    | capsResponse => exact ⟨_, rfl, .capsResponse⟩
    | subscribe =>
        obtain ⟨watchType, named⟩ := wellFormed
        exact ⟨_, rfl, .subscribe named⟩
    | subscribeResponse => exact ⟨_, rfl, .subscribeResponse⟩
    | cycle =>
        obtain ⟨counted, proper⟩ := wellFormed
        obtain ⟨number, numbered⟩ := hasWord_iff.mp counted
        obtain ⟨sources, listed⟩ : ∃ sources,
            Defaulted Lists KeyMap.empty (fields.get? "sources") sources :=
          exists_defaulted_iff.mpr fun value looks =>
            exists_lists_iff.mpr (proper value looks)
        exact ⟨_, rfl,
          .cycle numbered (bind_readScope_eq_iff.mp rfl) listed⟩
    | acknowledgment step =>
        obtain ⟨number, numbered⟩ := hasWord_iff.mp wellFormed
        exact ⟨.acknowledgment step number, rfl, .acknowledgment numbered⟩
    | exit =>
        obtain ⟨description, described⟩ :=
          exists_defaulted_iff.mpr wellFormed
        exact ⟨_, rfl, .exit described⟩

/-- Fields are well formed exactly if nothing is wrong with them. -/
theorem wellFormed_iff_faults {fields : KeyMap Json} {kind : MessageKind} :
    WellFormed fields kind ↔ faults fields kind = [] := by
  rw [← exists_says_iff, ← List.head?_eq_none_iff, ← refusal?_readBody]
  simp only [← readBody_eq_ok_iff]
  cases readBody fields kind <;> simp [refusal?]

/-- Whether a value is a message, by its kind and the fields of the kind. -/
def Grammatical (json : Json) : Prop :=
  ∃ fields kind, json = Json.object fields ∧
    fields.get? "kind" = some (Json.string (MessageKind.name kind)) ∧
    WellFormed fields kind

/-- An object means some message exactly if it is one by its grammar. -/
theorem exists_meant_iff {json : Json} :
    (∃ message fields, json = Json.object fields ∧ Meant fields message) ↔
      Grammatical json := by
  constructor
  · rintro ⟨message, fields, rfl, meant⟩
    exact ⟨fields, message.kind, rfl, meant.kind,
      exists_says_iff.mp ⟨message.body, rfl, meant.body⟩⟩
  · rintro ⟨fields, kind, rfl, named, wellFormed⟩
    obtain ⟨body, rfl, stated⟩ := exists_says_iff.mpr wellFormed
    exact ⟨⟨readTrace fields, body⟩, fields, rfl, named, stated,
      readIdentifier_eq_iff.mp rfl, readIdentifier_eq_iff.mp rfl⟩

/-! ## What plays no part -/

/-- Whether two values say the same of a path, whatever else they hold. -/
inductive AlikeChange : Json → Json → Prop where
  | same (json : Json) : AlikeChange json json
  | known {left right : Json}
      {leftSymlink leftSource rightSymlink rightSource : Option Json}
      (leftFlagged : Flagged left leftSymlink leftSource)
      (rightFlagged : Flagged right rightSymlink rightSource)
      (symlink : Agree IsFlag leftSymlink rightSymlink)
      (source : Agree IsFlag leftSource rightSource) :
      AlikeChange left right

/-- Whether two values say the same of every path. -/
inductive AlikeSources : Json → Json → Prop where
  | same (json : Json) : AlikeSources json json
  | paths {left right : KeyMap Json}
      (each :
        ∀ path, Option.Rel AlikeChange (left.get? path) (right.get? path)) :
      AlikeSources (Json.object left) (Json.object right)

/-- The fields of a kind in which every value counts. -/
def strictFields : MessageKind → List String
  | .negotiate => ["versions"]
  | .negotiateResponse => ["version"]
  | .caps => ["caps"]
  | .capsResponse => ["caps"]
  | .subscribe => ["watch_type"]
  | .subscribeResponse => []
  | .cycle => ["cycle_id"]
  | .acknowledgment _ => ["cycle_id"]
  | .exit => ["description"]

/--
Two objects of one kind that differ in nothing but fields that are none of the
kind's and improper values in lenient places.
-/
structure Alike (kind : MessageKind) (left right : KeyMap Json) : Prop where
  leftKind : left.get? "kind" = some (Json.string kind.name)
  rightKind : right.get? "kind" = some (Json.string kind.name)
  strict : ∀ name ∈ strictFields kind, left.get? name = right.get? name
  scope : kind = .cycle →
    Agree IsScope (left.get? "scope") (right.get? "scope")
  sources : kind = .cycle →
    Option.Rel AlikeSources (left.get? "sources") (right.get? "sources")
  traceId :
    Agree IsIdentifier (left.get? "trace_id") (right.get? "trace_id")
  spanId : Agree IsIdentifier (left.get? "span_id") (right.get? "span_id")

theorem readChange_of_alike
    {left right : Json} (alike : AlikeChange left right) :
    readChange left = readChange right := by
  cases alike with
  | same => rfl
  | known leftFlagged rightFlagged symlink source =>
      rw [readChange_of_flagged leftFlagged, readChange_of_flagged rightFlagged,
        bind_asBool?_eq_iff_agree.mpr symlink,
        bind_asBool?_eq_iff_agree.mpr source]

theorem map_readChange_of_alike
    {left right : Option Json} (alike : Option.Rel AlikeChange left right) :
    left.map readChange = right.map readChange := by
  cases alike with
  | none => rfl
  | some alike => exact congrArg some (readChange_of_alike alike)

theorem readChanges_of_alike
    {left right : Json} (alike : AlikeSources left right) (changes : Changes) :
    readChanges left = .ok changes ↔ readChanges right = .ok changes := by
  cases alike with
  | same => rfl
  | paths each =>
      simp only [readChanges, Json.view_object, KeyMap.traverse_eq_ok_iff,
        map_readChange_of_alike (each _)]

theorem map_readChanges_of_alike
    {left right : Option Json} (alike : Option.Rel AlikeSources left right)
    (sources : Option Changes) :
    left.map readChanges = sources.map .ok ↔
      right.map readChanges = sources.map .ok := by
  cases alike with
  | none => rfl
  | some alike => cases sources <;> simp [readChanges_of_alike alike]

/-- Alike objects say the same. -/
theorem readBody_of_alike
    {kind : MessageKind} {left right : KeyMap Json}
    (alike : Alike kind left right) (body : MessageBody) :
    readBody left kind = .ok body ↔ readBody right kind = .ok body := by
  have own := alike.strict
  cases kind with
  | cycle =>
      have number := own "cycle_id" List.mem_cons_self
      have scope := bind_readScope_eq_iff_agree.mpr (alike.scope rfl)
      simp only [readBody, bind_eq_ok_iff, optionalField_eq_ok_iff, number,
        map_readChanges_of_alike (alike.sources rfl), scope]
  | subscribeResponse => rfl
  | _ =>
      have field := own _ List.mem_cons_self
      simp only [readBody, requiredField, optionalField, field]

/-- Alike objects mean the same message. -/
theorem meant_of_alike
    {kind : MessageKind} {left right : KeyMap Json}
    (alike : Alike kind left right) (message : Message) :
    ofJson (Json.object left) = .ok message ↔
      ofJson (Json.object right) = .ok message := by
  have traceId := readIdentifier_eq_iff_agree.mpr alike.traceId
  have spanId := readIdentifier_eq_iff_agree.mpr alike.spanId
  have kinds (fields : KeyMap Json)
      (named : fields.get? "kind" = some (Json.string kind.name)) :
      ofJson (Json.object fields) = .ok message ↔
        readBody fields kind = .ok message.body ∧
          message.trace = readTrace fields := by
    obtain ⟨trace, body⟩ := message
    rw [ofJson_eq_ok_iff]
    simp only [readJson, Json.view_object, readFields,
      bind_asString?_eq_some_iff.mpr named, MessageKind.ofName?_name]
    cases readBody fields kind <;> simp [and_comm, eq_comm]
  rw [kinds left alike.leftKind, kinds right alike.rightKind,
    readBody_of_alike alike, readTrace, readTrace, traceId, spanId]

/--
A value is read exactly if it is a message by its grammar, and then as what
its fields mean.  Fields that are none of the kind's and improper values in
lenient places make no difference.
-/
theorem ofJson_accepts_grammar :
    (∀ json, (∃ message, ofJson json = .ok message) ↔ Grammatical json) ∧
      (∀ json message, ofJson json = .ok message ↔
        ∃ fields, json = Json.object fields ∧ Meant fields message) ∧
      ∀ kind left right, Alike kind left right → ∀ message,
        ofJson (Json.object left) = .ok message ↔
          ofJson (Json.object right) = .ok message := by
  refine ⟨?_, fun _ _ => ofJson_eq_ok_iff_meant, fun _ _ _ => meant_of_alike⟩
  intro json
  simp only [ofJson_eq_ok_iff_meant]
  exact exists_meant_iff

/-- The fields of a cycle about one path, before anything else is added. -/
def cycleAbout (link : Json) : KeyMap Json :=
  KeyMap.ofList
    [("kind", Json.string "CYCLE"), ("cycle_id", Json.word 7),
      ("sources", Json.object (KeyMap.empty.insert "link" link))]

/-- A path in the form of a list. -/
def listedLink : Json := Json.array [Json.bool true]

/-- The same path in the form of an object, with a flag that is none. -/
def taggedLink : Json :=
  Json.object (KeyMap.ofList
    [("is_symlink", Json.bool true), ("is_source", Json.string "yes")])

/-- A cycle with a foreign field and improper values in lenient places. -/
def crowdedCycle : KeyMap Json :=
  ((((cycleAbout taggedLink).insert "color" (Json.string "red")).insert
    "scope" (Json.word 123)).insert "trace_id" (Json.string "")).insert
      "span_id" (Json.bool true)

theorem alikeChange_link : AlikeChange listedLink taggedLink :=
  .known (.array [Json.bool true] (by decide)) (.object _)
    (bind_asBool?_eq_iff_agree.mp (by decide))
    (bind_asBool?_eq_iff_agree.mp (by decide))

theorem alike_crowdedCycle :
    Alike .cycle (cycleAbout listedLink) crowdedCycle where
  leftKind := by decide
  rightKind := by decide
  strict := by decide
  scope _ := bind_readScope_eq_iff_agree.mp (by decide)
  sources _ := by
    refine Option.Rel.some (.paths ?_)
    intro path
    rw [KeyMap.get?_insert, KeyMap.get?_insert]
    split
    · exact .some alikeChange_link
    · exact .none
  traceId := readIdentifier_eq_iff_agree.mp (by decide)
  spanId := readIdentifier_eq_iff_agree.mp (by decide)

theorem ofJson_accepts_grammar_crowdedCycle :
    Alike .cycle (cycleAbout listedLink) crowdedCycle ∧
      ofJson (Json.object (cycleAbout listedLink)) =
        .ok (plain (.cycle 7 none
          (KeyMap.empty.insert "link" (some ⟨some true, none⟩)))) ∧
      ofJson (Json.object crowdedCycle) =
        .ok (plain (.cycle 7 none
          (KeyMap.empty.insert "link" (some ⟨some true, none⟩)))) := by
  have read :
      ofJson (Json.object (cycleAbout listedLink)) =
        .ok (plain (.cycle 7 none
          (KeyMap.empty.insert "link" (some ⟨some true, none⟩)))) := by
    rfl
  exact ⟨alike_crowdedCycle, read,
    (ofJson_accepts_grammar.2.2 _ _ _ alike_crowdedCycle _).mp read⟩

end BuildWatch.Message
