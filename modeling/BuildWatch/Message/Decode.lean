import BuildWatch.Json.Parser
import BuildWatch.Message

/-!
# Reading messages

A text is a message if it is a JSON object with a known kind and its fields
have the types that the kind asks for.  The first fault is reported with the
text it was found in.  Fields are looked at in the order of their names, and
a field that is missing is reported only after all that are present were
read.  Unknown fields are ignored, and so are values of the wrong type where
a field may be unknown: trace identifiers, scopes and flags of files.
-/

namespace BuildWatch

/-- What a value was found to be. -/
inductive Found where
  | null
  | boolean (truth : Bool)
  | integer (number : Int)
  | floating (number : Double)
  | string (text : String)
  | sequence
  | map
deriving DecidableEq

namespace Found

/-- What a JSON value is found to be. -/
def ofJson (json : Json) : Found :=
  match json.view with
  | .null => .null
  | .bool truth => .boolean truth
  | .integer number => .integer number.value
  | .double number => .floating number
  | .string text => .string text
  | .array _ => .sequence
  | .object _ => .map

/-- How an error names what was found. -/
def text : Found → String
  | .null => "null"
  | .boolean truth => "boolean `" ++ (if truth then "true" else "false") ++ "`"
  | .integer number =>
      "integer `" ++ String.ofList (Json.integerText number) ++ "`"
  | .floating number =>
      "floating point `" ++ String.ofList (Json.doubleText number) ++ "`"
  | .string text => "string " ++ Quoted.quote text
  | .sequence => "sequence"
  | .map => "map"

end Found

/-- What a field was expected to be. -/
inductive Wanted where
  | word
  | sequence
  | map
  | string
  | sourceInfo
deriving DecidableEq

/-- How an error names what was expected. -/
def Wanted.text : Wanted → String
  | .word => "u32"
  | .sequence => "a sequence"
  | .map => "a map"
  | .string => "a string"
  | .sourceInfo => "struct SourceInfo"

/-- What is wrong with the fields of a message. -/
inductive Fault where
  | wrongType (found : Found) (wanted : Wanted)
  | outOfRange (number : Int)
  /-- Information about a file with more than two items. -/
  | tooLong (count : Nat)
  /-- A field that has to be there. -/
  | missing (field : String)
deriving DecidableEq

/-- How an error names a fault. -/
def Fault.text : Fault → String
  | .wrongType found wanted =>
      "invalid type: " ++ found.text ++ ", expected " ++ wanted.text
  | .outOfRange number =>
      "invalid value: " ++ (Found.integer number).text ++ ", expected "
        ++ Wanted.word.text
  | .tooLong count =>
      "invalid length " ++ toString count
        ++ ", expected fewer elements in array"
  | .missing field => "missing field `" ++ field ++ "`"

/-- Why a text is no message. -/
inductive DecodeReason where
  | notJson
  | notAnObject (found : Json.Kind)
  /-- There is no kind, or it is not a text. -/
  | missingKind
  | unknownKind (name : String)
  | shape (kind : MessageKind) (fault : Fault)
deriving DecidableEq

/-- How an error names its reason. -/
def DecodeReason.text : DecodeReason → String
  | .notJson => "invalid JSON"
  | .notAnObject found => "expected a JSON object, got " ++ found.name
  | .missingKind => "missing or non-string kind"
  | .unknownKind name => MessageKind.unknownText name
  | .shape kind fault =>
      "invalid " ++ kind.name ++ " message: " ++ fault.text

/-- A text that is no message. -/
structure DecodeError where
  raw : String
  reason : DecodeReason
deriving DecidableEq

/-- The error as it is shown, with the text that is no message. -/
def DecodeError.text (error : DecodeError) : String :=
  error.reason.text ++ " (payload: " ++ error.raw ++ ")"

/-- The kind of the message, if it got that far. -/
def DecodeError.kind? (error : DecodeError) : Option MessageKind :=
  match error.reason with
  | .shape kind _ => some kind
  | _ => none

namespace Message

/-- Reads an unsigned number of 32 bits. -/
def readWord (json : Json) : Except Fault UInt32 :=
  match json.view with
  | .integer number =>
      match number.toWord? with
      | some word => .ok word
      | none => .error (.outOfRange number.value)
  | _ => .error (.wrongType (Found.ofJson json) .word)

/-- Reads a version, which is its number. -/
def readVersion (json : Json) : Except Fault Version :=
  (readWord json).map Version.mk

/-- Reads a list of versions. -/
def readVersions (json : Json) : Except Fault (List Version) :=
  match json.view with
  | .array items => items.mapM readVersion
  | _ => .error (.wrongType (Found.ofJson json) .sequence)

/-- Reads a text. -/
def readText (json : Json) : Except Fault String :=
  match json.view with
  | .string text => .ok text
  | _ => .error (.wrongType (Found.ofJson json) .string)

/-- Reads a changed path: `null`, an object of flags, or a list of them. -/
def readChange (json : Json) : Except Fault (Option SourceInfo) :=
  match json.view with
  | .null => .ok none
  | .object fields =>
      .ok (some
        { isSymlink := (fields.get? "is_symlink").bind Json.asBool?
          isSource := (fields.get? "is_source").bind Json.asBool? })
  | .array items =>
      if 2 < items.length then .error (.tooLong items.length)
      else
        .ok (some
          { isSymlink := items[0]?.bind Json.asBool?
            isSource := items[1]?.bind Json.asBool? })
  | _ => .error (.wrongType (Found.ofJson json) .sourceInfo)

/-- Reads the changed paths. -/
def readChanges (json : Json) : Except Fault Changes :=
  match json.view with
  | .object fields => fields.traverse readChange
  | _ => .error (.wrongType (Found.ofJson json) .map)

/-- Reads a scope; anything but the name of one is no scope. -/
def readScope (json : Json) : Option Scope :=
  json.asString?.bind Scope.ofName?

/-- Reads a field, if it is there. -/
def optionalField {α : Type} (fields : KeyMap Json) (name : String)
    (read : Json → Except Fault α) : Except Fault (Option α) :=
  match fields.get? name with
  | none => .ok none
  | some value => (read value).map some

/-- What was read of a field that has to be there. -/
def present {α : Type} (name : String) : Option α → Except Fault α
  | some value => .ok value
  | none => .error (.missing name)

/-- Reads a field that has to be there. -/
def requiredField {α : Type} (fields : KeyMap Json) (name : String)
    (read : Json → Except Fault α) : Except Fault α := do
  present name (← optionalField fields name read)

/-- Reads the fields that belong to a kind. -/
def readBody (fields : KeyMap Json) : MessageKind → Except Fault MessageBody
  | .negotiate => do
      pure (.negotiate (← requiredField fields "versions" readVersions))
  | .negotiateResponse => do
      pure (.negotiateResponse (← requiredField fields "version" readVersion))
  | .caps => pure (.caps ((fields.get? "caps").getD Json.null))
  | .capsResponse =>
      pure (.capsResponse ((fields.get? "caps").getD Json.null))
  | .subscribe => do
      pure (.subscribe (← requiredField fields "watch_type" readText))
  | .subscribeResponse => pure .subscribeResponse
  | .cycle => do
      let cycle ← optionalField fields "cycle_id" readWord
      let sources ← optionalField fields "sources" readChanges
      let known ← present "cycle_id" cycle
      pure (.cycle known ((fields.get? "scope").bind readScope)
        (sources.getD KeyMap.empty))
  | .acknowledgment step => do
      pure (.acknowledgment step
        (← requiredField fields "cycle_id" readWord))
  | .exit => do
      pure (.exit ((← optionalField fields "description" readText).getD ""))

/-- Reads a trace identifier; an empty text is none. -/
def readIdentifier (fields : KeyMap Json) (name : String) : Option String :=
  ((fields.get? name).bind Json.asString?).filter (· ≠ "")

/-- Reads the trace identifiers of a message. -/
def readTrace (fields : KeyMap Json) : TraceFields where
  traceId := readIdentifier fields "trace_id"
  spanId := readIdentifier fields "span_id"

/-- Reads a message from the fields of an object. -/
def readFields (fields : KeyMap Json) : Except DecodeReason Message :=
  match (fields.get? "kind").bind Json.asString? with
  | none => .error .missingKind
  | some name =>
      match MessageKind.ofName? name with
      | none => .error (.unknownKind name)
      | some kind =>
          match readBody fields kind with
          | .error fault => .error (.shape kind fault)
          | .ok body => .ok ⟨readTrace fields, body⟩

/-- Reads a message from a value, which has to be an object. -/
def readJson (json : Json) : Except DecodeReason Message :=
  match json.view with
  | .object fields => readFields fields
  | _ => .error (.notAnObject json.kind)

/-- Reads a message from a JSON value; errors quote its compact text. -/
def ofJson (json : Json) : Except DecodeError Message :=
  (readJson json).mapError (DecodeError.mk json.text)

/-- Reads a message from a text; errors quote it as it is. -/
def decode (raw : String) : Except DecodeError Message :=
  match Json.parse? raw with
  | none => .error ⟨raw, .notJson⟩
  | some json => (readJson json).mapError (DecodeError.mk raw)

end Message

end BuildWatch
