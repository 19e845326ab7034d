import BuildWatch.Json.Printer
import BuildWatch.Scope
import BuildWatch.Source
import BuildWatch.Trace
import BuildWatch.Version

/-!
# Messages

A message is one of twelve kinds and may carry trace identifiers.  It is
written as a JSON object: the fields of its kind, the kind itself under
`kind`, and the identifiers that it carries.  Fields that are not known are
left out.
-/

namespace BuildWatch

/-- The number of a cycle; it wraps after `2 ^ 32 - 1`. -/
abbrev CycleId := UInt32

/-- What a client says about a cycle. -/
inductive Acknowledgment where
  /-- The cycle is about to be handed out. -/
  | started
  /-- The consumer is done with it. -/
  | completed
  /-- The consumer gave it up. -/
  | aborted
  /-- The consumer could not do it. -/
  | failed
deriving DecidableEq, Inhabited

/-- The twelve kinds of messages. -/
inductive MessageKind where
  | negotiate
  | negotiateResponse
  | caps
  | capsResponse
  | subscribe
  | subscribeResponse
  | cycle
  | acknowledgment (step : Acknowledgment)
  | exit
deriving DecidableEq, Inhabited

namespace MessageKind

/-- All kinds, in the order in which a connection may use them. -/
def all : List MessageKind :=
  [.negotiate, .negotiateResponse, .caps, .capsResponse, .subscribe,
    .subscribeResponse, .cycle, .acknowledgment .started,
    .acknowledgment .completed, .acknowledgment .aborted,
    .acknowledgment .failed, .exit]

/-- How a message names its kind. -/
def name : MessageKind → String
  | .negotiate => "NEGOTIATE"
  | .negotiateResponse => "NEGOTIATE_RESPONSE"
  | .caps => "CAPS"
  | .capsResponse => "CAPS_RESPONSE"
  | .subscribe => "SUBSCRIBE"
  | .subscribeResponse => "SUBSCRIBE_RESPONSE"
  | .cycle => "CYCLE"
  | .acknowledgment .started => "CYCLE_STARTED"
  | .acknowledgment .completed => "CYCLE_COMPLETED"
  | .acknowledgment .aborted => "CYCLE_ABORTED"
  | .acknowledgment .failed => "CYCLE_FAILED"
  | .exit => "EXIT"

/-- The kind with a name. -/
def ofName? (name : String) : Option MessageKind :=
  all.find? (·.name = name)

/-- What is reported of a name that no kind has. -/
def unknownText (name : String) : String :=
  "unknown kind " ++ Quoted.quote name

@[simp]
theorem ofName?_name (kind : MessageKind) : ofName? kind.name = some kind := by
  rcases kind with _ | _ | _ | _ | _ | _ | _ | (_ | _ | _ | _) | _ <;> decide

theorem name_of_ofName?_eq_some
    {name : String} {kind : MessageKind} (found : ofName? name = some kind) :
    kind.name = name := by
  simpa using List.find?_some found

theorem ofName?_eq_some_iff {name : String} {kind : MessageKind} :
    ofName? name = some kind ↔ kind.name = name :=
  ⟨name_of_ofName?_eq_some, fun same => same ▸ ofName?_name kind⟩

end MessageKind

/-- What a message says. -/
inductive MessageBody where
  | negotiate (versions : List Version)
  | negotiateResponse (version : Version)
  | caps (requested : Json)
  | capsResponse (granted : Json)
  | subscribe (watchType : String)
  | subscribeResponse
  | cycle (number : CycleId) (scope : Option Scope) (sources : Changes)
  | acknowledgment (step : Acknowledgment) (number : CycleId)
  | exit (description : String)
deriving DecidableEq

/-- The kind of a message. -/
def MessageBody.kind : MessageBody → MessageKind
  | .negotiate _ => .negotiate
  | .negotiateResponse _ => .negotiateResponse
  | .caps _ => .caps
  | .capsResponse _ => .capsResponse
  | .subscribe _ => .subscribe
  | .subscribeResponse => .subscribeResponse
  | .cycle _ _ _ => .cycle
  | .acknowledgment step _ => .acknowledgment step
  | .exit _ => .exit

/-- A message and the trace identifiers that it carries. -/
structure Message where
  trace : TraceFields
  body : MessageBody
deriving DecidableEq

/-- The flags of a changed file that are known. -/
def SourceInfo.toJson (info : SourceInfo) : Json :=
  let flag (fields : KeyMap Json) (name : String) : Option Bool → KeyMap Json
    | none => fields
    | some truth => fields.insert name (Json.bool truth)
  Json.object
    (flag (flag KeyMap.empty "is_source" info.isSource)
      "is_symlink" info.isSymlink)

/-- A changed path, `null` if it is deleted. -/
def SourceInfo.changeToJson : Option SourceInfo → Json
  | none => Json.null
  | some info => info.toJson

/-- Changed paths in the order of their names. -/
def Changes.toJson (changes : Changes) : Json :=
  Json.object (changes.map SourceInfo.changeToJson)

/-- Binds a field if there is a value for it. -/
def KeyMap.insertSome (fields : KeyMap Json) (name : String) :
    Option Json → KeyMap Json
  | none => fields
  | some value => fields.insert name value

/-- The fields that belong to what a message says. -/
def MessageBody.fields : MessageBody → KeyMap Json
  | .negotiate versions =>
      KeyMap.empty.insert "versions"
        (Json.array (versions.map fun version => Json.word version.number))
  | .negotiateResponse version =>
      KeyMap.empty.insert "version" (Json.word version.number)
  | .caps requested => KeyMap.empty.insert "caps" requested
  | .capsResponse granted => KeyMap.empty.insert "caps" granted
  | .subscribe watchType =>
      KeyMap.empty.insert "watch_type" (Json.string watchType)
  | .subscribeResponse => KeyMap.empty
  | .cycle number scope sources =>
      ((KeyMap.empty.insert "cycle_id" (Json.word number)).insertSome "scope"
        (scope.map fun known => Json.string known.name)).insert "sources"
          (Changes.toJson sources)
  | .acknowledgment _ number =>
      KeyMap.empty.insert "cycle_id" (Json.word number)
  | .exit description =>
      KeyMap.empty.insert "description" (Json.string description)

namespace Message

/-- A message without trace identifiers. -/
def plain (body : MessageBody) : Message := ⟨TraceFields.none, body⟩

/-- The same message with other trace identifiers. -/
def withTrace (message : Message) (trace : TraceFields) : Message :=
  { message with trace }

/-- The kind of a message. -/
def kind (message : Message) : MessageKind := message.body.kind

/-- The cycle that a message is about. -/
def cycleId? (message : Message) : Option CycleId :=
  match message.body with
  | .cycle number _ _ => some number
  | .acknowledgment _ number => some number
  | _ => none

/-- The fields of a message. -/
def fields (message : Message) : KeyMap Json :=
  ((message.body.fields.insert "kind"
      (Json.string message.kind.name)).insertSome "trace_id"
        (message.trace.traceId.map Json.string)).insertSome "span_id"
          (message.trace.spanId.map Json.string)

/-- The object that a message is. -/
def toJson (message : Message) : Json := Json.object message.fields

/-- The text that a message is sent as. -/
def encode (message : Message) : String := message.toJson.text

end Message

end BuildWatch
