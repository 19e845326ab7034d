import BuildWatch.Json.Printer
import BuildWatch.Scope

/-!
# Capabilities

A client asks for capabilities, and both sides store what the request means:
a list of scopes without repetition, whether traces are attached, and all
other entries unchanged.  `Capabilities.ofWire` gives that meaning and
`Capabilities.toWire` its written form.
-/

namespace BuildWatch

/-- Why a capability value has no meaning. -/
inductive CapabilityError where
  | notAnObject (found : Json.Kind)
  | scopeNotAList (found : Json.Kind)
  | scopeEntryNotAString (found : Json.Kind)
  | unknownScope (name : String)
  | emptyScope
deriving DecidableEq

/-- The error as it is shown. -/
def CapabilityError.text : CapabilityError → String
  | .notAnObject found =>
      "invalid caps, expected an object, received " ++ found.name
  | .scopeNotAList found =>
      "invalid value for scope capability: " ++ found.name
        ++ ", expected a list"
  | .scopeEntryNotAString found =>
      "invalid entry in scope capability: " ++ found.name
        ++ ", expected a string"
  | .unknownScope name => Scope.unknownText name
  | .emptyScope =>
      "scope capability must have at least one scope, got an empty list"

/-- The names of some scopes. -/
def Scope.listToJson (scopes : List Scope) : Json :=
  Json.array (scopes.map fun scope => Json.string scope.name)

/-- What a client asks for. -/
structure CapabilityRequest where
  scope : Option (List Scope)
  otel : Option Bool
  /-- Entries that this library gives no meaning to. -/
  extensions : KeyMap Json
deriving DecidableEq

namespace CapabilityRequest

/-- A request that asks for nothing. -/
def empty : CapabilityRequest := ⟨none, none, KeyMap.empty⟩

instance : Inhabited CapabilityRequest := ⟨empty⟩

/-- Asks for scopes instead of those asked for so far. -/
def withScope (request : CapabilityRequest) (scopes : List Scope) :
    CapabilityRequest :=
  { request with scope := some scopes }

/-- Says whether messages are to carry trace identifiers. -/
def withOtel (request : CapabilityRequest) (enabled : Bool) :
    CapabilityRequest :=
  { request with otel := some enabled }

/-- Adds an entry without a meaning of its own. -/
def withExtension (request : CapabilityRequest) (key : String)
    (value : Json) : CapabilityRequest :=
  { request with extensions := request.extensions.insert key value }

/-- Whether a request asks for nothing. -/
def isEmpty (request : CapabilityRequest) : Bool :=
  request.scope.isNone && request.otel.isNone && request.extensions.isEmpty

end CapabilityRequest

/-- Adds the entry about scopes, if there is something to say. -/
def KeyMap.insertScopes (entries : KeyMap Json) :
    Option (List Scope) → KeyMap Json
  | none => entries
  | some scopes => entries.insert "scope" (Scope.listToJson scopes)

/-- Adds the entry about traces, if there is something to say. -/
def KeyMap.insertOtel (entries : KeyMap Json) : Option Bool → KeyMap Json
  | none => entries
  | some enabled => entries.insert "otel" (Json.bool enabled)

/-- The request as it is sent; its own entries win over extensions. -/
def CapabilityRequest.toWire (request : CapabilityRequest) : KeyMap Json :=
  (request.extensions.insertScopes request.scope).insertOtel request.otel

/-- What both sides of a connection store. -/
structure Capabilities where
  scopes : List Scope
  otel : Option Bool
  /-- Entries that this library gives no meaning to. -/
  extensions : KeyMap Json
deriving DecidableEq

namespace Capabilities

/-- Runfiles alone, which is what a client without capabilities watches. -/
def default : Capabilities := ⟨[.runfiles], none, KeyMap.empty⟩

instance : Inhabited Capabilities := ⟨default⟩

/-- Reads the scopes of a list, skipping those read before. -/
def readScopes (known : List Scope) :
    List Json → Except CapabilityError (List Scope)
  | [] => .ok known
  | entry :: rest =>
      match entry.asString? with
      | none => .error (.scopeEntryNotAString entry.kind)
      | some name =>
          match Scope.ofName? name with
          | none => .error (.unknownScope name)
          | some scope =>
              if scope ∈ known then readScopes known rest
              else readScopes (known ++ [scope]) rest

/-- Reads a list of scopes, which must not be empty. -/
def readScopeList (json : Json) : Except CapabilityError (List Scope) :=
  match json.view with
  | .array items => do
      let scopes ← readScopes [] items
      if scopes.isEmpty then .error .emptyScope else .ok scopes
  | _ => .error (.scopeNotAList json.kind)

/-- Reads whether traces are attached: only the value `true` asks for them. -/
def readOtel (json : Json) : Bool := json.asBool?.getD false

/-- Whether an entry has no meaning of its own. -/
def isExtension (key : String) : Bool := key ≠ "scope" && key ≠ "otel"

/-- The meaning of the entries of a capability value. -/
def ofEntries (entries : KeyMap Json) :
    Except CapabilityError Capabilities := do
  let scopes ← match entries.get? "scope" with
    | none => pure default.scopes
    | some value => readScopeList value
  pure
    { scopes
      otel := (entries.get? "otel").map readOtel
      extensions := entries.filterKeys isExtension }

/-- The meaning of a capability value; an absent one means the defaults. -/
def ofWire : Option Json → Except CapabilityError Capabilities
  | none => .ok default
  | some json =>
      match json.view with
      | .null => .ok default
      | .object entries => ofEntries entries
      | _ => .error (.notAnObject json.kind)

/-- The capabilities as they are sent. -/
def toWire (capabilities : Capabilities) : KeyMap Json :=
  (capabilities.extensions.insertScopes (some capabilities.scopes)).insertOtel
    capabilities.otel

/-- Whether changes of a scope are watched. -/
def watches (capabilities : Capabilities) (scope : Scope) : Bool :=
  capabilities.scopes.contains scope

/-- Whether messages carry trace identifiers. -/
def otelEnabled (capabilities : Capabilities) : Bool :=
  capabilities.otel = some true

/-- An entry without a meaning of its own. -/
def extension? (capabilities : Capabilities) (key : String) : Option Json :=
  capabilities.extensions.get? key

end Capabilities

end BuildWatch
