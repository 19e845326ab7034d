import BuildWatch.Capability
import BuildWatch.LogLevel
import BuildWatch.Toml.Parser
import BuildWatch.Toml.Printer
import BuildWatch.Version

/-!
# The configuration of a user

A user may set some things in a file.  What the file does not set has a
default, and a file that cannot be read, or sets something to a value of the
wrong kind, sets nothing.  Keys that mean nothing are ignored.
-/

namespace BuildWatch

/-- What a user has set. -/
structure Config where
  logLevel : LogLevel
  logToFile : Bool
  /-- The directory of the server's socket, instead of the temporary one. -/
  socketDir : Option String
  /-- The versions to speak, most preferred first; none stands for all. -/
  versions : List Version
  scopes : List Scope
  otel : Bool
deriving DecidableEq

namespace Config

/-- What holds for a user who has set nothing. -/
def default : Config where
  logLevel := .warn
  logToFile := false
  socketDir := none
  versions := Version.defaults
  scopes := []
  otel := false

instance : Inhabited Config := ⟨default⟩

/-! ## Reading -/

/-- Reads one of several names; an empty table under the name is as good. -/
def readName? {α : Type} (ofName? : String → Option α) :
    Toml → Option α
  | .string name => ofName? name
  | .table _ [(name, .table _ [])] => ofName? name
  | .table _ [(name, .array [])] => ofName? name
  | _ => none

/-- Reads a truth value. -/
def readBoolean? : Toml → Option Bool
  | .boolean truth => some truth
  | _ => none

/-- Reads a text. -/
def readString? : Toml → Option String
  | .string text => some text
  | _ => none

/-- Reads a version, which is a number of 32 bits. -/
def readVersion? : Toml → Option Version
  | .integer number =>
      if 0 ≤ number ∧ number < 0x100000000 then
        some ⟨UInt32.ofNat number.toNat⟩
      else none
  | _ => none

/-- Reads a list, item by item. -/
def readList? {α : Type} (read? : Toml → Option α) :
    Toml → Option (List α)
  | .array items => items.mapM read?
  | .tables elements =>
      elements.mapM fun entries => read? (.table .header entries)
  | _ => none

/-- Reads the value of a key, or takes the default if the key is not there. -/
def setting {α : Type} (entries : Toml.Entries) (key : String)
    (read? : Toml → Option α) (default : α) : Option α :=
  match Toml.find? key entries with
  | none => some default
  | some value => read? value

/-- Reads a configuration, unless some value is of the wrong type. -/
def ofToml? (entries : Toml.Entries) : Option Config := do
  pure
    { logLevel := ←
        setting entries "log_level" (readName? LogLevel.ofName?)
          default.logLevel
      logToFile := ←
        setting entries "log_to_file" readBoolean? default.logToFile
      socketDir := ←
        setting entries "socket_dir" (fun value =>
          (readString? value).map some) default.socketDir
      versions := ←
        setting entries "supported_versions" (readList? readVersion?)
          default.versions
      scopes := ←
        setting entries "requested_scopes"
          (readList? (readName? Scope.ofName?)) default.scopes
      otel := ← setting entries "otel" readBoolean? default.otel }

/-- The configuration of a text; a text that is none has no effect. -/
def ofText (text : String) : Config :=
  ((Toml.parse? text).bind ofToml?).getD default

/-- The configuration of a file. -/
def ofBytes (bytes : List UInt8) : Config :=
  ((String.fromUTF8? ⟨bytes.toArray⟩).map ofText).getD default

/-! ## Use -/

/-- The versions to speak. -/
def effectiveVersions (config : Config) : List Version :=
  if config.versions.isEmpty then Version.defaults else config.versions

/-- The path of a file in a directory. -/
def joinPath (directory name : String) : String :=
  if directory.isEmpty || directory.endsWith "/" then directory ++ name
  else directory ++ "/" ++ name

/-- The path of the server's socket, given the number of its process. -/
def socketPath (config : Config) (temporary process : String) : String :=
  joinPath (config.socketDir.getD temporary)
    ("aspect-watch-" ++ process ++ "-socket")

/--
What to ask a server for: the scopes of the command line or else those of
the configuration, and traces if either asks for them.
-/
def capabilityRequest (config : Config) (scopes : List Scope)
    (otel : Bool) : CapabilityRequest :=
  let chosen := if scopes.isEmpty then config.scopes else scopes
  let request :=
    if chosen.isEmpty then CapabilityRequest.empty
    else CapabilityRequest.empty.withScope chosen
  if otel || config.otel then request.withOtel true else request

/-! ## Writing -/

/-- The configuration as it is written. -/
def text (config : Config) : String :=
  TomlText.entry "log_level" (TomlText.string config.logLevel.name)
    ++ TomlText.entry "log_to_file" (TomlText.boolean config.logToFile)
    ++ (match config.socketDir with
      | none => ""
      | some directory =>
          TomlText.entry "socket_dir" (TomlText.string directory))
    ++ TomlText.entry "supported_versions"
      (TomlText.array (config.versions.map fun version =>
        toString version.number.toNat))
    ++ TomlText.entry "requested_scopes"
      (TomlText.array (config.scopes.map fun scope =>
        TomlText.string scope.name))
    ++ TomlText.entry "otel" (TomlText.boolean config.otel)

end Config

end BuildWatch
