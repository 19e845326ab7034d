import BuildWatch.Batch
import BuildWatch.Client
import BuildWatch.CommandLine.Arguments
import BuildWatch.Config
import BuildWatch.Server
import BuildWatch.Text.Lines

/-!
# The program

The arguments, the configuration and the environment decide what a run of the
program does: it ends at once with some lines, or it serves a build, or it
watches one.
-/

namespace BuildWatch

namespace CommandLine

/-- What surrounds a run of the program. -/
structure Environment where
  /-- The directory of configurations. -/
  configDir : String
  /-- The directory of files that last as long as the machine runs. -/
  runtimeDir : String
  /-- The directory of temporary files. -/
  temporaryDir : String
  /-- The number of the process. -/
  process : String
  /-- The address of a server that the environment names. -/
  socket : Option String
  /-- The bytes of the configuration, if there is one. -/
  configFile : Option (List UInt8)

namespace Environment

def configPath (environment : Environment) : String :=
  Config.joinPath (Config.joinPath environment.configDir "ibp") "config.toml"

def logDir (environment : Environment) : String :=
  Config.joinPath environment.runtimeDir "ibp"

def config (environment : Environment) : Config :=
  (environment.configFile.map Config.ofBytes).getD Config.default

def socketPath (environment : Environment) : String :=
  environment.config.socketPath environment.temporaryDir environment.process

end Environment

/-- What a run of the program comes to. -/
structure Result where
  /-- The code that it ends with. -/
  code : Nat
  /-- What it writes. -/
  output : String
  /-- The reason of a failure. -/
  cause : Option String
deriving DecidableEq

/-- What a run of the program does. -/
inductive Task where
  /-- It ends. -/
  | finish (result : Result)
  /-- It serves a build. -/
  | serve (options : ServerOptions)
  /-- It watches the build at an address. -/
  | watch (address : String) (options : ClientOptions)
      (request : CapabilityRequest)

def versionLine : String := "ibp 0.3.0"

/-- What a refused command line comes to. -/
def Refusal.result : Refusal → Result
  | .help => ⟨0, "", none⟩
  | .version => ⟨0, Lines.text [versionLine], none⟩
  | _ => ⟨2, "", none⟩

def Result.failure (cause : String) : Result := ⟨1, "", some cause⟩

/-- The text that shows the configuration. -/
def configText (environment : Environment) : String :=
  let config := environment.config
  let versions :=
    String.intercalate ", " (config.effectiveVersions.map Version.text)
  Lines.text
    ["# " ++ environment.configPath,
      "# logs: " ++ environment.logDir,
      "# socket: " ++ environment.socketPath,
      "# versions offered: " ++ versions,
      config.text]

def task (environment : Environment) : Command → Task
  | .config true =>
      .finish ⟨0, Lines.text [environment.configPath], none⟩
  | .config false => .finish ⟨0, configText environment, none⟩
  | .serve socket =>
      .serve
        { socketPath := socket.getD environment.socketPath
          supported := environment.config.effectiveVersions }
  | .watch socket scopes otel =>
      match socket <|> environment.socket with
      | none =>
          .finish (.failure
            ("No --socket given and " ++ Server.socketVariable
              ++ " is not set"))
      | some address =>
          .watch address
            { ClientOptions.default with
              supported := environment.config.effectiveVersions }
            (environment.config.capabilityRequest scopes otel)

/-- What a run of the program does. -/
def plan (environment : Environment) (arguments : List String) : Task :=
  match read arguments with
  | .error refusal => .finish refusal.result
  | .ok found => task environment found.command

/-- The text that tells a shell where a server listens. -/
def exportText (environment : List (String × String)) : String :=
  Lines.text (environment.map fun entry =>
    "export " ++ entry.1 ++ "=" ++ entry.2)

end CommandLine

end BuildWatch
