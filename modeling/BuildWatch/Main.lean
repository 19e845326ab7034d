import BuildWatch.CommandLine.Program

/-!
# The command line

Plans a run of the program and writes what it comes to.  This build of the
program has no sockets, so that a run that needs one fails.
-/

namespace BuildWatch.CommandLine

/-- The number of this process, which the system shows in a file. -/
def currentProcess : IO String := do
  try
    let status ← IO.FS.readFile "/proc/self/stat"
    pure ((status.splitOn " ").headD "0")
  catch _ => pure "0"

def currentEnvironment : IO Environment := do
  let home := (← IO.getEnv "HOME").getD ""
  let configDir :=
    (← IO.getEnv "XDG_CONFIG_HOME").getD (Config.joinPath home ".config")
  let cacheDir :=
    (← IO.getEnv "XDG_CACHE_HOME").getD (Config.joinPath home ".cache")
  let known : Environment :=
    { configDir
      runtimeDir := (← IO.getEnv "XDG_RUNTIME_DIR").getD cacheDir
      temporaryDir := (← IO.getEnv "TMPDIR").getD "/tmp"
      process := ← currentProcess
      socket := ← IO.getEnv Server.socketVariable
      configFile := none }
  try
    let bytes ← IO.FS.readBinFile known.configPath
    pure { known with configFile := some bytes.toList }
  catch _ => pure known

/-- What a run of the program comes to without sockets. -/
def Task.result : Task → Result
  | .finish result => result
  | _ => .failure (TransportError.io .unsupported).text

end BuildWatch.CommandLine

open BuildWatch.CommandLine in
def main (arguments : List String) : IO UInt32 := do
  let result := (plan (← currentEnvironment) arguments).result
  IO.print result.output
  if let some cause := result.cause then
    IO.eprintln ("Error: " ++ cause)
  pure (UInt32.ofNat result.code)
