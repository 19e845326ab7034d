import BuildWatch.LogLevel
import BuildWatch.Scope

/-!
# Arguments of the command line

There are three commands, each with parameters of its own, and a log level
that may stand in front of the command or behind it.  Parameters have long
names, and some have short ones; a value follows as the next argument or in
the same one.

The value of a parameter that follows as an argument of its own is looked at
only when the next parameter is met or the command ends.  Which of several
faults is reported depends on that.
-/

namespace BuildWatch

namespace CommandLine

/-- What the program is to do. -/
inductive Command where
  | serve (socket : Option String)
  | watch (socket : Option String) (scopes : List Scope) (otel : Bool)
  /-- Show the configuration, or only where it is. -/
  | config (pathOnly : Bool)
deriving DecidableEq

/-- What a command line says. -/
structure Arguments where
  command : Command
  logLevel : Option LogLevel
deriving DecidableEq

/-- Why a command line says nothing to be done. -/
inductive Refusal where
  | help
  | version
  /-- There are no arguments, which is answered by help. -/
  | helpInstead
  | missingCommand
  | unknownCommand
  /-- There is no such parameter, or an argument too many. -/
  | unknownArgument
  /-- A value is missing, empty, or not one of those that are allowed. -/
  | invalidValue
  | unreadableValue
  /-- A parameter was given twice. -/
  | conflict
  /-- A parameter that takes no value has one. -/
  | needlessValue
deriving DecidableEq

/-- Whose parameters are being read. -/
inductive Level where
  | top
  | serve
  | watch
  | config
deriving DecidableEq

inductive Parameter where
  | help
  | version
  | logLevel
  | socket
  | scope
  | otel
  | path
deriving DecidableEq

namespace Parameter

def long : Parameter → String
  | .help => "help"
  | .version => "version"
  | .logLevel => "log-level"
  | .socket => "socket"
  | .scope => "scope"
  | .otel => "otel"
  | .path => "path"

def short? : Parameter → Option Char
  | .help => some 'h'
  | .version => some 'V'
  | .socket => some 's'
  | _ => none

def takesValue : Parameter → Bool
  | .logLevel => true
  | .socket => true
  | .scope => true
  | _ => false

end Parameter

def Level.parameters : Level → List Parameter
  | .top => [.help, .version, .logLevel]
  | .serve => [.help, .logLevel, .socket]
  | .watch => [.help, .logLevel, .socket, .scope, .otel]
  | .config => [.help, .logLevel, .path]

def command? (name : String) : Option Level :=
  if name = "serve" then some .serve
  else if name = "watch" then some .watch
  else if name = "config" then some .config
  else none

/-- What was given at a level so far. -/
structure Given where
  logLevel : Option LogLevel
  socket : Option String
  /-- The scopes, in the order in which they were given. -/
  scopes : List Scope
  otel : Bool
  path : Bool
  /-- A parameter and its value, which are not looked at yet. -/
  pending : Option (Parameter × Option String)
deriving DecidableEq

namespace Given

def nothing : Given := ⟨none, none, [], false, false, none⟩

def assign (given : Given) (parameter : Parameter) (value : String) :
    Except Refusal Given :=
  match parameter with
  | .logLevel =>
      if given.logLevel.isSome then .error .conflict
      else
        match LogLevel.ofName? value with
        | none => .error .invalidValue
        | some level => .ok { given with logLevel := some level }
  | .socket =>
      if given.socket.isSome then .error .conflict
      else if value.isEmpty then .error .invalidValue
      else .ok { given with socket := some value }
  | .scope =>
      match Scope.ofName? value with
      | none => .error .unreadableValue
      | some scope => .ok { given with scopes := given.scopes ++ [scope] }
  | _ => .ok given

/-- Looks at the pending value. -/
def resolve (given : Given) : Except Refusal Given :=
  match given.pending with
  | none => .ok given
  | some (_, none) => .error .invalidValue
  | some (parameter, some value) =>
      ({ given with pending := none }).assign parameter value

/-- Takes a parameter without a value. -/
def raise (given : Given) : Parameter → Except Refusal Given
  | .help => .error .help
  | .version => .error .version
  | .otel =>
      if given.otel then .error .conflict
      else .ok { given with otel := true }
  | .path =>
      if given.path then .error .conflict
      else .ok { given with path := true }
  | _ => .ok given

/-- Takes a parameter, with the value in the same argument if there is one. -/
def take (given : Given) (parameter : Parameter) (value : Option String) :
    Except Refusal Given := do
  let resolved ← given.resolve
  if parameter.takesValue then
    match value with
    | none => pure { resolved with pending := some (parameter, none) }
    | some text => resolved.assign parameter text
  else resolved.raise parameter

/-- Whether the next argument is a value. -/
def awaitsValue (given : Given) : Bool :=
  match given.pending with
  | some (_, none) => true
  | _ => false

/-- Takes the value of the pending parameter. -/
def supply (given : Given) (value : String) : Given :=
  { given with
    pending := given.pending.map fun pending => (pending.1, some value) }

def isExplicit (given : Given) : Bool :=
  given.logLevel.isSome || given.socket.isSome || !given.scopes.isEmpty
    || given.otel || given.path

end Given

/-! ## Single arguments -/

/-- Splits a text at its first equals sign. -/
def splitValue (text : List Char) : String × Option String :=
  let name := String.ofList (text.takeWhile (· ≠ '='))
  match text.dropWhile (· ≠ '=') with
  | [] => (name, none)
  | _ :: value => (name, some (String.ofList value))

/-- Takes a long parameter, without its dashes. -/
def takeLong (level : Level) (given : Given) (text : List Char) :
    Except Refusal Given :=
  let (name, value) := splitValue text
  match level.parameters.find? (·.long = name) with
  | none => .error .unknownArgument
  | some parameter =>
      if value.isSome && !parameter.takesValue then .error .needlessValue
      else given.take parameter value

/-- Takes short parameters, without their dash. -/
def takeShort (level : Level) :
    Given → List Char → Except Refusal Given
  | given, [] => .ok given
  | given, letter :: rest =>
      match level.parameters.find? (·.short? = some letter) with
      | none => .error .unknownArgument
      | some parameter =>
          if parameter.takesValue then
            match rest with
            | [] => given.take parameter none
            | '=' :: value =>
                given.take parameter (some (String.ofList value))
            | value => given.take parameter (some (String.ofList value))
          else do
            let taken ← given.take parameter none
            takeShort level taken rest

/-- Why an argument that names no parameter is refused. -/
def refuse (level : Level) (trailing : Bool) (argument : String) : Refusal :=
  match level with
  | .top =>
      let named := (command? argument).isSome || argument = "help"
      if trailing && named then .unknownArgument else .unknownCommand
  | _ => .unknownArgument

/-- What the command for help says about the names behind it. -/
def help : List String → Refusal
  | [] => .help
  | [name] =>
      if (command? name).isSome || name = "help" then .help
      else .unknownCommand
  | _ => .unknownCommand

/-! ## All arguments -/

/-- What was given at a level, and the command that follows it. -/
abbrev Reading := Given × Option (Level × List String)

/-- Reads the arguments of a level up to a command. -/
def readLevel (level : Level) :
    (trailing : Bool) → Given → List String → Except Refusal Reading
  | _, given, [] => .ok (given, none)
  | true, _, argument :: _ => .error (refuse level true argument)
  | false, given, argument :: rest =>
      let command :=
        if level = .top && !given.awaitsValue then command? argument
        else none
      match command with
      | some inner => .ok (given, some (inner, rest))
      | none =>
          if level = .top && !given.awaitsValue && argument = "help" then
            .error (help rest)
          else
            match argument.toList with
            | ['-', '-'] => readLevel level true given rest
            | '-' :: '-' :: text => do
                let taken ← takeLong level given text
                readLevel level false taken rest
            | '-' :: letter :: letters => do
                let taken ← takeShort level given (letter :: letters)
                readLevel level false taken rest
            | _ =>
                if given.awaitsValue then
                  readLevel level false (given.supply argument) rest
                else .error (refuse level false argument)

def commandOf (given : Given) : Level → Command
  | .serve => .serve given.socket
  | .watch => .watch given.socket given.scopes given.otel
  | .config => .config given.path
  | .top => .config false

/-- Reads the arguments behind the name of the program. -/
def read (arguments : List String) : Except Refusal Arguments := do
  let (outer, following) ← readLevel .top false .nothing arguments
  match following with
  | none => do
      let resolved ← outer.resolve
      if resolved.isExplicit then .error .missingCommand
      else .error .helpInstead
  | some (level, rest) => do
      let (inner, _) ← readLevel level false .nothing rest
      let given ← inner.resolve
      let above ← outer.resolve
      pure
        { command := commandOf given level
          logLevel := given.logLevel <|> above.logLevel }

end CommandLine

end BuildWatch
