/-!
# Levels of the log

A level says which entries are written to the log.
-/

namespace BuildWatch

/-- What is written to the log. -/
inductive LogLevel where
  | off
  | error
  | warn
  | info
  | debug
  | trace
deriving DecidableEq, Inhabited

namespace LogLevel

/-- All levels, from the least to the most. -/
def all : List LogLevel := [.off, .error, .warn, .info, .debug, .trace]

/-- How a level is written. -/
def name : LogLevel → String
  | .off => "off"
  | .error => "error"
  | .warn => "warn"
  | .info => "info"
  | .debug => "debug"
  | .trace => "trace"

/-- The level with a name. -/
def ofName? (name : String) : Option LogLevel :=
  all.find? (·.name = name)

/-- A name with its letters from A to Z in lower case. -/
def foldCase (name : String) : String := name.map Char.toLower

/-- The level with a name, whatever the case of its letters. -/
def ofAnyCase? (name : String) : Option LogLevel :=
  all.find? (·.name = foldCase name)

/-- The most serious entry that is still written, in capitals. -/
def threshold? : LogLevel → Option String
  | .off => none
  | level => some (level.name.map Char.toUpper)

/--
What the log is told to write: entries of this program from the level on, and
warnings of everything that it uses.
-/
def directives? : LogLevel → Option String
  | .off => none
  | level => some ("warn,ibp=" ++ level.name)

@[simp]
theorem ofName?_name (level : LogLevel) : ofName? level.name = some level := by
  cases level <;> decide

theorem name_of_ofName?_eq_some
    {name : String} {level : LogLevel} (found : ofName? name = some level) :
    level.name = name := by
  simpa using List.find?_some found

end LogLevel

end BuildWatch
