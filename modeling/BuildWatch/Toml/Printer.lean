import BuildWatch.Text.Hex

/-!
# Writing TOML

A string is written in the first of four forms in which it needs no escapes,
and otherwise with escapes.  An array of several items has one item a line.
-/

namespace BuildWatch.TomlText

/-- The longest run of a character in a text. -/
def longestRun (character : Char) (text : List Char) : Nat :=
  (text.foldl
    (fun (current, longest) next =>
      let run := if next = character then current + 1 else 0
      (run, max longest run))
    (0, 0)).2

/-- Whether a character can be written only by an escape. -/
def needsEscape (character : Char) : Bool :=
  (character.toNat < 0x20 && character ≠ '\t' && character ≠ '\n')
    || character.toNat = 0x7F

/-- A digit of the number of an escaped character. -/
def upperHex (number : Nat) : List Char :=
  (Hex.padded 4 number).map Char.toUpper

/-- How a character is written between double quotes on one line. -/
def escape (character : Char) : List Char :=
  if character = '"' then ['\\', '"']
  else if character = '\\' then ['\\', '\\']
  else if character = '\x08' then ['\\', 'b']
  else if character = '\t' then ['\\', 't']
  else if character = '\n' then ['\\', 'n']
  else if character = '\x0c' then ['\\', 'f']
  else if character = '\r' then ['\\', 'r']
  else if needsEscape character then '\\' :: 'u' :: upperHex character.toNat
  else [character]

/-- How a character is written between double quotes on several lines. -/
def escapeInLines (quotes : Nat) (character : Char) : List Char :=
  if character = '\n' then ['\n']
  else if character = '"' && quotes < 2 then ['"']
  else escape character

/-- The text between double quotes on several lines, behind some quotes. -/
def escapeLines (quotes : Nat) : List Char → List Char
  | [] => []
  | character :: rest =>
      let written := escapeInLines quotes character
      let behind :=
        if character = '"' then if quotes < 2 then quotes + 1 else 0 else 0
      written ++ escapeLines behind rest

/-- The start of a string of several lines, with a break if it has one. -/
def opening (quotes text : List Char) : List Char :=
  quotes ++ (if text.contains '\n' then ['\n'] else [])

def quote (text : List Char) : List Char :=
  let double := ['"', '"', '"']
  let single := ['\'', '\'', '\'']
  let coded := text.any needsEscape
  let slashed := coded || text.contains '\\'
  let broken := text.contains '\n'
  if !slashed && !text.contains '"' && !broken then
    '"' :: text.flatMap escape ++ ['"']
  else if !coded && !text.contains '\'' && !broken then
    '\'' :: text ++ ['\'']
  else if !slashed && longestRun '"' text ≤ 2 then
    opening double text ++ escapeLines 0 text ++ double
  else if !coded && longestRun '\'' text ≤ 2 then
    opening single text ++ text ++ single
  else if broken then opening double text ++ escapeLines 0 text ++ double
  else '"' :: text.flatMap escape ++ ['"']

def string (text : String) : String :=
  String.ofList (quote text.toList)

def boolean (truth : Bool) : String := if truth then "true" else "false"

/-- The written form of an array, given those of its items. -/
def array : List String → String
  | [] => "[]"
  | [item] => "[" ++ item ++ "]"
  | items => "[\n" ++ String.join (items.map fun item =>
      "    " ++ item ++ ",\n") ++ "]"

/-- A line that gives a key a value. -/
def entry (key value : String) : String :=
  key ++ " = " ++ value ++ "\n"

end BuildWatch.TomlText
