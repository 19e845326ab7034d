import BuildWatch.Json.Numeral
import BuildWatch.Text.Hex

/-!
# Reading JSON text

The grammar is strict: four blank characters, no comments, no trailing
commas, no control characters inside strings, no half of a surrogate pair.
At most 127 arrays and objects may enclose one another.  Of two fields with
one key the later counts.

Strings are scanned one character at a time by a small machine, so that the
recursion is on the text itself.  Values are read with a bound on the number
of nested steps that the length of the text always suffices for.
-/

namespace BuildWatch.Json

/-- How many arrays and objects may enclose one another. -/
def maximumDepth : Nat := 127

/-- Where the scanner stands inside a string. -/
inductive Scan where
  /-- Between characters. -/
  | plain
  /-- Behind a backslash. -/
  | escaped
  /-- Inside the digits of a code unit, perhaps the second of a pair. -/
  | unit (first : Option Nat) (left : Nat) (value : Nat)
  /-- Behind the first unit of a pair, where a backslash must follow. -/
  | pairSlash (first : Nat)
  /-- Behind that backslash, where the letter of a code unit must follow. -/
  | pairLetter (first : Nat)

/-- The character that an escape letter stands for. -/
def letterEscape? (letter : Char) : Option Char :=
  if letter = '"' then some '"'
  else if letter = '\\' then some '\\'
  else if letter = '/' then some '/'
  else if letter = 'b' then some '\x08'
  else if letter = 'f' then some '\x0c'
  else if letter = 'n' then some '\n'
  else if letter = 'r' then some '\r'
  else if letter = 't' then some '\t'
  else none

/-- Whether a code unit is the first of a surrogate pair. -/
def isHighSurrogate (unit : Nat) : Bool :=
  0xD800 ≤ unit && unit < 0xDC00

/-- Whether a code unit is the second of a surrogate pair. -/
def isLowSurrogate (unit : Nat) : Bool :=
  0xDC00 ≤ unit && unit < 0xE000

/-- The character of a surrogate pair. -/
def pairCharacter (high low : Nat) : Char :=
  Char.ofNat (0x10000 + (high - 0xD800) * 0x400 + (low - 0xDC00))

/-- Puts a character in front of what was scanned behind it. -/
def prepend (character : Char) (scanned : Option (List Char × List Char)) :
    Option (List Char × List Char) :=
  scanned.map fun result => (character :: result.1, result.2)

/-- Scans up to the closing quote; gives the characters and what follows. -/
def scan : Scan → List Char → Option (List Char × List Char)
  | _, [] => none
  | .plain, character :: rest =>
      if character = '"' then some ([], rest)
      else if character = '\\' then scan .escaped rest
      else if character.toNat < 0x20 then none
      else prepend character (scan .plain rest)
  | .escaped, letter :: rest =>
      if letter = 'u' then scan (.unit none 3 0) rest
      else
        match letterEscape? letter with
        | some character => prepend character (scan .plain rest)
        | none => none
  | .unit first left value, digit :: rest =>
      match Hex.value? digit with
      | none => none
      | some next =>
          let unit := 16 * value + next
          match left with
          | left + 1 => scan (.unit first left unit) rest
          | 0 =>
              match first with
              | none =>
                  if isHighSurrogate unit then scan (.pairSlash unit) rest
                  else if isLowSurrogate unit then none
                  else prepend (Char.ofNat unit) (scan .plain rest)
              | some high =>
                  if isLowSurrogate unit then
                    prepend (pairCharacter high unit) (scan .plain rest)
                  else none
  | .pairSlash first, character :: rest =>
      if character = '\\' then scan (.pairLetter first) rest else none
  | .pairLetter first, character :: rest =>
      if character = 'u' then scan (.unit (some first) 3 0) rest else none

/-- Whether a character may stand between tokens. -/
def isBlank (character : Char) : Bool :=
  character = ' ' || character = '\t' || character = '\n' || character = '\r'

def skipBlanks (text : List Char) : List Char :=
  text.dropWhile isBlank

/-- Reads a string and the colon behind it. -/
def readKey (text : List Char) : Option (String × List Char) :=
  match skipBlanks text with
  | '"' :: rest => do
      let (key, following) ← scan .plain rest
      match skipBlanks following with
      | ':' :: value => some (String.ofList key, value)
      | _ => none
  | _ => none

mutual

/-- Reads one value of at most the given depth. -/
def readValue : (fuel depth : Nat) → List Char → Option (Json × List Char)
  | 0, _, _ => none
  | fuel + 1, depth, text =>
      match skipBlanks text with
      | 'n' :: 'u' :: 'l' :: 'l' :: rest => some (Json.null, rest)
      | 't' :: 'r' :: 'u' :: 'e' :: rest => some (Json.bool true, rest)
      | 'f' :: 'a' :: 'l' :: 's' :: 'e' :: rest =>
          some (Json.bool false, rest)
      | '"' :: rest => do
          let (characters, following) ← scan .plain rest
          some (Json.string (String.ofList characters), following)
      | '[' :: rest =>
          match depth with
          | 0 => none
          | depth + 1 =>
              match skipBlanks rest with
              | ']' :: following => some (Json.array [], following)
              | _ => do
                  let (items, following) ← readItems fuel depth rest
                  some (Json.array items, following)
      | '{' :: rest =>
          match depth with
          | 0 => none
          | depth + 1 =>
              match skipBlanks rest with
              | '}' :: following => some (Json.object KeyMap.empty, following)
              | _ => do
                  let (fields, following) ← readFields fuel depth rest
                  some (Json.object (KeyMap.ofList fields), following)
      | other => do
          let (numeral, following) ← Numeral.read other
          let number ← numeral.toJson?
          some (number, following)

/-- Reads the items of an array up to its closing bracket. -/
def readItems : (fuel depth : Nat) → List Char → Option (List Json × List Char)
  | 0, _, _ => none
  | fuel + 1, depth, text => do
      let (item, rest) ← readValue fuel depth text
      match skipBlanks rest with
      | ']' :: following => some ([item], following)
      | ',' :: more => do
          let (items, following) ← readItems fuel depth more
          some (item :: items, following)
      | _ => none

/-- Reads the fields of an object up to its closing brace. -/
def readFields :
    (fuel depth : Nat) → List Char → Option (List (String × Json) × List Char)
  | 0, _, _ => none
  | fuel + 1, depth, text => do
      let (key, afterKey) ← readKey text
      let (value, rest) ← readValue fuel depth afterKey
      match skipBlanks rest with
      | '}' :: following => some ([(key, value)], following)
      | ',' :: more => do
          let (fields, following) ← readFields fuel depth more
          some ((key, value) :: fields, following)
      | _ => none

end

/-- The value that a whole text stands for. -/
def parse? (text : String) : Option Json := do
  let characters := text.toList
  let (json, rest) ←
    readValue (2 * characters.length + 2) maximumDepth characters
  if (skipBlanks rest).isEmpty then some json else none

end BuildWatch.Json
