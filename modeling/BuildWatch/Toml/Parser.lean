import BuildWatch.Toml.Quoted
import BuildWatch.Toml.Scalar

/-!
# Reading TOML documents

A document is read line by line: a blank line or a comment, a header, or a
key with a value.  Arrays and inline tables may go over several lines and end
in a comma, and at most eighty of them may enclose one another.  A key has at
most eighty parts.

Values are read with a bound on the number of nested steps that the length of
the text always suffices for.
-/

namespace BuildWatch.Toml

open TomlQuoted (isBlank isControl)

/--
How many arrays and inline tables may enclose one another, and how many
parts a key may have.
-/
def maximumDepth : Nat := 80

/-- Whether a character may stand in a key without quotes. -/
def isBare (character : Char) : Bool :=
  ('a' ≤ character && character ≤ 'z') || ('A' ≤ character && character ≤ 'Z')
    || ('0' ≤ character && character ≤ '9') || character = '_'
    || character = '-'

def skipBlanks (text : List Char) : List Char :=
  text.dropWhile isBlank

/-- Drops blanks, line breaks and comments; nothing else may be in them. -/
def skipLines : (inComment : Bool) → List Char → Option (List Char)
  | _, [] => some []
  | _, '\n' :: rest => skipLines false rest
  | inComment, '\r' :: rest =>
      match rest with
      | '\n' :: _ => skipLines inComment rest
      | _ => none
  | true, character :: rest =>
      if isControl character then none else skipLines true rest
  | false, character :: rest =>
      if isBlank character then skipLines false rest
      else if character = '#' then skipLines true rest
      else some (character :: rest)

/-- Drops what may follow on a line: blanks, a comment and the line break. -/
def endLine (text : List Char) : Option (List Char) :=
  match skipBlanks text with
  | [] => some []
  | '\n' :: rest => some rest
  | '\r' :: '\n' :: rest => some rest
  | '#' :: rest => comment rest
  | _ => none
where
  comment : List Char → Option (List Char)
    | [] => some []
    | '\n' :: rest => some rest
    | '\r' :: rest =>
        match rest with
        | '\n' :: following => some following
        | _ => none
    | character :: rest =>
        if isControl character then none else comment rest

/-- Reads one part of a key. -/
def readPart (text : List Char) : Option (String × List Char) :=
  match text with
  | [] => none
  | character :: _ =>
      if isBare character then
        some (String.ofList (text.takeWhile isBare), text.dropWhile isBare)
      else
        (TomlQuoted.scanLine text).map fun (characters, rest) =>
          (String.ofList characters, rest)

/-- Reads a dotted key of at most so many parts and the blanks around it. -/
def readParts : (count : Nat) → List Char →
    Option (List String × List Char)
  | 0, _ => none
  | count + 1, text => do
      let (part, rest) ← readPart (skipBlanks text)
      match skipBlanks rest with
      | '.' :: more => do
          let (parts, following) ← readParts count more
          some (part :: parts, following)
      | following => some ([part], following)

/-- Reads a dotted key and the blanks around it. -/
def readKey (text : List Char) : Option (List String × List Char) :=
  readParts maximumDepth text

/-- Whether a character ends a word that is no string. -/
def endsWord (character : Char) : Bool :=
  isBlank character || character = '\n' || character = '\r'
    || character = ',' || character = ']' || character = '}'
    || character = '[' || character = '{' || character = '#'
    || character = '=' || character = '"' || character = '\''

/-- Reads a word; a date may be followed by a blank and a time. -/
def readWord (text : List Char) : List Char × List Char :=
  let word := text.takeWhile (!endsWord ·)
  let rest := text.dropWhile (!endsWord ·)
  match TomlScalar.date? word, rest with
  | some [], ' ' :: more =>
      let time := more.takeWhile (!endsWord ·)
      if (time.head?.any TomlScalar.isDigit) then
        (word ++ ' ' :: time, more.dropWhile (!endsWord ·))
      else (word, rest)
  | _, _ => (word, rest)

mutual

/-- Reads one value of at most the given depth. -/
def readValue : (fuel depth : Nat) → List Char → Option (Toml × List Char)
  | 0, _, _ => none
  | fuel + 1, depth, text =>
      match text with
      | '"' :: _ => readString text
      | '\'' :: _ => readString text
      | '[' :: rest =>
          match depth with
          | 0 => none
          | depth + 1 => do
              let (items, following) ← readItems fuel depth rest
              some (.array items, following)
      | '{' :: rest =>
          match depth with
          | 0 => none
          | depth + 1 => do
              let (entries, following) ← readEntries fuel depth [] rest
              some (.table .inline entries, following)
      | _ => do
          let (word, following) := readWord text
          let value ← TomlScalar.read? word
          some (value, following)
where
  readString (text : List Char) : Option (Toml × List Char) :=
    (TomlQuoted.scan text).map fun (characters, rest) =>
      (.string (String.ofList characters), rest)

/-- Reads the items of an array up to its closing bracket. -/
def readItems : (fuel depth : Nat) → List Char → Option (List Toml × List Char)
  | 0, _, _ => none
  | fuel + 1, depth, text => do
      match ← skipLines false text with
      | ']' :: rest => some ([], rest)
      | start => do
          let (item, rest) ← readValue fuel depth start
          match ← skipLines false rest with
          | ']' :: following => some ([item], following)
          | ',' :: more => do
              let (items, following) ← readItems fuel depth more
              some (item :: items, following)
          | _ => none

/-- Reads the entries of an inline table up to its closing brace. -/
def readEntries : (fuel depth : Nat) → Entries → List Char →
    Option (Entries × List Char)
  | 0, _, _, _ => none
  | fuel + 1, depth, entries, text => do
      match ← skipLines false text with
      | '}' :: rest => some (entries, rest)
      | start => do
          let (path, afterKey) ← readKey start
          match ← skipLines false afterKey with
          | '=' :: assigned => do
              let (value, rest) ←
                readValue fuel depth (← skipLines false assigned)
              let (_, changed) ← insert path value .inline entries
              match ← skipLines false rest with
              | '}' :: following => some (changed, following)
              | ',' :: more => readEntries fuel depth changed more
              | _ => none
          | _ => none

end

/-- A document that is being read. -/
structure Draft where
  /-- The header of the table that was started last. -/
  header : List String
  /-- The document so far. -/
  entries : Entries

/-- Reads one line; a value may go over several. -/
def readLine (draft : Draft) (text : List Char) :
    Option (Draft × List Char) := do
  match skipBlanks text with
  | '[' :: '[' :: rest => do
      let (path, following) ← readKey rest
      match following with
      | ']' :: ']' :: after => do
          let next ← endLine after
          let entries ← openElement path draft.entries
          some (⟨path, entries⟩, next)
      | _ => none
  | '[' :: rest => do
      let (path, following) ← readKey rest
      match following with
      | ']' :: after => do
          let next ← endLine after
          let entries ← openTable path draft.entries
          some (⟨path, entries⟩, next)
      | _ => none
  | start => do
      let (path, following) ← readKey start
      match following with
      | '=' :: assigned => do
          let (value, after) ←
            readValue (2 * text.length + 2) maximumDepth (skipBlanks assigned)
          let next ← endLine after
          let entries ← insertUnder draft.header path value draft.entries
          some (⟨draft.header, entries⟩, next)
      | _ => none

def readLines : (fuel : Nat) → Draft → List Char → Option Entries
  | 0, _, _ => none
  | fuel + 1, draft, text => do
      match ← skipLines false text with
      | [] => some draft.entries
      | start => do
          let (next, rest) ← readLine draft start
          readLines fuel next rest

/-- Drops the mark that a text may start with. -/
def dropMark : List Char → List Char
  | '\uFEFF' :: rest => rest
  | text => text

/-- The table that a text stands for. -/
def parse? (text : String) : Option Entries :=
  let characters := dropMark text.toList
  readLines (characters.length + 1) ⟨[], []⟩ characters

end BuildWatch.Toml
