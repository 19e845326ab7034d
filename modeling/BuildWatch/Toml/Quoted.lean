import BuildWatch.Text.Hex

/-!
# Strings in TOML

A string stands between quotes: double quotes with escapes or single quotes
without, and one of them for a line or three for several lines.  Strings of
several lines lose a line break right behind the opening quotes, may end in
quotes of their own, and, between double quotes, lose the blanks behind a
backslash at the end of a line.  All other line breaks stay as they are
written: a line feed, or a carriage return and a line feed.

Every scanner goes over the text once, one character at a time.
-/

namespace BuildWatch.TomlQuoted

/-- A blank inside a line. -/
def isBlank (character : Char) : Bool :=
  character = ' ' || character = '\t'

/-- A character that may stand nowhere but, as a tab, between others. -/
def isControl (character : Char) : Bool :=
  character ≠ '\t' && (character.toNat < 0x20 || character.toNat = 0x7F)

/-- What was scanned and what follows it. -/
abbrev Scanned := Option (List Char × List Char)

/-- Puts characters in front of what was scanned behind them. -/
def prepend (characters : List Char) (scanned : Scanned) : Scanned :=
  scanned.map fun result => (characters ++ result.1, result.2)

/-- The character that an escape letter stands for. -/
def letterEscape? (letter : Char) : Option Char :=
  if letter = 'b' then some '\x08'
  else if letter = 't' then some '\t'
  else if letter = 'n' then some '\n'
  else if letter = 'f' then some '\x0c'
  else if letter = 'r' then some '\r'
  else if letter = 'e' then some '\x1b'
  else if letter = '"' then some '"'
  else if letter = '\\' then some '\\'
  else none

/-- How many digits follow an escape letter. -/
def digitsAfter? (letter : Char) : Option Nat :=
  if letter = 'x' then some 2
  else if letter = 'u' then some 4
  else if letter = 'U' then some 8
  else none

/-- The character of a code point. -/
def scalar? (code : Nat) : Option Char :=
  if code.isValidChar then some (Char.ofNat code) else none

/-- Where the scanner of a string with escapes stands. -/
inductive Scan where
  /-- Between characters, behind so many quotes. -/
  | plain (quotes : Nat)
  /-- Behind a backslash. -/
  | escaped
  /-- Inside the digits of a code point. -/
  | digits (left : Nat) (value : Nat)
  /-- Behind a backslash and blanks, before the end of the line. -/
  | lineEnd
  /-- Among the blanks that follow such a line. -/
  | gap

/-- So many quotes. -/
def quotes (quote : Char) (count : Nat) : List Char :=
  List.replicate count quote

/-- Scans a string of one line between double quotes. -/
def scanBasic : Scan → List Char → Scanned
  | .plain _, '"' :: rest => some ([], rest)
  | .plain _, '\\' :: rest => scanBasic .escaped rest
  | .plain _, character :: rest =>
      if isControl character then none
      else prepend [character] (scanBasic (.plain 0) rest)
  | .escaped, letter :: rest =>
      match letterEscape? letter, digitsAfter? letter with
      | some character, _ => prepend [character] (scanBasic (.plain 0) rest)
      | none, some count => scanBasic (.digits count 0) rest
      | none, none => none
  | .digits left value, digit :: rest =>
      match Hex.value? digit with
      | none => none
      | some next =>
          if left ≤ 1 then
            match scalar? (16 * value + next) with
            | none => none
            | some character =>
                prepend [character] (scanBasic (.plain 0) rest)
          else scanBasic (.digits (left - 1) (16 * value + next)) rest
  | _, _ => none

/-- Scans a string of several lines between double quotes. -/
def scanLines : Scan → List Char → Scanned
  | .plain count, [] =>
      if 3 ≤ count then some (quotes '"' (count - 3), []) else none
  | .plain count, character :: rest =>
      if character = '"' then
        if count = 4 then some (quotes '"' 2, rest)
        else scanLines (.plain (count + 1)) rest
      else if 3 ≤ count then
        some (quotes '"' (count - 3), character :: rest)
      else
        prepend (quotes '"' count)
          (if character = '\\' then scanLines .escaped rest
          else if character = '\n' then
            prepend ['\n'] (scanLines (.plain 0) rest)
          else if character = '\r' then
            match rest with
            | '\n' :: _ => prepend ['\r'] (scanLines (.plain 0) rest)
            | _ => none
          else if isControl character then none
          else prepend [character] (scanLines (.plain 0) rest))
  | .escaped, letter :: rest =>
      if letter = '\n' then scanLines .gap rest
      else if isBlank letter then scanLines .lineEnd rest
      else if letter = '\r' then
        match rest with
        | '\n' :: _ => scanLines .lineEnd rest
        | _ => none
      else
        match letterEscape? letter, digitsAfter? letter with
        | some character, _ => prepend [character] (scanLines (.plain 0) rest)
        | none, some count => scanLines (.digits count 0) rest
        | none, none => none
  | .digits left value, digit :: rest =>
      match Hex.value? digit with
      | none => none
      | some next =>
          if left ≤ 1 then
            match scalar? (16 * value + next) with
            | none => none
            | some character =>
                prepend [character] (scanLines (.plain 0) rest)
          else scanLines (.digits (left - 1) (16 * value + next)) rest
  | .lineEnd, character :: rest =>
      if character = '\n' then scanLines .gap rest
      else if isBlank character then scanLines .lineEnd rest
      else if character = '\r' then
        match rest with
        | '\n' :: _ => scanLines .lineEnd rest
        | _ => none
      else none
  | .gap, character :: rest =>
      if character = '\n' || isBlank character then scanLines .gap rest
      else if character = '\r' then
        match rest with
        | '\n' :: _ => scanLines .gap rest
        | _ => none
      else if character = '"' then scanLines (.plain 1) rest
      else if character = '\\' then scanLines .escaped rest
      else if isControl character then none
      else prepend [character] (scanLines (.plain 0) rest)
  | _, [] => none

/-- Scans a string of one line between single quotes. -/
def scanLiteral : List Char → Scanned
  | [] => none
  | '\'' :: rest => some ([], rest)
  | character :: rest =>
      if isControl character then none
      else prepend [character] (scanLiteral rest)

/-- Scans a string of several lines between single quotes. -/
def scanLiteralLines : (count : Nat) → List Char → Scanned
  | count, [] =>
      if 3 ≤ count then some (quotes '\'' (count - 3), []) else none
  | count, character :: rest =>
      if character = '\'' then
        if count = 4 then some (quotes '\'' 2, rest)
        else scanLiteralLines (count + 1) rest
      else if 3 ≤ count then
        some (quotes '\'' (count - 3), character :: rest)
      else
        prepend (quotes '\'' count)
          (if character = '\n' then prepend ['\n'] (scanLiteralLines 0 rest)
          else if character = '\r' then
            match rest with
            | '\n' :: _ => prepend ['\r'] (scanLiteralLines 0 rest)
            | _ => none
          else if isControl character then none
          else prepend [character] (scanLiteralLines 0 rest))

/-- Drops a line break at the start. -/
def dropBreak : List Char → List Char
  | '\n' :: rest => rest
  | '\r' :: '\n' :: rest => rest
  | text => text

/-- Scans a string of one line. -/
def scanLine : List Char → Scanned
  | '"' :: rest => scanBasic (.plain 0) rest
  | '\'' :: rest => scanLiteral rest
  | _ => none

/-- Scans a string of any form. -/
def scan : List Char → Scanned
  | '"' :: '"' :: '"' :: rest => scanLines (.plain 0) (dropBreak rest)
  | '\'' :: '\'' :: '\'' :: rest => scanLiteralLines 0 (dropBreak rest)
  | text => scanLine text

end BuildWatch.TomlQuoted
