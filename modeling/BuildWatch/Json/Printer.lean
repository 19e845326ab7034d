import BuildWatch.Double.Shortest
import BuildWatch.Json.Value
import BuildWatch.Text.Hex

/-!
# Compact JSON text

Values are written without blanks, fields in the order of the object.  In a
string only the quote, the backslash and the characters below U+0020 are
escaped.  `Json.text` is the text of a value.
-/

namespace BuildWatch.Json

/--
Doubles are plain while their leading digit counts at least `10 ^ -5` and
less than `10 ^ 16`, and always show a fraction or an exponent with its sign.
-/
def doubleLayout : Double.Layout where
  leastPlain := -5
  firstScientific := 16
  mark := 'e'
  plus := true

/-- How one character of a string is written. -/
def escape (character : Char) : List Char :=
  if character = '"' then ['\\', '"']
  else if character = '\\' then ['\\', '\\']
  else if character = '\x08' then ['\\', 'b']
  else if character = '\x0c' then ['\\', 'f']
  else if character = '\n' then ['\\', 'n']
  else if character = '\r' then ['\\', 'r']
  else if character = '\t' then ['\\', 't']
  else if character.toNat < 0x20 then
    '\\' :: 'u' :: Hex.padded 4 character.toNat
  else [character]

/-- The written form of a string, with its quotes. -/
def quote (text : String) : List Char :=
  '"' :: text.toList.flatMap escape ++ ['"']

/-- The digits of an integer, with a minus sign below zero. -/
def integerText (number : Int) : List Char :=
  if number < 0 then '-' :: Nat.toDigits 10 number.natAbs
  else Nat.toDigits 10 number.natAbs

def doubleText (number : Double) : List Char :=
  doubleLayout.text number

namespace Value

mutual

/-- The compact text of a tree. -/
def print : Value → List Char
  | .null => ['n', 'u', 'l', 'l']
  | .bool true => ['t', 'r', 'u', 'e']
  | .bool false => ['f', 'a', 'l', 's', 'e']
  | .integer number => integerText number.value
  | .double number => doubleText number
  | .string text => quote text
  | .array items => '[' :: printItems items
  | .object fields => '{' :: printFields fields

/-- The items of an array and its closing bracket. -/
def printItems : List Value → List Char
  | [] => [']']
  | item :: rest => print item ++ printMoreItems rest

/-- The items after the first, each behind a comma, and the closing bracket. -/
def printMoreItems : List Value → List Char
  | [] => [']']
  | item :: rest => ',' :: print item ++ printMoreItems rest

/-- The fields of an object and its closing brace. -/
def printFields : List (String × Value) → List Char
  | [] => ['}']
  | (key, value) :: rest =>
      quote key ++ ':' :: print value ++ printMoreFields rest

/-- The fields after the first, each behind a comma, and the closing brace. -/
def printMoreFields : List (String × Value) → List Char
  | [] => ['}']
  | (key, value) :: rest =>
      ',' :: quote key ++ ':' :: print value ++ printMoreFields rest

end

end Value

/-- The compact text of a value. -/
def text (json : Json) : String :=
  String.ofList json.value.print

end BuildWatch.Json
