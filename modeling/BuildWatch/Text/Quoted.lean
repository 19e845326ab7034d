import BuildWatch.Text.Hex
import BuildWatch.Text.Hidden

/-!
# Names quoted in diagnostics

A quoted name stands between double quotes.  Quotes, backslashes and the four
characters with a letter of their own are written behind a backslash, hidden
characters by their code in braces, and all others as they are.
-/

namespace BuildWatch.Quoted

/-- How one character of a name is written. -/
def escape (character : Char) : List Char :=
  if character = '"' then ['\\', '"']
  else if character = '\\' then ['\\', '\\']
  else if character = '\n' then ['\\', 'n']
  else if character = '\r' then ['\\', 'r']
  else if character = '\t' then ['\\', 't']
  else if character.toNat = 0 then ['\\', '0']
  else if Hidden.isHidden character then
    ['\\', 'u', '{'] ++ Hex.digits character.toNat ++ ['}']
  else [character]

/-- The quoted form of a name. -/
def quote (name : String) : String :=
  String.ofList ('"' :: name.toList.flatMap escape ++ ['"'])

end BuildWatch.Quoted
