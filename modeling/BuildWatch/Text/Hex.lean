/-!
# Hexadecimal digits

Digits are written in lower case and read in either case.
-/

namespace BuildWatch.Hex

/-- The digit for a number below sixteen. -/
def digit (number : Nat) : Char :=
  if number < 10 then Char.ofNat ('0'.toNat + number)
  else Char.ofNat ('a'.toNat + (number - 10))

def value? (character : Char) : Option Nat :=
  let code := character.toNat
  if '0'.toNat ≤ code ∧ code ≤ '9'.toNat then some (code - '0'.toNat)
  else if 'a'.toNat ≤ code ∧ code ≤ 'f'.toNat then
    some (code - 'a'.toNat + 10)
  else if 'A'.toNat ≤ code ∧ code ≤ 'F'.toNat then
    some (code - 'A'.toNat + 10)
  else none

/-- The last `width` digits of a number, with leading zeros. -/
def padded : (width : Nat) → (number : Nat) → List Char
  | 0, _ => []
  | width + 1, number => padded width (number / 16) ++ [digit (number % 16)]

/-- The digits of a number, without leading zeros. -/
def digits (number : Nat) : List Char :=
  Nat.toDigits 16 number

/-- The number that a text of digits stands for, the first digit leading. -/
def read? (text : List Char) : Option Nat :=
  text.foldlM (fun total character => do
    let next ← value? character
    pure (16 * total + next)) 0

/-- The bytes that a text of paired digits stands for. -/
def bytes? : List Char → Option (List UInt8)
  | [] => some []
  | high :: low :: rest => do
      let upper ← value? high
      let lower ← value? low
      let following ← bytes? rest
      pure (UInt8.ofNat (16 * upper + lower) :: following)
  | _ => none

end BuildWatch.Hex
