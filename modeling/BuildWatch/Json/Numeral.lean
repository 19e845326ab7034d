import BuildWatch.Json.Value

/-!
# JSON numbers

A numeral without fraction and exponent is an exact integer if it is in
range and is not `-0`.  Every other numeral is a double, read from the
leading digits that fit an unsigned 64-bit integer and the power of ten that
remains.
-/

namespace BuildWatch.Json

/-- The written parts of a number. -/
structure Numeral where
  negative : Bool
  /-- The digits before the point. -/
  whole : List Char
  /-- The digits behind the point, if there is one. -/
  fraction : List Char
  /-- The exponent, if there is one. -/
  exponent : Option Int

namespace Numeral

def isDigit (character : Char) : Bool :=
  '0'.toNat ≤ character.toNat && character.toNat ≤ '9'.toNat

def digitValue (character : Char) : Nat := character.toNat - '0'.toNat

def natural (digits : List Char) : Nat :=
  digits.foldl (fun total character => 10 * total + digitValue character) 0

/--
Appends digits to a significand while it fits 64 bits; also gives how many
digits were left over.
-/
def absorb (significand : Nat) : List Char → Nat × Nat
  | [] => (significand, 0)
  | character :: rest =>
      let longer := 10 * significand + digitValue character
      if longer < 0x10000000000000000 then absorb longer rest
      else (significand, rest.length + 1)

/-- The double that a numeral stands for, unless it is too large. -/
def toDouble? (numeral : Numeral) : Option Double :=
  let (leading, skipped) := absorb 0 numeral.whole
  let (significand, unread) := absorb leading numeral.fraction
  let place : Int := (skipped : Int) - (numeral.fraction.length - unread : Nat)
  Double.ofDecimal? numeral.negative significand
    (place + numeral.exponent.getD 0)

/-- The exact integer that a numeral stands for. -/
def toInteger? (numeral : Numeral) : Option Integer :=
  if numeral.fraction.isEmpty && numeral.exponent.isNone then
    let size := natural numeral.whole
    if numeral.negative && size = 0 then none
    else
      let signed : Int := if numeral.negative then -(size : Int) else size
      if inRange :
          -0x8000000000000000 ≤ signed ∧ signed < 0x10000000000000000 then
        some ⟨signed, inRange.1, inRange.2⟩
      else none
  else none

/-- The number that a numeral stands for. -/
def toJson? (numeral : Numeral) : Option Json :=
  match numeral.toInteger? with
  | some number => some (Json.integer number)
  | none => numeral.toDouble?.map Json.double

/-- Splits off the longest run of digits. -/
def spanDigits (text : List Char) : List Char × List Char :=
  (text.takeWhile isDigit, text.dropWhile isDigit)

/-- Reads a fraction, if a point follows. -/
def readFraction : List Char → Option (List Char × List Char)
  | '.' :: rest =>
      let (digits, following) := spanDigits rest
      if digits.isEmpty then none else some (digits, following)
  | rest => some ([], rest)

def readExponentDigits (negative : Bool) (text : List Char) :
    Option (Option Int × List Char) :=
  let (digits, following) := spanDigits text
  if digits.isEmpty then none
  else
    let size : Int := natural digits
    some (some (if negative then -size else size), following)

/-- Reads an exponent, if its mark follows. -/
def readExponent : List Char → Option (Option Int × List Char)
  | mark :: rest =>
      if mark = 'e' || mark = 'E' then
        match rest with
        | '+' :: digits => readExponentDigits false digits
        | '-' :: digits => readExponentDigits true digits
        | digits => readExponentDigits false digits
      else some (none, mark :: rest)
  | [] => some (none, [])

/-- Reads a numeral behind its sign; a leading zero stands alone. -/
def readUnsigned (negative : Bool) (text : List Char) :
    Option (Numeral × List Char) := do
  let (whole, afterWhole) := spanDigits text
  if whole.isEmpty || (whole.head? = some '0' && whole.length ≠ 1) then none
  else
    let (fraction, afterFraction) ← readFraction afterWhole
    let (exponent, rest) ← readExponent afterFraction
    some (⟨negative, whole, fraction, exponent⟩, rest)

def read (text : List Char) : Option (Numeral × List Char) :=
  match text with
  | '-' :: rest => readUnsigned true rest
  | rest => readUnsigned false rest

end Numeral

end BuildWatch.Json
