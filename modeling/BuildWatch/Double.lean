/-!
# Finite double-precision numbers

A finite binary64 number is a sign and the rank of its magnitude among all
finite magnitudes, zero being rank `0`.  The rank of `m · 2 ^ q`, with `m`
below `2 ^ 53` and `q` at least `-1074`, is `(q + 1074) · 2 ^ 52 + m`, for
normal and for subnormal numbers alike, so that rounding up into the next
binade needs no special case.

Arithmetic is exact on natural numbers and rounded once, to the nearest
double, a tie going to the even rank.
-/

namespace BuildWatch

/-- How many finite magnitudes there are. -/
def Double.magnitudes : Nat := 2047 * Nat.pow 2 52

/-- A finite binary64 number. -/
structure Double where
  /-- The sign, which zero has too. -/
  negative : Bool
  /-- The place of the magnitude among all finite magnitudes. -/
  rank : Fin Double.magnitudes
deriving DecidableEq

namespace Double

/-- Zero without a minus sign. -/
def zero : Double := ⟨false, ⟨0, by decide⟩⟩

instance : Inhabited Double := ⟨zero⟩

/-- The integer `m` of the magnitude `m · 2 ^ q`. -/
def mantissaOfRank (rank : Nat) : Nat :=
  if rank < Nat.pow 2 52 then rank
  else Nat.pow 2 52 + rank % Nat.pow 2 52

/-- The exponent `q` of the magnitude `m · 2 ^ q`. -/
def exponentOfRank (rank : Nat) : Int :=
  if rank < Nat.pow 2 52 then -1074
  else (rank / Nat.pow 2 52 : Nat) - 1075

/-- The integer `m` of the magnitude `m · 2 ^ q`. -/
def mantissa (value : Double) : Nat := mantissaOfRank value.rank

/-- The exponent `q` of the magnitude `m · 2 ^ q`. -/
def exponent (value : Double) : Int := exponentOfRank value.rank

/-- A quotient of natural numbers. -/
structure Ratio where
  numerator : Nat
  denominator : Nat

/-- The quotient scaled by a power of two. -/
def Ratio.scale (ratio : Ratio) (power : Int) : Ratio :=
  if power < 0 then
    ⟨ratio.numerator, ratio.denominator * Nat.pow 2 power.natAbs⟩
  else
    ⟨ratio.numerator * Nat.pow 2 power.natAbs, ratio.denominator⟩

def Ratio.mul (left right : Ratio) : Ratio :=
  ⟨left.numerator * right.numerator, left.denominator * right.denominator⟩

def Ratio.div (left right : Ratio) : Ratio :=
  ⟨left.numerator * right.denominator, left.denominator * right.numerator⟩

/-- The nearest natural number, a tie going to the even one. -/
def Ratio.round (ratio : Ratio) : Nat :=
  let floor := ratio.numerator / ratio.denominator
  let twice := 2 * (ratio.numerator % ratio.denominator)
  if twice < ratio.denominator then floor
  else if ratio.denominator < twice then floor + 1
  else floor + floor % 2

/-- The exact magnitude of a double. -/
def magnitude (value : Double) : Ratio :=
  Ratio.scale ⟨value.mantissa, 1⟩ value.exponent

/--
The exponent in which a magnitude is rounded: the mantissa has 53 bits,
unless that would take the exponent below `-1074`.
-/
def roundingExponent (ratio : Ratio) : Int :=
  let estimate : Int :=
    (ratio.numerator.log2 : Int) - (ratio.denominator.log2 : Int) - 53
  let scaled := ratio.scale (-estimate)
  let fitted :=
    if scaled.numerator < scaled.denominator * Nat.pow 2 53 then estimate
    else estimate + 1
  max fitted (-1074)

/-- The rank of the nearest magnitude, which may be one past the last. -/
def nearestRank (ratio : Ratio) : Nat :=
  if ratio.numerator = 0 then 0
  else
    let exponent := roundingExponent ratio
    (exponent + 1074).toNat * Nat.pow 2 52 + (ratio.scale (-exponent)).round

/-- The double nearest to a quotient, if it is finite. -/
def ofRatio? (negative : Bool) (ratio : Ratio) : Option Double :=
  let rank := nearestRank ratio
  if inRange : rank < magnitudes then some ⟨negative, ⟨rank, inRange⟩⟩
  else none

/-- The number of magnitude zero with a given sign. -/
def signedZero (negative : Bool) : Double := ⟨negative, ⟨0, by decide⟩⟩

def withSign (value : Double) (negative : Bool) : Double :=
  ⟨negative, value.rank⟩

def isZero (value : Double) : Bool :=
  value.rank.val = 0

/-- The power of ten nearest to `10 ^ exponent`, if it is finite. -/
def powerOfTen? (exponent : Nat) : Option Double :=
  ofRatio? false ⟨Nat.pow 10 exponent, 1⟩

/-- The rounded magnitude `value · 10 ^ exponent`, if it is finite. -/
def timesPowerOfTen? (value : Double) (exponent : Nat) : Option Double := do
  let power ← powerOfTen? exponent
  ofRatio? value.negative (value.magnitude.mul power.magnitude)

/-- The rounded magnitude `value / 10 ^ exponent`, for exponents up to `308`. -/
def overPowerOfTen (value : Double) (exponent : Nat) : Double :=
  match powerOfTen? exponent with
  | none => signedZero value.negative
  | some power =>
      (ofRatio? value.negative (value.magnitude.div power.magnitude)).getD
        (signedZero value.negative)

/-- Repeated division by `10 ^ 308`, which stops at zero. -/
def overHugePowers (value : Double) : Nat → Double
  | 0 => value
  | count + 1 =>
      if value.isZero then value
      else overHugePowers (value.overPowerOfTen 308) count

/--
The double read from a decimal significand and exponent: the significand is
rounded, and then multiplied or divided by a rounded power of ten.  Divisors
beyond `10 ^ 308` are split into several divisions.  A magnitude that is too
large has no reading.
-/
def ofDecimal? (negative : Bool) (significand : Nat) (exponent : Int) :
    Option Double := do
  let start ← ofRatio? negative ⟨significand, 1⟩
  if 0 ≤ exponent then
    if start.isZero then some start
    else if exponent ≤ 308 then start.timesPowerOfTen? exponent.natAbs
    else none
  else
    let steps := (exponent.natAbs - 1) / 308
    some ((start.overHugePowers steps).overPowerOfTen
      (exponent.natAbs - 308 * steps))

end Double

end BuildWatch
