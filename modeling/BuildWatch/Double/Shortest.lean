import BuildWatch.Double

/-!
# The shortest decimal that reads back

The reals that round to a double form an interval around it.  Of all decimal
grids, from coarse to fine, the first that has a point in the interval gives
the digits; if both neighbours of the double on that grid lie in the
interval, the nearer one is taken.

`Layout` holds the decisions of a text format that writes such digits.
-/

namespace BuildWatch

namespace Double

/-- Digits, read as one natural number, and the exponent of their last place. -/
structure Decimal where
  /-- The digits as a number. -/
  digits : Nat
  /-- The power of ten that the last digit counts. -/
  place : Int
deriving DecidableEq

/--
Four times the magnitude and the ends of its rounding interval, all in units
of a quarter of the last mantissa place.
-/
structure Interval where
  /-- The lower end. -/
  lower : Nat
  /-- The double itself. -/
  centre : Nat
  /-- The upper end. -/
  upper : Nat
  /-- Whether the ends round to the double as well. -/
  closed : Bool
  /-- The power of two that the three are counted in. -/
  unit : Int

/-- The interval of reals that round to the magnitude of a double. -/
def interval (value : Double) : Interval :=
  let mantissa := value.mantissa
  let narrow := mantissa = Nat.pow 2 52 ∧ Nat.pow 2 53 ≤ value.rank.val
  { lower := 4 * mantissa - (if narrow then 1 else 2)
    centre := 4 * mantissa
    upper := 4 * mantissa + 2
    closed := mantissa % 2 = 0
    unit := value.exponent - 2 }

/-- Both sides of a comparison with `digits · 10 ^ place` as natural numbers. -/
def Interval.sides (interval : Interval) (bound : Nat) (decimal : Decimal) :
    Nat × Nat :=
  let left := bound
    * (if interval.unit < 0 then 1 else Nat.pow 2 interval.unit.natAbs)
    * (if decimal.place < 0 then Nat.pow 10 decimal.place.natAbs else 1)
  let right := decimal.digits
    * (if decimal.place < 0 then 1 else Nat.pow 10 decimal.place.natAbs)
    * (if interval.unit < 0 then Nat.pow 2 interval.unit.natAbs else 1)
  (left, right)

def Interval.contains (interval : Interval) (decimal : Decimal) : Bool :=
  let (low, point) := interval.sides interval.lower decimal
  let (high, _) := interval.sides interval.upper decimal
  if interval.closed then low ≤ point && point ≤ high
  else low < point && point < high

/-- The greatest multiple of `10 ^ place` that is not above the double. -/
def Interval.floorAt (interval : Interval) (place : Int) : Nat :=
  let numerator := interval.centre
    * (if interval.unit < 0 then 1 else Nat.pow 2 interval.unit.natAbs)
    * (if place < 0 then Nat.pow 10 place.natAbs else 1)
  let denominator := (if place < 0 then 1 else Nat.pow 10 place.natAbs)
    * (if interval.unit < 0 then Nat.pow 2 interval.unit.natAbs else 1)
  numerator / denominator

/-- Whether the lower neighbour is at least as near as the upper one. -/
def Interval.prefersLower (interval : Interval) (lower : Decimal) : Bool :=
  let (centre, _) := interval.sides (2 * interval.centre) lower
  let (_, midpoint) := interval.sides (2 * interval.centre)
    ⟨2 * lower.digits + 1, lower.place⟩
  centre < midpoint || (centre = midpoint && lower.digits % 2 = 0)

/-- The point of one decimal grid that stands for the double, if there is one. -/
def Interval.pointAt? (interval : Interval) (place : Int) : Option Decimal :=
  let lower : Decimal := ⟨interval.floorAt place, place⟩
  let upper : Decimal := ⟨lower.digits + 1, place⟩
  match interval.contains lower, interval.contains upper with
  | true, true => some (if interval.prefersLower lower then lower else upper)
  | true, false => some lower
  | false, true => some upper
  | false, false => none

/-- The first hit among ever finer grids. -/
def Interval.search (interval : Interval) : Nat → Int → Decimal
  | 0, place => ⟨interval.floorAt place, place⟩
  | grids + 1, place =>
      (interval.pointAt? place).getD (interval.search grids (place - 1))

/-- Trailing zeros moved into the exponent. -/
def Decimal.trim (decimal : Decimal) : Nat → Decimal
  | 0 => decimal
  | count + 1 =>
      if decimal.digits % 10 = 0 then
        Decimal.trim ⟨decimal.digits / 10, decimal.place + 1⟩ count
      else decimal

/-- The exponent of the leading decimal digit of a magnitude that is not zero. -/
def leadingPlace (interval : Interval) : Int :=
  let guess : Int :=
    (((interval.centre.log2 : Int) + interval.unit) * 30103) / 100000 - 1
  if interval.floorAt (guess + 2) ≠ 0 then guess + 2
  else if interval.floorAt (guess + 1) ≠ 0 then guess + 1
  else guess

/-- The shortest decimal that reads back as the magnitude of the double. -/
def shortest (value : Double) : Decimal :=
  let interval := value.interval
  (interval.search 17 (leadingPlace interval)).trim 20

/-- How a text format writes the digits of a double. -/
structure Layout where
  /-- The least exponent of the leading digit that is written plainly. -/
  leastPlain : Int
  /-- The first exponent of the leading digit that is not. -/
  firstScientific : Int
  /-- The mark before an exponent. -/
  mark : Char
  /-- Whether an exponent that is not negative has a plus sign. -/
  plus : Bool

def zeros (count : Nat) : List Char := List.replicate count '0'

/-- The digits of a natural number, without leading zeros. -/
def digitsOf (number : Nat) : List Char := Nat.toDigits 10 number

/-- An exponent with its sign. -/
def Layout.exponent (layout : Layout) (exponent : Int) : List Char :=
  if exponent < 0 then '-' :: digitsOf exponent.natAbs
  else if layout.plus then '+' :: digitsOf exponent.natAbs
  else digitsOf exponent.natAbs

def Layout.magnitude (layout : Layout) (value : Double) : List Char :=
  if value.isZero then ['0', '.', '0']
  else
    let decimal := value.shortest
    let digits := digitsOf decimal.digits
    let leading := decimal.place + (digits.length - 1 : Nat)
    if layout.leastPlain ≤ leading && leading < layout.firstScientific then
      if leading < 0 then
        '0' :: '.' :: zeros (leading.natAbs - 1) ++ digits
      else if 0 ≤ decimal.place then
        digits ++ zeros decimal.place.natAbs ++ ['.', '0']
      else
        digits.take (leading.natAbs + 1) ++ '.' :: digits.drop (leading.natAbs + 1)
    else
      let fraction := digits.drop 1
      digits.take 1
        ++ (if fraction.isEmpty then [] else '.' :: fraction)
        ++ layout.mark :: layout.exponent leading

def Layout.text (layout : Layout) (value : Double) : List Char :=
  if value.negative then '-' :: layout.magnitude value
  else layout.magnitude value

end Double

end BuildWatch
