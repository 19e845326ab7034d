import BuildWatch.Text.Hex
import BuildWatch.Toml

/-!
# Numbers and dates in TOML

A word that is no string is a truth value, a number, or a date.  Digits may
be kept apart by single underscores.  Integers may have up to 128 bits, and
a number with a fraction or an exponent must not exceed the doubles.
-/

namespace BuildWatch.TomlScalar

def isDigit (character : Char) : Bool :=
  '0' ≤ character && character ≤ '9'

/-- The number that decimal digits stand for. -/
def decimal (digits : List Char) : Nat :=
  digits.foldl (fun total digit => 10 * total + (digit.toNat - '0'.toNat)) 0

/-- Digits without the underscores between them; some digit is needed. -/
def separated? (accepts : Char → Bool) (text : List Char) :
    Option (List Char) :=
  go false text
where
  go (afterDigit : Bool) : List Char → Option (List Char)
    | [] => if afterDigit then some [] else none
    | character :: rest =>
        if accepts character then (go true rest).map (character :: ·)
        else if character = '_' && afterDigit then
          match rest with
          | next :: _ => if accepts next then go false rest else none
          | [] => none
        else none

/-- Splits a sign off; tells whether it is there, and whether it is minus. -/
def splitSign : List Char → Option Bool × List Char
  | '+' :: rest => (some false, rest)
  | '-' :: rest => (some true, rest)
  | text => (none, text)

/-- The digits of a decimal numeral, which has no needless leading zero. -/
def wholeDigits? (text : List Char) : Option (List Char) := do
  let digits ← separated? isDigit text
  match digits with
  | '0' :: _ :: _ => none
  | _ => some digits

/-- The number of digits in some base. -/
def based? (base : Nat) (text : List Char) : Option Nat := do
  let below (character : Char) : Bool :=
    (Hex.value? character).any (· < base)
  let digits ← separated? below text
  digits.foldlM (fun total digit => do
    let next ← Hex.value? digit
    pure (base * total + next)) 0

/-- Whether an integer fits into 128 bits, signed or not. -/
def inRange (number : Int) : Bool :=
  -0x80000000000000000000000000000000 ≤ number &&
    number < 0x100000000000000000000000000000000

def integer? (text : List Char) : Option Int := do
  let number : Int ← match text with
    | '0' :: 'x' :: digits => (based? 16 digits).map Int.ofNat
    | '0' :: 'o' :: digits => (based? 8 digits).map Int.ofNat
    | '0' :: 'b' :: digits => (based? 2 digits).map Int.ofNat
    | _ =>
        let (sign, unsigned) := splitSign text
        (wholeDigits? unsigned).map fun digits =>
          if sign = some true then -(decimal digits : Int)
          else (decimal digits : Int)
  if inRange number then some number else none

/-- The least number that is rounded to infinity. -/
def infiniteFrom : Nat := Nat.pow 2 1024 - Nat.pow 2 970

/-- Whether a number times a power of ten is rounded to infinity. -/
def overflows (digits : List Char) (exponent : Int) : Bool :=
  let significant := digits.dropWhile (· = '0')
  let magnitude : Int := significant.length + exponent
  if significant.isEmpty || magnitude < 300 then false
  else if 400 < magnitude then true
  else if 0 ≤ exponent then
    infiniteFrom ≤ decimal significant * Nat.pow 10 exponent.toNat
  else infiniteFrom * Nat.pow 10 (-exponent).toNat ≤ decimal significant

/-- Reads the exponent behind its letter. -/
def exponent? (text : List Char) : Option Int := do
  let (sign, unsigned) := splitSign text
  let digits ← separated? isDigit unsigned
  some (if sign = some true then -(decimal digits : Int)
    else (decimal digits : Int))

/-- Whether a letter starts an exponent. -/
def marksExponent (character : Char) : Bool :=
  character = 'e' || character = 'E'

/-- Whether a word is a number with a fraction or an exponent. -/
def isFloat (text : List Char) : Bool :=
  let unsigned := (splitSign text).2
  if unsigned = ['i', 'n', 'f'] || unsigned = ['n', 'a', 'n'] then true
  else
    let mantissa := unsigned.takeWhile (!marksExponent ·)
    let marked := unsigned.dropWhile (!marksExponent ·)
    let whole := mantissa.takeWhile (· ≠ '.')
    let pointed := mantissa.dropWhile (· ≠ '.')
    let parts := do
      let wholeDigits ← wholeDigits? whole
      let fraction ← match pointed with
        | [] => some []
        | _ :: digits => separated? isDigit digits
      let exponent ← match marked with
        | [] => some 0
        | _ :: rest => exponent? rest
      some (wholeDigits ++ fraction, exponent - fraction.length)
    let isWhole := pointed.isEmpty && marked.isEmpty
    !isWhole && parts.any fun (digits, exponent) =>
      !overflows digits exponent

/-! ## Dates and times -/

def number? (count : Nat) (text : List Char) : Option (Nat × List Char) :=
  let digits := text.take count
  if digits.length = count && digits.all isDigit then
    some (decimal digits, text.drop count)
  else none

def skip? (character : Char) : List Char → Option (List Char)
  | found :: rest => if found = character then some rest else none
  | [] => none

def isLeapYear (year : Nat) : Bool :=
  year % 4 = 0 && (year % 100 ≠ 0 || year % 400 = 0)

def daysIn (year month : Nat) : Nat :=
  if month = 2 then if isLeapYear year then 29 else 28
  else if month = 4 || month = 6 || month = 9 || month = 11 then 30
  else 31

def date? (text : List Char) : Option (List Char) := do
  let (year, text) ← number? 4 text
  let text ← skip? '-' text
  let (month, text) ← number? 2 text
  let text ← skip? '-' text
  let (day, text) ← number? 2 text
  if 1 ≤ month && month ≤ 12 && 1 ≤ day && day ≤ daysIn year month then
    some text
  else none

/-- Reads the fraction of a second, if there is one. -/
def fraction? : List Char → Option (List Char)
  | '.' :: rest =>
      if (rest.takeWhile isDigit).isEmpty then none
      else some (rest.dropWhile isDigit)
  | text => some text

/-- Reads the seconds, if there are any. -/
def seconds? : List Char → Option (List Char)
  | ':' :: rest => do
      let (second, text) ← number? 2 rest
      if second ≤ 60 then fraction? text else none
  | text => some text

def time? (text : List Char) : Option (List Char) := do
  let (hour, text) ← number? 2 text
  let text ← skip? ':' text
  let (minute, text) ← number? 2 text
  if hour ≤ 23 && minute ≤ 59 then seconds? text else none

/-- Reads the distance from universal time, if it is there. -/
def offset? : List Char → Option (List Char)
  | [] => some []
  | 'Z' :: rest => some rest
  | 'z' :: rest => some rest
  | sign :: rest =>
      if sign = '+' || sign = '-' then do
        let (hour, text) ← number? 2 rest
        let text ← skip? ':' text
        let (minute, text) ← number? 2 text
        if hour ≤ 23 && minute ≤ 59 then some text else none
      else none

/-- Whether a character stands between a date and a time. -/
def joinsTime (character : Char) : Bool :=
  character = 'T' || character = 't' || character = ' '

def isDateTime (text : List Char) : Bool :=
  match date? text with
  | none => time? text = some []
  | some [] => true
  | some (separator :: rest) =>
      joinsTime separator && ((time? rest).bind offset?) = some []

/-- Reads a word that is no string. -/
def read? (text : List Char) : Option Toml :=
  if text = ['t', 'r', 'u', 'e'] then some (.boolean true)
  else if text = ['f', 'a', 'l', 's', 'e'] then some (.boolean false)
  else
    match integer? text with
    | some number => some (.integer number)
    | none =>
        if isFloat text then some .float
        else if isDateTime text then some .dateTime
        else none

end BuildWatch.TomlScalar
