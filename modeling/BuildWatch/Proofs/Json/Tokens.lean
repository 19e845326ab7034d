import BuildWatch.Json.Parser
import BuildWatch.Json.Printer
import Mathlib.Data.List.TakeWhile

/-!
# Strings and integers of JSON text

What is written for a string is read back as the string, and what is written
for an integer as the integer, whatever follows.
-/

namespace BuildWatch

namespace Hex

theorem value?_digit {number : Nat} (small : number < 16) :
    value? (digit number) = some number := by
  have all : ∀ small : Fin 16, value? (digit small) = some small.val := by
    decide
  exact all ⟨number, small⟩

end Hex

namespace Json

/-! ## Strings -/

/-- Four digits are the code unit that they were written for. -/
theorem scan_unit_padded
    {number : Nat} (small : number < 0xD800) (rest : List Char) :
    scan (.unit none 3 0) (Hex.padded 4 number ++ rest) =
      prepend (Char.ofNat number) (scan .plain rest) := by
  have high : isHighSurrogate number = false := by
    simp only [isHighSurrogate, Bool.and_eq_false_iff,
      decide_eq_false_iff_not]
    omega
  have low : isLowSurrogate number = false := by
    simp only [isLowSurrogate, Bool.and_eq_false_iff,
      decide_eq_false_iff_not]
    omega
  have whole :
      16 * (16 * (16 * (16 * 0 + number / 16 / 16 / 16 % 16)
          + number / 16 / 16 % 16) + number / 16 % 16) + number % 16 =
        number := by
    omega
  simp only [Hex.padded, List.nil_append, List.cons_append, scan,
    Hex.value?_digit (Nat.mod_lt _ (by decide : 0 < 16)), whole, high, low]
  rfl

theorem scan_escape (character : Char) (rest : List Char) :
    scan .plain (escape character ++ rest) =
      prepend character (scan .plain rest) := by
  unfold escape
  split
  next quote => subst quote; rfl
  split
  next backslash => subst backslash; rfl
  split
  next backspace => subst backspace; rfl
  split
  next formFeed => subst formFeed; rfl
  split
  next lineFeed => subst lineFeed; rfl
  split
  next carriageReturn => subst carriageReturn; rfl
  split
  next tab => subst tab; rfl
  split
  next control =>
    have small : character.toNat < 0xD800 := by omega
    have read := scan_unit_padded small rest
    rw [Char.ofNat_toNat] at read
    rw [← read]
    rfl
  next notQuote notBackslash _ _ _ _ _ printable =>
    simp [scan, notQuote, notBackslash, printable]

theorem scan_quoted (text rest : List Char) :
    scan .plain (text.flatMap escape ++ '"' :: rest) = some (text, rest) := by
  induction text with
  | nil => simp [scan]
  | cons character more ih =>
      rw [List.flatMap_cons, List.append_assoc, scan_escape, ih]
      rfl

/-! ## Integers -/

/-- Whether a text goes on with something that is no part of a number. -/
def EndsNumber (rest : List Char) : Prop :=
  ∀ character ∈ rest.head?,
    Numeral.isDigit character = false ∧ character ≠ '.' ∧
      character ≠ 'e' ∧ character ≠ 'E'

namespace Numeral

theorem isDigit_of_mem_toDigits
    {character : Char} {number : Nat}
    (member : character ∈ Nat.toDigits 10 number) :
    isDigit character = true := by
  have digit :=
    Nat.isDigit_of_mem_toDigits (by decide) (by decide) member
  simp only [Char.isDigit, Bool.and_eq_true, decide_eq_true_eq] at digit
  simp only [isDigit, Bool.and_eq_true, decide_eq_true_eq]
  exact digit

theorem natural_toDigits (number : Nat) :
    natural (Nat.toDigits 10 number) = number := by
  exact Nat.ofDigitChars_ten_toDigits

theorem spanDigits_append
    {digits rest : List Char}
    (all : ∀ character ∈ digits, isDigit character = true)
    (ends : EndsNumber rest) :
    spanDigits (digits ++ rest) = (digits, rest) := by
  have stops :
      rest.takeWhile isDigit = [] ∧ rest.dropWhile isDigit = rest := by
    cases rest with
    | nil => exact ⟨rfl, rfl⟩
    | cons character more =>
        have other := (ends character rfl).1
        simp [other]
  rw [spanDigits, List.takeWhile_append_of_pos all,
    List.dropWhile_append_of_pos all, stops.1, stops.2, List.append_nil]

/-- Only zero is written with a leading zero. -/
theorem eq_zero_of_head?_toDigits
    {number : Nat}
    (zero : (Nat.toDigits 10 number).head? = some '0') :
    number = 0 := by
  induction number using Nat.strongRecOn with
  | ind number ih =>
      by_cases small : number < 10
      · rw [Nat.toDigits_of_lt_base small] at zero
        simpa using zero
      · have large : 10 ≤ number := by omega
        obtain ⟨digit, more, digits⟩ :=
          List.exists_cons_of_ne_nil
            (Nat.toDigits_ne_nil (n := number / 10) (b := 10))
        rw [Nat.toDigits_of_base_le (by decide) large, digits,
          List.cons_append, List.head?_cons, ← List.head?_cons (l := more),
          ← digits] at zero
        have leading := ih (number / 10) (by omega) zero
        omega

theorem readFraction_of_ends {rest : List Char} (ends : EndsNumber rest) :
    readFraction rest = some ([], rest) := by
  unfold readFraction
  split
  next more => exact absurd rfl (ends '.' rfl).2.1
  next => rfl

theorem readExponent_of_ends {rest : List Char} (ends : EndsNumber rest) :
    readExponent rest = some (none, rest) := by
  cases rest with
  | nil => rfl
  | cons mark more =>
      obtain ⟨_, _, notLower, notUpper⟩ := ends mark rfl
      simp [readExponent, notLower, notUpper]

theorem readUnsigned_toDigits
    {rest : List Char} (ends : EndsNumber rest) (negative : Bool)
    (number : Nat) :
    readUnsigned negative (Nat.toDigits 10 number ++ rest) =
      some (⟨negative, Nat.toDigits 10 number, [], none⟩, rest) := by
  have split : spanDigits (Nat.toDigits 10 number ++ rest) =
      (Nat.toDigits 10 number, rest) :=
    spanDigits_append (fun _ => isDigit_of_mem_toDigits) ends
  have whole :
      ((Nat.toDigits 10 number).isEmpty ||
        ((Nat.toDigits 10 number).head? = some '0' &&
          (Nat.toDigits 10 number).length ≠ 1)) = false := by
    by_cases zero : (Nat.toDigits 10 number).head? = some '0'
    · rw [eq_zero_of_head?_toDigits zero]
      rfl
    · simp [zero, Nat.toDigits_ne_nil]
  simp only [readUnsigned, split, whole]
  simp [readFraction_of_ends ends, readExponent_of_ends ends]

theorem read_toDigits
    {rest : List Char} (ends : EndsNumber rest) (number : Nat) :
    read (Nat.toDigits 10 number ++ rest) =
      some (⟨false, Nat.toDigits 10 number, [], none⟩, rest) := by
  obtain ⟨digit, more, digits⟩ :=
    List.exists_cons_of_ne_nil (Nat.toDigits_ne_nil (n := number) (b := 10))
  have unsigned := readUnsigned_toDigits ends false number
  have first : isDigit digit = true :=
    @isDigit_of_mem_toDigits digit number (digits ▸ List.mem_cons_self)
  unfold read
  split
  next behind minus =>
    rw [digits, List.cons_append] at minus
    have isMinus : digit = '-' := (List.cons.inj minus).1
    rw [isMinus] at first
    simp [isDigit] at first
  next => exact unsigned

theorem toJson?_of_whole
    {negative : Bool} {whole : List Char} {number : Integer}
    (signed :
      (if negative then -(natural whole : Int) else natural whole) =
        number.value)
    (sensible : (negative && natural whole = 0) = false) :
    toJson? ⟨negative, whole, [], none⟩ = some (Json.integer number) := by
  obtain ⟨value, least, greatest⟩ := number
  subst signed
  have exact :
      toInteger? ⟨negative, whole, [], none⟩ =
        some ⟨if negative then -(natural whole : Int) else natural whole,
          least, greatest⟩ := by
    unfold toInteger?
    dsimp only
    rw [sensible, if_pos (by rfl), if_neg Bool.false_ne_true,
      dif_pos ⟨least, greatest⟩]
  rw [toJson?, exact]

/-- An integer is read back from its text. -/
theorem read_integerText
    {rest : List Char} (ends : EndsNumber rest) (number : Integer) :
    ∃ numeral,
      read (integerText number.value ++ rest) = some (numeral, rest) ∧
        numeral.toJson? = some (Json.integer number) := by
  by_cases negative : number.value < 0
  · refine ⟨⟨true, Nat.toDigits 10 number.value.natAbs, [], none⟩, ?_,
      toJson?_of_whole ?_ ?_⟩
    · rw [integerText, if_pos negative]
      exact readUnsigned_toDigits ends true number.value.natAbs
    · rw [if_pos rfl, natural_toDigits]
      omega
    · rw [natural_toDigits]
      simpa using Int.ne_of_lt negative
  · refine ⟨⟨false, Nat.toDigits 10 number.value.natAbs, [], none⟩, ?_,
      toJson?_of_whole ?_ rfl⟩
    · rw [integerText, if_neg negative]
      exact read_toDigits ends number.value.natAbs
    · rw [if_neg Bool.false_ne_true, natural_toDigits]
      omega

end Numeral

end Json

end BuildWatch
