import BuildWatch.Proofs.Json.Tokens

/-!
# What a value is written with

The compact text of a value has no control character: those of a string are
escaped, and nothing else could be one.  So a text stays on one line, whatever
the strings in it say.
-/

namespace BuildWatch

/-- Whether a character is none of the lower control characters. -/
def Printable (character : Char) : Prop := 0x20 ≤ character.toNat

instance (character : Char) : Decidable (Printable character) :=
  inferInstanceAs (Decidable (_ ≤ _))

/-- A text that is known can be looked through. -/
theorem printable_of_all
    {text : List Char}
    (all : (text.all fun character => decide (Printable character)) = true) :
    ∀ character ∈ text, Printable character := by
  simpa using all

theorem Hex.printable_padded (width number : Nat) :
    ∀ character ∈ padded width number, Printable character := by
  have all : ∀ small : Fin 16, Printable (digit small) := by decide
  induction width generalizing number with
  | zero => simp [padded]
  | succ width ih =>
      intro character member
      rw [padded, List.mem_append, List.mem_singleton] at member
      rcases member with earlier | rfl
      · exact ih _ character earlier
      · exact all ⟨number % 16, Nat.mod_lt _ (by decide)⟩

namespace Json

theorem printable_escape (character : Char) :
    ∀ written ∈ escape character, Printable written := by
  unfold escape
  repeat' split
  case isFalse.isFalse.isFalse.isFalse.isFalse.isFalse.isFalse.isTrue =>
    have digits := Hex.printable_padded 4 character.toNat
    simp only [List.forall_mem_cons]
    exact ⟨by decide, by decide, digits⟩
  case isFalse.isFalse.isFalse.isFalse.isFalse.isFalse.isFalse.isFalse large =>
    simpa [Printable] using large
  all_goals exact printable_of_all (by decide)

theorem printable_quote (text : String) :
    ∀ character ∈ quote text, Printable character := by
  intro character member
  rw [quote, List.mem_append, List.mem_cons, List.mem_flatMap,
    List.mem_singleton] at member
  rcases member with (rfl | ⟨source, _, written⟩) | rfl
  · decide
  · exact printable_escape source character written
  · decide

/-! ## Numbers -/

theorem printable_toDigits (number : Nat) :
    ∀ character ∈ Nat.toDigits 10 number, Printable character := by
  intro character member
  have digit := Numeral.isDigit_of_mem_toDigits member
  simp only [Numeral.isDigit, Bool.and_eq_true, decide_eq_true_eq] at digit
  exact Nat.le_trans (by decide) digit.1

theorem printable_zeros (count : Nat) :
    ∀ character ∈ Double.zeros count, Printable character := by
  intro character member
  rw [List.eq_of_mem_replicate member]
  decide

theorem printable_integerText (number : Int) :
    ∀ character ∈ integerText number, Printable character := by
  have digits := printable_toDigits number.natAbs
  unfold integerText
  split
  · exact List.forall_mem_cons.mpr ⟨by decide, digits⟩
  · exact digits

theorem printable_exponent (exponent : Int) :
    ∀ character ∈ doubleLayout.exponent exponent, Printable character := by
  have digits := printable_toDigits exponent.natAbs
  unfold Double.Layout.exponent
  split
  · exact List.forall_mem_cons.mpr ⟨by decide, digits⟩
  · exact List.forall_mem_cons.mpr ⟨by decide, digits⟩

theorem printable_magnitude (number : Double) :
    ∀ character ∈ doubleLayout.magnitude number, Printable character := by
  have point : Printable '.' := by decide
  have zero : Printable '0' := by decide
  have mark : Printable doubleLayout.mark := by decide
  have digits := printable_toDigits number.shortest.digits
  have taken (count : Nat) :
      ∀ character ∈ (Nat.toDigits 10 number.shortest.digits).take count,
        Printable character :=
    fun character member => digits character (List.mem_of_mem_take member)
  have dropped (count : Nat) :
      ∀ character ∈ (Nat.toDigits 10 number.shortest.digits).drop count,
        Printable character :=
    fun character member => digits character (List.mem_of_mem_drop member)
  unfold Double.Layout.magnitude Double.digitsOf
  dsimp only
  split
  next => exact printable_of_all (by decide)
  split
  next plain =>
    split
    next =>
      simp only [List.cons_append, List.forall_mem_append,
        List.forall_mem_cons, zero, point, true_and]
      exact ⟨printable_zeros _, digits⟩
    split
    next =>
      simp only [List.forall_mem_append, List.forall_mem_cons, zero, point,
        true_and]
      exact ⟨⟨digits, printable_zeros _⟩, by simp⟩
    next =>
      simp only [List.forall_mem_append, List.forall_mem_cons, point,
        true_and]
      exact ⟨taken _, dropped _⟩
  next scientific =>
    simp only [List.forall_mem_append, List.forall_mem_cons, mark, true_and]
    refine ⟨⟨taken 1, ?_⟩, printable_exponent _⟩
    split
    next => simp
    next => exact List.forall_mem_cons.mpr ⟨point, dropped 1⟩

theorem printable_doubleText (number : Double) :
    ∀ character ∈ doubleText number, Printable character := by
  have size := printable_magnitude number
  unfold doubleText Double.Layout.text
  split
  · exact List.forall_mem_cons.mpr ⟨by decide, size⟩
  · exact size

/-! ## Values -/

namespace Value

mutual

theorem printable_print :
    (value : Value) → ∀ character ∈ print value, Printable character
  | .null => printable_of_all (by decide)
  | .bool true => printable_of_all (by decide)
  | .bool false => printable_of_all (by decide)
  | .integer number => printable_integerText number.value
  | .double number => printable_doubleText number
  | .string text => printable_quote text
  | .array items => by
      rw [print, List.forall_mem_cons]
      exact ⟨by decide, printable_printItems items⟩
  | .object fields => by
      rw [print, List.forall_mem_cons]
      exact ⟨by decide, printable_printFields fields⟩

theorem printable_printItems :
    (items : List Value) → ∀ character ∈ printItems items, Printable character
  | [] => printable_of_all (by decide)
  | item :: rest => by
      rw [printItems, List.forall_mem_append]
      exact ⟨printable_print item, printable_printMoreItems rest⟩

theorem printable_printMoreItems :
    (items : List Value) →
      ∀ character ∈ printMoreItems items, Printable character
  | [] => printable_of_all (by decide)
  | item :: rest => by
      rw [printMoreItems, List.forall_mem_append, List.forall_mem_cons]
      exact ⟨⟨by decide, printable_print item⟩, printable_printMoreItems rest⟩

theorem printable_printFields :
    (fields : List (String × Value)) →
      ∀ character ∈ printFields fields, Printable character
  | [] => printable_of_all (by decide)
  | (key, value) :: rest => by
      simp only [printFields, List.forall_mem_append, List.forall_mem_cons]
      exact ⟨⟨printable_quote key, by decide, printable_print value⟩,
        printable_printMoreFields rest⟩

theorem printable_printMoreFields :
    (fields : List (String × Value)) →
      ∀ character ∈ printMoreFields fields, Printable character
  | [] => printable_of_all (by decide)
  | (key, value) :: rest => by
      simp only [printMoreFields, List.forall_mem_append,
        List.forall_mem_cons]
      exact ⟨⟨⟨by decide, printable_quote key⟩, by decide,
        printable_print value⟩, printable_printMoreFields rest⟩

end

end Value

end Json

end BuildWatch
