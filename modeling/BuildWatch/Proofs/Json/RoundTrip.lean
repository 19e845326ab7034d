import BuildWatch.Proofs.Json.Tokens
import BuildWatch.Proofs.KeyMap

/-!
# Reading back what was written

The compact text of a value without doubles is read back as the value exactly
if the value is not nested too deeply.  The proof follows the tree; a text
leaves enough steps for the reader as long as it is no longer than their
number.
-/

namespace BuildWatch.Json

namespace Value

mutual

/-- Whether no number in the tree is a double. -/
def exact : Value → Bool
  | .double _ => false
  | .array items => exactItems items
  | .object fields => exactFields fields
  | _ => true

/-- Whether no number in a list of trees is a double. -/
def exactItems : List Value → Bool
  | [] => true
  | item :: rest => exact item && exactItems rest

/-- Whether no number in a list of fields is a double. -/
def exactFields : List (String × Value) → Bool
  | [] => true
  | (_, value) :: rest => exact value && exactFields rest

end

end Value

/-! ## The first character -/

/-- Whether a character can be the first of a number. -/
def startsNumber (character : Char) : Bool :=
  Numeral.isDigit character || character = '-'

/-- Whether a character can be the first of a value. -/
def startsValue (character : Char) : Bool :=
  ['n', 't', 'f', '"', '[', '{'].contains character ||
    startsNumber character

theorem skipBlanks_of_startsValue
    {first : Char} (starts : startsValue first = true) (more : List Char) :
    skipBlanks (first :: more) = first :: more := by
  have solid : isBlank first = false := by
    cases blank : isBlank first with
    | false => rfl
    | true =>
        simp only [isBlank, Bool.or_eq_true, decide_eq_true_eq] at blank
        rcases blank with ((rfl | rfl) | rfl) | rfl <;>
          exact absurd starts (by decide)
  rw [skipBlanks, List.dropWhile_cons, solid, if_neg Bool.false_ne_true]

theorem startsNumber_integerText (number : Int) :
    ∃ first more,
      integerText number = first :: more ∧ startsNumber first = true := by
  unfold integerText
  split
  · exact ⟨'-', _, rfl, rfl⟩
  · obtain ⟨digit, more, digits⟩ :=
      List.exists_cons_of_ne_nil
        (Nat.toDigits_ne_nil (n := number.natAbs) (b := 10))
    have isDigit : Numeral.isDigit digit = true :=
      Numeral.isDigit_of_mem_toDigits (digits ▸ List.mem_cons_self)
    exact ⟨digit, more, digits, by simp [startsNumber, isDigit]⟩

theorem startsValue_print {value : Value} (exact : value.exact = true) :
    ∃ first more,
      value.print = first :: more ∧ startsValue first = true := by
  cases value with
  | null => exact ⟨_, _, rfl, rfl⟩
  | bool truth => cases truth <;> exact ⟨_, _, rfl, rfl⟩
  | integer number =>
      obtain ⟨first, more, text, starts⟩ :=
        startsNumber_integerText number.value
      exact ⟨first, more, text, by simp [startsValue, starts]⟩
  | double number => simp [Value.exact] at exact
  | string text => exact ⟨_, _, rfl, rfl⟩
  | array items => exact ⟨_, _, rfl, rfl⟩
  | object fields => exact ⟨_, _, rfl, rfl⟩

/-! ## The branches of the reader -/

section Branches

variable (fuel depth : Nat) (rest : List Char)

theorem readValue_number
    {first : Char} (starts : startsNumber first = true) :
    readValue (fuel + 1) depth (first :: rest) =
      (Numeral.read (first :: rest)).bind fun result =>
        result.1.toJson?.map fun number => (number, result.2) := by
  have solid : skipBlanks (first :: rest) = first :: rest :=
    skipBlanks_of_startsValue (by simp [startsValue, starts]) rest
  rw [readValue, solid]
  split
  next equal => exact absurd starts ((List.cons.inj equal).1 ▸ by decide)
  next equal => exact absurd starts ((List.cons.inj equal).1 ▸ by decide)
  next equal => exact absurd starts ((List.cons.inj equal).1 ▸ by decide)
  next equal => exact absurd starts ((List.cons.inj equal).1 ▸ by decide)
  next equal => exact absurd starts ((List.cons.inj equal).1 ▸ by decide)
  next equal => exact absurd starts ((List.cons.inj equal).1 ▸ by decide)
  next =>
    cases Numeral.read (first :: rest) with
    | none => rfl
    | some result =>
        cases found : result.1.toJson? <;> simp [found]

theorem readValue_string (text : String) :
    readValue (fuel + 1) depth (quote text ++ rest) =
      some (Json.string text, rest) := by
  have scanned := scan_quoted text.toList rest
  have solid : skipBlanks (quote text ++ rest) = quote text ++ rest := rfl
  rw [readValue, solid]
  simp [quote, scanned]

theorem readValue_array
    {first : Char} (starts : startsValue first = true) :
    readValue (fuel + 1) (depth + 1) ('[' :: first :: rest) =
      (readItems fuel depth (first :: rest)).map fun result =>
        (Json.array result.1, result.2) := by
  have solid : skipBlanks ('[' :: first :: rest) = '[' :: first :: rest := rfl
  have open_ := skipBlanks_of_startsValue starts rest
  rw [readValue, solid]
  simp only [open_]
  split
  next equal => exact absurd starts ((List.cons.inj equal).1 ▸ by decide)
  next => cases readItems fuel depth (first :: rest) <;> rfl

theorem readValue_object :
    readValue (fuel + 1) (depth + 1) ('{' :: '"' :: rest) =
      (readFields fuel depth ('"' :: rest)).map fun result =>
        (Json.object (KeyMap.ofList result.1), result.2) := by
  have solid : skipBlanks ('{' :: '"' :: rest) = '{' :: '"' :: rest := rfl
  have open_ : skipBlanks ('"' :: rest) = '"' :: rest := rfl
  rw [readValue, solid]
  simp only [open_]
  cases readFields fuel depth ('"' :: rest) <;> rfl

variable {fuel depth rest} {text : List Char} {item : Json}

theorem readItems_none (unread : readValue fuel depth text = none) :
    readItems (fuel + 1) depth text = none := by
  rw [readItems, unread]
  rfl

theorem readItems_last
    (read : readValue fuel depth text = some (item, ']' :: rest)) :
    readItems (fuel + 1) depth text = some ([item], rest) := by
  rw [readItems, read]
  rfl

theorem readItems_more
    (read : readValue fuel depth text = some (item, ',' :: rest)) :
    readItems (fuel + 1) depth text =
      (readItems fuel depth rest).map fun result =>
        (item :: result.1, result.2) := by
  have comma : skipBlanks (',' :: rest) = ',' :: rest := rfl
  rw [readItems, read]
  simp only [Option.bind_eq_bind, Option.bind_some, comma]
  cases readItems fuel depth rest <;> rfl

variable {key : String} {behind : List Char}

theorem readFields_none
    (named : readKey text = some (key, behind))
    (unread : readValue fuel depth behind = none) :
    readFields (fuel + 1) depth text = none := by
  simp [readFields, named, unread]

theorem readFields_last
    (named : readKey text = some (key, behind))
    (read : readValue fuel depth behind = some (item, '}' :: rest)) :
    readFields (fuel + 1) depth text = some ([(key, item)], rest) := by
  have brace : skipBlanks ('}' :: rest) = '}' :: rest := rfl
  simp [readFields, named, read, brace]

theorem readFields_more
    (named : readKey text = some (key, behind))
    (read : readValue fuel depth behind = some (item, ',' :: rest)) :
    readFields (fuel + 1) depth text =
      (readFields fuel depth rest).map fun result =>
        ((key, item) :: result.1, result.2) := by
  have comma : skipBlanks (',' :: rest) = ',' :: rest := rfl
  simp only [readFields, named, read, comma, Option.bind_eq_bind,
    Option.bind_some]
  cases readFields fuel depth rest <;> rfl

variable (rest)

theorem readKey_quote (key : String) :
    readKey (quote key ++ ':' :: rest) = some (key, rest) := by
  have scanned := scan_quoted key.toList (':' :: rest)
  have solid :
      skipBlanks (quote key ++ ':' :: rest) = quote key ++ ':' :: rest := rfl
  have colon : skipBlanks (':' :: rest) = ':' :: rest := rfl
  rw [readKey, solid]
  simp [quote, scanned, colon]

theorem endsNumber_cons
    {first : Char} (closes : first ∈ [',', ']', '}']) :
    EndsNumber (first :: rest) := by
  intro character found
  cases found
  simp only [List.mem_cons, List.not_mem_nil, or_false] at closes
  rcases closes with rfl | rfl | rfl <;> decide

end Branches

/-! ## Whole values -/

open Value

theorem array_itemsOf
    {items : List Value} (canonical : (Value.array items).Canonical) :
    Json.array (itemsOf items canonical) = ⟨.array items, canonical⟩ := by
  apply ext
  exact congrArg Value.array (values_itemsOf items canonical)

theorem object_fieldsOf
    {fields : List (String × Value)}
    (canonical : (Value.object fields).Canonical) :
    Json.object (KeyMap.ofList (fieldsOf fields canonical.2)) =
      ⟨.object fields, canonical⟩ := by
  have whole :=
    KeyMap.ofList_entries
      ⟨fieldsOf fields canonical.2,
        sorted_fieldsOf canonical.1 canonical.2⟩
  apply ext
  simp only at whole
  simp [whole, Json.object]

mutual

/-- A value is read back unless it is nested too deeply. -/
theorem readValue_print :
    (value : Value) → (canonical : value.Canonical) →
      value.exact = true →
        ∀ fuel depth rest,
          value.print.length ≤ fuel → EndsNumber rest →
            readValue fuel depth (value.print ++ rest) =
              if value.depth ≤ depth then some (⟨value, canonical⟩, rest)
              else none
  | .null, _, _, fuel + 1, _, _, _, _ => rfl
  | .bool true, _, _, fuel + 1, _, _, _, _ => rfl
  | .bool false, _, _, fuel + 1, _, _, _, _ => rfl
  | .integer number, canonical, _, fuel + 1, depth, rest, _, ends => by
      obtain ⟨first, more, text, starts⟩ :=
        startsNumber_integerText number.value
      obtain ⟨numeral, read, isNumber⟩ :=
        Numeral.read_integerText ends number
      rw [text, List.cons_append] at read
      rw [print, text, List.cons_append, readValue_number _ _ _ starts, read]
      simp [isNumber, Value.depth]
      rfl
  | .string text, canonical, _, fuel + 1, depth, rest, _, _ => by
      rw [print, readValue_string]
      rfl
  | .array [], _, _, fuel + 1, depth, rest, _, _ => by
      cases depth <;> rfl
  | .object [], _, _, fuel + 1, depth, rest, _, _ => by
      cases depth <;> rfl
  | .array (item :: items), canonical, exact, fuel + 1, depth, rest,
      enough, _ => by
      have itemExact : item.exact = true := by
        simp only [Value.exact, exactItems, Bool.and_eq_true] at exact
        exact exact.1
      obtain ⟨first, more, text, starts⟩ := startsValue_print itemExact
      cases depth with
      | zero => rfl
      | succ depth =>
          have inner :=
            readItems_print (item :: items) canonical exact (by simp) fuel
              depth rest (by simpa [print, printItems] using enough)
          rw [printItems, text, List.cons_append, List.cons_append] at inner
          rw [print, printItems, text, List.cons_append, List.cons_append,
            List.cons_append, readValue_array _ _ _ starts, inner]
          by_cases fits : depthItems (item :: items) ≤ depth
          · rw [if_pos fits, if_pos (by simpa [Value.depth] using fits),
              Option.map_some, array_itemsOf]
          · rw [if_neg fits, if_neg (by simpa [Value.depth] using fits),
              Option.map_none]
  | .object ((key, value) :: fields), canonical, exact, fuel + 1, depth, rest,
      enough, _ => by
      cases depth with
      | zero => rfl
      | succ depth =>
          have inner :=
            readFields_print ((key, value) :: fields) canonical.2 exact
              (by simp) fuel depth rest
              (by simpa [print, printFields] using enough)
          have opens :
              printFields ((key, value) :: fields) ++ rest =
                '"' :: (printFields ((key, value) :: fields) ++ rest).tail :=
            rfl
          rw [opens] at inner
          rw [print, List.cons_append, opens, readValue_object, inner]
          by_cases fits : depthFields ((key, value) :: fields) ≤ depth
          · rw [if_pos fits, if_pos (by simpa [Value.depth] using fits),
              Option.map_some, object_fieldsOf]
          · rw [if_neg fits, if_neg (by simpa [Value.depth] using fits),
              Option.map_none]
  | value, _, exact, 0, _, _, enough, _ => by
      obtain ⟨first, more, text, _⟩ := startsValue_print exact
      simp [text] at enough

/-- The items of an array are read back unless one is nested too deeply. -/
theorem readItems_print :
    (items : List Value) → (canonical : CanonicalItems items) →
      exactItems items = true → items ≠ [] →
        ∀ fuel depth rest,
          (printItems items).length ≤ fuel →
            readItems fuel depth (printItems items ++ rest) =
              if depthItems items ≤ depth then
                some (itemsOf items canonical, rest)
              else none
  | [], _, _, nonempty, _, _, _, _ => absurd rfl nonempty
  | item :: items, canonical, exact, _, 0, depth, rest, enough => by
      cases items <;> simp [printItems, printMoreItems] at enough
  | item :: items, canonical, exact, _, fuel + 1, depth, rest, enough => by
      simp only [exactItems, Bool.and_eq_true] at exact
      cases items with
      | nil =>
          have inner :=
            readValue_print item canonical.1 exact.1 fuel depth (']' :: rest)
              (by simpa [printItems, printMoreItems] using enough)
              (endsNumber_cons rest (by simp))
          have shape :
              printItems [item] ++ rest = item.print ++ ']' :: rest := by
            simp [printItems, printMoreItems]
          rw [shape]
          by_cases fits : item.depth ≤ depth
          · rw [if_pos fits] at inner
            rw [if_pos (by simpa [depthItems] using fits),
              readItems_last inner]
            rfl
          · rw [if_neg fits] at inner
            rw [if_neg (by simpa [depthItems] using fits),
              readItems_none inner]
      | cons next items =>
          have inner :=
            readValue_print item canonical.1 exact.1 fuel depth
              (',' :: (printItems (next :: items) ++ rest))
              (by
                simp only [printItems, printMoreItems, List.length_append,
                  List.length_cons] at enough
                omega)
              (endsNumber_cons _ (by simp))
          have remaining :=
            readItems_print (next :: items) canonical.2 exact.2 (by simp)
              fuel depth rest
              (by
                simp only [printItems, printMoreItems, List.length_append,
                  List.length_cons] at enough ⊢
                omega)
          have shape :
              printItems (item :: next :: items) ++ rest =
                item.print ++ ',' :: (printItems (next :: items) ++ rest) := by
            simp [printItems, printMoreItems]
          have deepest :
              depthItems (item :: next :: items) ≤ depth ↔
                item.depth ≤ depth ∧ depthItems (next :: items) ≤ depth := by
            rw [depthItems, Nat.max_le]
          rw [shape]
          by_cases fits : item.depth ≤ depth
          · rw [if_pos fits] at inner
            rw [readItems_more inner, remaining]
            by_cases others : depthItems (next :: items) ≤ depth
            · rw [if_pos others, if_pos (deepest.mpr ⟨fits, others⟩)]
              rfl
            · rw [if_neg others, if_neg fun all => others (deepest.mp all).2]
              rfl
          · rw [if_neg fits] at inner
            rw [readItems_none inner, if_neg fun all => fits (deepest.mp all).1]

/-- The fields of an object are read back unless one is nested too deeply. -/
theorem readFields_print :
    (fields : List (String × Value)) →
      (canonical : CanonicalFields fields) →
        exactFields fields = true → fields ≠ [] →
          ∀ fuel depth rest,
            (printFields fields).length ≤ fuel →
              readFields fuel depth (printFields fields ++ rest) =
                if depthFields fields ≤ depth then
                  some (fieldsOf fields canonical, rest)
                else none
  | [], _, _, nonempty, _, _, _, _ => absurd rfl nonempty
  | (key, value) :: fields, _, _, _, 0, _, _, enough => by
      simp [printFields, quote] at enough
  | (key, value) :: fields, canonical, exact, _, fuel + 1, depth, rest,
      enough => by
      simp only [exactFields, Bool.and_eq_true] at exact
      cases fields with
      | nil =>
          have inner :=
            readValue_print value canonical.1 exact.1 fuel depth ('}' :: rest)
              (by
                simp only [printFields, printMoreFields, List.length_append,
                  List.length_cons] at enough
                omega)
              (endsNumber_cons rest (by simp))
          have shape :
              printFields [(key, value)] ++ rest =
                quote key ++ ':' :: (value.print ++ '}' :: rest) := by
            simp [printFields, printMoreFields]
          have named := readKey_quote (value.print ++ '}' :: rest) key
          rw [shape]
          by_cases fits : value.depth ≤ depth
          · rw [if_pos fits] at inner
            rw [if_pos (by simpa [depthFields] using fits),
              readFields_last named inner]
            rfl
          · rw [if_neg fits] at inner
            rw [if_neg (by simpa [depthFields] using fits),
              readFields_none named inner]
      | cons next fields =>
          have inner :=
            readValue_print value canonical.1 exact.1 fuel depth
              (',' :: (printFields (next :: fields) ++ rest))
              (by
                simp only [printFields, printMoreFields, List.length_append,
                  List.length_cons] at enough
                omega)
              (endsNumber_cons _ (by simp))
          have remaining :=
            readFields_print (next :: fields) canonical.2 exact.2 (by simp)
              fuel depth rest
              (by
                simp only [printFields, printMoreFields, List.length_append,
                  List.length_cons] at enough ⊢
                omega)
          have shape :
              printFields ((key, value) :: next :: fields) ++ rest =
                quote key ++ ':' ::
                  (value.print ++
                    ',' :: (printFields (next :: fields) ++ rest)) := by
            simp [printFields, printMoreFields]
          have named :=
            readKey_quote
              (value.print ++ ',' :: (printFields (next :: fields) ++ rest))
              key
          have deepest :
              depthFields ((key, value) :: next :: fields) ≤ depth ↔
                value.depth ≤ depth ∧
                  depthFields (next :: fields) ≤ depth := by
            rw [depthFields, Nat.max_le]
          rw [shape]
          by_cases fits : value.depth ≤ depth
          · rw [if_pos fits] at inner
            rw [readFields_more named inner, remaining]
            by_cases others : depthFields (next :: fields) ≤ depth
            · rw [if_pos others, if_pos (deepest.mpr ⟨fits, others⟩)]
              rfl
            · rw [if_neg others, if_neg fun all => others (deepest.mp all).2]
              rfl
          · rw [if_neg fits] at inner
            rw [readFields_none named inner,
              if_neg fun all => fits (deepest.mp all).1]

end

/-- The text of a value without doubles stands for the value. -/
theorem parse?_text
    (json : Json) (exact : json.value.exact = true) :
    parse? json.text = if json.depth ≤ maximumDepth then some json else none := by
  have read :=
    readValue_print json.value json.canonical exact
      (2 * json.value.print.length + 2) maximumDepth [] (by omega)
      (by simp [EndsNumber])
  rw [List.append_nil] at read
  have parsed :
      parse? json.text =
        (readValue (2 * json.value.print.length + 2) maximumDepth
          json.value.print).bind fun found =>
            if (skipBlanks found.2).isEmpty then some found.1
            else none := by
    rw [parse?, text, String.toList_ofList]
    rfl
  rw [parsed, read, Json.depth]
  by_cases fits : json.value.depth ≤ maximumDepth
  · rw [if_pos fits, if_pos fits]
    rfl
  · rw [if_neg fits, if_neg fits]
    rfl

/-! ## Parts of a value -/

theorem depthItems_values_le_iff {depth : Nat} {items : List Json} :
    depthItems (values items) ≤ depth ↔
      ∀ item ∈ items, item.depth ≤ depth := by
  induction items with
  | nil => simp [values, depthItems]
  | cons item rest ih =>
      simp only [values] at ih
      simp only [values, List.map_cons, depthItems, Nat.max_le, ih,
        List.forall_mem_cons, Json.depth]

theorem depthFields_mapValues_le_iff
    {depth : Nat} {entries : List (String × Json)} :
    depthFields (Entries.mapValues Json.value entries) ≤ depth ↔
      ∀ entry ∈ entries, entry.2.depth ≤ depth := by
  induction entries with
  | nil => simp [Entries.mapValues, depthFields]
  | cons entry rest ih =>
      simp only [Entries.mapValues] at ih
      simp only [Entries.mapValues, List.map_cons, depthFields, Nat.max_le,
        ih, List.forall_mem_cons, Json.depth]

theorem exactItems_values_iff {items : List Json} :
    exactItems (values items) = true ↔
      ∀ item ∈ items, item.value.exact = true := by
  induction items with
  | nil => simp [values, exactItems]
  | cons item rest ih =>
      simp only [values] at ih
      simp [values, exactItems, ih]

theorem exactFields_mapValues_iff {entries : List (String × Json)} :
    exactFields (Entries.mapValues Json.value entries) = true ↔
      ∀ entry ∈ entries, entry.2.value.exact = true := by
  induction entries with
  | nil => simp [Entries.mapValues, exactFields]
  | cons entry rest ih =>
      simp only [Entries.mapValues] at ih
      simp only [Entries.mapValues, List.map_cons, exactFields,
        Bool.and_eq_true, ih, List.forall_mem_cons]

/-- An array is nested one deeper than its items. -/
theorem depth_array_le
    {depth : Nat} {items : List Json}
    (shallow : ∀ item ∈ items, item.depth ≤ depth) :
    (Json.array items).depth ≤ depth + 1 :=
  Nat.succ_le_succ (depthItems_values_le_iff.mpr shallow)

/-- An object is nested one deeper than its fields. -/
theorem depth_object_le
    {depth : Nat} {fields : KeyMap Json}
    (shallow : ∀ entry ∈ fields.entries, entry.2.depth ≤ depth) :
    (Json.object fields).depth ≤ depth + 1 :=
  Nat.succ_le_succ (depthFields_mapValues_le_iff.mpr shallow)

/-! ## Values that fit -/

/-- Whether a value has no doubles and is not nested deeper than that. -/
def Fits (depth : Nat) (json : Json) : Prop :=
  json.value.exact = true ∧ json.depth ≤ depth

theorem fits_null (depth : Nat) : Fits depth Json.null :=
  ⟨rfl, Nat.zero_le depth⟩

theorem fits_bool (depth : Nat) (truth : Bool) : Fits depth (Json.bool truth) :=
  ⟨rfl, Nat.zero_le depth⟩

theorem fits_word (depth : Nat) (word : UInt32) : Fits depth (Json.word word) :=
  ⟨rfl, Nat.zero_le depth⟩

theorem fits_string (depth : Nat) (text : String) :
    Fits depth (Json.string text) :=
  ⟨rfl, Nat.zero_le depth⟩

theorem fits_array
    {depth : Nat} {items : List Json}
    (fit : ∀ item ∈ items, Fits depth item) :
    Fits (depth + 1) (Json.array items) :=
  ⟨exactItems_values_iff.mpr fun item member => (fit item member).1,
    depth_array_le fun item member => (fit item member).2⟩

theorem fits_object
    {depth : Nat} {fields : KeyMap Json}
    (fit : ∀ entry ∈ fields.entries, Fits depth entry.2) :
    Fits (depth + 1) (Json.object fields) :=
  ⟨exactFields_mapValues_iff.mpr fun entry member => (fit entry member).1,
    depth_object_le fun entry member => (fit entry member).2⟩

theorem Fits.mono
    {depth deeper : Nat} {json : Json}
    (fit : Fits depth json) (less : depth ≤ deeper) : Fits deeper json :=
  ⟨fit.1, Nat.le_trans fit.2 less⟩

end BuildWatch.Json
