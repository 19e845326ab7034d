import BuildWatch.Json.Value

/-!
# What values look like

A value that was written by one of the constructors looks like it, and values
that look the same are the same.  A value is therefore recognised by its look
alone: it is a text, a truth value or a number exactly if it was written as
one.
-/

namespace BuildWatch.Json

/-! ## Written values -/

@[simp]
theorem view_null : Json.null.view = .null :=
  view_toJson .null

@[simp]
theorem view_bool (truth : Bool) : (Json.bool truth).view = .bool truth :=
  view_toJson (.bool truth)

@[simp]
theorem view_integer (number : Integer) :
    (Json.integer number).view = .integer number :=
  view_toJson (.integer number)

@[simp]
theorem view_double (number : Double) :
    (Json.double number).view = .double number :=
  view_toJson (.double number)

@[simp]
theorem view_string (text : String) :
    (Json.string text).view = .string text :=
  view_toJson (.string text)

@[simp]
theorem view_array (items : List Json) :
    (Json.array items).view = .array items :=
  view_toJson (.array items)

@[simp]
theorem view_object (fields : KeyMap Json) :
    (Json.object fields).view = .object fields :=
  view_toJson (.object fields)

@[simp]
theorem asString?_string (text : String) :
    (Json.string text).asString? = some text := by
  simp [asString?]

@[simp]
theorem asBool?_bool (truth : Bool) :
    (Json.bool truth).asBool? = some truth := by
  simp [asBool?]

@[simp]
theorem Integer.toWord?_ofWord (word : UInt32) :
    (Integer.ofWord word).toWord? = some word := by
  have small := word.toNat_lt
  have inRange :
      0 ≤ (Integer.ofWord word).value ∧
        (Integer.ofWord word).value < 0x100000000 := by
    simp only [Integer.ofWord]
    omega
  rw [Integer.toWord?, if_pos inRange]
  simp [Integer.ofWord]

/-! ## Looks -/

/-- A value is the one that looks as it does. -/
theorem eq_of_view {json : Json} {view : View} (looks : json.view = view) :
    json = view.toJson := by
  rw [← looks, toJson_view]

/-- Values that look the same are the same. -/
theorem view_inj {left right : Json} : left.view = right.view ↔ left = right := by
  refine ⟨fun same => ?_, fun same => same ▸ rfl⟩
  rw [← toJson_view left, same, toJson_view]

@[simp]
theorem view_word (word : UInt32) :
    (Json.word word).view = .integer (Integer.ofWord word) :=
  view_integer (Integer.ofWord word)

theorem string_inj {left right : String} :
    Json.string left = Json.string right ↔ left = right := by
  rw [← view_inj, view_string, view_string, View.string.injEq]

/-- The integers that stand for a 32-bit word. -/
theorem Integer.toWord?_eq_some_iff {number : Integer} {word : UInt32} :
    number.toWord? = some word ↔ number = Integer.ofWord word := by
  constructor
  · intro found
    unfold toWord? at found
    split at found
    next inRange =>
      cases found
      obtain ⟨value, least, greatest⟩ := number
      simp only [Integer.ofWord, Integer.mk.injEq] at inRange ⊢
      rw [UInt32.toNat_ofNat_of_lt' (by simp [UInt32.size]; omega)]
      omega
    next => cases found
  · rintro rfl
    exact toWord?_ofWord word

theorem asString?_eq_some_iff {json : Json} {text : String} :
    json.asString? = some text ↔ json = Json.string text := by
  rw [← view_inj, view_string]
  unfold asString?
  cases json.view <;> simp

theorem asBool?_eq_some_iff {json : Json} {truth : Bool} :
    json.asBool? = some truth ↔ json = Json.bool truth := by
  rw [← view_inj, view_bool]
  unfold asBool?
  cases json.view <;> simp

/-! ## Types -/

/-- What an error calls the type of a value, by how the value was written. -/
inductive TypeName : Json → String → Prop where
  | null : TypeName Json.null "null"
  | bool (truth : Bool) : TypeName (Json.bool truth) "bool"
  | integer (number : Integer) : TypeName (Json.integer number) "number"
  | double (number : Double) : TypeName (Json.double number) "number"
  | string (text : String) : TypeName (Json.string text) "string"
  | array (items : List Json) : TypeName (Json.array items) "array"
  | object (fields : KeyMap Json) : TypeName (Json.object fields) "object"

theorem typeName_kind (json : Json) : json.TypeName json.kind.name := by
  have written := toJson_view json
  unfold kind
  cases looks : json.view <;> rw [looks] at written <;> subst written
  case null => exact .null
  case bool truth => exact .bool truth
  case integer number => exact .integer number
  case double number => exact .double number
  case string text => exact .string text
  case array items => exact .array items
  case object fields => exact .object fields

theorem TypeName.eq_name_kind
    {json : Json} {name : String} (named : json.TypeName name) :
    name = json.kind.name := by
  cases named <;> simp [kind, Kind.name]

/-- A value is called by the name of its own type and no other. -/
theorem typeName_iff {json : Json} {found : Kind} :
    json.TypeName found.name ↔ found = json.kind := by
  refine ⟨fun named => ?_, fun same => same ▸ typeName_kind json⟩
  have same := named.eq_name_kind
  generalize json.kind = own at same ⊢
  cases found <;> cases own <;> simp [Kind.name] at same ⊢

end BuildWatch.Json
