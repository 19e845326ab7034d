import BuildWatch.KeyMap
import BuildWatch.Double

/-!
# JSON values

A JSON value distinguishes integers, which are exact between `-2 ^ 63` and
`2 ^ 64 - 1`, from doubles.  `Json.Value` is the raw tree, and `Json` the
values in which every object lists each key once, in increasing order.  The
second is the type that the rest of the library uses: it is read through
`Json.view` and written through one constructor per kind of value, and both
see an object as a `KeyMap`.
-/

namespace BuildWatch

namespace Json

/-- An integer that a JSON number keeps exactly. -/
structure Integer where
  value : Int
  /-- Nothing below the signed 64-bit integers. -/
  least : -0x8000000000000000 ≤ value
  /-- Nothing above the unsigned 64-bit integers. -/
  greatest : value < 0x10000000000000000
deriving DecidableEq

/-- The integer that a 32-bit word stands for. -/
def Integer.ofWord (word : UInt32) : Integer :=
  ⟨word.toNat, by have := word.toNat_lt; omega, by have := word.toNat_lt; omega⟩

/-- The 32-bit word that an integer stands for, if it is in range. -/
def Integer.toWord? (number : Integer) : Option UInt32 :=
  if 0 ≤ number.value ∧ number.value < 0x100000000 then
    some (UInt32.ofNat number.value.toNat)
  else none

/-- Raw JSON trees. -/
inductive Value where
  | null
  | bool (truth : Bool)
  | integer (number : Integer)
  | double (number : Double)
  | string (text : String)
  | array (items : List Value)
  | object (fields : List (String × Value))
deriving Inhabited

namespace Value

mutual

/-- Whether two trees are the same. -/
def same : Value → Value → Bool
  | .null, .null => true
  | .bool left, .bool right => left == right
  | .integer left, .integer right => decide (left = right)
  | .double left, .double right => decide (left = right)
  | .string left, .string right => decide (left = right)
  | .array left, .array right => sameItems left right
  | .object left, .object right => sameFields left right
  | _, _ => false

def sameItems : List Value → List Value → Bool
  | [], [] => true
  | left :: leftRest, right :: rightRest =>
      same left right && sameItems leftRest rightRest
  | _, _ => false

def sameFields : List (String × Value) → List (String × Value) → Bool
  | [], [] => true
  | (leftKey, left) :: leftRest, (rightKey, right) :: rightRest =>
      decide (leftKey = rightKey) && same left right
        && sameFields leftRest rightRest
  | _, _ => false

end

mutual

theorem same_iff : (left right : Value) → (same left right = true ↔ left = right)
  | .null, right => by cases right <;> simp [same]
  | .bool _, right => by cases right <;> simp [same]
  | .integer _, right => by cases right <;> simp [same]
  | .double _, right => by cases right <;> simp [same]
  | .string _, right => by cases right <;> simp [same]
  | .array left, right => by
      cases right <;> simp [same, sameItems_iff left]
  | .object left, right => by
      cases right <;> simp [same, sameFields_iff left]

theorem sameItems_iff :
    (left right : List Value) → (sameItems left right = true ↔ left = right)
  | [], right => by cases right <;> simp [sameItems]
  | left :: leftRest, right => by
      cases right <;>
        simp [sameItems, same_iff left, sameItems_iff leftRest]

theorem sameFields_iff :
    (left right : List (String × Value)) →
      (sameFields left right = true ↔ left = right)
  | [], right => by cases right <;> simp [sameFields]
  | (_, left) :: leftRest, right => by
      cases right <;>
        simp [sameFields, same_iff left, sameFields_iff leftRest, Prod.ext_iff]

end

instance : DecidableEq Value := fun left right =>
  decidable_of_iff (same left right = true) (same_iff left right)

mutual

/-- Every object in the tree lists each key once, in increasing order. -/
def Canonical : Value → Prop
  | .array items => CanonicalItems items
  | .object fields => Entries.Sorted fields ∧ CanonicalFields fields
  | _ => True

def CanonicalItems : List Value → Prop
  | [] => True
  | item :: rest => Canonical item ∧ CanonicalItems rest

def CanonicalFields : List (String × Value) → Prop
  | [] => True
  | (_, value) :: rest => Canonical value ∧ CanonicalFields rest

end

mutual

/-- How many arrays and objects enclose the innermost place of the tree. -/
def depth : Value → Nat
  | .array items => depthItems items + 1
  | .object fields => depthFields fields + 1
  | _ => 0

def depthItems : List Value → Nat
  | [] => 0
  | item :: rest => max (depth item) (depthItems rest)

def depthFields : List (String × Value) → Nat
  | [] => 0
  | (_, value) :: rest => max (depth value) (depthFields rest)

end

end Value

end Json

/-- A JSON value whose objects list each key once, in increasing order. -/
structure Json where
  value : Json.Value
  /-- The order of keys in its objects. -/
  canonical : value.Canonical

namespace Json

@[ext]
theorem ext {left right : Json} (sameValue : left.value = right.value) :
    left = right := by
  cases left
  cases right
  simpa using sameValue

instance : DecidableEq Json := fun left right =>
  decidable_of_iff (left.value = right.value) ⟨ext, fun equal => equal ▸ rfl⟩

/-- The value that is nothing. -/
def null : Json := ⟨.null, trivial⟩

instance : Inhabited Json := ⟨null⟩

/-- A truth value. -/
def bool (truth : Bool) : Json := ⟨.bool truth, trivial⟩

/-- An exact integer. -/
def integer (number : Integer) : Json := ⟨.integer number, trivial⟩

/-- The integer that a 32-bit word stands for. -/
def word (word : UInt32) : Json := integer (Integer.ofWord word)

/-- A number that is not an exact integer. -/
def double (number : Double) : Json := ⟨.double number, trivial⟩

/-- A text. -/
def string (text : String) : Json := ⟨.string text, trivial⟩

/-- The raw trees of a list of values. -/
def values (items : List Json) : List Value := items.map Json.value

theorem canonicalItems_values (items : List Json) :
    Value.CanonicalItems (values items) := by
  induction items with
  | nil => trivial
  | cons item rest ih => exact ⟨item.canonical, ih⟩

theorem canonicalFields_mapValues (fields : List (String × Json)) :
    Value.CanonicalFields (Entries.mapValues Json.value fields) := by
  induction fields with
  | nil => trivial
  | cons field rest ih => exact ⟨field.2.canonical, ih⟩

/-- A list of values. -/
def array (items : List Json) : Json :=
  ⟨.array (values items), canonicalItems_values items⟩

/-- An object with the given fields. -/
def object (fields : KeyMap Json) : Json :=
  ⟨.object (Entries.mapValues Json.value fields.entries),
    ⟨Entries.sorted_mapValues fields.sorted,
      canonicalFields_mapValues fields.entries⟩⟩

/-- What a value looks like from outside. -/
inductive View where
  | null
  | bool (truth : Bool)
  | integer (number : Integer)
  | double (number : Double)
  | string (text : String)
  | array (items : List Json)
  | object (fields : KeyMap Json)
deriving DecidableEq

/-- The value that looks so. -/
def View.toJson : View → Json
  | .null => Json.null
  | .bool truth => Json.bool truth
  | .integer number => Json.integer number
  | .double number => Json.double number
  | .string text => Json.string text
  | .array items => Json.array items
  | .object fields => Json.object fields

/-- The items of a canonical array, each with its own evidence. -/
def itemsOf : (items : List Value) → Value.CanonicalItems items → List Json
  | [], _ => []
  | item :: rest, canonical =>
      ⟨item, canonical.1⟩ :: itemsOf rest canonical.2

/-- The fields of a canonical object, each with its own evidence. -/
def fieldsOf :
    (fields : List (String × Value)) →
      Value.CanonicalFields fields → List (String × Json)
  | [], _ => []
  | (key, value) :: rest, canonical =>
      (key, ⟨value, canonical.1⟩) :: fieldsOf rest canonical.2

@[simp]
theorem values_itemsOf :
    (items : List Value) → (canonical : Value.CanonicalItems items) →
      values (itemsOf items canonical) = items
  | [], _ => rfl
  | item :: rest, canonical => by
      simpa [itemsOf, values] using values_itemsOf rest canonical.2

@[simp]
theorem mapValues_fieldsOf :
    (fields : List (String × Value)) →
      (canonical : Value.CanonicalFields fields) →
      Entries.mapValues Json.value (fieldsOf fields canonical) = fields
  | [], _ => rfl
  | (key, value) :: rest, canonical => by
      simpa [fieldsOf, Entries.mapValues] using
        mapValues_fieldsOf rest canonical.2

@[simp]
theorem itemsOf_values (items : List Json)
    (canonical : Value.CanonicalItems (values items)) :
    itemsOf (values items) canonical = items := by
  induction items with
  | nil => rfl
  | cons item rest ih =>
      have tail := ih (canonicalItems_values rest)
      simp only [values] at tail
      simp [itemsOf, values, tail]

@[simp]
theorem fieldsOf_mapValues (fields : List (String × Json))
    (canonical :
      Value.CanonicalFields (Entries.mapValues Json.value fields)) :
    fieldsOf (Entries.mapValues Json.value fields) canonical = fields := by
  induction fields with
  | nil => rfl
  | cons field rest ih =>
      have tail := ih (canonicalFields_mapValues rest)
      simp only [Entries.mapValues] at tail
      simp [fieldsOf, Entries.mapValues, tail]

theorem sorted_fieldsOf
    {fields : List (String × Value)} (sorted : Entries.Sorted fields)
    (canonical : Value.CanonicalFields fields) :
    Entries.Sorted (fieldsOf fields canonical) := by
  have sameKeys :
      Entries.keys (fieldsOf fields canonical) = Entries.keys fields := by
    rw [← Entries.keys_mapValues Json.value, mapValues_fieldsOf]
  simpa [Entries.Sorted, sameKeys] using sorted

theorem canonicalItems_of_array
    {items : List Value} (canonical : (Value.array items).Canonical) :
    Value.CanonicalItems items := canonical

/-- The view of a raw tree that is canonical. -/
def viewOf : (value : Value) → value.Canonical → View
  | .null, _ => .null
  | .bool truth, _ => .bool truth
  | .integer number, _ => .integer number
  | .double number, _ => .double number
  | .string text, _ => .string text
  | .array items, canonical =>
      .array (itemsOf items (canonicalItems_of_array canonical))
  | .object fields, canonical =>
      .object ⟨fieldsOf fields canonical.2,
        sorted_fieldsOf canonical.1 canonical.2⟩

/-- What a value looks like from outside. -/
def view (json : Json) : View := viewOf json.value json.canonical

@[simp]
theorem toJson_view (json : Json) : json.view.toJson = json := by
  obtain ⟨value, canonical⟩ := json
  apply ext
  cases value <;>
    simp [view, viewOf, View.toJson, Json.null, Json.bool, Json.integer,
      Json.double, Json.string, Json.array, Json.object]

@[simp]
theorem view_toJson (view : View) : view.toJson.view = view := by
  cases view <;>
    simp [Json.view, viewOf, View.toJson, Json.null, Json.bool, Json.integer,
      Json.double, Json.string, Json.array, Json.object]

/-- The text, of a value that is one. -/
def asString? (json : Json) : Option String :=
  match json.view with
  | .string text => some text
  | _ => none

/-- The truth, of a value that is one. -/
def asBool? (json : Json) : Option Bool :=
  match json.view with
  | .bool truth => some truth
  | _ => none

/-- The kinds of values that an error tells apart. -/
inductive Kind where
  | null
  | bool
  | number
  | string
  | array
  | object
deriving DecidableEq

/-- How errors name a kind. -/
def Kind.name : Kind → String
  | .null => "null"
  | .bool => "bool"
  | .number => "number"
  | .string => "string"
  | .array => "array"
  | .object => "object"

/-- The kind of a value. -/
def kind (json : Json) : Kind :=
  match json.view with
  | .null => .null
  | .bool _ => .bool
  | .integer _ => .number
  | .double _ => .number
  | .string _ => .string
  | .array _ => .array
  | .object _ => .object

/-- How many arrays and objects enclose the innermost place of the value. -/
def depth (json : Json) : Nat := json.value.depth

end Json

end BuildWatch
