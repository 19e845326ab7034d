/-!
# Maps keyed by text

A map is the list of its entries in strictly increasing order of their keys,
compared by code points.  Two maps with the same bindings are therefore
equal, and the order in which a map is written down never depends on the
order in which it was built.
-/

namespace BuildWatch

namespace Entries

variable {α β : Type}

/-- The keys of a list of entries, in the order of the list. -/
def keys (entries : List (String × α)) : List String :=
  entries.map Prod.fst

/-- Strictly increasing keys. -/
def Sorted (entries : List (String × α)) : Prop :=
  (keys entries).Pairwise (· < ·)

instance (entries : List (String × α)) : Decidable (Sorted entries) :=
  inferInstanceAs (Decidable ((keys entries).Pairwise (· < ·)))

/-- Binds `key` to `value`, in the place that the order of keys gives it. -/
def insert (key : String) (value : α) :
    List (String × α) → List (String × α)
  | [] => [(key, value)]
  | (other, bound) :: rest =>
      if key < other then (key, value) :: (other, bound) :: rest
      else if key = other then (key, value) :: rest
      else (other, bound) :: insert key value rest

/-- The value bound to `key`. -/
def find? (key : String) : List (String × α) → Option α
  | [] => none
  | (other, bound) :: rest =>
      if key = other then some bound else find? key rest

theorem mem_keys_insert
    {key member : String} {value : α} {entries : List (String × α)} :
    member ∈ keys (insert key value entries) ↔
      member = key ∨ member ∈ keys entries := by
  induction entries with
  | nil => simp [insert, keys]
  | cons entry rest ih =>
      obtain ⟨other, bound⟩ := entry
      simp only [insert]
      split
      · simp [keys]
      · split
        · rename_i equal
          subst equal
          simp [keys]
        · simp only [keys, List.map_cons, List.mem_cons] at ih ⊢
          rw [ih]
          constructor
          · rintro (isOther | isKey | inRest)
            · exact .inr (.inl isOther)
            · exact .inl isKey
            · exact .inr (.inr inRest)
          · rintro (isKey | isOther | inRest)
            · exact .inr (.inl isKey)
            · exact .inl isOther
            · exact .inr (.inr inRest)

theorem lt_of_not_lt_of_ne
    {left right : String} (notLess : ¬ left < right) (notEqual : left ≠ right) :
    right < left := by
  rcases Decidable.em (right < left) with less | notGreater
  · exact less
  · exact absurd
      (String.le_antisymm (String.not_lt.mp notGreater)
        (String.not_lt.mp notLess))
      notEqual

theorem sorted_insert
    {key : String} {value : α} {entries : List (String × α)}
    (sorted : Sorted entries) :
    Sorted (insert key value entries) := by
  induction entries with
  | nil => simp [insert, Sorted, keys]
  | cons entry rest ih =>
      obtain ⟨other, bound⟩ := entry
      have above : ∀ member ∈ keys rest, other < member :=
        (List.pairwise_cons.mp sorted).1
      have sortedRest : Sorted rest := (List.pairwise_cons.mp sorted).2
      simp only [insert]
      split
      · rename_i less
        refine List.pairwise_cons.mpr ⟨?_, sorted⟩
        intro member membership
        rcases List.mem_cons.mp membership with isOther | inRest
        · exact isOther ▸ less
        · exact String.lt_trans less (above member inRest)
      · split
        · rename_i equal
          subst equal
          exact List.pairwise_cons.mpr ⟨above, sortedRest⟩
        · rename_i notLess notEqual
          refine List.pairwise_cons.mpr ⟨?_, ih sortedRest⟩
          intro member membership
          rcases mem_keys_insert.mp membership with isKey | inRest
          · exact isKey ▸ lt_of_not_lt_of_ne notLess notEqual
          · exact above member inRest

/-- Values changed one by one, keys kept. -/
def mapValues (change : α → β) (entries : List (String × α)) :
    List (String × β) :=
  entries.map fun entry => (entry.1, change entry.2)

@[simp]
theorem keys_mapValues (change : α → β) (entries : List (String × α)) :
    keys (mapValues change entries) = keys entries := by
  simp [keys, mapValues, Function.comp_def]

theorem sorted_mapValues
    {change : α → β} {entries : List (String × α)} (sorted : Sorted entries) :
    Sorted (mapValues change entries) := by
  simpa [Sorted] using sorted

theorem sorted_filter
    {keep : String × α → Bool} {entries : List (String × α)}
    (sorted : Sorted entries) :
    Sorted (entries.filter keep) :=
  List.Pairwise.sublist (List.filter_sublist.map _) sorted

/--
Reads every value in the order of the entries, up to the first that cannot be
read; the keys stay.
-/
def traverse {ε : Type} (read : α → Except ε β) :
    (entries : List (String × α)) →
      Except ε { result : List (String × β) // keys result = keys entries }
  | [] => .ok ⟨[], rfl⟩
  | (key, value) :: rest => do
      let first ← read value
      let ⟨following, sameKeys⟩ ← traverse read rest
      pure ⟨(key, first) :: following, by
        simp only [keys, List.map_cons] at sameKeys ⊢
        rw [sameKeys]⟩

end Entries

/-- A finite map keyed by text. -/
structure KeyMap (α : Type) where
  /-- The bindings, each key once, in increasing order. -/
  entries : List (String × α)
  /-- The order of the bindings. -/
  sorted : Entries.Sorted entries

namespace KeyMap

variable {α β : Type}

@[ext]
theorem ext {left right : KeyMap α}
    (sameEntries : left.entries = right.entries) : left = right := by
  cases left
  cases right
  simpa using sameEntries

instance [DecidableEq α] : DecidableEq (KeyMap α) := fun left right =>
  decidable_of_iff (left.entries = right.entries)
    ⟨ext, fun equal => equal ▸ rfl⟩

/-- The map without bindings. -/
def empty : KeyMap α :=
  ⟨[], List.Pairwise.nil⟩

instance : Inhabited (KeyMap α) := ⟨empty⟩

/-- Binds a key, replacing what it was bound to. -/
def insert (map : KeyMap α) (key : String) (value : α) : KeyMap α :=
  ⟨Entries.insert key value map.entries, Entries.sorted_insert map.sorted⟩

/-- What a key is bound to. -/
def get? (map : KeyMap α) (key : String) : Option α :=
  Entries.find? key map.entries

/-- The keys that are bound, in their order. -/
def keys (map : KeyMap α) : List String :=
  Entries.keys map.entries

/-- Whether there are no bindings. -/
def isEmpty (map : KeyMap α) : Bool :=
  map.entries.isEmpty

/-- The map of a list of bindings, of which the last for a key counts. -/
def ofList (bindings : List (String × α)) : KeyMap α :=
  bindings.foldl (fun map binding => map.insert binding.1 binding.2) empty

/-- The map with every value changed. -/
def map (change : α → β) (bindings : KeyMap α) : KeyMap β :=
  ⟨Entries.mapValues change bindings.entries,
    Entries.sorted_mapValues bindings.sorted⟩

/-- The bindings whose key passes a test. -/
def filterKeys (keep : String → Bool) (bindings : KeyMap α) : KeyMap α :=
  ⟨bindings.entries.filter (fun entry => keep entry.1),
    Entries.sorted_filter bindings.sorted⟩

/-- The map without the binding of a key. -/
def erase (bindings : KeyMap α) (key : String) : KeyMap α :=
  bindings.filterKeys (· ≠ key)

/-- Every value read in the order of keys, up to the first that cannot be. -/
def traverse {ε : Type} (read : α → Except ε β) (bindings : KeyMap α) :
    Except ε (KeyMap β) := do
  let ⟨entries, sameKeys⟩ ← Entries.traverse read bindings.entries
  pure ⟨entries, by
    have sorted := bindings.sorted
    rwa [Entries.Sorted, ← sameKeys] at sorted⟩

end KeyMap

end BuildWatch
