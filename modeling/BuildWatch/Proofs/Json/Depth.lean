import BuildWatch.Proofs.Json.RoundTrip

/-!
# How deep a text can nest

Whatever text the reader is given, the value that it reads is nested no
deeper than the reader was told to go.  A value that was read can therefore
be written and read again.
-/

namespace BuildWatch

namespace KeyMap

variable {α : Type}

/-- What holds of all values of a list of bindings holds in their map. -/
theorem forall_mem_ofList
    {holds : α → Prop} {bindings : List (String × α)}
    (all : ∀ binding ∈ bindings, holds binding.2) :
    ∀ entry ∈ (ofList bindings).entries, holds entry.2 := by
  have grows :
      ∀ (later : List (String × α)) (earlier : KeyMap α),
        (∀ binding ∈ later, holds binding.2) →
          (∀ entry ∈ earlier.entries, holds entry.2) →
            ∀ entry ∈ (later.foldl
              (fun map binding => map.insert binding.1 binding.2)
              earlier).entries, holds entry.2 := by
    intro later
    induction later with
    | nil => exact fun earlier _ held => held
    | cons binding rest ih =>
        intro earlier new held
        exact ih (earlier.insert binding.1 binding.2)
          (fun other member => new other (List.mem_cons_of_mem _ member))
          (forall_mem_insert held (new binding List.mem_cons_self))
  exact grows bindings empty all (by simp [empty])

end KeyMap

namespace Json

/-- A field of an object is nested less deeply than the object. -/
theorem depth_lt_of_get?
    {fields : KeyMap Json} {key : String} {value : Json}
    (found : fields.get? key = some value) :
    value.depth < (object fields).depth := by
  have least :=
    depthFields_mapValues_le_iff.mp
      (Nat.le_refl (Value.depthFields
        (Entries.mapValues Json.value fields.entries)))
      (key, value) (Entries.mem_of_find?_eq_some found)
  exact Nat.lt_succ_of_le least

/-- A number is not nested. -/
theorem depth_of_toJson?
    {numeral : Numeral} {json : Json} (found : numeral.toJson? = some json) :
    json.depth = 0 := by
  unfold Numeral.toJson? at found
  split at found
  next number _ =>
    cases found
    rfl
  next =>
    obtain ⟨number, _, rfl⟩ := Option.map_eq_some_iff.mp found
    rfl

/-! ## What is read -/

/-- What a reader of values must not exceed, with so many steps left. -/
structure Bounded (fuel : Nat) : Prop where
  value :
    ∀ {depth : Nat} {text rest : List Char} {json : Json},
      readValue fuel depth text = some (json, rest) → json.depth ≤ depth
  items :
    ∀ {depth : Nat} {text rest : List Char} {items : List Json},
      readItems fuel depth text = some (items, rest) →
        ∀ item ∈ items, item.depth ≤ depth
  fields :
    ∀ {depth : Nat} {text rest : List Char} {fields : List (String × Json)},
      readFields fuel depth text = some (fields, rest) →
        ∀ field ∈ fields, field.2.depth ≤ depth

theorem Bounded.readValue_succ
    {fuel depth : Nat} {text rest : List Char} {json : Json}
    (bounded : Bounded fuel)
    (read : readValue (fuel + 1) depth text = some (json, rest)) :
    json.depth ≤ depth := by
  rw [readValue] at read
  split at read
  next =>
    cases read
    exact Nat.zero_le depth
  next =>
    cases read
    exact Nat.zero_le depth
  next =>
    cases read
    exact Nat.zero_le depth
  next =>
    obtain ⟨⟨characters, following⟩, _, result⟩ :=
      Option.bind_eq_some_iff.mp read
    cases result
    exact Nat.zero_le depth
  next =>
    split at read
    next => simp at read
    next inner =>
      split at read
      next =>
        cases read
        exact Nat.succ_le_succ (Nat.zero_le inner)
      next =>
        obtain ⟨⟨items, following⟩, readAll, result⟩ :=
          Option.bind_eq_some_iff.mp read
        cases result
        exact depth_array_le (bounded.items readAll)
  next =>
    split at read
    next => simp at read
    next inner =>
      split at read
      next =>
        cases read
        exact Nat.succ_le_succ (Nat.zero_le inner)
      next =>
        obtain ⟨⟨fields, following⟩, readAll, result⟩ :=
          Option.bind_eq_some_iff.mp read
        cases result
        apply depth_object_le
        exact @KeyMap.forall_mem_ofList Json (·.depth ≤ inner) fields
          (bounded.fields readAll)
  next =>
    obtain ⟨⟨numeral, following⟩, _, isNumber⟩ :=
      Option.bind_eq_some_iff.mp read
    obtain ⟨number, found, result⟩ := Option.bind_eq_some_iff.mp isNumber
    cases result
    rw [depth_of_toJson? found]
    exact Nat.zero_le depth

theorem Bounded.readItems_succ
    {fuel depth : Nat} {text rest : List Char} {items : List Json}
    (bounded : Bounded fuel)
    (read : readItems (fuel + 1) depth text = some (items, rest)) :
    ∀ item ∈ items, item.depth ≤ depth := by
  rw [readItems] at read
  obtain ⟨⟨first, behind⟩, readFirst, more⟩ := Option.bind_eq_some_iff.mp read
  have head : first.depth ≤ depth := bounded.value readFirst
  dsimp only at more
  split at more
  next =>
    cases more
    simpa using head
  next =>
    obtain ⟨⟨others, following⟩, readOthers, result⟩ :=
      Option.bind_eq_some_iff.mp more
    cases result
    simpa [head] using bounded.items readOthers
  next => simp at more

theorem Bounded.readFields_succ
    {fuel depth : Nat} {text rest : List Char}
    {fields : List (String × Json)} (bounded : Bounded fuel)
    (read : readFields (fuel + 1) depth text = some (fields, rest)) :
    ∀ field ∈ fields, field.2.depth ≤ depth := by
  rw [readFields] at read
  obtain ⟨⟨key, behindKey⟩, _, readRest⟩ := Option.bind_eq_some_iff.mp read
  obtain ⟨⟨first, behind⟩, readFirst, more⟩ :=
    Option.bind_eq_some_iff.mp readRest
  have head : first.depth ≤ depth := bounded.value readFirst
  dsimp only at more
  split at more
  next =>
    cases more
    simpa using head
  next =>
    obtain ⟨⟨others, following⟩, readOthers, result⟩ :=
      Option.bind_eq_some_iff.mp more
    cases result
    intro field member
    rcases List.mem_cons.mp member with rfl | other
    · exact head
    · exact bounded.fields readOthers field other
  next => simp at more

theorem bounded (fuel : Nat) : Bounded fuel := by
  induction fuel with
  | zero =>
      -- Without fuel nothing is read.
      refine ⟨?value, ?items, ?fields⟩
      case value =>
        intro depth text rest json read
        simp [readValue] at read
      case items =>
        intro depth text rest items read
        simp [readItems] at read
      case fields =>
        intro depth text rest fields read
        simp [readFields] at read
  | succ fuel ih =>
      exact ⟨ih.readValue_succ, ih.readItems_succ, ih.readFields_succ⟩

/-- A text never stands for a value that is nested too deeply. -/
theorem depth_le_of_parse?
    {text : String} {json : Json} (parsed : parse? text = some json) :
    json.depth ≤ maximumDepth := by
  obtain ⟨⟨value, rest⟩, read, ended⟩ := Option.bind_eq_some_iff.mp parsed
  dsimp only at ended
  split at ended
  next =>
    cases ended
    exact (bounded _).value read
  next => simp at ended

end Json

end BuildWatch
