import BuildWatch.KeyMap

/-!
# Laws of maps keyed by text

A map is known by what its keys are bound to.  The laws say what a key is
bound to after a change, which entries a change leaves, and that the bindings
of a map make up the map again.
-/

namespace BuildWatch

namespace Entries

variable {α β : Type}

theorem find?_insert
    (key other : String) (value : α) (entries : List (String × α)) :
    find? other (insert key value entries) =
      if other = key then some value else find? other entries := by
  induction entries with
  | nil =>
      by_cases same : other = key
      · simp [insert, find?, same]
      · simp [insert, find?, same]
  | cons entry rest ih =>
      obtain ⟨head, bound⟩ := entry
      simp only [insert]
      split
      next less =>
        by_cases same : other = key
        · simp [find?, same]
        · simp [find?, same]
      next notLess =>
        split
        next equal =>
          subst equal
          by_cases same : other = key
          · simp [find?, same]
          · simp [find?, same]
        next different =>
          by_cases same : other = key
          · subst same
            simp [find?, different, ih]
          · simp [find?, same, ih]

theorem mem_insert_iff
    {key : String} {value : α} {entries : List (String × α)}
    (sorted : Sorted entries) (entry : String × α) :
    entry ∈ insert key value entries ↔
      entry = (key, value) ∨ (entry ∈ entries ∧ entry.1 ≠ key) := by
  induction entries with
  | nil => simp [insert]
  | cons head rest ih =>
      obtain ⟨other, bound⟩ := head
      have above : ∀ member ∈ keys rest, other < member :=
        (List.pairwise_cons.mp sorted).1
      have behind := ih (List.pairwise_cons.mp sorted).2
      have apart : entry ∈ rest → other < entry.1 := by
        intro member
        exact above entry.1 (List.mem_map_of_mem member)
      simp only [insert]
      split
      next less =>
        have unequal : entry ∈ (other, bound) :: rest → entry.1 ≠ key := by
          rintro member rfl
          rcases List.mem_cons.mp member with equal | later
          · rw [equal] at less
            exact String.lt_irrefl _ less
          · exact String.lt_irrefl _ (String.lt_trans less (apart later))
        constructor
        · intro member
          rcases List.mem_cons.mp member with equal | later
          · exact .inl equal
          · exact .inr ⟨later, unequal later⟩
        · rintro (equal | ⟨member, _⟩)
          · exact equal ▸ List.mem_cons_self
          · exact List.mem_cons_of_mem _ member
      next notLess =>
        split
        next equal =>
          subst equal
          constructor
          · intro member
            rcases List.mem_cons.mp member with equal | later
            · exact .inl equal
            · refine .inr ⟨List.mem_cons_of_mem _ later, ?_⟩
              intro same
              exact String.lt_irrefl _ (same ▸ apart later)
          · rintro (equal | ⟨member, unequal⟩)
            · exact equal ▸ List.mem_cons_self
            · rcases List.mem_cons.mp member with equal | later
              · exact absurd (by rw [equal]) unequal
              · exact List.mem_cons_of_mem _ later
        next different =>
          rw [List.mem_cons, behind, List.mem_cons]
          constructor
          · rintro (equal | equal | ⟨member, unequal⟩)
            · exact .inr ⟨.inl equal, by rw [equal]; exact Ne.symm different⟩
            · exact .inl equal
            · exact .inr ⟨.inr member, unequal⟩
          · rintro (equal | ⟨equal | member, unequal⟩)
            · exact .inr (.inl equal)
            · exact .inl equal
            · exact .inr (.inr ⟨member, unequal⟩)

/-- Binding a key above all others puts it last. -/
theorem insert_of_above
    {key : String} {entries : List (String × α)} (value : α)
    (above : ∀ other ∈ keys entries, other < key) :
    insert key value entries = entries ++ [(key, value)] := by
  induction entries with
  | nil => rfl
  | cons entry rest ih =>
      obtain ⟨other, bound⟩ := entry
      have less : other < key := above other List.mem_cons_self
      have notLess : ¬key < other := fun greater =>
        String.lt_irrefl _ (String.lt_trans less greater)
      have different : key ≠ other := by
        rintro rfl
        exact String.lt_irrefl _ less
      have remaining := ih fun member inside =>
        above member (List.mem_cons_of_mem _ inside)
      rw [insert, if_neg notLess, if_neg different, remaining,
        List.cons_append]

theorem filter_insert
    {key : String} {value : α} {entries : List (String × α)}
    {keep : String → Bool} (dropped : keep key = false) :
    (insert key value entries).filter (fun entry => keep entry.1) =
      entries.filter fun entry => keep entry.1 := by
  induction entries with
  | nil => simp [insert, dropped]
  | cons entry rest ih =>
      obtain ⟨other, bound⟩ := entry
      simp only [insert]
      split
      · simp [dropped]
      · split
        next equal =>
          subst equal
          simp [dropped]
        next different => simp only [List.filter_cons, ih]

theorem find?_filter
    (keep : String → Bool) (key : String) (entries : List (String × α)) :
    find? key (entries.filter fun entry => keep entry.1) =
      if keep key then find? key entries else none := by
  induction entries with
  | nil => simp [find?]
  | cons entry rest ih =>
      obtain ⟨other, bound⟩ := entry
      by_cases same : key = other
      · subst same
        cases kept : keep key <;> simp [find?, kept, ih]
      · cases kept : keep other <;> simp [find?, kept, same, ih]

/-- A value that is found is bound. -/
theorem mem_of_find?_eq_some
    {key : String} {value : α} {entries : List (String × α)}
    (found : find? key entries = some value) : (key, value) ∈ entries := by
  induction entries with
  | nil => simp [find?] at found
  | cons entry rest ih =>
      obtain ⟨other, bound⟩ := entry
      simp only [find?] at found
      split at found
      next same =>
        cases same
        cases found
        exact List.mem_cons_self
      next different => exact List.mem_cons_of_mem _ (ih found)

theorem traverse_mapValues
    {ε : Type} {read : β → Except ε α} {write : α → β}
    (inverse : ∀ value, read (write value) = .ok value)
    (entries : List (String × α)) :
    ∃ sameKeys,
      traverse read (mapValues write entries) = .ok ⟨entries, sameKeys⟩ := by
  induction entries with
  | nil => exact ⟨rfl, rfl⟩
  | cons entry rest ih =>
      obtain ⟨sameKeys, readRest⟩ := ih
      refine ⟨(keys_mapValues write (entry :: rest)).symm, ?_⟩
      change traverse read ((entry.1, write entry.2) :: mapValues write rest)
        = _
      unfold traverse
      rw [inverse]
      simp only [bind, Except.bind]
      rw [readRest]
      rfl

end Entries

namespace KeyMap

variable {α β : Type}

@[simp]
theorem get?_empty (key : String) : (empty : KeyMap α).get? key = none :=
  rfl

theorem get?_insert
    (map : KeyMap α) (key other : String) (value : α) :
    (map.insert key value).get? other =
      if other = key then some value else map.get? other :=
  Entries.find?_insert key other value map.entries

theorem mem_insert_iff
    (map : KeyMap α) (key : String) (value : α) (entry : String × α) :
    entry ∈ (map.insert key value).entries ↔
      entry = (key, value) ∨ (entry ∈ map.entries ∧ entry.1 ≠ key) :=
  Entries.mem_insert_iff map.sorted entry

/-- What holds of all values is kept by one more binding. -/
theorem forall_mem_insert
    {holds : α → Prop} {map : KeyMap α} {key : String} {value : α}
    (all : ∀ entry ∈ map.entries, holds entry.2) (new : holds value) :
    ∀ entry ∈ (map.insert key value).entries, holds entry.2 := by
  intro entry member
  rcases (mem_insert_iff map key value entry).mp member with rfl | ⟨old, _⟩
  · exact new
  · exact all entry old

/-- The bindings of a map make up the map. -/
theorem ofList_entries (map : KeyMap α) : ofList map.entries = map := by
  have grows :
      ∀ (later : List (String × α)) (earlier : KeyMap α),
        Entries.Sorted (earlier.entries ++ later) →
          (later.foldl
            (fun map binding => map.insert binding.1 binding.2)
            earlier).entries = earlier.entries ++ later := by
    intro later
    induction later with
    | nil => simp
    | cons binding rest ih =>
        intro earlier sorted
        have above :
            ∀ other ∈ Entries.keys earlier.entries, other < binding.1 := by
          intro other member
          rw [Entries.Sorted, Entries.keys, List.map_append] at sorted
          exact (List.pairwise_append.mp sorted).2.2 other member binding.1
            List.mem_cons_self
        have placed :
            (earlier.insert binding.1 binding.2).entries =
              earlier.entries ++ [binding] :=
          Entries.insert_of_above binding.2 above
        have remaining := ih (earlier.insert binding.1 binding.2)
        rw [placed] at remaining
        simpa using remaining (by simpa using sorted)
  apply ext
  simpa [ofList, empty] using grows map.entries empty map.sorted

theorem filterKeys_insert
    {map : KeyMap α} {key : String} {value : α} {keep : String → Bool}
    (dropped : keep key = false) :
    (map.insert key value).filterKeys keep = map.filterKeys keep :=
  ext (Entries.filter_insert dropped)

theorem filterKeys_eq_self
    {map : KeyMap α} {keep : String → Bool}
    (kept : ∀ entry ∈ map.entries, keep entry.1 = true) :
    map.filterKeys keep = map :=
  ext (List.filter_eq_self.mpr kept)

theorem get?_filterKeys
    (map : KeyMap α) (keep : String → Bool) (key : String) :
    (map.filterKeys keep).get? key =
      if keep key then map.get? key else none :=
  Entries.find?_filter keep key map.entries

theorem get?_erase (map : KeyMap α) (key other : String) :
    (map.erase key).get? other =
      if other = key then none else map.get? other := by
  simp [erase, get?_filterKeys]

/-- Reading what was written for every key gives the map back. -/
theorem traverse_map
    {ε : Type} {read : β → Except ε α} {write : α → β}
    (inverse : ∀ value, read (write value) = .ok value) (map : KeyMap α) :
    (map.map write).traverse read = .ok map := by
  obtain ⟨sameKeys, readAll⟩ :=
    Entries.traverse_mapValues inverse map.entries
  simp only [traverse, KeyMap.map]
  rw [readAll]
  rfl

end KeyMap

end BuildWatch
