import BuildWatch.Proofs.KeyMap
import BuildWatch.Proofs.Readings
import Mathlib.Data.List.Nodup
import Mathlib.Data.Option.Basic

/-!
# Maps by what their keys are bound to

Two maps that bind every key alike are the same map.  Reading every value of a
map succeeds exactly if each of them can be read, and binds each key to what
was read for it.  A visit of the entries that only some keys have a part in
is a visit of these keys, in their order.
-/

namespace BuildWatch

namespace Entries

variable {α β ε : Type}

theorem find?_eq_some_of_mem
    {entries : List (String × α)} {key : String} {value : α}
    (sorted : Sorted entries) (member : (key, value) ∈ entries) :
    find? key entries = some value := by
  induction entries with
  | nil => cases member
  | cons entry rest ih =>
      obtain ⟨other, bound⟩ := entry
      have above : ∀ later ∈ keys rest, other < later :=
        (List.pairwise_cons.mp sorted).1
      rcases List.mem_cons.mp member with equal | later
      · cases equal
        simp [find?]
      · have less : other < key := above key (List.mem_map_of_mem later)
        have different : key ≠ other := by
          rintro rfl
          exact String.lt_irrefl _ less
        rw [find?, if_neg different]
        exact ih (List.pairwise_cons.mp sorted).2 later

/-- What was read for a key is what its value was read as. -/
theorem find?_of_traverse
    {read : α → Except ε β} {entries : List (String × α)}
    {result : { result : List (String × β) // keys result = keys entries }}
    (readAll : traverse read entries = .ok result) (key : String) :
    (find? key entries).map read = (find? key result.val).map .ok := by
  induction entries with
  | nil =>
      cases readAll
      rfl
  | cons entry rest ih =>
      obtain ⟨other, bound⟩ := entry
      obtain ⟨first, readFirst, readLater⟩ := bind_eq_ok_iff.mp readAll
      obtain ⟨following, readRest, whole⟩ := bind_eq_ok_iff.mp readLater
      cases whole
      by_cases same : key = other
      · simp [find?, same, readFirst]
      · simpa [find?, same] using ih readRest

theorem exists_traverse
    {read : α → Except ε β} {entries : List (String × α)}
    (readable : ∀ entry ∈ entries, ∃ found, read entry.2 = .ok found) :
    ∃ result, traverse read entries = .ok result := by
  induction entries with
  | nil => exact ⟨_, rfl⟩
  | cons entry rest ih =>
      obtain ⟨first, readFirst⟩ := readable entry List.mem_cons_self
      obtain ⟨following, readRest⟩ :=
        ih fun later member => readable later (List.mem_cons_of_mem _ member)
      exact ⟨_, bind_eq_ok_iff.mpr ⟨first, readFirst,
        bind_eq_ok_iff.mpr ⟨following, readRest, rfl⟩⟩⟩

/-- Entries are refused for the first fault of their values. -/
theorem refusal?_traverse
    {read : α → Except ε β} {wrong : α → List ε}
    (reads : ∀ value, refusal? (read value) = (wrong value).head?)
    (entries : List (String × α)) :
    refusal? (traverse read entries) =
      (entries.flatMap fun entry => wrong entry.2).head? := by
  induction entries with
  | nil => rfl
  | cons entry rest ih =>
      obtain ⟨key, value⟩ := entry
      rw [List.flatMap_cons, List.head?_append, ← reads, ← ih, traverse]
      apply refusal?_bind
      intro found _
      exact refusal?_bind_of_none fun _ => rfl

theorem find?_eq_none_of_below
    {key : String} {entries : List (String × α)}
    (below : ∀ other ∈ keys entries, key < other) :
    find? key entries = none := by
  induction entries with
  | nil => rfl
  | cons entry rest ih =>
      have different : key ≠ entry.1 := by
        intro same
        exact String.lt_irrefl _ (same ▸ below entry.1 List.mem_cons_self)
      rw [find?, if_neg different]
      exact ih fun other member => below other (List.mem_cons_of_mem _ member)

/-- What the part of a key makes of the value that is bound to it. -/
def partOf (parts : List (String × (α → List β))) (entry : String × α) :
    List β :=
  (find? entry.1 parts).elim [] fun part => part entry.2

theorem flatMap_partOf_cons
    {name : String} {part : α → List β}
    {parts : List (String × (α → List β))} {entries : List (String × α)}
    (ordered : Sorted ((name, part) :: parts)) (sorted : Sorted entries) :
    entries.flatMap (partOf ((name, part) :: parts)) =
      (find? name entries).elim [] part ++ entries.flatMap (partOf parts) := by
  have behind : ∀ other ∈ keys parts, name < other :=
    (List.pairwise_cons.mp ordered).1
  induction entries with
  | nil => rfl
  | cons entry rest ih =>
      obtain ⟨key, value⟩ := entry
      have above : ∀ other ∈ keys rest, key < other :=
        (List.pairwise_cons.mp sorted).1
      have later := ih (List.pairwise_cons.mp sorted).2
      rw [List.flatMap_cons, List.flatMap_cons, later]
      by_cases same : key = name
      · subst same
        have alone : find? key parts = none := find?_eq_none_of_below behind
        have once : find? key rest = none := find?_eq_none_of_below above
        simp [partOf, find?, alone, once]
      · have unequal : ¬ name = key := fun equal => same equal.symm
        have own : partOf ((name, part) :: parts) (key, value) =
            partOf parts (key, value) := by
          simp [partOf, find?, same]
        rw [own, find?, if_neg unequal]
        rcases Decidable.em (key < name) with less | notLess
        · -- A key below all parts has no part of its own.
          have none : find? key parts = none :=
            find?_eq_none_of_below fun other member =>
              String.lt_trans less (behind other member)
          simp [partOf, none]
        · -- Behind a key above the first part, that part is not met again.
          have greater : name < key := lt_of_not_lt_of_ne notLess same
          have none : find? name rest = none :=
            find?_eq_none_of_below fun other member =>
              String.lt_trans greater (above other member)
          simp [none]

/--
A visit of entries in the order of their keys, with a part for some keys, is a
visit of these keys in their order.
-/
theorem flatMap_partOf
    {parts : List (String × (α → List β))} {entries : List (String × α)}
    (ordered : Sorted parts) (sorted : Sorted entries) :
    entries.flatMap (partOf parts) =
      parts.flatMap fun part => (find? part.1 entries).elim [] part.2 := by
  induction parts with
  | nil => simp [partOf, find?]
  | cons part rest ih =>
      rw [flatMap_partOf_cons ordered sorted, List.flatMap_cons,
        ih (List.pairwise_cons.mp ordered).2]

end Entries

namespace KeyMap

variable {α β ε : Type}

theorem get?_eq_some_iff {map : KeyMap α} {key : String} {value : α} :
    map.get? key = some value ↔ (key, value) ∈ map.entries :=
  ⟨Entries.mem_of_find?_eq_some, Entries.find?_eq_some_of_mem map.sorted⟩

theorem pairwise_entries (map : KeyMap α) :
    map.entries.Pairwise fun earlier later => earlier.1 < later.1 :=
  List.pairwise_map.mp map.sorted

/-- A map is known by its look-ups. -/
theorem ext_get?
    {left right : KeyMap α}
    (alike : ∀ key, left.get? key = right.get? key) : left = right := by
  have distinct (map : KeyMap α) : map.entries.Nodup := by
    refine map.pairwise_entries.imp ?_
    rintro earlier later less rfl
    exact String.lt_irrefl _ less
  have members : left.entries.Perm right.entries := by
    refine (List.perm_ext_iff_of_nodup (distinct left) (distinct right)).mpr ?_
    rintro ⟨key, value⟩
    rw [← get?_eq_some_iff, ← get?_eq_some_iff, alike]
  refine ext (members.eq_of_pairwise ?_ left.pairwise_entries
    right.pairwise_entries)
  intro earlier later _ _ less greater
  exact absurd (String.lt_trans less greater) (String.lt_irrefl _)

theorem get?_of_traverse
    {read : α → Except ε β} {map : KeyMap α} {result : KeyMap β}
    (readAll : map.traverse read = .ok result) (key : String) :
    (map.get? key).map read = (result.get? key).map .ok := by
  obtain ⟨found, readEntries, whole⟩ := bind_eq_ok_iff.mp readAll
  cases whole
  exact Entries.find?_of_traverse readEntries key

/-- A map is read exactly if each of its values is. -/
theorem exists_traverse_iff {read : α → Except ε β} {map : KeyMap α} :
    (∃ result, map.traverse read = .ok result) ↔
      ∀ entry ∈ map.entries, ∃ found, read entry.2 = .ok found := by
  constructor
  · rintro ⟨result, readAll⟩ ⟨key, value⟩ member
    have found := get?_of_traverse readAll key
    rw [get?_eq_some_iff.mpr member, Option.map_some] at found
    obtain ⟨bound, _, same⟩ := Option.map_eq_some_iff.mp found.symm
    exact ⟨bound, same.symm⟩
  · intro readable
    obtain ⟨found, readAll⟩ := Entries.exists_traverse readable
    exact ⟨_, bind_eq_ok_iff.mpr ⟨found, readAll, rfl⟩⟩

/-- A map is refused for the first fault of its values. -/
theorem refusal?_traverse
    {read : α → Except ε β} {wrong : α → List ε}
    (reads : ∀ value, refusal? (read value) = (wrong value).head?)
    (map : KeyMap α) :
    refusal? (map.traverse read) =
      (map.entries.flatMap fun entry => wrong entry.2).head? := by
  rw [← Entries.refusal?_traverse reads, traverse]
  exact refusal?_bind_of_none fun _ => rfl

/-- Reading a map binds each key to what its value is read as. -/
theorem traverse_eq_ok_iff
    {read : α → Except ε β} {map : KeyMap α} {result : KeyMap β} :
    map.traverse read = .ok result ↔
      ∀ key, (map.get? key).map read = (result.get? key).map .ok := by
  refine ⟨get?_of_traverse, ?_⟩
  intro reads
  have readable : ∀ entry ∈ map.entries, ∃ found, read entry.2 = .ok found := by
    rintro ⟨key, value⟩ member
    have found := reads key
    rw [get?_eq_some_iff.mpr member, Option.map_some] at found
    obtain ⟨bound, _, same⟩ := Option.map_eq_some_iff.mp found.symm
    exact ⟨bound, same.symm⟩
  obtain ⟨outcome, whole⟩ := exists_traverse_iff.mpr readable
  have same : outcome = result := by
    apply ext_get?
    intro key
    have twice := (get?_of_traverse whole key).symm.trans (reads key)
    exact Option.map_injective (fun _ _ equal => Except.ok.inj equal) twice
  rw [whole, same]

end KeyMap

end BuildWatch
