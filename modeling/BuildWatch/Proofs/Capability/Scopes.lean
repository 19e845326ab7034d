import BuildWatch.Capability
import BuildWatch.Proofs.Json.Views
import Mathlib.Data.Set.List

/-!
# Lists of scopes

A list names scopes up to an entry that is no name of one.  Without such an
entry the scopes are kept in the order in which they are named first; with
one, the list is refused for the first of them.
-/

namespace BuildWatch

section Duplicates

variable {α : Type} [BEq α] [LawfulBEq α]

theorem nodup_eraseDups (list : List α) : list.eraseDups.Nodup := by
  match list with
  | [] => exact List.nodup_nil
  | item :: rest =>
      rw [List.eraseDups_cons, List.nodup_cons, List.mem_eraseDups]
      exact ⟨by simp, nodup_eraseDups (rest.filter fun other => !other == item)⟩
termination_by list.length
decreasing_by exact Nat.lt_succ_of_le (List.length_filter_le _ _)

theorem eraseDups_eq_self {list : List α} (distinct : list.Nodup) :
    list.eraseDups = list := by
  induction list with
  | nil => rfl
  | cons item rest ih =>
      obtain ⟨new, distinctRest⟩ := List.nodup_cons.mp distinct
      have others : rest.filter (fun other => !other == item) = rest := by
        refine List.filter_eq_self.mpr fun other member => ?_
        have different : other ≠ item := fun same => new (same ▸ member)
        simpa using different
      rw [List.eraseDups_cons, others, ih distinctRest]

end Duplicates

namespace Capabilities

/-! ## Lists of scopes -/

/-- Whether a value is the name of a scope. -/
def IsScopeName (json : Json) : Prop :=
  json = Json.string "sources" ∨ json = Json.string "runfiles"

theorem isScopeName_iff {json : Json} :
    IsScopeName json ↔ ∃ scope : Scope, json = Json.string scope.name := by
  constructor
  · rintro (rfl | rfl)
    · exact ⟨.sources, rfl⟩
    · exact ⟨.runfiles, rfl⟩
  · rintro ⟨scope, rfl⟩
    cases scope
    · exact .inl rfl
    · exact .inr rfl

theorem exists_requested_iff {entries : List Json} :
    (∃ requested : List Scope,
        entries = requested.map fun scope => Json.string scope.name) ↔
      ∀ entry ∈ entries, IsScopeName entry := by
  have named entry :
      (∃ scope : Scope, Json.string scope.name = entry) ↔
        IsScopeName entry := by
    simp only [isScopeName_iff, eq_comm]
  have listed := Set.ext_iff.mp
    (Set.range_list_map fun scope : Scope => Json.string scope.name) entries
  simpa only [Set.mem_range, Set.mem_ofPred_eq, named, @eq_comm _ entries]
    using listed

theorem ofName?_eq_none_iff {name : String} :
    Scope.ofName? name = none ↔ ¬ IsScopeName (Json.string name) := by
  rw [isScopeName_iff, Option.eq_none_iff_forall_ne_some]
  simp only [ne_eq, Scope.ofName?_eq_some_iff, Json.string_inj, not_exists,
    @eq_comm _ name]

/-- What is wrong with an entry that is no name of a scope. -/
inductive EntryOffends : Json → CapabilityError → Prop where
  | notAString {entry : Json} {found : Json.Kind}
      (other : ∀ text, entry ≠ Json.string text)
      (named : entry.TypeName found.name) :
      EntryOffends entry (.scopeEntryNotAString found)
  | unknown {name : String} (unknown : ¬ IsScopeName (Json.string name)) :
      EntryOffends (Json.string name) (.unknownScope name)

theorem readScopes_offence
    {entry : Json} {error : CapabilityError}
    (offends : EntryOffends entry error) (known : List Scope)
    (rest : List Json) :
    readScopes known (entry :: rest) = .error error := by
  rw [readScopes]
  cases offends with
  | notAString other named =>
      obtain rfl := Json.typeName_iff.mp named
      split
      next => rfl
      next name text =>
        exact absurd (Json.asString?_eq_some_iff.mp text) (other name)
  | unknown unknown =>
      simp only [Json.asString?_string, ofName?_eq_none_iff.mpr unknown]

/-- A list is one of names, or has an entry behind names that is none. -/
theorem names_or_offends (entries : List Json) :
    (∃ requested : List Scope,
        entries = requested.map fun scope => Json.string scope.name) ∨
      ∃ (requested : List Scope) (entry : Json) (error : CapabilityError)
        (after : List Json),
        entries = (requested.map fun scope => Json.string scope.name) ++
            entry :: after ∧
          EntryOffends entry error := by
  induction entries with
  | nil => exact .inl ⟨[], rfl⟩
  | cons entry rest ih =>
      by_cases named : IsScopeName entry
      · obtain ⟨scope, rfl⟩ := isScopeName_iff.mp named
        rcases ih with
          ⟨requested, rfl⟩ | ⟨requested, later, error, after, rfl, offends⟩
        · exact .inl ⟨scope :: requested, rfl⟩
        · exact .inr ⟨scope :: requested, later, error, after, rfl, offends⟩
      · refine .inr ⟨[], entry, ?_⟩
        cases text : entry.asString? with
        | none =>
            refine ⟨_, rest, rfl, .notAString (fun other same => ?_)
              (Json.typeName_kind entry)⟩
            rw [Json.asString?_eq_some_iff.mpr same] at text
            cases text
        | some name =>
            obtain rfl := Json.asString?_eq_some_iff.mp text
            exact ⟨_, rest, rfl, .unknown named⟩

theorem eraseDups_append_cons_of_mem
    {known : List Scope} {scope : Scope} (member : scope ∈ known)
    (rest : List Scope) :
    (known ++ scope :: rest).eraseDups = (known ++ rest).eraseDups := by
  rw [List.eraseDups_append, List.eraseDups_append, List.cons_removeAll]
  simp [member]

/-- Names are read into the scopes that they name, each where it is first. -/
theorem readScopes_append
    {known : List Scope} (kept : known.eraseDups = known)
    (requested : List Scope) (rest : List Json) :
    readScopes known
        ((requested.map fun scope => Json.string scope.name) ++ rest) =
      readScopes (known ++ requested).eraseDups rest := by
  induction requested generalizing known with
  | nil => simp [kept]
  | cons scope more ih =>
      rw [List.map_cons, List.cons_append, readScopes]
      simp only [Json.asString?_string, Scope.ofName?_name]
      split
      next member =>
        rw [ih kept, eraseDups_append_cons_of_mem member]
      next new =>
        have keeps : (known ++ [scope]).eraseDups = known ++ [scope] := by
          rw [List.eraseDups_append, kept, List.cons_removeAll]
          simp [new, List.eraseDups_cons]
        rw [ih keeps, List.append_assoc, List.singleton_append]

theorem readScopes_listed (requested : List Scope) :
    readScopes [] (requested.map fun scope => Json.string scope.name) =
      .ok requested.eraseDups := by
  have kept : ([] : List Scope).eraseDups = [] := rfl
  have read := readScopes_append kept requested []
  simpa only [List.append_nil, List.nil_append, readScopes] using read

theorem readScopes_append_offence
    {requested : List Scope} {entry : Json} {error : CapabilityError}
    {after : List Json} (offends : EntryOffends entry error) :
    readScopes []
        ((requested.map fun scope => Json.string scope.name) ++
          entry :: after) =
      .error error := by
  rw [readScopes_append rfl, readScopes_offence offends]

/-! ## Scopes -/

theorem listToJson_eq (requested : List Scope) :
    Scope.listToJson requested =
      Json.array (requested.map fun scope => Json.string scope.name) :=
  rfl

/-- Names of scopes are read as the scopes that they name. -/
theorem readScopeList_listed {requested : List Scope} (inhabited : requested ≠ []) :
    readScopeList (Scope.listToJson requested) = .ok requested.eraseDups := by
  obtain ⟨first, rest, rfl⟩ := List.exists_cons_of_ne_nil inhabited
  simp only [readScopeList, listToJson_eq, Json.view_array, readScopes_listed]
  simp [bind, Except.bind, List.eraseDups_cons]

/-- What is wrong with a value that does not list scopes. -/
inductive ListOffends : Json → CapabilityError → Prop where
  | notAList {json : Json} {found : Json.Kind}
      (other : ∀ items, json ≠ Json.array items)
      (named : json.TypeName found.name) :
      ListOffends json (.scopeNotAList found)
  | entry {before : List Json} {entry : Json} {error : CapabilityError}
      {after : List Json} (named : ∀ other ∈ before, IsScopeName other)
      (offends : EntryOffends entry error) :
      ListOffends (Json.array (before ++ entry :: after)) error
  | empty : ListOffends (Json.array []) .emptyScope

theorem readScopeList_of_offends
    {json : Json} {error : CapabilityError} (offends : ListOffends json error) :
    readScopeList json = .error error := by
  cases offends with
  | notAList other named =>
      obtain rfl := Json.typeName_iff.mp named
      unfold readScopeList
      split
      next items looks => exact absurd (Json.eq_of_view looks) (other items)
      next => rfl
  | entry named offends =>
      obtain ⟨requested, rfl⟩ := exists_requested_iff.mpr named
      simp only [readScopeList, Json.view_array,
        readScopes_append_offence offends]
      rfl
  | empty =>
      simp only [readScopeList, Json.view_array]
      rfl

/-- A value lists some scopes, or something is wrong with it. -/
theorem lists_or_offends (json : Json) :
    (∃ requested, requested ≠ [] ∧ json = Scope.listToJson requested) ∨
      ∃ error, ListOffends json error := by
  by_cases list : ∃ items, json = Json.array items
  · obtain ⟨items, rfl⟩ := list
    rcases names_or_offends items with
      ⟨requested, rfl⟩ | ⟨requested, entry, error, after, rfl, offends⟩
    · cases requested with
      | nil => exact .inr ⟨_, .empty⟩
      | cons first rest => exact .inl ⟨_, List.cons_ne_nil first rest, rfl⟩
    · have named := exists_requested_iff.mp ⟨requested, rfl⟩
      exact .inr ⟨error, .entry named offends⟩
  · exact .inr ⟨_, .notAList (fun items same => list ⟨items, same⟩)
      (Json.typeName_kind json)⟩

/-- A value is read as scopes exactly if it lists names of scopes. -/
theorem readScopeList_eq_ok_iff {json : Json} {scopes : List Scope} :
    readScopeList json = .ok scopes ↔
      ∃ requested, requested ≠ [] ∧ json = Scope.listToJson requested ∧
        scopes = requested.eraseDups := by
  constructor
  · intro read
    rcases lists_or_offends json with
      ⟨requested, inhabited, rfl⟩ | ⟨error, offends⟩
    · rw [readScopeList_listed inhabited] at read
      cases read
      exact ⟨requested, inhabited, rfl, rfl⟩
    · rw [readScopeList_of_offends offends] at read
      cases read
  · rintro ⟨requested, inhabited, rfl, rfl⟩
    exact readScopeList_listed inhabited

/-- A value is refused for the first thing that is wrong with it. -/
theorem readScopeList_eq_error_iff {json : Json} {error : CapabilityError} :
    readScopeList json = .error error ↔ ListOffends json error := by
  refine ⟨fun refused => ?_, readScopeList_of_offends⟩
  rcases lists_or_offends json with
    ⟨requested, inhabited, rfl⟩ | ⟨wrong, offends⟩
  · rw [readScopeList_listed inhabited] at refused
    cases refused
  · rw [readScopeList_of_offends offends] at refused
    cases refused
    exact offends

end Capabilities

end BuildWatch
