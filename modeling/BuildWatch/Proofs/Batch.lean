import BuildWatch.Batch
import BuildWatch.Proofs.KeyMap.Traversal
import Mathlib.Data.List.DropRight
import Mathlib.Data.List.Forall2
import Mathlib.Data.List.Induction

/-!
# What batches are read from lines

Blank lines split the lines into groups, and every group that is not empty is
a batch.  A batch marks a path as the last line of its group that names the
path says.  The reader holds the batch of the lines behind the last blank one,
so that nothing of a batch is left when the next one starts.
-/

namespace BuildWatch

namespace Blank

/-- A trimmed text starts with no blank. -/
theorem dropWhile_trimList (text : List Char) :
    (trimList text).dropWhile isBlank = trimList text := by
  cases trimmed : trimList text with
  | nil => rfl
  | cons first rest =>
      have inside : trimList text <+: text.dropWhile isBlank :=
        List.rdropWhile_prefix isBlank _
      rw [trimmed] at inside
      obtain ⟨behind, whole⟩ := inside
      have kept : (text.dropWhile isBlank).head? = some first := by
        rw [← whole]
        rfl
      have visible : isBlank first = false := by
        have head := List.head?_dropWhile_not isBlank text
        rw [kept] at head
        simpa using head
      exact List.dropWhile_cons_of_neg (by simp [visible])

/-- Trimming a trimmed text takes nothing away. -/
theorem trimList_trimList (text : List Char) :
    trimList (trimList text) = trimList text := by
  calc trimList (trimList text)
      = trimEnd (trimList text) := by rw [trimList, dropWhile_trimList]
    _ = trimList text := List.rdropWhile_idempotent isBlank _

end Blank

namespace BatchReader

/-! ## Lines -/

/-- Whether nothing is left of a line when it is trimmed. -/
def isBlank (line : String) : Bool := (Blank.trimList line.toList).isEmpty

/-- The path that a line names, and what it marks the path as. -/
inductive Marks (line : String) : String → Option SourceInfo → Prop where
  | deleted {rest : List Char}
      (starts : Blank.trimList line.toList = '-' :: rest) :
      Marks line (Blank.trim (String.ofList rest)) none
  | added {rest : List Char}
      (starts : Blank.trimList line.toList = '+' :: rest) :
      Marks line (Blank.trim (String.ofList rest)) (some SourceInfo.source)
  | bare {first : Char} {rest : List Char}
      (starts : Blank.trimList line.toList = first :: rest)
      (unmarked : first ≠ '-' ∧ first ≠ '+') :
      Marks line (Blank.trim line) (some SourceInfo.source)

/-- A line without a mark in front names a source. -/
theorem change_of_bare
    {first : Char} {rest : List Char} (minus : first ≠ '-')
    (plus : first ≠ '+') :
    change (first :: rest) =
      (String.ofList (Blank.trimList (first :: rest)),
        some SourceInfo.source) := by
  simp [change, minus, plus]

/-- A line marks what is read from it. -/
theorem marks_iff
    {line path : String} {info : Option SourceInfo} {first : Char}
    {rest : List Char}
    (starts : Blank.trimList line.toList = first :: rest) :
    Marks line path info ↔ change (first :: rest) = (path, info) := by
  have whole :
      String.ofList (Blank.trimList (first :: rest)) = Blank.trim line := by
    rw [← starts, Blank.trimList_trimList, Blank.trim]
  constructor
  · intro marks
    cases marks with
    | deleted minus =>
        cases starts.symm.trans minus
        simp [change, Blank.trim]
    | added plus =>
        cases starts.symm.trans plus
        simp [change, Blank.trim]
    | bare same unmarked =>
        cases starts.symm.trans same
        rw [change_of_bare unmarked.1 unmarked.2, whole]
  · intro read
    by_cases minus : first = '-'
    · subst minus
      cases read
      simpa [Blank.trim] using Marks.deleted starts
    · by_cases plus : first = '+'
      · subst plus
        cases read
        simpa [Blank.trim] using Marks.added starts
      · rw [change_of_bare minus plus, whole] at read
        cases read
        exact .bare starts ⟨minus, plus⟩

theorem exists_cons_of_not_isBlank
    {line : String} (visible : isBlank line = false) :
    ∃ first rest, Blank.trimList line.toList = first :: rest :=
  List.exists_cons_of_ne_nil (by simpa [isBlank] using visible)

section Lines

variable {line path : String} {info : Option SourceInfo}

/-- A line that is not blank marks one path, in one way. -/
theorem exists_marks (visible : isBlank line = false) :
    ∃ path info, Marks line path info := by
  obtain ⟨first, rest, starts⟩ := exists_cons_of_not_isBlank visible
  exact ⟨_, _, (marks_iff starts).mpr rfl⟩

theorem Marks.visible (marks : Marks line path info) :
    isBlank line = false := by
  cases marks with
  | deleted starts => simp [isBlank, starts]
  | added starts => simp [isBlank, starts]
  | bare starts unmarked => simp [isBlank, starts]

theorem Marks.unique
    {other : String} {mark : Option SourceInfo}
    (marks : Marks line path info) (also : Marks line other mark) :
    path = other ∧ info = mark := by
  obtain ⟨first, rest, starts⟩ := exists_cons_of_not_isBlank marks.visible
  have read := (marks_iff starts).mp marks
  have again := (marks_iff starts).mp also
  exact Prod.mk.inj (read.symm.trans again)

end Lines

/-! ## Groups -/

/-- The lines behind the last blank one. -/
def unended (lines : List String) : List String :=
  lines.rtakeWhile fun line => !isBlank line

/-- A group says of a path what its last line says that names the path. -/
def Sums (group : List String) (changes : Changes) : Prop :=
  ∀ path info, changes.get? path = some info ↔
    ∃ before line after, group = before ++ line :: after ∧
      Marks line path info ∧ ∀ other ∈ after, ∀ mark, ¬Marks other path mark

section Groups

variable {group : List String} {changes : Changes}

theorem sums_nil : Sums [] KeyMap.empty := by
  intro path info
  simp

theorem Sums.unique {other : Changes}
    (sums : Sums group changes) (also : Sums group other) :
    changes = other := by
  apply KeyMap.ext_get?
  intro path
  apply Option.ext
  intro info
  exact (sums path info).trans (also path info).symm

/-- A line that marks a path has the last word on it, and on no other. -/
theorem Sums.snoc
    {line path : String} {info : Option SourceInfo}
    (sums : Sums group changes) (marks : Marks line path info) :
    Sums (group ++ [line]) (changes.insert path info) := by
  intro other mark
  rw [KeyMap.get?_insert]
  constructor
  · intro found
    split at found
    next same =>
      cases found
      exact ⟨group, line, [], rfl, same ▸ marks, by simp⟩
    next different =>
      obtain ⟨before, named, after, rfl, marked, last⟩ :=
        (sums other mark).mp found
      refine ⟨before, named, after ++ [line], by simp, marked, ?_⟩
      intro later member
      rcases List.mem_append.mp member with inside | final
      · exact last later inside
      · cases List.mem_singleton.mp final
        exact fun _ also => different (also.unique marks).1
  · rintro ⟨before, named, after, parts, marked, last⟩
    induction after using List.reverseRecOn with
    | nil =>
        obtain ⟨rfl, final⟩ := List.append_inj' parts rfl
        cases List.singleton_inj.mp final
        obtain ⟨rfl, rfl⟩ := marked.unique marks
        exact if_pos rfl
    | append_singleton later final _ =>
        rw [← List.cons_append, ← List.append_assoc] at parts
        obtain ⟨rfl, same⟩ := List.append_inj' parts rfl
        cases List.singleton_inj.mp same
        have different : other ≠ path := by
          rintro rfl
          exact last line (by simp) info marks
        rw [if_neg different]
        refine (sums other mark).mpr ⟨before, named, later, rfl, marked, ?_⟩
        exact fun earlier member =>
          last earlier (List.mem_append_left _ member)

/-- A group of lines that are not blank marks something, unless it is empty. -/
theorem Sums.isEmpty_iff
    (sums : Sums group changes)
    (visible : ∀ line ∈ group, isBlank line = false) :
    changes.isEmpty = true ↔ group = [] := by
  induction group using List.reverseRecOn with
  | nil => simp [sums.unique sums_nil, KeyMap.isEmpty, KeyMap.empty]
  | append_singleton earlier line _ =>
      obtain ⟨path, info, marks⟩ := exists_marks (visible line (by simp))
      have found : changes.get? path = some info :=
        (sums path info).mpr ⟨earlier, line, [], rfl, marks, by simp⟩
      have bound : changes.isEmpty ≠ true := by
        intro empty
        have nothing : changes = KeyMap.empty :=
          KeyMap.ext (List.isEmpty_iff.mp empty)
        simp [nothing] at found
      simp [bound]

end Groups

end BatchReader

end BuildWatch
