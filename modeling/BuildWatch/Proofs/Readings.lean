/-!
# Readings that may fail

A reading in steps succeeds exactly if all of its steps do, and is refused for
the first step that is.  A list is read item by item, so it is read exactly if
it was written, and is refused for the first item that cannot be read.
-/

namespace BuildWatch

variable {ε α β : Type}

/-! ## Success -/

theorem bind_eq_ok_iff
    {first : Except ε α} {next : α → Except ε β} {result : β} :
    (first >>= next) = .ok result ↔
      ∃ value, first = .ok value ∧ next value = .ok result := by
  cases first with
  | error error => simp [bind, Except.bind]
  | ok value => simp [bind, Except.bind]

section Lists

variable {read : α → Except ε β} {write : β → α}

theorem mapM_map
    (inverse : ∀ item, read (write item) = .ok item) (items : List β) :
    (items.map write).mapM read = .ok items := by
  induction items with
  | nil => rfl
  | cons item rest ih =>
      rw [List.map_cons, List.mapM_cons, inverse, ih]
      rfl

/-- A list is read exactly if it was written. -/
theorem mapM_eq_ok_iff
    (reads : ∀ written item, read written = .ok item ↔ written = write item)
    {items : List α} {results : List β} :
    items.mapM read = .ok results ↔ items = results.map write := by
  constructor
  · intro readAll
    induction items generalizing results with
    | nil =>
        cases readAll
        rfl
    | cons item rest ih =>
        rw [List.mapM_cons] at readAll
        obtain ⟨first, readFirst, remaining⟩ := bind_eq_ok_iff.mp readAll
        obtain ⟨following, readRest, same⟩ := bind_eq_ok_iff.mp remaining
        cases same
        rw [List.map_cons, ← (reads item first).mp readFirst, ← ih readRest]
  · rintro rfl
    exact mapM_map (fun item => (reads (write item) item).mpr rfl) results

end Lists

/-! ## Refusal -/

/-- What a reading was refused for. -/
def refusal? : Except ε α → Option ε
  | .ok _ => none
  | .error error => some error

/-- A reading in two steps is refused for the first of them that is refused. -/
theorem refusal?_bind
    {first : Except ε α} {next : α → Except ε β} {later : Option ε}
    (following : ∀ value, first = .ok value → refusal? (next value) = later) :
    refusal? (first >>= next) = (refusal? first).or later := by
  cases first with
  | error error => rfl
  | ok value => exact following value rfl

/-- A step that is never refused makes no difference. -/
theorem refusal?_bind_of_none
    {first : Except ε α} {next : α → Except ε β}
    (total : ∀ value, refusal? (next value) = none) :
    refusal? (first >>= next) = refusal? first := by
  rw [refusal?_bind fun value _ => total value, Option.or_none]

/-- A list is refused for the first fault of its items. -/
theorem refusal?_mapM
    {read : α → Except ε β} {wrong : α → List ε}
    (reads : ∀ item, refusal? (read item) = (wrong item).head?)
    (items : List α) :
    refusal? (items.mapM read) = (items.flatMap wrong).head? := by
  induction items with
  | nil => rfl
  | cons item rest ih =>
      rw [List.mapM_cons, List.flatMap_cons, List.head?_append, ← reads, ← ih]
      apply refusal?_bind
      intro found _
      exact refusal?_bind_of_none fun _ => rfl

end BuildWatch
