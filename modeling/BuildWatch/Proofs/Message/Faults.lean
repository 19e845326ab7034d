import BuildWatch.Proofs.Message.Places

/-!
# What is wrong with a message

All faults of an object are listed in the order in which they are met: field
by field in the order of the names, inside a field item by item or path by
path, and behind them the fields that are missing.  The fault that is reported
is the first of the list, and a value or text that has none is read.
-/

namespace BuildWatch.Message

/-! ## Faults of values -/

/-- A number that is no 32-bit word, or what is found in place of one. -/
def wordFaults (json : Json) : List Fault :=
  match json.view with
  | .integer number =>
      if 0 ≤ number.value ∧ number.value ≤ 4294967295 then []
      else [.outOfRange number.value]
  | _ => [.wrongType (Found.ofJson json) .word]

/-- The faults of the items of a list, in their order. -/
def versionsFaults (json : Json) : List Fault :=
  match json.view with
  | .array items => items.flatMap wordFaults
  | _ => [.wrongType (Found.ofJson json) .sequence]

/-- What is found in place of a text. -/
def textFaults (json : Json) : List Fault :=
  match json.view with
  | .string _ => []
  | _ => [.wrongType (Found.ofJson json) .string]

/-- What is found in place of what is known of a file, or a list too long. -/
def changeFaults (json : Json) : List Fault :=
  match json.view with
  | .null => []
  | .object _ => []
  | .array items =>
      if items.length ≤ 2 then [] else [.tooLong items.length]
  | _ => [.wrongType (Found.ofJson json) .sourceInfo]

/-- The faults of changed paths, in the order of the paths. -/
def changesFaults (json : Json) : List Fault :=
  match json.view with
  | .object paths => paths.entries.flatMap fun entry => changeFaults entry.2
  | _ => [.wrongType (Found.ofJson json) .map]

/-! ## Faults of messages -/

/-- The fields of a kind that are looked at, with what can be wrong there. -/
def checks : MessageKind → List (String × (Json → List Fault))
  | .negotiate => [("versions", versionsFaults)]
  | .negotiateResponse => [("version", wordFaults)]
  | .caps => []
  | .capsResponse => []
  | .subscribe => [("watch_type", textFaults)]
  | .subscribeResponse => []
  | .cycle => [("cycle_id", wordFaults), ("sources", changesFaults)]
  | .acknowledgment _ => [("cycle_id", wordFaults)]
  | .exit => [("description", textFaults)]

/-- The fields that a message of a kind has to have. -/
def requiredFields : MessageKind → List String
  | .negotiate => ["versions"]
  | .negotiateResponse => ["version"]
  | .subscribe => ["watch_type"]
  | .cycle => ["cycle_id"]
  | .acknowledgment _ => ["cycle_id"]
  | _ => []

/-- The faults of the fields that are there, in the order of their names. -/
def presentFaults (fields : KeyMap Json) (kind : MessageKind) : List Fault :=
  fields.entries.flatMap (Entries.partOf (checks kind))

/-- Which of some fields are not there. -/
def absent (fields : KeyMap Json) (names : List String) : List Fault :=
  (names.filter fun name => (fields.get? name).isNone).map Fault.missing

/-- All that is wrong with the fields of a message. -/
def faults (fields : KeyMap Json) (kind : MessageKind) : List Fault :=
  presentFaults fields kind ++ absent fields (requiredFields kind)

/-! ## The first fault -/

theorem refusal?_readWord (json : Json) :
    refusal? (readWord json) = (wordFaults json).head? := by
  unfold readWord wordFaults Json.Integer.toWord?
  cases json.view with
  | integer number =>
      by_cases inRange : 0 ≤ number.value ∧ number.value ≤ 4294967295
      · have below : 0 ≤ number.value ∧ number.value < 4294967296 := by omega
        simp [inRange, below, refusal?]
      · have outside : ¬ (0 ≤ number.value ∧ number.value < 4294967296) := by
          omega
        simp only [inRange, outside, if_false]
        rfl
  | _ => rfl

theorem refusal?_readVersion (json : Json) :
    refusal? (readVersion json) = (wordFaults json).head? := by
  rw [← refusal?_readWord, readVersion]
  cases readWord json <;> rfl

theorem refusal?_readVersions (json : Json) :
    refusal? (readVersions json) = (versionsFaults json).head? := by
  unfold readVersions versionsFaults
  cases json.view with
  | array items => exact refusal?_mapM refusal?_readVersion items
  | _ => rfl

theorem refusal?_readText (json : Json) :
    refusal? (readText json) = (textFaults json).head? := by
  unfold readText textFaults
  cases json.view <;> rfl

theorem refusal?_readChange (json : Json) :
    refusal? (readChange json) = (changeFaults json).head? := by
  unfold readChange changeFaults
  cases json.view with
  | array items =>
      by_cases short : items.length ≤ 2
      · simp [short, Nat.not_lt.mpr short, refusal?]
      · simp [short, Nat.lt_of_not_le short, refusal?]
  | _ => rfl

theorem refusal?_readChanges (json : Json) :
    refusal? (readChanges json) = (changesFaults json).head? := by
  unfold readChanges changesFaults
  cases json.view with
  | object paths => exact KeyMap.refusal?_traverse refusal?_readChange paths
  | _ => rfl

section Fields

variable {α : Type} {read : Json → Except Fault α} {wrong : Json → List Fault}
  {fields : KeyMap Json} {name : String}

theorem refusal?_optionalField
    (reads : ∀ json, refusal? (read json) = (wrong json).head?) :
    refusal? (optionalField fields name read) =
      ((fields.get? name).elim [] wrong).head? := by
  unfold optionalField
  cases fields.get? name with
  | none => rfl
  | some value =>
      rw [Option.elim_some, ← reads]
      dsimp only
      cases read value <;> rfl

/-- What was read of a field is missing exactly if the field is. -/
theorem refusal?_present
    {found : Option α} (readField : optionalField fields name read = .ok found) :
    refusal? (present name found) = (absent fields [name]).head? := by
  have same : (fields.get? name).isNone = found.isNone := by
    have looks := congrArg Option.isNone (optionalField_eq_ok_iff.mp readField)
    simpa using looks
  cases found <;> simp [absent, same, present, refusal?]

/-- A required field is refused for its own fault, or for being missing. -/
theorem refusal?_requiredField
    (reads : ∀ json, refusal? (read json) = (wrong json).head?) :
    refusal? (requiredField fields name read) =
      ((fields.get? name).elim [] wrong ++ absent fields [name]).head? := by
  rw [List.head?_append, ← refusal?_optionalField reads]
  exact refusal?_bind fun _ readField => refusal?_present readField

end Fields

theorem presentFaults_eq (fields : KeyMap Json) (kind : MessageKind) :
    presentFaults fields kind =
      (checks kind).flatMap fun check =>
        (fields.get? check.1).elim [] check.2 := by
  have ordered : Entries.Sorted (checks kind) := by
    unfold Entries.Sorted
    cases kind with
    | acknowledgment step => exact List.pairwise_singleton _ _
    | _ => decide
  exact Entries.flatMap_partOf ordered fields.sorted

/-- The fields of a kind are refused for the first of all their faults. -/
theorem refusal?_readBody (fields : KeyMap Json) (kind : MessageKind) :
    refusal? (readBody fields kind) = (faults fields kind).head? := by
  have required
      {α : Type} {read : Json → Except Fault α} {wrong : Json → List Fault}
      (name : String) (make : α → MessageBody)
      (reads : ∀ json, refusal? (read json) = (wrong json).head?) :
      refusal? (requiredField fields name read >>= fun value =>
          pure (make value)) =
        ([(name, wrong)].flatMap
            (fun check => (fields.get? check.1).elim [] check.2) ++
          absent fields [name]).head? := by
    rw [refusal?_bind_of_none fun _ => rfl, List.flatMap_singleton]
    exact refusal?_requiredField reads
  rw [faults, presentFaults_eq]
  cases kind with
  | negotiate => exact required "versions" _ refusal?_readVersions
  | negotiateResponse => exact required "version" _ refusal?_readVersion
  | caps => rfl
  | capsResponse => rfl
  | subscribe => exact required "watch_type" _ refusal?_readText
  | subscribeResponse => rfl
  | cycle =>
      rw [checks, List.flatMap_cons, List.flatMap_singleton,
        List.append_assoc, List.head?_append, List.head?_append,
        ← refusal?_optionalField refusal?_readWord,
        ← refusal?_optionalField refusal?_readChanges]
      refine refusal?_bind fun number readNumber => ?_
      refine refusal?_bind fun sources _ => ?_
      rw [refusal?_bind_of_none fun _ => rfl]
      exact refusal?_present readNumber
  | acknowledgment step => exact required "cycle_id" _ refusal?_readWord
  | exit =>
      rw [checks, List.flatMap_singleton, List.head?_append,
        ← refusal?_optionalField refusal?_readText]
      exact refusal?_bind fun _ _ => rfl

/-! ## Refusals -/

end BuildWatch.Message
