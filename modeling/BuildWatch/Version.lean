/-!
# Protocol versions

Version 0 has only the choice of a version and cycles.  Version 1 adds
capabilities and the scope of a cycle, version 2 the subscription before the
first cycle.  The server offers its versions, most preferred first, and the
client takes the first that it supports as well.
-/

namespace BuildWatch

/-- A version of the protocol. -/
structure Version where
  number : UInt32
deriving DecidableEq, Inhabited

namespace Version

/-- The version without capabilities. -/
def legacy : Version := ⟨0⟩

/-- The version with capabilities. -/
def first : Version := ⟨1⟩

/-- The newest version that is offered unless a list says otherwise. -/
def latest : Version := first

/-- Whether the client asks for capabilities. -/
def hasCapabilities (version : Version) : Bool :=
  0 < version.number

/-- Whether cycles carry a scope. -/
def hasScope (version : Version) : Bool :=
  0 < version.number

/-- Whether the client subscribes before its first cycle. -/
def hasSubscription (version : Version) : Bool :=
  2 ≤ version.number

/-- How a version is shown. -/
def text (version : Version) : String :=
  "v" ++ toString version.number.toNat

/-- The text of a list of versions, in brackets. -/
def listText (versions : List Version) : String :=
  "[" ++ String.intercalate ", " (versions.map text) ++ "]"

/-- The versions spoken unless a list says otherwise, most preferred first. -/
def defaults : List Version := [first, legacy]

/-- The first offered version that is supported. -/
def select (offered supported : List Version) : Option Version :=
  offered.find? (supported.contains ·)

/-- A selected version stands in both lists. -/
theorem mem_of_select_eq_some
    {offered supported : List Version} {version : Version}
    (selected : select offered supported = some version) :
    version ∈ offered ∧ version ∈ supported := by
  refine ⟨List.mem_of_find?_eq_some selected, ?_⟩
  have found := List.find?_some selected
  simpa using found

/-- Nothing is selected exactly from disjoint lists. -/
theorem select_eq_none_iff {offered supported : List Version} :
    select offered supported = none ↔
      ∀ version ∈ offered, version ∉ supported := by
  simp [select]

end Version

end BuildWatch
