import BuildWatch.Text.Quoted

/-!
# Watch scopes

A client watches sources, runfiles or both.
-/

namespace BuildWatch

/-- What a client can watch. -/
inductive Scope where
  | sources
  | runfiles
deriving DecidableEq, Inhabited

namespace Scope

/-- All scopes. -/
def all : List Scope := [.sources, .runfiles]

/-- How a scope is written. -/
def name : Scope → String
  | .sources => "sources"
  | .runfiles => "runfiles"

/-- The scope with a name. -/
def ofName? (name : String) : Option Scope :=
  all.find? (·.name = name)

/-- What is reported of a name that no scope has. -/
def unknownText (name : String) : String :=
  "unknown watch scope " ++ Quoted.quote name
    ++ ", expected \"sources\" or \"runfiles\""

@[simp]
theorem ofName?_name (scope : Scope) : ofName? scope.name = some scope := by
  cases scope <;> decide

theorem name_of_ofName?_eq_some
    {name : String} {scope : Scope} (found : ofName? name = some scope) :
    scope.name = name := by
  simpa using List.find?_some found

theorem ofName?_eq_some_iff {name : String} {scope : Scope} :
    ofName? name = some scope ↔ scope.name = name :=
  ⟨name_of_ofName?_eq_some, fun same => same ▸ ofName?_name scope⟩

end Scope

end BuildWatch
