import BuildWatch.KeyMap

/-!
# Changed paths

A cycle lists changed paths.  A path is deleted, or comes with what is known
of the file there: whether it is a symbolic link and whether it is a source.
-/

namespace BuildWatch

/-- What is known of a changed file; a flag that is not known is absent. -/
structure SourceInfo where
  isSymlink : Option Bool
  isSource : Option Bool
deriving DecidableEq, Inhabited

/-- A file of which nothing is known. -/
def SourceInfo.unknown : SourceInfo := ⟨none, none⟩

/-- A file that is a source. -/
def SourceInfo.source : SourceInfo := ⟨none, some true⟩

/-- Changed paths; a path without information is deleted. -/
abbrev Changes := KeyMap (Option SourceInfo)

end BuildWatch
