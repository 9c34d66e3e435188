import MakeAtlas.Evidence.Reference
import MakeAtlas.Makefile.Flag
import MakeAtlas.Makefile.Rule

/-!
# References in Makefiles

A Makefile refers to other projects by its include flags and by the prerequisites of its rules. Only
paths that climb out of the project are kept, flags first.
-/

namespace MakeAtlas.Evidence

/-- The references of a Makefile, whose own path is seen from the workspace. -/
def makefileReferences (file text : String) : List Reference :=
  let flags := (Makefile.flags text).map fun flag => (flag.path, flag.line)
  let prerequisites := (Makefile.rules text).flatMap fun rule =>
    rule.prerequisites.map fun path => (path, rule.line)
  ((flags ++ prerequisites).filter fun (path, _) => Path.climbs path).map fun (path, line) =>
    ⟨path, file, some line⟩

end MakeAtlas.Evidence
