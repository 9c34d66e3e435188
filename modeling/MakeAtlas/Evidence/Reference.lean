import MakeAtlas.Distinct
import MakeAtlas.Path.Basic

/-!
# References

A reference is a path that a file of a project mentions. Paths are seen from the project's root;
the file's own path is seen from the workspace.
-/

namespace MakeAtlas

/-- A mentioned path, the file that mentions it, and the line if it is known. -/
structure Reference where
  path : String
  file : String
  line : Option Nat
  deriving DecidableEq, Repr

namespace Reference

/-- The first reference to each path. -/
def first (references : List Reference) : List Reference :=
  distinctBy Reference.path references

end Reference

/-- Which files of a project are looked at. -/
structure ScanScope where
  excludeDirs : List String
  maxFiles : Option Nat
  deriving DecidableEq, Repr

end MakeAtlas
