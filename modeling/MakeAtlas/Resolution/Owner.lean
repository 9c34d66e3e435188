import MakeAtlas.Path.Basic
import MakeAtlas.Project.Node

/-!
# Owners of paths

Which projects a path belongs to: those at the nearest root above it. Roots and paths are absolute
and normal, so that a root lies above a path exactly if the path is the root or begins with the root
and a slash. Several projects may have the same root.

* `owners_eq_find?`   the owners are the names at the first root, longest first, that holds the path
* `length_mono`   no listed root is longer than one listed before it
-/

namespace MakeAtlas

/-- The projects of a workspace by their absolute roots, the longest root first. -/
structure RootIndex where
  /-- The absolute path of the workspace. -/
  location : String
  roots : List (String × List String)
  deriving DecidableEq, Repr

namespace RootIndex

/-- The absolute path of a project's root. An empty root is the workspace. -/
def rootAt (location root : String) : String :=
  Path.resolve location (if root.isEmpty then "." else root)

/-- Adds a project's name at its root. -/
def register (location : String) (roots : Table (List String)) (p : Project) :
    Table (List String) :=
  let root := rootAt location p.root
  roots.put root ((roots.get? root).getD [] ++ [p.name])

/-- Longer roots before shorter ones. -/
def isLonger (a b : String × List String) : Bool :=
  b.1.length ≤ a.1.length

/-- The index of projects in a workspace. -/
def ofProjects (location : String) (projects : List Project) : RootIndex :=
  ⟨location, (projects.foldl (register location) []).mergeSort isLonger⟩

/-- The absolute path of a project's root in the index's workspace. -/
def absoluteRoot (index : RootIndex) (root : String) : String :=
  rootAt index.location root

/-- The names of the projects that an absolute path belongs to. -/
def owners (index : RootIndex) (path : String) : List String :=
  match index.roots.find? fun entry => Path.isWithin path entry.1 with
  | some (_, names) => names
  | none => []

theorem owners_eq_find? (index : RootIndex) (path : String) :
    index.owners path =
      ((index.roots.find? fun entry => Path.isWithin path entry.1).map Prod.snd).getD [] := by
  unfold owners
  cases index.roots.find? fun entry => Path.isWithin path entry.1 <;> rfl

theorem isLonger_trans (a b c : String × List String) (hab : isLonger a b = true)
    (hbc : isLonger b c = true) : isLonger a c = true := by
  simp only [isLonger, decide_eq_true_eq] at hab hbc ⊢
  omega

theorem isLonger_total (a b : String × List String) :
    (isLonger a b || isLonger b a) = true := by
  simp only [isLonger, Bool.or_eq_true, decide_eq_true_eq]
  omega

theorem length_mono (location : String) (projects : List Project) :
    (ofProjects location projects).roots.Pairwise fun a b => b.1.length ≤ a.1.length := by
  have sorted := List.pairwise_mergeSort isLonger_trans isLonger_total
    (projects.foldl (register location) [])
  exact sorted.imp fun h => by simpa [isLonger] using h

end RootIndex

end MakeAtlas
