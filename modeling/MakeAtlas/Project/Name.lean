import MakeAtlas.Path.Basic

/-!
# Roots and names of projects

A project's root is the workspace-relative folder of its Makefile, `.` for the workspace itself.
Its name is made of the steps of the root: the workspace is `root`, one step is its own name, a
folder right below a grouping folder drops that folder, and all other steps are joined by dashes.
-/

namespace MakeAtlas.Project

open MakeAtlas.Text

/-- The name of the project at the workspace itself. -/
def workspaceName : String := "root"

/-- The folders that names leave out unless told otherwise. -/
def defaultGroupingDirs : List String := ["examples"]

/-- The name for the steps of a root. -/
def nameOfSteps (groupingDirs : List String) : List String → String
  | [] => workspaceName
  | [step] => step
  | [group, step] => if group ∈ groupingDirs then step else group ++ "-" ++ step
  | steps => String.intercalate "-" steps

/-- The name of the project at a root. -/
def nameOf (groupingDirs : List String) (root : String) : String :=
  nameOfSteps groupingDirs ((Path.steps (Path.forward root.toList)).map String.ofList)

/-- The root of the project whose Makefile has this path. -/
def rootOf (makefile : String) : String :=
  String.ofList (Path.normal (Path.folderPart (Path.forward makefile.toList)))

end MakeAtlas.Project
