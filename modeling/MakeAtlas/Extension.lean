import MakeAtlas.Workspace.Discovery

/-!
# The extension of a build orchestrator

An orchestrator that runs tasks of many projects asks its extensions for nodes and dependencies. It
knows an extension by its name and by the files that it makes nodes of.
-/

namespace MakeAtlas

/-- How an orchestrator knows an extension. -/
structure Extension where
  name : String
  /-- A pattern for the paths of the files that nodes are made of. -/
  nodeFiles : String
  deriving DecidableEq, Repr

/-- The extension for Makefiles. -/
def Extension.makefiles : Extension :=
  ⟨"makegraph", "**/" ++ Workspace.makefileName⟩

end MakeAtlas
