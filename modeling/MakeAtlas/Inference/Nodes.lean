import MakeAtlas.Project.Assembly
import MakeAtlas.Project.Node
import MakeAtlas.Settings.Basic
import MakeAtlas.Workspace.Contents

/-!
# Nodes of a workspace

Every Makefile becomes the node of a project. A Makefile that is not there has no tasks. If any path
can be no file's path, all failures are reported together with the nodes of the others.
-/

namespace MakeAtlas

/-- The Makefiles that have no node, each with the reason, and the nodes of the others. -/
structure NodesError where
  failures : List (String × FileError)
  nodes : List (String × Node)

/-- What is said when Makefiles have no node. -/
def NodesError.message (e : NodesError) : String :=
  "Failed to create nodes for " ++ toString e.failures.length ++ " file(s): " ++
    String.intercalate ", " (e.failures.map Prod.fst)

/-- What is said of each Makefile that has no node. -/
def NodesError.warnings (e : NodesError) : List String :=
  e.failures.map fun (makefile, fault) =>
    "Failed to create nodes for " ++ makefile ++ ": " ++ fault.message

namespace Inference

/-- The node for a Makefile's path and its text. -/
def nodeOfText (settings : Settings) (makefile : String) (text : Option (List Char)) : Node :=
  let path := Path.normalize makefile
  let root := Project.rootOf path
  let targets := (text.map fun cs => Makefile.targets (String.ofList cs)).getD []
  { root
    name := Project.nameOf settings.groupingDirs root
    makefile := path
    tasks := Project.tasks root targets settings.taskPrefix }

/-- The node of the Makefile at a workspace-relative path. -/
def nodeOf (disk : Disk) (location : String) (settings : Settings) (makefile : String) :
    Except FileError Node :=
  (disk.readText (Disk.pathIn location (Path.normalize makefile))).map
    (nodeOfText settings makefile)

/-- The results for keys that have one. -/
def successes {α : Type} : List (String × Except FileError α) → List (String × α) :=
  List.filterMap fun
    | (key, .ok a) => some (key, a)
    | (_, .error _) => none

/-- The errors for keys that have no result. -/
def failures {α : Type} : List (String × Except FileError α) → List (String × FileError) :=
  List.filterMap fun
    | (_, .ok _) => none
    | (key, .error e) => some (key, e)

/-- The nodes of Makefiles, each with the path it was asked for. -/
def createNodes (disk : Disk) (location : String) (settings : Settings) (makefiles : List String) :
    Except NodesError (List (String × Node)) :=
  let results := makefiles.map fun makefile => (makefile, nodeOf disk location settings makefile)
  match failures results with
  | [] => .ok (successes results)
  | failed => .error ⟨failed, successes results⟩

/-- Nodes by their roots. -/
def byRoot (nodes : List (String × Node)) : Table Node :=
  Table.ofList (nodes.map fun (_, node) => (node.root, node))

/-- Why a workspace has no nodes. -/
inductive BuildError where
  | file (e : FileError)
  | nodes (e : NodesError)

/-- What is said when a workspace has no nodes. -/
def BuildError.message : BuildError → String
  | .file e => e.message
  | .nodes e => e.message

/-- The nodes of the workspace at an absolute path. -/
def buildNodes (disk : Disk) (location : String) (settings : Settings) :
    Except BuildError (Table Node) := do
  let makefiles ← (Workspace.makefiles disk location []).mapError .file
  let nodes ← (createNodes disk location settings makefiles).mapError .nodes
  .ok (byRoot nodes)

/-- The projects of nodes by their names. -/
def projectsOf (nodes : Table Node) : Table Project :=
  Table.ofList (nodes.values.map fun node => (node.name, node.project))

end Inference

end MakeAtlas
