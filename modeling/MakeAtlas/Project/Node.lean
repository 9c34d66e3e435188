import MakeAtlas.Project.Task

/-!
# Projects and their nodes

A project is a folder that holds a Makefile: it has a name and a workspace-relative root. Its node
adds the Makefile's path and the tasks.

* `Node.unknownPeer`   every task a node's tasks depend on within the project is one of its tasks
-/

namespace MakeAtlas

open MakeAtlas.Record

/-- The name and the workspace-relative root of a project. -/
structure Project where
  name : String
  root : String
  deriving DecidableEq, Repr

namespace Project

/-- The record of a project. -/
def toValue (p : Project) : Value :=
  .table [("name", .text p.name), ("root", .text p.root)]

/-- The name of a project's record. -/
def title : String := "ProjectRef"

/-- Reads the record of a project. -/
def read : Value → Reading Project :=
  record title fun es =>
    let name := required es { key := "name" } text
    let root := required es { key := "root" } text
    Project.mk <$> name <*> root

end Project

/-- A project with its Makefile and its tasks. -/
structure Node where
  root : String
  name : String
  makefile : String
  tasks : Table Task := []

namespace Node

/-- The project of a node. -/
def project (n : Node) : Project :=
  ⟨n.name, n.root⟩

/-- The record of a node. -/
def toValue (n : Node) : Value :=
  .table [("root", .text n.root), ("name", .text n.name), ("makefile", .text n.makefile),
    ("targets", .table (n.tasks.map fun (key, task) => (key, task.toValue)))]

/-- The name of a node's record. -/
def title : String := "ProjectNode"

/-- The dependencies of tasks on tasks of the same project, each with the key of its task. -/
def peerReferences (tasks : Table Task) : List (String × String) :=
  tasks.flatMap fun (key, task) =>
    (task.dependsOn.filter fun d => !Task.isForDependencies d).map fun d => (key, d)

/-- The first dependency on a task that the project does not have. -/
def unknownPeer (n : Node) : Option String :=
  ((peerReferences n.tasks).find? fun (_, peer) => !n.tasks.has peer).map fun (key, peer) =>
    "Target '" ++ key ++ "' of project '" ++ n.name ++ "' depends on unknown target '" ++
      peer ++ "'"

/-- Reads the record of a node. -/
def read (v : Value) : Reading Node :=
  Reading.check unknownPeer v <| v |> record title fun es =>
    let root := required es { key := "root" } text
    let name := required es { key := "name" } text
    let makefile := required es { key := "makefile" } text
    let tasks := withDefault es { key := "targets" } [] (table Task.read)
    Node.mk <$> root <*> name <*> makefile <*> tasks

end Node

end MakeAtlas
