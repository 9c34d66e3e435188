import MakeAtlas.Makefile.Rule
import MakeAtlas.Project.Task

/-!
# Tasks of a Makefile

Every target becomes a task under its own name or, with a prefix, under `prefix:name`. A task
depends on the tasks of those of its prerequisites that are targets themselves; the targets `build`,
`compile` and `all` first depend on the build task of every project depended on.

A Makefile with one of those targets and a target `run` gets one more task, `serve`, which watches
the project and runs it again. It comes last and replaces a target of the same name.
-/

namespace MakeAtlas.Project

/-- The key of a target's task. An empty prefix counts as none. -/
def taskKey (pre : Option String) (target : String) : String :=
  match pre with
  | none => target
  | some p => if p.isEmpty then target else p ++ ":" ++ target

/-- The targets that build a project. -/
def buildTargets : List String := ["build", "compile", "all"]

/-- Whether a target builds the project. -/
def isBuildTarget (target : String) : Bool :=
  buildTargets.contains target

/-- What a build target's task depends on in every project depended on. -/
def dependencyBuild (pre : Option String) : String :=
  "^" ++ taskKey pre "build"

/-- What a target's task depends on, given all targets. -/
def taskDependencies (targets : Table (List String)) (pre : Option String) (target : String)
    (prerequisites : List String) : List String :=
  let aggregate := if isBuildTarget target then [dependencyBuild pre] else []
  -- prerequisites that are files, or the target itself, are no tasks
  let peers := prerequisites.filter fun p => p != target && targets.has p
  (peers.map (taskKey pre)).foldl
    (fun found peer => if found.contains peer then found else found ++ [peer]) aggregate

/-- The task of a target. -/
def targetTask (root : String) (targets : Table (List String)) (pre : Option String)
    (target : String) (prerequisites : List String) : Task where
  name := taskKey pre target
  invocation := .make target root
  dependsOn := taskDependencies targets pre target prerequisites
  metadata := { description := "Run make " ++ target }

/-- The task that watches a project and runs it again. -/
def serveTask (pre : Option String) : Task where
  name := taskKey pre "serve"
  invocation := .watch { runTask := taskKey pre "run" }
  metadata :=
    { description := "Watch for changes and automatically rebuild and rerun"
      help := some
        { command := "nx " ++ taskKey pre "serve"
          sample := [("options", .table [("verbose", .bool true)])] } }

/-- The tasks of the targets themselves. -/
def targetTasks (root : String) (targets : Table (List String)) (pre : Option String) :
    Table Task :=
  Table.ofList <| targets.map fun (target, prerequisites) =>
    (taskKey pre target, targetTask root targets pre target prerequisites)

/-- Whether a project can be built and run, and so be served. -/
def isServed (targets : Table (List String)) : Bool :=
  targets.keys.any isBuildTarget && targets.has "run"

/-- The tasks of a project, given the targets of its Makefile and the project's root. -/
def tasks (root : String) (targets : Table (List String)) (pre : Option String) : Table Task :=
  let own := targetTasks root targets pre
  if isServed targets then
    let serve := serveTask pre
    own.erase serve.name ++ [(serve.name, serve)]
  else own

end MakeAtlas.Project
