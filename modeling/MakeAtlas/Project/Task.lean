import MakeAtlas.Record.Reading

/-!
# Tasks

A task is something that can be run for a project: a Make target, or a watch that runs another task
again whenever something changes. Its dependencies are other tasks of the project, or `^` with a
task name for that task of every project depended on.

* `Task.read` accepts exchanged records and `Task.toValue` writes them
-/

namespace MakeAtlas

open MakeAtlas.Record

/-- Stands for the name of the project in a command. -/
def projectPlaceholder : String := "{projectName}"

/-- A watch on a project and on the projects it depends on. -/
structure Watch where
  project : String := projectPlaceholder
  runTask : String
  includeDependents : Bool := true
  initialRun : Bool := true
  deriving DecidableEq, Repr

/-- How a task is run. -/
inductive Invocation where
  /-- Makes one target in a folder. -/
  | make (target folder : String)
  /-- Runs another task whenever something changes. -/
  | watch (watch : Watch)
  deriving DecidableEq, Repr

/-- How to use a task: a command, and an example of its options. -/
structure Help where
  command : String
  sample : Table Value

/-- What people are told about a task. -/
structure Metadata where
  technologies : List String := ["make"]
  description : String
  help : Option Help := none

/-- A task that can be run for a project. -/
structure Task where
  name : String
  invocation : Invocation
  dependsOn : List String := []
  metadata : Metadata

namespace Watch

/-- The watch as a shell command. -/
def command (w : Watch) : String :=
  let flags := ["--projects=" ++ w.project] ++
    (if w.includeDependents then ["--includeDependentProjects"] else []) ++
    (if w.initialRun then ["--initialRun"] else [])
  "nx watch " ++ String.intercalate " " flags ++ " -- nx run " ++ w.project ++ ":" ++ w.runTask

/-- The record of a watch. -/
def toValue (w : Watch) : Value :=
  .table [("kind", .text "watch"), ("project", .text w.project), ("runTarget", .text w.runTask),
    ("includeDependentProjects", .bool w.includeDependents), ("initialRun", .bool w.initialRun),
    ("command", .text w.command)]

/-- The name of a watch's record. -/
def title : String := "WatchInvocation"

/-- Reads the record of a watch. -/
def read : Value → Reading Watch :=
  record title fun es =>
    let kind := withDefault es { key := "kind" } () (oneOf [("watch", ())] .notLiteral)
    let project := withDefault es { key := "project" } projectPlaceholder text
    let runTask := required es { key := "runTarget", name := "run_target" } text
    let dependents :=
      withDefault es { key := "includeDependentProjects", name := "include_dependent_projects" }
        true bool
    let initial := withDefault es { key := "initialRun", name := "initial_run" } true bool
    kind *> (Watch.mk <$> project <*> runTask <*> dependents <*> initial)

end Watch

namespace Invocation

/-- The record of an invocation. -/
def toValue : Invocation → Value
  | .make target folder =>
    .table [("kind", .text "make"), ("target", .text target), ("cwd", .text folder)]
  | .watch w => w.toValue

/-- The name of the record of a Make target. -/
def makeTitle : String := "MakeInvocation"

/-- Reads the record of a Make target. -/
def readMake : Value → Reading Invocation :=
  record makeTitle fun es =>
    let kind := withDefault es { key := "kind" } () (oneOf [("make", ())] .notLiteral)
    let target := required es { key := "target" } text
    let folder := required es { key := "cwd" } text
    kind *> (Invocation.make <$> target <*> folder)

/-- Reads the record of an invocation of either kind. -/
def read : Value → Reading Invocation
  | .table es =>
    match Table.get? es "kind" with
    | none => .fault (.tagMissing "kind") (.table es)
    | some (.text "make") => (readMake (.table es)).below (.key "make")
    | some (.text "watch") => ((Watch.read (.table es)).map watch).below (.key "watch")
    | some tag => .fault (.tagUnknown tag.describePlain "kind" ["make", "watch"]) (.table es)
  | v => .fault .notVariant v

end Invocation

namespace Help

/-- The record of a usage hint. -/
def toValue (h : Help) : Value :=
  .table [("command", .text h.command), ("example", .table h.sample)]

/-- The name of a usage hint's record. -/
def title : String := "TargetHelp"

/-- Reads the record of a usage hint. -/
def read : Value → Reading Help :=
  record title fun es =>
    let command := required es { key := "command" } text
    let sample := withDefault es { key := "example" } [] anyTable
    Help.mk <$> command <*> sample

end Help

namespace Metadata

/-- The record of what people are told. -/
def toValue (m : Metadata) : Value :=
  .table <| [("technologies", .list (m.technologies.map .text)),
    ("description", .text m.description)] ++
    match m.help with
    | some help => [("help", help.toValue)]
    | none => []

/-- The name of the record of what people are told. -/
def title : String := "TargetMetadata"

/-- Reads the record of what people are told. -/
def read : Value → Reading Metadata :=
  record title fun es =>
    let technologies := withDefault es { key := "technologies" } ["make"] (list text)
    let description := required es { key := "description" } text
    let help := withDefault es { key := "help" } none (nullable Help.read)
    Metadata.mk <$> technologies <*> description <*> help

end Metadata

namespace Task

/-- The record of a task. -/
def toValue (t : Task) : Value :=
  .table [("name", .text t.name), ("invocation", t.invocation.toValue),
    ("dependsOn", .list (t.dependsOn.map .text)), ("metadata", t.metadata.toValue)]

/-- The name of a task's record. -/
def title : String := "TargetConfig"

/-- A task does not depend on another one twice. -/
def repeatedDependency (dependsOn : List String) : Option String :=
  if dependsOn.Nodup then none
  else some ("dependsOn contains duplicates: " ++ Text.quotedList dependsOn)

/-- Reads the record of a task. -/
def read : Value → Reading Task :=
  record title fun es =>
    let name := required es { key := "name" } text
    let invocation := required es { key := "invocation" } Invocation.read
    let dependsOn := withDefault es { key := "dependsOn", name := "depends_on" } [] fun v =>
      (list text v).check repeatedDependency v
    let metadata := required es { key := "metadata" } Metadata.read
    Task.mk <$> name <*> invocation <*> dependsOn <*> metadata

/-- Whether a dependency names a task of every project depended on. -/
def isForDependencies (dependency : String) : Bool :=
  dependency.toList.head? == some '^'

end Task

end MakeAtlas
