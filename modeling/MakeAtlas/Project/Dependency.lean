import MakeAtlas.Path.Basic
import MakeAtlas.Project.Node

/-!
# Dependencies between projects

A dependency says that one project uses another, and which file (and line of it) shows that. A
project never depends on itself. Against a set of projects a dependency is valid if both ends are
known and the file belongs to the source's root.

* `invalidity_eq_none_iff`   when a dependency is valid
-/

namespace MakeAtlas

open MakeAtlas.Record

/-- A dependency of one project on another, with its evidence. -/
structure Dependency where
  source : String
  target : String
  /-- The workspace-relative file that shows the dependency. -/
  evidence : String
  /-- The line of the file, counted from one. -/
  line : Option Nat
  source_ne_target : source ≠ target
  line_pos : ∀ n ∈ line, 0 < n
  deriving DecidableEq

namespace Dependency

/-- The record of a dependency. -/
def toValue (d : Dependency) : Value :=
  .table <| [("source", .text d.source), ("target", .text d.target), ("type", .text "static"),
    ("sourceFile", .text d.evidence)] ++
    match d.line with
    | some n => [("line", .int n)]
    | none => []

/-- The name of a dependency's record. -/
def title : String := "ProjectDependency"

/-- What is said of a project that is to depend on itself. -/
def selfReference (name : String) : String :=
  "Self-referencing dependency on '" ++ name ++ "'"

/-- A dependency of given parts. A line of zero is none of a file's lines. -/
def ofParts (input : Value) (source target evidence : String) (line : Option Nat) :
    Reading Dependency :=
  if distinct : source = target then .fault (.rejected (selfReference source)) input
  else if positive : ∀ n ∈ line, 0 < n then
    .ok ⟨source, target, evidence, line, distinct, positive⟩
  else (Reading.fault (.atLeast 1) (.int 0)).below (.key "line")

/-- Reads the record of a dependency. -/
def read (v : Value) : Reading Dependency :=
  let parts : Reading (String × String × String × Option Nat) :=
    v |> record title fun es =>
      let source := required es { key := "source" } text
      let target := required es { key := "target" } text
      let kind := withDefault es { key := "type" } () (oneOf [("static", ())] .notMember)
      let evidence := required es { key := "sourceFile", name := "source_file" } text
      let line := withDefault es { key := "line" } none (nullable (intBetween 1 none))
      (fun s t _ e l => (s, t, e, l)) <$> source <*> target <*> kind <*> evidence <*> line
  parts.andThen fun (source, target, evidence, line) => ofParts v source target evidence line

/-- A dependency of parts that a program has found, whose line may be no line. -/
def ofFound (source target evidence : String) (line : Option Int) : Except Invalid Dependency :=
  let given : Value := (line.map Value.int).getD .null
  parse title (fun v =>
    ((nullable (intBetween 1 none) given).below (.key "line")).andThen fun line =>
      ofParts v source target evidence line) given

/-- Why a dependency does not hold in a set of projects. -/
inductive Invalidity where
  | unknownSource (name : String)
  | unknownTarget (name : String)
  | selfReference (name : String)
  | noEvidence
  | foreignEvidence (file root : String)
  deriving DecidableEq, Repr

/-- The sentence for why a dependency does not hold. -/
def Invalidity.message : Invalidity → String
  | .unknownSource name => "Source project '" ++ name ++ "' does not exist"
  | .unknownTarget name => "Target project '" ++ name ++ "' does not exist"
  | .selfReference name => Dependency.selfReference name
  | .noEvidence => "Static dependencies require a source file"
  | .foreignEvidence file root =>
    "Source file '" ++ file ++ "' is outside project root '" ++ root ++ "'"

/-- The file that shows a dependency, without blanks around its path. -/
def evidenceFile (d : Dependency) : String :=
  String.ofList (Text.trim d.evidence.toList)

/-- What is wrong with a dependency in a set of projects, if anything is. -/
def invalidity (d : Dependency) (projects : Table Project) : Option Invalidity :=
  match projects.get? d.source with
  | none => some (.unknownSource d.source)
  | some source =>
    if !projects.has d.target then some (.unknownTarget d.target)
    else if d.evidenceFile.isEmpty then some .noEvidence
    else if Path.belongsTo d.evidenceFile source.root then none
    else some (.foreignEvidence d.evidenceFile source.root)

theorem invalidity_eq_none_iff {d : Dependency} {projects : Table Project} :
    d.invalidity projects = none ↔
      ∃ source, projects.get? d.source = some source ∧ projects.has d.target = true ∧
        d.evidenceFile.isEmpty = false ∧ Path.belongsTo d.evidenceFile source.root = true := by
  unfold invalidity
  cases projects.get? d.source with
  | none => simp
  | some source =>
    cases ht : projects.has d.target <;> cases he : d.evidenceFile.isEmpty <;>
      cases hb : Path.belongsTo d.evidenceFile source.root <;> simp

/-- The pair of projects that a dependency joins. -/
def ends (d : Dependency) : String × String :=
  (d.source, d.target)

end Dependency

end MakeAtlas
