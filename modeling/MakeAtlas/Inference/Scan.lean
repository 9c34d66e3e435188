import MakeAtlas.Graph.Basic
import MakeAtlas.Inference.Dependencies
import MakeAtlas.Inference.Nodes
import MakeAtlas.Inference.Registry

/-!
# Scanning a workspace

All of it in one go: the nodes of a workspace, the dependencies between them, and the graph of both.
-/

namespace MakeAtlas.Inference

/-- A workspace that can be scanned: its files, its compilers, and its absolute path. -/
structure Target where
  disk : Disk
  toolchain : Toolchain
  location : String

/-- Why a workspace cannot be scanned. -/
inductive ScanError where
  | build (e : BuildError)
  | evidence (e : EvidenceError)
  /-- A strategy has found that the settings cannot be used. -/
  | configuration (reason : String)

namespace ScanError

/-- What is said when a workspace cannot be scanned. -/
def message : ScanError → String
  | .build e => e.message
  | .evidence e => e.message
  | .configuration reason => reason

/-- Whether the user has to mend the settings. -/
def isConfiguration : ScanError → Bool
  | .build _ => false
  | .evidence e => e.isConfiguration
  | .configuration _ => true

end ScanError

namespace Target

/-- The workspace with the projects in it. -/
def site (t : Target) (projects : Table Project) : Site :=
  ⟨t.disk, t.toolchain, .ofProjects t.location projects⟩

/-- The nodes of the workspace. -/
def nodes (t : Target) (settings : Settings) : Except ScanError (Table Node) :=
  (buildNodes t.disk t.location settings).mapError .build

/-- The dependencies between projects that kinds of evidence show, and what is said about
failures. -/
def dependenciesBy (t : Target) (kinds : List EvidenceKind) (projects : Table Project)
    (changed : Option (List String)) : Except ScanError (List Dependency × List String) :=
  (dependencies (kinds.map fun kind => kind.strategy (t.site projects)) projects changed).mapError
    .configuration

/-- The dependencies between projects that the evidence of the settings shows, and what is said
about failures. -/
def dependencies (t : Target) (settings : Settings) (projects : Table Project)
    (changed : Option (List String)) : Except ScanError (List Dependency × List String) := do
  let kinds ← (settings.evidence .standard t.toolchain).mapError .evidence
  t.dependenciesBy kinds projects changed

/-- The graph of the workspace, and what is said about failures. -/
def scan (t : Target) (settings : Settings) (changed : Option (List String)) :
    Except ScanError (Graph × List String) := do
  let nodes ← t.nodes settings
  let (found, warnings) ← t.dependencies settings (projectsOf nodes) changed
  .ok (Graph.ofResults (some t.location) nodes found,
    warnings ++ Graph.warningsOf { location := some t.location } nodes.values)

end Target

end MakeAtlas.Inference
