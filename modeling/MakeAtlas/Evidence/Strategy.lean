import MakeAtlas.Evidence.Makefile
import MakeAtlas.Evidence.Scanner
import MakeAtlas.Resolution.Basic

/-!
# Strategies

A strategy looks for dependencies of a project in one kind of evidence and resolves every reference
it finds. It may fail for a project; some failures are the user's to mend and end everything.
-/

namespace MakeAtlas

/-- Why a strategy has no answer for a project. -/
inductive Failure where
  /-- Something about the project; others may still be answered. -/
  | recoverable (reason : String)
  /-- Something about the settings. -/
  | configuration (reason : String)
  deriving DecidableEq, Repr

/-- A way to find the dependencies of a project. -/
structure Strategy where
  name : String
  find : Project → Except Failure (List Resolution)

/-- The workspace that strategies look at: its files, its compilers and its projects. -/
structure Site where
  disk : Disk
  toolchain : Toolchain
  atlas : Atlas

namespace Site

/-- The absolute path of a project's folder. -/
def folderOf (site : Site) (p : Project) : String :=
  Path.resolve site.atlas.index.location p.root

/-- The workspace-relative path of a project's Makefile. -/
def makefileOf (p : Project) : String :=
  Path.underRoot p.root Workspace.makefileName

/-- What a reference of a project leads to. -/
def resolve (site : Site) (p : Project) (r : Reference) : Resolution :=
  site.atlas.resolve p r.path r.file (r.line.map Int.ofNat)

/-- The resolutions of what a scanner finds in a project. A project without a folder has none. -/
def includeResolutions (site : Site) (scanner : IncludeScanner) (p : Project) :
    Except FileError (List Resolution) := do
  let folder := site.folderOf p
  if (← site.disk.isFolder "/" folder) then
    let references ← scanner.scan site.disk site.toolchain folder p.root
    .ok (references.map (site.resolve p))
  else .ok []

/-- The resolutions of what a project's Makefile refers to. -/
def makefileResolutions (site : Site) (p : Project) : Except FileError (List Resolution) := do
  match (← site.disk.readMakefile (site.folderOf p)) with
  | none => .ok []
  | some text =>
    let references := Evidence.makefileReferences (makefileOf p) (String.ofList text)
    .ok (references.map (site.resolve p))

end Site

/-- A kind of evidence. -/
inductive EvidenceKind where
  /-- What sources include. -/
  | includes (scanner : IncludeScanner)
  /-- What Makefiles refer to. -/
  | makefile
  deriving DecidableEq, Repr

namespace EvidenceKind

/-- The name of a kind of evidence. -/
def name : EvidenceKind → String
  | .includes _ => "includes"
  | .makefile => "makefile"

/-- A kind of evidence with its details. -/
def describe : EvidenceKind → String
  | .includes scanner => "IncludeScanStrategy(scanner=" ++ Text.quoted scanner.name ++ ")"
  | .makefile => "MakefileReferenceStrategy(name='makefile')"

/-- What a kind of evidence shows about a project. -/
def resolutions (kind : EvidenceKind) (site : Site) (p : Project) :
    Except FileError (List Resolution) :=
  match kind with
  | .includes scanner => site.includeResolutions scanner p
  | .makefile => site.makefileResolutions p

/-- The strategy that looks for a kind of evidence. -/
def strategy (kind : EvidenceKind) (site : Site) : Strategy where
  name := kind.name
  find p := (kind.resolutions site p).mapError fun e => .recoverable e.message

/-- The commands that are run for a project, each with its folder. -/
def runs (kind : EvidenceKind) (site : Site) (p : Project) : List (String × List String) :=
  match kind, site.disk.isFolder "/" (site.folderOf p) with
  | .includes scanner, .ok true => scanner.runs site.disk (site.folderOf p)
  | _, _ => []

end EvidenceKind

end MakeAtlas
