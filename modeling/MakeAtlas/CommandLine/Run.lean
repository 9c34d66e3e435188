import MakeAtlas.CommandLine.Machine
import MakeAtlas.CommandLine.ProjectTable
import MakeAtlas.CommandLine.Request
import MakeAtlas.Graph.Cycle
import MakeAtlas.Graph.Export
import MakeAtlas.Inference.Scan
import MakeAtlas.Settings.Source
import MakeAtlas.Value.Json.Printer
import MakeAtlas.Workspace.Writing

/-!
# Running requests

A request is answered with an exit status, error messages and something to show, and it may write a
file. What goes wrong before anything is written or shown is reported, with a few exceptions: a home
folder that is not known, settings of an unsupported kind, and calls nested too deep leave a request
without an answer. So does what goes wrong while something is written or shown, and a limit of
cycles that is refused. That memory or threads run out, or that the program is stopped from outside,
is not said here.
-/

namespace MakeAtlas.CommandLine

open MakeAtlas.Inference

/-- What is reported of a request that cannot be carried out. -/
inductive RunError where
  | file (e : FileError)
  | noWorkspace (path : String)
  | settings (e : Settings.LoadError)
  | options (e : Settings.OverrideError)
  | scan (e : ScanError)

namespace RunError

/-- What is said when a request cannot be carried out, with a note on each cause of a fault. -/
def message (note : Record.Cause → String) : RunError → String
  | .file e => e.message
  | .noWorkspace path => "Workspace is not a directory: " ++ path
  | .settings e => e.message note
  | .options e => e.message note
  | .scan e => e.message

/-- Whether the user has to mend the settings. -/
def isConfiguration : RunError → Bool
  | .scan e => e.isConfiguration
  | _ => false

end RunError

/-- Why a request is left without an answer. -/
inductive Interruption where
  /-- The home folder of a user is not known. -/
  | homeless
  /-- The settings are of no kind that settings may have. -/
  | unsupported (value : Value)
  /-- Calls are nested too deep. -/
  | exhausted
  /-- The file of the request cannot be written. -/
  | unwritten (e : FileError)
  /-- The cycles cannot be counted up to the limit. -/
  | uncounted (fault : Graph.LimitFault)
  /-- What there is to show cannot be shown. -/
  | unshown (fault : ShowFault)

/-- What is said when a request is left without an answer, with a note on each cause of a fault. -/
def Interruption.message (note : Record.Cause → String) : Interruption → String
  | .homeless => "Could not determine home directory."
  | .unsupported value => (Settings.LoadError.unsupported value).message note
  | .exhausted => "maximum recursion depth exceeded"
  | .unwritten e => e.message
  | .uncounted fault => fault.message
  | .unshown fault => fault.message

/-- Why nothing is made of a request. -/
inductive Failure where
  | reported (e : RunError)
  | interrupted (i : Interruption)

/-- A step of a cycle, from a project to the next, with the file that shows it. -/
structure CycleStep where
  source : String
  target : String
  evidence : String
  deriving DecidableEq, Repr

/-- What a request shows. -/
inductive Shown where
  | nothing
  | document (v : Value)
  /-- A row of cells for each project, and a line below them. -/
  | table (rows : List (List String)) (lastLine : String)
  | cycles (found : List (List CycleStep))

/-- The answer to a request. -/
structure Answer where
  exit : Nat
  errors : List String := []
  shown : Shown := .nothing
  disk : Disk

/-- The absolute path of the workspace that a path names, seen from a folder. -/
def findWorkspace (m : Machine) (disk : Disk) (folder path : String) : Except Failure String :=
  match m.expand? path with
  | none => .error (.interrupted .homeless)
  | some path =>
    Except.mapError Failure.reported do
      let location ← (locate folder path).mapError RunError.file
      if (← (disk.isFolder "/" location).mapError RunError.file) then .ok location
      else .error (.noWorkspace location)

/-- What an option was given, as a value: without a value it is an empty list. -/
def Given.toValue {α : Type} (write : α → Value) : Given α → Value
  | .absent => .null
  | .blank => .list []
  | .value a => write a

/-- The document with the settings of a request, if there is one. -/
def findDocument (disk : Disk) (folder location : String) (r : Request) :
    Except Failure (Option Settings.Document) :=
  match r.config with
  | .absent =>
    (Settings.documentOfWorkspace? disk location).mapError fun e => .reported (.settings e)
  | .blank => .error (.interrupted (.unsupported (.list [])))
  | .value text =>
    ((Settings.documentOfText disk folder text).map some).mapError fun e => .reported (.settings e)

/-- The settings in a document, as long as the stack is deep enough to read it. Without a document
they are the defaults. -/
def readSettings (stack : Stack) : Option Settings.Document → Except Failure Settings
  | none => .ok {}
  | some d =>
    if stack.reads d then d.settings.mapError fun e => .reported (.settings e)
    else .error (.interrupted .exhausted)

/-- The settings for a request, seen from a folder. -/
def findSettings (m : Machine) (disk : Disk) (folder location : String) (r : Request) :
    Except Failure Settings := do
  let base ← readSettings m.stack (← findDocument disk folder location r)
  -- options that were not given are null, which overrides nothing
  let changes : Table Value :=
    [("dependency_compiler", r.mode.toValue fun mode => .text mode.name),
      ("max_files_per_project", r.maxFiles.toValue .int)]
  (base.override changes).mapError fun e => .reported (.options e)

/-- What is to be handed out, and whether it goes to the file of the request. -/
inductive Product where
  | document (v : Value) (output : Option String)
  /-- The table of a graph's projects. -/
  | table (g : Graph)
  /-- The cycles of a graph, up to a limit. -/
  | cycles (g : Graph) (limit : Int)

/-- The steps of a cycle with the files that show them. -/
def cycleSteps (g : Graph) (cycle : List String) : List CycleStep :=
  (Graph.steps cycle).map fun (source, target) =>
    ⟨source, target, (g.evidence? (source, target)).getD "unknown"⟩

/-- What a command makes of a workspace. -/
def produce (t : Target) (settings : Settings) : Command → Except ScanError Product
  | .nodes output => do
    let nodes ← t.nodes settings
    .ok (.document (.table (nodes.map fun (root, node) => (root, node.toValue))) output)
  | .deps output changed => do
    let nodes ← t.nodes settings
    let (found, _) ← t.dependencies settings (projectsOf nodes) changed
    .ok (.document (.list (found.map Dependency.toValue)) output)
  | .scan output => do
    let (g, _) ← t.scan settings none
    if (output.getD "").isEmpty then .ok (.table g) else .ok (.document g.toValue output)
  | .cycles limit _ => do
    let (g, _) ← t.scan settings none
    .ok (.cycles g limit)

/-- What is made of a request seen from a folder. -/
def prepare (m : Machine) (disk : Disk) (toolchain : Toolchain) (folder : String) (r : Request) :
    Except Failure Product := do
  let location ← findWorkspace m disk folder r.workspace
  let settings ← findSettings m disk folder location r
  (produce ⟨disk, toolchain, location⟩ settings r.command).mapError fun e => .reported (.scan e)

/-- How a command reports an error. -/
def report (m : Machine) (command : Command) (e : RunError) : String :=
  match command, e.isConfiguration with
  | .cycles _ _, _ => "cycles failed: " ++ e.message m.note
  | _, true => e.message m.note
  | _, false => command.name ++ " failed: " ++ e.message m.note

/-- The answer to a command that reports cycles. -/
def cyclesAnswer (disk : Disk) (command : Command) (found : List (List CycleStep)) : Answer :=
  match command, found with
  | .cycles _ true, _ :: _ => ⟨1, ["Dependency cycles detected"], .cycles found, disk⟩
  | _, _ => ⟨0, [], .cycles found, disk⟩

/-- The answer that hands out a product. A document with a named file is written there, and cycles
are looked for only here. -/
def deliver (m : Machine) (disk : Disk) (folder : String) (command : Command) :
    Product → Except (Interruption × Disk) Answer
  | .cycles g limit =>
    match g.findCycles (some limit) with
    | .ok found => .ok (cyclesAnswer disk command (found.map (cycleSteps g)))
    | .error fault => .error (.uncounted fault, disk)
  | .table g =>
    match m.console.table (tableColumns g) with
    | .ok rows => .ok ⟨0, [], .table rows (lastLine g), disk⟩
    | .error fault => .error (.unshown fault, disk)
  | .document v output =>
    match output.filter fun path => !path.isEmpty with
    | none =>
      match m.console.document v with
      | .ok () => .ok ⟨0, [], .document v, disk⟩
      | .error fault => .error (.unshown fault, disk)
    | some path =>
      if m.stack.makes (disk.missingAbove folder path) then
        let attempt := disk.write folder path (Text.Utf8.encode (Json.render v))
        match attempt.error with
        | none => .ok { exit := 0, disk := attempt.disk }
        | some e => .error (.unwritten e, attempt.disk)
      else .error (.exhausted, disk)

/-- Answers a request seen from a folder. -/
def answer (m : Machine) (disk : Disk) (toolchain : Toolchain) (folder : String) (r : Request) :
    Except (Interruption × Disk) Answer :=
  match prepare m disk toolchain folder r with
  | .error (.interrupted i) => .error (i, disk)
  | .error (.reported e) => .ok { exit := 1, errors := [report m r.command e], disk }
  | .ok product => deliver m disk folder r.command product

/-- The exit status of a command line that is not carried out. -/
def Stop.exit : Stop → Nat
  | .help => 0
  | .usage => 2

end MakeAtlas.CommandLine
