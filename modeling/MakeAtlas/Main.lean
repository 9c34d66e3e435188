import MakeAtlas.CommandLine.Show

/-!
# The command line program

A request is answered from what is on the disk: the workspace with all below it, and the settings
file that the command line names. The program runs no compilers, so a mode that needs one reports
that it is not installed, and it calls no handlers, so their parameters are not read. It knows the
home folder of the user at work, and no other.
-/

namespace MakeAtlas.Program

/-- How the program is called. -/
def usage : String :=
  "usage: makegraph [-h] [-v] [-c CONFIG] [--compiler MODE] [--max-files N]\n" ++
    "                 COMMAND [WORKSPACE]\n" ++
    "commands:\n" ++
    "  nodes  [-o FILE]                       list the projects and their tasks\n" ++
    "  deps   [-o FILE] [--changed NAME ...]  list the dependencies between projects\n" ++
    "  scan   [-o FILE]                       write the graph, or show a table of it\n" ++
    "  cycles [--limit N] [--fail-on-cycle]   report cycles of dependencies"

/-- A machine without compilers. -/
def noCompilers : Toolchain where
  isInstalled _ := false
  version _ := .missing
  list _ _ := .missing

/-- The machine of a user with a home folder. -/
def machineOf (home : Option String) : CommandLine.Machine where
  home? name := if name.isEmpty then home else none
  console := .ofReader fun _ => none
  stack := .endless
  note _ := ""

/-- A file as an entry. -/
def loadFile (place : IO.FS.DirEntry) : IO Entry :=
  return .file (← IO.FS.readBinFile place.path).data.toList

/-- A folder as an entry, with all below it. -/
partial def loadFolder (place : IO.FS.DirEntry) : IO Entry := do
  let found ← place.path.readDir
  let children ← found.toList.mapM fun child => do
    let entry ← if ← child.path.isDir then loadFolder child else loadFile child
    return (child.fileName, entry)
  return .folder children

/-- Adds what is found at a path seen from the folder one is in, unless it cannot be loaded. -/
def addFound (load : IO.FS.DirEntry → IO Entry) (path : String) (disk : Disk) : IO Disk := do
  let here ← IO.currentDir
  try
    return disk.put (Disk.place here.toString path) (← load ⟨here, path⟩)
  catch _ => return disk

/-- The part of the disk that a request is about. -/
def diskFor (m : CommandLine.Machine) (folder : String) (r : CommandLine.Request) : IO Disk := do
  let start := Disk.makeFolder {} (Disk.place folder ".")
  let disk ← addFound loadFolder ((m.expand? r.workspace).getD r.workspace) start
  match r.config with
  | .value path => addFound loadFile path disk
  | _ => return disk

/-- The file that a request is to be written to. -/
def outputOf (r : CommandLine.Request) : Option String :=
  match r.command with
  | .nodes output | .deps output _ | .scan output => output.filter fun path => !path.isEmpty
  | .cycles _ _ => none

/-- Writes the file of a request, taken from the disk of its answer, and makes the folders above
it. -/
def writeOutput (folder : String) (answer : CommandLine.Answer) (path : String) : IO Unit :=
  match answer.disk.contentsOf folder path with
  | .ok content => do
    IO.FS.createDirAll (String.intercalate "/" ("" :: (Disk.place folder path).dropLast))
    IO.FS.writeBinFile path ⟨content.toArray⟩
  | .error _ => pure ()

/-- Carries out a request. -/
def run (r : CommandLine.Request) : IO UInt32 := do
  let folder := (← IO.currentDir).toString
  let machine := machineOf (← IO.getEnv "HOME")
  let disk ← diskFor machine folder r
  match CommandLine.answer machine disk noCompilers folder r with
  | .error (e, _) =>
    IO.eprintln (e.message machine.note)
    return 1
  | .ok answer =>
    for message in answer.errors do
      IO.eprintln message
    for line in answer.shown.lines do
      IO.println line
    if answer.exit = 0 then
      if let some path := outputOf r then writeOutput folder answer path
    return UInt32.ofNat answer.exit

end MakeAtlas.Program

/-- Reads the command line and carries it out. -/
def main (args : List String) : IO UInt32 :=
  match MakeAtlas.CommandLine.request .value args with
  | .error stop => do
    IO.println MakeAtlas.Program.usage
    return UInt32.ofNat stop.exit
  | .ok none => do
    IO.println MakeAtlas.Program.usage
    return 1
  | .ok (some r) => MakeAtlas.Program.run r
