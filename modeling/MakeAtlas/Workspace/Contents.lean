import MakeAtlas.Workspace.Discovery

/-!
# Contents of project folders

What can be read of a project's folder. Files and folders that are not there, or cannot be read,
count as empty; only a path that no file can have is an error.
-/

namespace MakeAtlas.Disk

/-- The path of an entry in a folder. -/
def pathIn (folder name : String) : String :=
  String.ofList (Path.append folder.toList name.toList)

/-- Keeps the error that a path can name no file; any other is no answer. -/
def unlessImpossible {α : Type} : Except FileError α → Except FileError (Option α)
  | .ok a => .ok (some a)
  | .error e => if e.fault = .nullByte then .error e else .ok none

/-- The text of the file at an absolute path. -/
def readText (disk : Disk) (path : String) : Except FileError (Option (List Char)) :=
  (unlessImpossible (disk.contentsOf "/" path)).map fun content =>
    content.map fun bytes => Text.unifyNewlines (Text.Utf8.decodeLossy bytes)

/-- The text of the Makefile in the folder at an absolute path. -/
def readMakefile (disk : Disk) (folder : String) : Except FileError (Option (List Char)) :=
  disk.readText (pathIn folder Workspace.makefileName)

/-- The entries of the folder at an absolute path. -/
def entriesOf (disk : Disk) (folder : String) : Except FileError (List (String × Entry)) :=
  (unlessImpossible (disk.listFolder "/" folder)).map fun entries => entries.getD []

end MakeAtlas.Disk
