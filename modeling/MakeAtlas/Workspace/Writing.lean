import MakeAtlas.Workspace.Disk

/-!
# Writing files

A file is written at a path after the folders above it have been made. Making folders stops at the
first that cannot be made; those made before stay.
-/

namespace MakeAtlas.Disk

/-- A disk after an attempt to change it, and what has kept the attempt from succeeding. -/
structure Attempt where
  disk : Disk
  error : Option FileError := none

/-- The path of steps from an anchor; no steps are the anchor or the folder one is in. -/
def pathOf (anchor : List Char) (names : List (List Char)) : String :=
  match anchor ++ Path.joinSteps names with
  | [] => "."
  | text => String.ofList text

/-- Where a path leads to, as steps from the root. -/
def place (folder path : String) : List String :=
  (Path.collapse true (Path.steps (Path.append folder.toList path.toList))).map String.ofList

/-- Makes the folder at the end of a trail, whose last step comes first. The folder above it has to
be there. -/
def makeOne (disk : Disk) (folder : String) (anchor : List Char) (trail : List (List Char)) :
    Attempt :=
  let path := pathOf anchor trail.reverse
  match disk.find folder path with
  | .ok (.folder _) => ⟨disk, none⟩
  | .ok (.file _) => ⟨disk, some ⟨.exists, path⟩⟩
  | .error e =>
    if e.fault = .notFound then
      -- either this folder is missing or one above it
      match disk.find folder (pathOf anchor (trail.drop 1).reverse) with
      | .ok (.folder _) => ⟨disk.makeFolder (place folder path), none⟩
      | _ => ⟨disk, some e⟩
    else ⟨disk, some e⟩

/-- Makes the folder at the end of a trail and all folders above it that are missing. -/
def makeAll (disk : Disk) (folder : String) (anchor : List Char) :
    (trail : List (List Char)) → Attempt
  | [] => disk.makeOne folder anchor []
  | name :: above =>
    let attempt := disk.makeOne folder anchor (name :: above)
    match attempt.error with
    | none => attempt
    | some e =>
      if e.fault = .notFound then
        -- one more try once the folders above are there
        let made := disk.makeAll folder anchor above
        match made.error with
        | none => made.disk.makeOne folder anchor (name :: above)
        | some _ => made
      else attempt

/-- How many folders at the end of a trail are missing, one in the other. -/
def missing (disk : Disk) (folder : String) (anchor : List Char) :
    (trail : List (List Char)) → Nat
  | [] => 0
  | name :: above =>
    match (disk.makeOne folder anchor (name :: above)).error with
    | some e => if e.fault = .notFound then disk.missing folder anchor above + 1 else 0
    | none => 0

/-- How many folders above a path have to be made for it. -/
def missingAbove (disk : Disk) (folder path : String) : Nat :=
  disk.missing folder (Path.anchor path.toList) ((Path.steps path.toList).reverse.drop 1)

/-- Writes a file whose folder is there. -/
def writeInPlace (disk : Disk) (folder path : String) (content : Text.Utf8.Bytes) : Attempt :=
  match disk.find folder path with
  | .ok (.folder _) => ⟨disk, some ⟨.isFolder, path⟩⟩
  | .ok (.file _) => ⟨disk.put (place folder path) (.file content), none⟩
  | .error e =>
    if e.fault = .notFound then ⟨disk.put (place folder path) (.file content), none⟩
    else ⟨disk, some e⟩

/-- Writes a file at a path seen from a folder, and makes the folders above it. -/
def write (disk : Disk) (folder path : String) (content : Text.Utf8.Bytes) : Attempt :=
  let anchor := Path.anchor path.toList
  let names := Path.steps path.toList
  let made := disk.makeAll folder anchor (names.reverse.drop 1)
  match made.error with
  | none => made.disk.writeInPlace folder (pathOf anchor names) content
  | some _ => made

end MakeAtlas.Disk
