import MakeAtlas.Path.Basic
import MakeAtlas.Table
import MakeAtlas.Text.Quoted
import MakeAtlas.Text.Utf8

/-!
# Files and folders

A disk is a tree of folders and files without links. Their names are texts, all of them may be read
and changed, and the disk never runs full. A path is followed step by step from the root: each step
but the last has to be a folder, `..` goes back to the folder above, and a step that is looked up may
have at most 255 bytes.

* `countAll_perm`   the number of entries below a folder does not hang on their order
-/

namespace MakeAtlas

open MakeAtlas.Text

/-- A file with its contents, or a folder with the entries in it. -/
inductive Entry where
  | file (content : Utf8.Bytes)
  | folder (children : List (String × Entry))
  deriving Inhabited

namespace Entry

mutual

/-- How many files and folders an entry is made of, itself included. -/
def count : Entry → Nat
  | .file _ => 1
  | .folder children => 1 + countAll children

/-- How many files and folders a list of entries is made of. -/
def countAll : List (String × Entry) → Nat
  | [] => 0
  | (_, entry) :: rest => count entry + countAll rest

end

theorem countAll_perm {first second : List (String × Entry)} (h : first.Perm second) :
    countAll first = countAll second := by
  induction h with
  | nil => rfl
  | cons child _ ih => simp only [countAll, ih]
  | swap child other rest =>
    simp only [countAll]
    omega
  | trans _ _ ih₁ ih₂ => exact ih₁.trans ih₂

/-- Whether an entry is a file. -/
def isFile : Entry → Bool
  | .file _ => true
  | .folder _ => false

/-- The entries of a folder by name; a file has none. -/
def children : Entry → List (String × Entry)
  | .file _ => []
  | .folder children => children

/-- Entries in the order of their names. -/
def sorted (children : List (String × Entry)) : List (String × Entry) :=
  children.mergeSort fun a b => a.1 ≤ b.1

theorem sorted_perm (children : List (String × Entry)) : (sorted children).Perm children :=
  List.mergeSort_perm _ _

/-- Changes the entry at a path. Folders on the way are made; a file on the way is left alone. -/
def alter : List String → (Option Entry → Option Entry) → List (String × Entry) →
    List (String × Entry)
  | [], _, children => children
  | [name], f, children =>
    match f (Table.get? children name) with
    | some entry => Table.put children name entry
    | none => Table.erase children name
  | name :: rest, f, children =>
    match Table.get? children name with
    | some (.file _) => children
    | some (.folder inner) => Table.put children name (.folder (alter rest f inner))
    | none => Table.put children name (.folder (alter rest f []))

end Entry

/-- Why a path cannot be used. -/
inductive PathFault where
  | notFound
  | exists
  | notFolder
  | isFolder
  | nameTooLong
  | nullByte
  deriving DecidableEq, Repr

/-- A path that cannot be used, as it was given. -/
structure FileError where
  fault : PathFault
  path : String
  deriving DecidableEq, Repr

namespace FileError

/-- What is said about a path that cannot be used. -/
def message (e : FileError) : String :=
  let numbered (n : Nat) (text : String) : String :=
    "[Errno " ++ toString n ++ "] " ++ text ++ ": " ++ quoted e.path
  match e.fault with
  | .notFound => numbered 2 "No such file or directory"
  | .exists => numbered 17 "File exists"
  | .notFolder => numbered 20 "Not a directory"
  | .isFolder => numbered 21 "Is a directory"
  | .nameTooLong => numbered 36 "File name too long"
  | .nullByte => "embedded null byte"

end FileError

/-- The absolute path that a path names, seen from a folder. A path with a NUL names nothing. -/
def locate (folder path : String) : Except FileError String :=
  if path.toList.contains '\x00' then .error ⟨.nullByte, path⟩
  else .ok (Path.absolute folder path)

/-- All files and folders there are. -/
structure Disk where
  root : List (String × Entry) := []

namespace Disk

/-- The most bytes in a step that is looked up. -/
def maxNameBytes : Nat := 255

/-- The most bytes in a path. -/
def maxPathBytes : Nat := 4095

/-- Follows steps from a folder, whose parents are given with the nearest first. -/
def follow (parents : List Entry) (current : Entry) : List String → Except PathFault Entry
  | [] => .ok current
  | name :: rest =>
    match current with
    | .file _ => .error .notFolder
    | .folder children =>
      if name = ".." then
        match parents with
        -- the root is the folder above itself
        | [] => follow [] current rest
        | parent :: above => follow above parent rest
      else if maxNameBytes < name.utf8ByteSize then .error .nameTooLong
      else
        match Table.get? children name with
        | none => .error .notFound
        | some entry => follow (current :: parents) entry rest

/-- The steps of a path seen from a folder. -/
def stepsFrom (folder path : String) : List String :=
  (Path.steps (Path.append folder.toList path.toList)).map String.ofList

/-- The entry at a path seen from a folder. -/
def find (disk : Disk) (folder path : String) : Except FileError Entry :=
  if path.toList.contains '\x00' || folder.toList.contains '\x00' then .error ⟨.nullByte, path⟩
  else if maxPathBytes < path.utf8ByteSize then .error ⟨.nameTooLong, path⟩
  else (follow [] (.folder disk.root) (stepsFrom folder path)).mapError fun fault => ⟨fault, path⟩

/-- What a test for a kind of entry answers. Paths that lead nowhere are of no kind; a name that is
too long is an error. -/
def isKind (kind : Entry → Bool) : Except FileError Entry → Except FileError Bool
  | .ok entry => .ok (kind entry)
  | .error e => if e.fault = .nameTooLong then .error e else .ok false

/-- Whether there is a file at a path. -/
def isFile (disk : Disk) (folder path : String) : Except FileError Bool :=
  isKind Entry.isFile (disk.find folder path)

/-- Whether there is a folder at a path. -/
def isFolder (disk : Disk) (folder path : String) : Except FileError Bool :=
  isKind (fun entry => !entry.isFile) (disk.find folder path)

/-- The contents of the file at a path. -/
def contentsOf (disk : Disk) (folder path : String) : Except FileError Utf8.Bytes :=
  match disk.find folder path with
  | .ok (.file content) => .ok content
  | .ok (.folder _) => .error ⟨.isFolder, path⟩
  | .error e => .error e

/-- The entries of the folder at a path. -/
def listFolder (disk : Disk) (folder path : String) :
    Except FileError (List (String × Entry)) :=
  match disk.find folder path with
  | .ok (.folder children) => .ok children
  | .ok (.file _) => .error ⟨.notFolder, path⟩
  | .error e => .error e

/-- Puts an entry at steps from the root, with the folders on the way. -/
def put (disk : Disk) (steps : List String) (entry : Entry) : Disk :=
  ⟨Entry.alter steps (fun _ => some entry) disk.root⟩

/-- Makes a folder at steps from the root, unless something is there. -/
def makeFolder (disk : Disk) (steps : List String) : Disk :=
  ⟨Entry.alter steps (fun found => some (found.getD (.folder []))) disk.root⟩

/-- Removes what is at steps from the root. -/
def remove (disk : Disk) (steps : List String) : Disk :=
  ⟨Entry.alter steps (fun _ => none) disk.root⟩

end Disk

end MakeAtlas
