import MakeAtlas.Workspace.Disk
import MakeAtlas.Workspace.Ignore

/-!
# Finding the Makefiles of a workspace

Every file named `Makefile` below the workspace defines a project. Entries that an ignore pattern
names are left out with all that is below them; patterns come from a built-in list, from the
workspace's ignore file and from the caller. Paths are reported relative to the workspace, in
order, with backslashes in names shown as slashes.

* `load_subfolders_lt`   the search ends: a folder that has been searched leaves less to search
-/

namespace MakeAtlas.Workspace

open MakeAtlas.Text

/-- The name of the file that defines a project. -/
def makefileName : String := "Makefile"

/-- The name of the file that lists ignore patterns. -/
def ignoreFileName : String := ".gitignore"

/-- The bytes that an ignore file is read in at a time. -/
def blockSize : Nat := 8192

/-- How many bytes have been taken in when a fault shows. -/
def bytesBefore (fault : Utf8.Fault) (size : Nat) : Nat :=
  match fault.reason with
  | .invalidStart => fault.start / blockSize * blockSize
  | .invalidContinuation => (fault.start + fault.bytes.length) / blockSize * blockSize
  | .unexpectedEnd => size

/-- A text without a carriage return at its end, whose line break is still open. -/
def dropOpenBreak (cs : List Char) : List Char :=
  if cs.getLast? = some '\r' then cs.dropLast else cs

/-- The text of an ignore file. It is read block by block; a block that is not UTF-8 ends the
reading, and lines that were not complete by then are lost. -/
def ignoreText (content : Utf8.Bytes) : List Char :=
  match Utf8.decode content with
  | .ok text => unifyNewlines text
  | .error fault =>
    let taken := Utf8.decodeKeeping (content.take (bytesBefore fault content.length))
    dropEndWhile (· != '\n') (unifyNewlines (dropOpenBreak taken))

/-- The patterns of the ignore file in a folder. -/
def ignoreFilePatterns (children : List (String × Entry)) : List String :=
  match Table.get? children ignoreFileName with
  | some (.file content) => ignorePatterns (ignoreText content)
  | _ => []

/-- An entry's path below a folder. -/
def pathBelow (folder name : String) : String :=
  if folder.isEmpty then name else folder ++ "/" ++ name

/-- A folder that is still to be searched: its path in the workspace, and the entries in it. -/
structure Unsearched where
  path : String
  children : List (String × Entry)

/-- The Makefile that an entry of a folder is, unless a pattern names it. -/
def makefile? (ignores : List String) (folder : String) : String × Entry → Option String
  | (_, .folder _) => none
  | (name, .file _) =>
    let path := Path.toForward (pathBelow folder name)
    if isIgnored ignores path name false || name != makefileName then none else some path

/-- The folder that an entry of a folder is, unless a pattern names it. -/
def subfolder? (ignores : List String) (folder : String) : String × Entry → Option Unsearched
  | (_, .file _) => none
  | (name, .folder children) =>
    if isIgnored ignores (Path.toForward (pathBelow folder name)) name true then none
    else some ⟨pathBelow folder name, children⟩

/-- How much there is to search in some folders. -/
def load : List Unsearched → Nat
  | [] => 0
  | folder :: rest => 1 + Entry.countAll folder.children + load rest

theorem load_append (first second : List Unsearched) :
    load (first ++ second) = load first + load second := by
  induction first with
  | nil => simp [load]
  | cons folder rest ih =>
    simp only [List.cons_append, load, ih]
    omega

theorem load_filterMap_le (ignores : List String) (folder : String)
    (children : List (String × Entry)) :
    load (children.filterMap (subfolder? ignores folder)) ≤ Entry.countAll children := by
  induction children with
  | nil => simp [load, Entry.countAll]
  | cons child rest ih =>
    obtain ⟨name, entry⟩ := child
    cases entry with
    | file content =>
      simp only [List.filterMap_cons, subfolder?, Entry.countAll]
      omega
    | folder inner =>
      -- a folder that a pattern names counts for nothing, any other for itself
      by_cases named : isIgnored ignores (Path.toForward (pathBelow folder name)) name true = true
      · simp only [List.filterMap_cons, subfolder?, named, if_true, Entry.countAll]
        omega
      · simp only [List.filterMap_cons, subfolder?, named, Bool.false_eq_true, if_false,
          Entry.countAll, Entry.count, load] at ih ⊢
        omega

theorem load_subfolders_lt (ignores : List String) (folder : Unsearched)
    (rest : List Unsearched) :
    load ((Entry.sorted folder.children).filterMap (subfolder? ignores folder.path) ++ rest) <
      load (folder :: rest) := by
  have below := load_filterMap_le ignores folder.path (Entry.sorted folder.children)
  rw [Entry.countAll_perm (Entry.sorted_perm folder.children)] at below
  rw [load_append, load]
  omega

/-- The Makefiles in folders and below them. A folder's entries are looked at in the order of their
names; what is below it is searched before the folders that were left before. -/
def search (ignores : List String) : List Unsearched → List String
  | [] => []
  | folder :: rest =>
    let entries := Entry.sorted folder.children
    have := load_subfolders_lt ignores folder rest
    entries.filterMap (makefile? ignores folder.path) ++
      search ignores (entries.filterMap (subfolder? ignores folder.path) ++ rest)
termination_by folders => load folders

/-- The patterns that apply to a folder taken as a workspace. -/
def ignoresFor (children : List (String × Entry)) (extra : List String) : List String :=
  builtinIgnores ++ ignoreFilePatterns children ++ extra

/-- The paths of the Makefiles below the entries of a workspace. -/
def makefilesIn (children : List (String × Entry)) (extra : List String) : List String :=
  (search (ignoresFor children extra) [⟨"", children⟩]).mergeSort (· ≤ ·)

/-- The paths of the Makefiles of the workspace at a path. A workspace that cannot be listed has
none. -/
def makefiles (disk : Disk) (location : String) (extra : List String) :
    Except FileError (List String) :=
  let location := Path.absolute "/" location
  match disk.find "/" location with
  | .ok entry => .ok (makefilesIn entry.children extra)
  | .error e =>
    if e.fault = .nullByte then .error e
    else if e.fault = .nameTooLong then
      .error ⟨.nameTooLong, pathBelow location ignoreFileName⟩
    else .ok []

end MakeAtlas.Workspace
