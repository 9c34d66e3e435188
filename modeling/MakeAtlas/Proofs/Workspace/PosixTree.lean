import MakeAtlas.Proofs.Workspace.Discovered
import Mathlib.Data.List.Nodup

/-!
# Trees with any names

A file system admits almost every name: all characters may stand in it but the slash and the NUL.
Here are the trees of files and folders with such names, the list of all files in a tree, and what
the search for Makefiles makes of that list. Names with a backslash in them are reported with a
slash in its place, so that a reported path need not tell the names any more.

## Key results

- `mem_filePaths_iff`, `nodup_filePaths`: the files of a tree, each once
- `makefilesOf_eq_filePaths`: the search in one entry, as a choice among its files
- `makefilesIn_perm_filePaths`: the search in a workspace
-/

namespace MakeAtlas

namespace Path

/-- Whether a file or folder can have a name: it is not empty, is none of the two special steps,
    holds neither a slash nor a NUL, and is short enough to be looked up. -/
def isPosixName (name : String) : Bool :=
  name != "" && name != "." && name != ".." && !name.toList.contains '/' &&
    !name.toList.contains '\x00' && decide (name.utf8ByteSize ≤ Disk.maxNameBytes)

variable {name : String}

theorem ne_empty_of_isPosixName (h : isPosixName name = true) : name ≠ "" := by
  simp only [isPosixName, Bool.and_eq_true, bne_iff_ne] at h
  exact h.1.1.1.1.1

theorem not_nul_of_isPosixName (h : isPosixName name = true) : '\x00' ∉ name.toList := by
  simp only [isPosixName, Bool.and_eq_true, Bool.not_eq_true', List.contains_eq_mem,
    decide_eq_false_iff_not] at h
  exact h.1.2

theorem length_le_of_isPosixName (h : isPosixName name = true) :
    name.utf8ByteSize ≤ Disk.maxNameBytes := by
  simp only [isPosixName, Bool.and_eq_true, decide_eq_true_eq] at h
  exact h.2

/-- A name without a backslash means the same to all. -/
theorem isName_of_isPosixName (h : isPosixName name = true) (plain : '\\' ∉ name.toList) :
    isName name = true := by
  simp only [isPosixName, Bool.and_eq_true] at h
  simp only [isName, Bool.and_eq_true]
  exact ⟨h.1.1, by simpa using plain⟩

end Path

namespace Entry

/-- A tree of files and folders as a file system can hold it: no folder lists a name twice, and all
    names are admitted. -/
structure IsPosixTree (entry : Entry) : Prop where
  wellNamed : entry.wellNamed = true
  named : ∀ path found, entry.at? path = some found → ∀ name ∈ path, Path.isPosixName name = true

theorem isPosixTree_file (content : Text.Utf8.Bytes) : (Entry.file content).IsPosixTree where
  wellNamed := rfl
  named path found h := by
    cases path with
    | nil => simp
    | cons name below => cases h

theorem isPosixTree_folder_iff {children : List (String × Entry)} :
    (Entry.folder children).IsPosixTree ↔
      (Table.keys children).Nodup ∧
        ∀ child ∈ children, Path.isPosixName child.1 = true ∧ child.2.IsPosixTree := by
  constructor
  · intro h
    obtain ⟨hnodup, hwell⟩ := wellNamed_folder_iff.1 h.wellNamed
    refine ⟨hnodup, fun child hchild => ?_⟩
    have hentry : Table.get? children child.1 = some child.2 :=
      (Table.get?_eq_some_iff_mem hnodup).2 hchild
    have hat : ∀ below, (Entry.folder children).at? (child.1 :: below) = child.2.at? below := by
      intro below
      rw [at?_folder_cons, hentry, Option.bind_some]
    refine ⟨?_, hwell child hchild, fun path found hfound name hname => ?_⟩
    · exact h.named [child.1] child.2 ((hat []).trans (at?_nil _)) child.1 List.mem_cons_self
    · exact h.named _ found ((hat path).trans hfound) name (List.mem_cons_of_mem _ hname)
  · intro h
    obtain ⟨hnodup, hchildren⟩ := h
    have hwell : ∀ child ∈ children, child.2.wellNamed = true := fun child hchild =>
      (hchildren child hchild).2.wellNamed
    refine ⟨wellNamed_folder_iff.2 ⟨hnodup, hwell⟩, ?_⟩
    intro path found hfound
    cases path with
    | nil => simp
    | cons name below =>
      rw [at?_folder_cons, Option.bind_eq_some_iff] at hfound
      obtain ⟨entry, hentry, hfound⟩ := hfound
      obtain ⟨hname, htree⟩ := hchildren (name, entry) (Table.mem_of_get? hentry)
      exact List.forall_mem_cons.2 ⟨hname, htree.named below found hfound⟩

/-! ## The files of a tree -/

mutual

/-- The names that lead to the files of an entry. -/
def filePaths : Entry → List (List String)
  | .file _ => [[]]
  | .folder children => filePathsAmong children

/-- The names that lead to the files among and below some entries. -/
def filePathsAmong : List (String × Entry) → List (List String)
  | [] => []
  | (name, entry) :: rest => (filePaths entry).map (name :: ·) ++ filePathsAmong rest

end

theorem filePathsAmong_eq_flatMap (children : List (String × Entry)) :
    filePathsAmong children =
      children.flatMap fun child => (filePaths child.2).map (child.1 :: ·) := by
  induction children with
  | nil => rw [filePathsAmong, List.flatMap_nil]
  | cons child rest ih => rw [filePathsAmong, List.flatMap_cons, ih]

theorem mem_filePathsAmong_iff {children : List (String × Entry)} {path : List String} :
    path ∈ filePathsAmong children ↔
      ∃ child ∈ children, ∃ below ∈ filePaths child.2, child.1 :: below = path := by
  simp [filePathsAmong_eq_flatMap]

/-- The paths of the files of an entry are the names that lead to files. -/
theorem mem_filePaths_iff {entry : Entry} (h : entry.wellNamed = true) {path : List String} :
    path ∈ entry.filePaths ↔ ∃ content, entry.at? path = some (.file content) := by
  induction entry using Entry.inductionOn generalizing path with
  | file content =>
    rw [filePaths, List.mem_singleton]
    cases path with
    | nil => simp
    | cons name below => simp [at?]
  | folder children ih =>
    obtain ⟨hnodup, hchildren⟩ := wellNamed_folder_iff.1 h
    rw [filePaths, mem_filePathsAmong_iff]
    constructor
    · intro hpath
      obtain ⟨child, hchild, below, hbelow, rfl⟩ := hpath
      obtain ⟨content, hfile⟩ := (ih child hchild (hchildren child hchild)).1 hbelow
      refine ⟨content, ?_⟩
      rw [at?_folder_cons, (Table.get?_eq_some_iff_mem hnodup).2 hchild, Option.bind_some, hfile]
    · intro hpath
      obtain ⟨content, hfile⟩ := hpath
      cases path with
      | nil => cases hfile
      | cons name below =>
        rw [at?_folder_cons, Option.bind_eq_some_iff] at hfile
        obtain ⟨entry, hentry, hfile⟩ := hfile
        have hchild : (name, entry) ∈ children := Table.mem_of_get? hentry
        have hbelow := (ih (name, entry) hchild (hchildren _ hchild)).2 ⟨content, hfile⟩
        exact ⟨(name, entry), hchild, below, hbelow, rfl⟩

/-- No file of a tree is listed twice. -/
theorem nodup_filePaths {entry : Entry} (h : entry.wellNamed = true) : entry.filePaths.Nodup := by
  induction entry using Entry.inductionOn with
  | file content => exact List.nodup_singleton _
  | folder children ih =>
    obtain ⟨hnodup, hchildren⟩ := wellNamed_folder_iff.1 h
    rw [Table.keys, List.nodup_iff_pairwise_ne, List.pairwise_map] at hnodup
    rw [filePaths, filePathsAmong_eq_flatMap, List.nodup_flatMap]
    constructor
    · intro child hchild
      exact (ih child hchild (hchildren child hchild)).map (List.cons_injective)
    · -- the paths below two entries begin with different names
      refine hnodup.imp fun {a b} hne path hpath hother => hne ?_
      obtain ⟨below, -, rfl⟩ := List.mem_map.1 hpath
      obtain ⟨below', -, hsame⟩ := List.mem_map.1 hother
      exact (List.cons.inj hsame).1.symm

end Entry

/-! ## The search, as a choice among files -/

namespace Workspace

open MakeAtlas.Path (joined isPosixName)

/-- The path under which a Makefile is reported to which names lead. -/
def reported (names : List String) : String :=
  Path.toForward (joined names)

/-- Whether a pattern names what names lead to, seen from a folder, or one of the folders on the
    way. Patterns are tried on the paths that are reported. -/
def isLeftOut (ignores above : List String) : List String → Bool
  | [] => false
  | name :: below =>
    isIgnored ignores (reported (above ++ [name])) name (!below.isEmpty) ||
      isLeftOut ignores (above ++ [name]) below

/-- Whether names lead to a file named as Makefiles are that is not left out. -/
def isFound (ignores above names : List String) : Bool :=
  names.getLast? == some makefileName && !isLeftOut ignores above names

variable {ignores above : List String} {name : String}

/-- The path of an entry in a folder, both made of names of any kind. -/
theorem pathBelow_joined_of_ne_empty (h : ∀ n ∈ above, n ≠ "") (name : String) :
    pathBelow (joined above) name = joined (above ++ [name]) := by
  unfold pathBelow
  cases above with
  | nil => rfl
  | cons first rest =>
    have hfirst : first ≠ "" := h first List.mem_cons_self
    have hne : (joined (first :: rest)).isEmpty = false := by
      rw [String.isEmpty_eq_false_iff]
      intro hempty
      have hnil := congrArg String.toList hempty
      rw [Path.toList_joined, List.map_cons] at hnil
      cases rest with
      | nil => exact hfirst (String.toList_eq_nil_iff.1 hnil)
      | cons next rest => exact absurd hnil (by simp [Path.joinSteps])
    rw [hne, if_neg Bool.false_ne_true,
      Path.joined_append (List.cons_ne_nil first rest) (List.cons_ne_nil name [])]
    rfl

/-- Where the search in each entry of a folder is a choice among the entry's files, the search among
    and below them is a choice among all their files. -/
private theorem makefilesBelow_eq_of_each {children : List (String × Entry)}
    (each : ∀ child ∈ children, makefilesOf ignores (joined above) child.1 child.2 =
      (child.2.filePaths.filter fun below => isFound ignores above (child.1 :: below)).map
        fun below => reported (above ++ child.1 :: below)) :
    makefilesBelow ignores (joined above) children =
      ((Entry.filePathsAmong children).filter (isFound ignores above)).map
        fun below => reported (above ++ below) := by
  rw [makefilesBelow_eq_flatMap, Entry.filePathsAmong_eq_flatMap, List.filter_flatMap,
    List.map_flatMap]
  refine List.flatMap_congr fun child hchild => ?_
  rw [each child hchild, List.filter_map, List.map_map]
  rfl

/-- The Makefiles found in an entry are those of its files that are found, each under the path that
    is reported for it. -/
theorem makefilesOf_eq_filePaths {entry : Entry} (tree : entry.IsPosixTree)
    (habove : ∀ n ∈ above, n ≠ "") (hname : name ≠ "") :
    makefilesOf ignores (joined above) name entry =
      (entry.filePaths.filter fun below => isFound ignores above (name :: below)).map
        fun below => reported (above ++ name :: below) := by
  induction entry using Entry.inductionOn generalizing above name with
  | file content =>
    rw [makefilesOf, pathBelow_joined_of_ne_empty habove, ← reported, Entry.filePaths]
    have hfound : isFound ignores above [name] =
        !(isIgnored ignores (reported (above ++ [name])) name false || name != makefileName) := by
      simp [isFound, isLeftOut, Bool.and_comm, bne]
    by_cases hout : isIgnored ignores (reported (above ++ [name])) name false ||
        name != makefileName
    · rw [if_pos hout, List.filter_cons_of_neg (by rw [hfound, hout]; decide)]
      rfl
    · rw [if_neg hout, List.filter_cons_of_pos (by rw [hfound]; simpa using hout)]
      rfl
  | folder children ih =>
    have hall : ∀ n ∈ above ++ [name], n ≠ "" :=
      List.forall_mem_append.2 ⟨habove, List.forall_mem_singleton.2 hname⟩
    have hbelow : makefilesBelow ignores (joined (above ++ [name])) children =
        ((Entry.filePathsAmong children).filter (isFound ignores (above ++ [name]))).map
          fun below => reported (above ++ [name] ++ below) := by
      refine makefilesBelow_eq_of_each fun child hchild => ?_
      obtain ⟨hchildName, htree⟩ := (Entry.isPosixTree_folder_iff.1 tree).2 child hchild
      exact ih child hchild htree hall (Path.ne_empty_of_isPosixName hchildName)
    -- one more step on the way to each file of the folder
    have hstep : ∀ below ∈ Entry.filePathsAmong children,
        isFound ignores above (name :: below) =
          (!isIgnored ignores (reported (above ++ [name])) name true &&
            isFound ignores (above ++ [name]) below) := by
      intro below hmem
      obtain ⟨child, -, rest, -, rfl⟩ := Entry.mem_filePathsAmong_iff.1 hmem
      simp [isFound, isLeftOut, Bool.and_left_comm]
    rw [makefilesOf, pathBelow_joined_of_ne_empty habove, ← reported, Entry.filePaths,
      List.filter_congr hstep, hbelow]
    by_cases hout : isIgnored ignores (reported (above ++ [name])) name true = true
    · -- nothing is found in a folder that a pattern names
      simp [hout]
    · simp [hout]

/-- The Makefiles of a workspace are those of its files that are found, each under the path that is
    reported for it, though not in this order. -/
theorem makefilesIn_perm_filePaths {children : List (String × Entry)}
    (tree : (Entry.folder children).IsPosixTree) (extra : List String) :
    (makefilesIn children extra).Perm
      (((Entry.folder children).filePaths.filter
        (isFound (ignoresFor children extra) [])).map reported) := by
  have hbelow : makefilesBelow (ignoresFor children extra) (joined []) children =
      ((Entry.filePathsAmong children).filter (isFound (ignoresFor children extra) [])).map
        fun below => reported ([] ++ below) := by
    refine makefilesBelow_eq_of_each fun child hchild => ?_
    obtain ⟨hname, htree⟩ := (Entry.isPosixTree_folder_iff.1 tree).2 child hchild
    exact makefilesOf_eq_filePaths htree (fun _ hn => absurd hn List.not_mem_nil)
      (Path.ne_empty_of_isPosixName hname)
  have hperm := makefilesIn_perm children extra
  have hempty : joined [] = "" := rfl
  rwa [← hempty, hbelow] at hperm

end Workspace

end MakeAtlas
