import MakeAtlas.Proofs.SameMembers
import MakeAtlas.Proofs.Workspace.NamedTree
import MakeAtlas.Workspace.Discovery

/-!
# Which Makefiles are found

The search for Makefiles works through a stack of folders. What it finds is what each folder holds,
taken entry by entry; so it goes through the whole tree, except what a pattern names, and the
Makefiles that are found are the files of that name on whose way no pattern names anything.

## Key results

- `search_perm`: the search finds what the pending folders hold
- `mem_makefilesOf_iff`: the Makefiles found in one entry
- `mem_makefilesIn_iff`: the Makefiles found in a workspace
-/

namespace MakeAtlas

/-- What holds of files, and of a folder if it holds of the entries in it, holds of all entries. -/
@[elab_as_elim]
theorem Entry.inductionOn {motive : Entry → Prop} (entry : Entry)
    (file : ∀ content, motive (.file content))
    (folder : ∀ children, (∀ child ∈ children, motive child.2) → motive (.folder children)) :
    motive entry :=
  @Entry.rec motive (fun children => ∀ child ∈ children, motive child.2)
    (fun child => motive child.2) file folder
    (fun _ hchild => absurd hchild List.not_mem_nil)
    (fun _ _ hchild hrest => List.forall_mem_cons.2 ⟨hchild, hrest⟩)
    (fun _ _ hentry => hentry) entry

namespace Workspace

open MakeAtlas.Path (isName joined)

/-- Whether the search for Makefiles leaves out what names lead to, seen from a folder: a pattern
    names it, or one of the folders on the way. -/
def leavesOut (ignores above : List String) : List String → Bool
  | [] => false
  | name :: below =>
    isIgnored ignores (joined (above ++ [name])) name (!below.isEmpty) ||
      leavesOut ignores (above ++ [name]) below

/-! ## Entry by entry -/

mutual

/-- The Makefiles that an entry holds or is, given the path of its folder. -/
def makefilesOf (ignores : List String) (folder name : String) : Entry → List String
  | .file _ =>
    let path := Path.toForward (pathBelow folder name)
    if isIgnored ignores path name false || name != makefileName then [] else [path]
  | .folder children =>
    if isIgnored ignores (Path.toForward (pathBelow folder name)) name true then []
    else makefilesBelow ignores (pathBelow folder name) children

/-- The Makefiles among and below the entries of a folder. -/
def makefilesBelow (ignores : List String) (folder : String) : List (String × Entry) → List String
  | [] => []
  | (name, entry) :: rest =>
    makefilesOf ignores folder name entry ++ makefilesBelow ignores folder rest

end

variable {ignores above : List String} {name path : String}

theorem makefilesBelow_eq_flatMap (ignores : List String) (folder : String)
    (children : List (String × Entry)) :
    makefilesBelow ignores folder children =
      children.flatMap fun child => makefilesOf ignores folder child.1 child.2 := by
  induction children with
  | nil => rw [makefilesBelow, List.flatMap_nil]
  | cons child rest ih => rw [makefilesBelow, List.flatMap_cons, ih]

/-- The Makefiles among and below some entries are those among them and those below the folders
    among them that no pattern names. -/
private theorem makefilesBelow_perm (ignores : List String) (folder : String)
    (children : List (String × Entry)) :
    (makefilesBelow ignores folder children).Perm
      (children.filterMap (makefile? ignores folder) ++
        (children.filterMap (subfolder? ignores folder)).flatMap fun x =>
          makefilesBelow ignores x.path x.children) := by
  induction children with
  | nil => simp [makefilesBelow]
  | cons child rest ih =>
    obtain ⟨name, entry⟩ := child
    rw [makefilesBelow]
    cases entry with
    | file content =>
      have hnone : subfolder? ignores folder (name, .file content) = none := rfl
      rw [List.filterMap_cons_none hnone]
      by_cases hfound : isIgnored ignores (Path.toForward (pathBelow folder name)) name false ||
          name != makefileName
      · rw [List.filterMap_cons_none (by simp [makefile?, hfound]), makefilesOf, if_pos hfound]
        exact ih
      · rw [List.filterMap_cons_some (by simp only [makefile?]; rw [if_neg hfound]), makefilesOf,
          if_neg hfound]
        exact ih.cons _
    | folder inner =>
      rw [List.filterMap_cons_none (by rfl : makefile? ignores folder (name, .folder inner) = none),
        makefilesOf]
      by_cases hnamed : isIgnored ignores (Path.toForward (pathBelow folder name)) name true
      · rw [List.filterMap_cons_none (by simp [subfolder?, hnamed]), if_pos hnamed]
        exact ih
      · rw [List.filterMap_cons_some (by simp only [subfolder?]; rw [if_neg hnamed]), if_neg hnamed,
          List.flatMap_cons]
        exact (ih.append_left _).trans (List.perm_append_comm_assoc _ _ _)

/-- The search finds what the folders hold that it is to search, though not in this order. -/
theorem search_perm (ignores : List String) (folders : List Unsearched) :
    (search ignores folders).Perm
      (folders.flatMap fun x => makefilesBelow ignores x.path x.children) := by
  induction folders using search.induct ignores with
  | case1 => simp [search]
  | case2 folder rest entries _ ih =>
    rw [search, List.flatMap_cons]
    have hsorted : (makefilesBelow ignores folder.path folder.children).Perm
        (entries.filterMap (makefile? ignores folder.path) ++
          (entries.filterMap (subfolder? ignores folder.path)).flatMap fun x =>
            makefilesBelow ignores x.path x.children) := by
      refine List.Perm.trans ?_ (makefilesBelow_perm ignores folder.path entries)
      rw [makefilesBelow_eq_flatMap, makefilesBelow_eq_flatMap]
      exact (Entry.sorted_perm folder.children).symm.flatMap_right _
    rw [List.flatMap_append] at ih
    refine (ih.append_left _).trans ?_
    rw [← List.append_assoc]
    exact (hsorted.append_right _).symm

/-- The Makefiles of a workspace are those among and below its entries. -/
theorem makefilesIn_perm (children : List (String × Entry)) (extra : List String) :
    (makefilesIn children extra).Perm
      (makefilesBelow (ignoresFor children extra) "" children) := by
  have hsearch := search_perm (ignoresFor children extra) [⟨"", children⟩]
  rw [List.flatMap_singleton] at hsearch
  exact (List.mergeSort_perm _ _).trans hsearch

/-! ## The files that are found -/

/-- The path of an entry in a folder whose path is made of names. -/
theorem pathBelow_joined (h : ∀ n ∈ above, isName n = true) (name : String) :
    pathBelow (joined above) name = joined (above ++ [name]) := by
  unfold pathBelow
  by_cases habove : above = []
  · subst habove
    rfl
  · have hne : (joined above).isEmpty = false := by
      rw [String.isEmpty_eq_false_iff]
      intro hempty
      exact Path.toList_joined_ne_nil h habove (by rw [hempty]; rfl)
    rw [hne, if_neg Bool.false_ne_true, Path.joined_append habove (List.cons_ne_nil name [])]
    rfl

theorem mem_makefilesBelow_iff {folder : String} {children : List (String × Entry)} :
    path ∈ makefilesBelow ignores folder children ↔
      ∃ child ∈ children, path ∈ makefilesOf ignores folder child.1 child.2 := by
  rw [makefilesBelow_eq_flatMap, List.mem_flatMap]

/-- The Makefiles found in an entry are the files named so, at or below it, that are not left
    out. -/
theorem mem_makefilesOf_iff {entry : Entry} (tree : entry.IsTree)
    (habove : ∀ n ∈ above, isName n = true) (hname : isName name = true) :
    path ∈ makefilesOf ignores (joined above) name entry ↔
      ∃ below content, entry.at? below = some (.file content) ∧
        (name :: below).getLast? = some makefileName ∧
        leavesOut ignores above (name :: below) = false ∧
        path = joined (above ++ name :: below) := by
  induction entry using Entry.inductionOn generalizing above name with
  | file content =>
    have hall : ∀ n ∈ above ++ [name], isName n = true :=
      List.forall_mem_append.2 ⟨habove, List.forall_mem_singleton.2 hname⟩
    have hfile : ∀ below found, (Entry.file content).at? below = some (.file found) ↔
        below = [] ∧ found = content := by
      intro below found
      cases below <;> simp [Entry.at?, eq_comm]
    simp only [makefilesOf, pathBelow_joined habove, Path.toForward_joined hall, hfile]
    -- a file is found by its own name, if at all
    by_cases hfound : isIgnored ignores (joined (above ++ [name])) name false = false ∧
        name = makefileName
    · obtain ⟨hpattern, rfl⟩ := hfound
      simp [leavesOut, hpattern]
    · rw [if_pos (by simpa [← Bool.not_eq_true, or_iff_not_imp_left] using hfound)]
      simp only [List.not_mem_nil, false_iff]
      rintro ⟨below, found, ⟨rfl, rfl⟩, hlast, hout, -⟩
      simp only [leavesOut, Bool.or_false] at hout
      exact hfound ⟨hout, by simpa using hlast⟩
  | folder children ih =>
    have hall : ∀ n ∈ above ++ [name], isName n = true :=
      List.forall_mem_append.2 ⟨habove, List.forall_mem_singleton.2 hname⟩
    have hchildren := (Entry.isTree_folder_iff.1 tree).2
    rw [makefilesOf, pathBelow_joined habove, Path.toForward_joined hall,
      tree.exists_file_folder_iff]
    by_cases hpattern : isIgnored ignores (joined (above ++ [name])) name true = true
    · -- nothing is found in a folder that a pattern names
      simp [hpattern, leavesOut]
    · rw [if_neg hpattern, mem_makefilesBelow_iff]
      refine exists_congr fun child => and_congr_right fun hchild => ?_
      obtain ⟨hplain, htree⟩ := hchildren child hchild
      rw [ih child hchild htree hall hplain]
      simp [leavesOut, hpattern]

/-- Makefiles that are found in order are listed as they are found. -/
theorem makefilesIn_eq_of_pairwise {children : List (String × Entry)} {extra : List String}
    (h : (makefilesBelow (ignoresFor children extra) "" children).Pairwise (· ≤ ·)) :
    makefilesIn children extra = makefilesBelow (ignoresFor children extra) "" children :=
  eq_of_perm_of_pairwise_names (makefilesIn_perm children extra) (pairwise_mergeSort_names _) h

/-- Where the path of a workspace leads to a folder, its Makefiles are those of the folder. -/
theorem makefiles_of_find {disk : Disk} {location : String} {children : List (String × Entry)}
    (found : disk.find "/" (Path.absolute "/" location) = .ok (.folder children))
    (extra : List String) : makefiles disk location extra = .ok (makefilesIn children extra) := by
  unfold makefiles
  dsimp only
  rw [found]
  rfl

/-- The Makefiles found in a workspace are the files named so that are not left out. -/
theorem mem_makefilesIn_iff {children : List (String × Entry)} {extra : List String}
    (tree : (Entry.folder children).IsTree) :
    path ∈ makefilesIn children extra ↔
      ∃ names content, (Entry.folder children).at? (names ++ [makefileName]) =
          some (.file content) ∧
        leavesOut (ignoresFor children extra) [] (names ++ [makefileName]) = false ∧
        path = joined (names ++ [makefileName]) := by
  have hchildren := (Entry.isTree_folder_iff.1 tree).2
  have hnone : ∀ n ∈ ([] : List String), isName n = true := fun _ hn => absurd hn List.not_mem_nil
  rw [(makefilesIn_perm children extra).mem_iff]
  show path ∈ makefilesBelow _ (joined []) children ↔ _
  rw [mem_makefilesBelow_iff]
  -- the last name of a path to a Makefile is told apart from the names on the way
  have hnames : (∃ names content, (Entry.folder children).at? (names ++ [makefileName]) =
          some (.file content) ∧
        leavesOut (ignoresFor children extra) [] (names ++ [makefileName]) = false ∧
        path = joined (names ++ [makefileName])) ↔
      ∃ names content, (Entry.folder children).at? names = some (.file content) ∧
        names.getLast? = some makefileName ∧
        leavesOut (ignoresFor children extra) [] names = false ∧ path = joined names := by
    simp only [List.getLast?_eq_some_iff]
    constructor
    · rintro ⟨names, content, hfile, hout, hpath⟩
      exact ⟨_, content, hfile, ⟨names, rfl⟩, hout, hpath⟩
    · rintro ⟨_, content, hfile, ⟨names, rfl⟩, hout, hpath⟩
      exact ⟨names, content, hfile, hout, hpath⟩
  rw [hnames, tree.exists_file_folder_iff]
  refine exists_congr fun child => and_congr_right fun hchild => ?_
  obtain ⟨hplain, htree⟩ := hchildren child hchild
  exact mem_makefilesOf_iff htree hnone hplain

end Workspace

end MakeAtlas
