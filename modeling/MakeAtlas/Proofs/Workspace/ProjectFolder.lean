import MakeAtlas.Evidence.Strategy
import MakeAtlas.Proofs.Evidence.References
import MakeAtlas.Proofs.Path.Normal
import MakeAtlas.Proofs.Workspace.SameFiles

/-!
# What is read of a project's folder

Of all files there are, a project's sources and its Makefile are looked for in the project's folder
only. What is found there hangs on the entries of that folder, and on whether its path can be used.

## Key results

- `entriesOf_eq_ok_iff`: the entries of a folder, which are listed unless its path has a NUL
- `sourceMentions_lexical`: what sources mention, from the entries of the folder
- `makefileText_eq`: the text of a Makefile, from the entries of the folder
- `lexical_references_eq`: two states of a folder without a difference have the same references
-/

namespace MakeAtlas

open MakeAtlas.Text

/-! ## The entries of a folder -/

namespace Disk

/-- The names that lead to an absolute path. -/
def placeOf (path : String) : List String :=
  stepsFrom "/" path

/-- The entries of the folder at an absolute path. A folder that is not there has none. -/
def childrenAt (disk : Disk) (folder : String) : List (String × Entry) :=
  match follow [] (.folder disk.root) (placeOf folder) with
  | .ok (.folder children) => children
  | _ => []

/-- Whether files can be looked for at a path: it has no NUL and is not too long. -/
def CanBeUsed (path : String) : Prop :=
  path.toList.contains '\x00' = false ∧ path.utf8ByteSize ≤ maxPathBytes

instance (path : String) : Decidable (CanBeUsed path) :=
  inferInstanceAs (Decidable (_ ∧ _))

/-- Looking for an absolute path is following its names, if it can be used. -/
theorem find_of_canBeUsed {path : String} (h : CanBeUsed path) (disk : Disk) :
    disk.find "/" path =
      (follow [] (.folder disk.root) (placeOf path)).mapError fun fault => ⟨fault, path⟩ := by
  have hnul : (path.toList.contains '\x00' || "/".toList.contains '\x00') = false := by
    rw [h.1]
    decide
  rw [find, hnul, if_neg Bool.false_ne_true, if_neg (by have := h.2; omega), placeOf]

theorem exists_find_eq_error {path : String} (h : ¬ CanBeUsed path) (disk : Disk) :
    ∃ e, disk.find "/" path = .error e := by
  unfold find
  split
  · exact ⟨_, rfl⟩
  · next hnul =>
    rw [Bool.or_eq_true, not_or] at hnul
    have hlong : maxPathBytes < path.utf8ByteSize := by
      by_contra hshort
      exact h ⟨by simpa using hnul.1, by omega⟩
    rw [if_pos hlong]
    exact ⟨_, rfl⟩

/-- What is found at an absolute path is what its names lead to, and the path can be used. -/
theorem find_eq_ok_iff {disk : Disk} {path : String} {entry : Entry} :
    disk.find "/" path = .ok entry ↔
      CanBeUsed path ∧ follow [] (.folder disk.root) (placeOf path) = .ok entry := by
  by_cases hused : CanBeUsed path
  · rw [find_of_canBeUsed hused, and_iff_right hused]
    cases follow [] (.folder disk.root) (placeOf path) with
    | error fault => simp [Except.mapError]
    | ok found => simp [Except.mapError]
  · obtain ⟨e, he⟩ := exists_find_eq_error hused disk
    simp [he, hused]

/-! ## Reading what may not be there -/

/-- Following steps never fails because of a NUL. -/
theorem follow_ne_nullByte (parents : List Entry) (current : Entry) (steps : List String) :
    follow parents current steps ≠ .error .nullByte := by
  induction steps generalizing parents current with
  | nil => simp [follow]
  | cons step steps ih =>
    cases current with
    | file content => simp [follow]
    | folder children =>
      rw [follow_folder_cons]
      split
      · cases parents with
        | nil => exact ih _ _
        | cons parent above => exact ih _ _
      · split
        · simp
        · cases Table.get? children step with
          | none => simp
          | some entry => exact ih _ _

/-- Looking for a path without a NUL never fails because of one. -/
theorem fault_ne_nullByte {disk : Disk} {path : String} {e : FileError} (h : '\x00' ∉ path.toList)
    (he : disk.find "/" path = .error e) : e.fault ≠ .nullByte := by
  have hfree : (path.toList.contains '\x00' || "/".toList.contains '\x00') = false := by
    simp [h]
  intro hnul
  unfold find at he
  rw [hfree, if_neg Bool.false_ne_true] at he
  split at he
  · cases he
    cases hnul
  · cases hsteps : follow [] (.folder disk.root) (stepsFrom "/" path) with
    | ok entry =>
      rw [hsteps] at he
      cases he
    | error fault =>
      rw [hsteps] at he
      cases he
      have hfault : fault = .nullByte := hnul
      exact follow_ne_nullByte _ _ _ (hfault ▸ hsteps)

/-- The entries of a folder are listed unless its path has a NUL. -/
theorem entriesOf_eq_ok_iff {disk : Disk} {folder : String} {children : List (String × Entry)} :
    disk.entriesOf folder = .ok children ↔
      '\x00' ∉ folder.toList ∧
        children = if CanBeUsed folder then disk.childrenAt folder else [] := by
  by_cases hnul : '\x00' ∈ folder.toList
  · have hfind : disk.find "/" folder = .error ⟨.nullByte, folder⟩ := by
      rw [find, if_pos (by simp [hnul])]
    simp [entriesOf, listFolder, hfind, unlessImpossible, Except.map, hnul]
  · rw [and_iff_right hnul, eq_comm, entriesOf, listFolder]
    by_cases hused : CanBeUsed folder
    · rw [if_pos hused, childrenAt, find_of_canBeUsed hused]
      cases hfollow : follow [] (.folder disk.root) (placeOf folder) with
      | ok entry => cases entry <;> simp [Except.mapError, unlessImpossible, Except.map]
      | error fault =>
        have hne : fault ≠ .nullByte := fun hnul => follow_ne_nullByte _ _ _ (hnul ▸ hfollow)
        simp [Except.mapError, unlessImpossible, Except.map, hne]
    · obtain ⟨e, he⟩ := exists_find_eq_error hused disk
      rw [if_neg hused, he]
      simp [unlessImpossible, Except.map, fault_ne_nullByte hnul he]

/-- The text of the file at an absolute path, if there is a file. -/
def textAt (disk : Disk) (path : String) : Option (List Char) :=
  match disk.find "/" path with
  | .ok (.file content) => some (Text.unifyNewlines (Text.Utf8.decodeLossy content))
  | _ => none

/-- Where there is no file, there is no text. -/
theorem textAt_eq_none {disk : Disk} {path : String}
    (h : ∀ content, disk.find "/" path ≠ .ok (.file content)) : disk.textAt path = none := by
  unfold textAt
  split
  · next content hfile => exact absurd hfile (h content)
  · rfl

/-- At a path without a NUL, the text of a file is read, or else nothing, without an error. -/
theorem readText_eq_ok {disk : Disk} {path : String} (h : '\x00' ∉ path.toList) :
    disk.readText path = .ok (disk.textAt path) := by
  unfold readText contentsOf textAt
  cases hfind : disk.find "/" path with
  | error e => simp [unlessImpossible, Except.map, fault_ne_nullByte h hfind]
  | ok entry => cases entry <;> simp [unlessImpossible, Except.map]

/-! ## Where a folder is -/

theorem wellNamed_childrenAt {disk : Disk} (h : (Entry.folder disk.root).wellNamed = true)
    (folder : String) : (Entry.folder (disk.childrenAt folder)).wellNamed = true := by
  unfold childrenAt
  split
  · next children hfollow =>
    exact wellNamed_of_follow (fun _ hparent => absurd hparent List.not_mem_nil) h hfollow
  · rfl

/-- The steps of an absolute path. -/
theorem placeOf_eq (path : String) : placeOf path = (Path.steps path.toList).map String.ofList := by
  unfold placeOf stepsFrom
  cases hanchored : Path.isAnchored path.toList with
  | true => rw [Path.append_of_isAnchored hanchored]
  | false =>
    have hslash : Path.steps "/".toList = [] := rfl
    rw [Path.steps_append_path _ hanchored, hslash, List.nil_append]

/-- The place of a path goes back exactly if one of the path's steps does. -/
theorem up_mem_placeOf_iff {path : String} :
    ".." ∈ placeOf path ↔ Path.up ∈ Path.steps path.toList := by
  have hup : ".." = String.ofList Path.up := rfl
  rw [placeOf_eq, hup]
  exact List.mem_map_of_injective fun _ _ => String.ofList_inj.1

/-- A path that is seen from an absolute one never goes back. -/
theorem up_not_mem_placeOf {location : String} (h : Path.isAnchored location.toList = true)
    (root : String) : ".." ∉ placeOf (Path.resolve location root) :=
  mt up_mem_placeOf_iff.1 (Path.up_not_mem_steps_resolve h root)

/-- A folder in which a Makefile is found is there, at the names of its path. -/
theorem at?_of_holdsMakefile {disk : Disk} {folder : String} (down : ".." ∉ placeOf folder)
    (h : Workspace.holdsMakefile (disk.childrenAt folder) = true) :
    (Entry.folder disk.root).at? (placeOf folder) = some (.folder (disk.childrenAt folder)) := by
  unfold childrenAt at h ⊢
  split at h
  · next children hfollow =>
    exact at?_of_follow down hfollow
  · cases h

/-- A Makefile is one name further on than its folder. -/
theorem placeOf_makefile (folder : String) :
    placeOf (pathIn folder Workspace.makefileName) =
      placeOf folder ++ [Workspace.makefileName] := by
  have hname : Path.steps Workspace.makefileName.toList = [Workspace.makefileName.toList] := rfl
  rw [placeOf_eq, placeOf_eq, pathIn, String.toList_ofList, Path.steps_append_path _ rfl, hname,
    List.map_append, List.map_singleton, String.ofList_toList]

/-- The text of the Makefile among the entries of a folder. One that is not there, or cannot be
    read, is empty. -/
def makefileIn (folder : String) (children : List (String × Entry)) : String :=
  if CanBeUsed (pathIn folder Workspace.makefileName) then
    match Table.get? children Workspace.makefileName with
    | some (.file content) => String.ofList (unifyNewlines (Utf8.decodeLossy content))
    | _ => ""
  else ""

/-- Two states of a folder that a walk cannot tell apart have the same Makefile. -/
theorem makefileIn_eq_of_sameFiles {excluded : List String} (folder : String)
    {first second : List (String × Entry)}
    (same : Workspace.SameFiles excluded (.folder first) (.folder second)) :
    makefileIn folder first = makefileIn folder second := by
  have hentry := Workspace.sameEntry_of_sameFiles same Workspace.makefileName
  unfold makefileIn
  generalize Table.get? first Workspace.makefileName = found₁ at hentry ⊢
  generalize Table.get? second Workspace.makefileName = found₂ at hentry ⊢
  cases hentry <;> rfl

end Disk

/-! ## What is read -/

/-- In a folder without entries no files are found. -/
theorem filesOf_nil (scope : ScanScope) (extensions : List String) :
    Evidence.filesOf scope extensions [] = [] := by
  unfold Evidence.filesOf Workspace.WalkRules.walk
  generalize Workspace.WalkRules.mk extensions scope.excludeDirs = rules
  have hfiles : rules.files ⟨[], []⟩ = [] := by
    simp [Workspace.WalkRules.files, Entry.sorted]
  have hsubfolders : rules.subfolders ⟨[], []⟩ = [] := by
    simp [Workspace.WalkRules.subfolders, Entry.sorted]
  cases (scope.maxFiles.map Int.ofNat).map fun n => max 1 n.toNat with
  | none => simp [Workspace.WalkRules.walkFrom, hfiles, hsubfolders]
  | some n => simp [Workspace.WalkRules.walkFrom, hfiles, hsubfolders]

namespace Site

/-- What the sources of a project mention comes from the entries of its folder. -/
theorem sourceMentions_lexical (site : Site) (scope : ScanScope) (p : Project) :
    site.sourceMentions (.lexical scope) p =
      if Disk.CanBeUsed (site.folderOf p) then
        (Evidence.filesOf scope Evidence.lexicalExtensions
          (site.disk.childrenAt (site.folderOf p))).flatMap (Evidence.fileReferences p.root)
      else [] := by
  unfold sourceMentions IncludeScanner.mentions Disk.isFolder Disk.entriesOf Disk.listFolder
  by_cases hused : Disk.CanBeUsed (site.folderOf p)
  · rw [if_pos hused, Disk.find_of_canBeUsed hused, Disk.childrenAt]
    cases Disk.follow [] (.folder site.disk.root) (Disk.placeOf (site.folderOf p)) with
    | ok entry =>
      cases entry with
      | file content => simp [Except.mapError, Disk.isKind, Entry.isFile, filesOf_nil]
      | folder children => rfl
    | error fault =>
      by_cases hlong : fault = .nameTooLong <;>
        simp [Except.mapError, Disk.isKind, hlong, filesOf_nil]
  · obtain ⟨e, he⟩ := Disk.exists_find_eq_error hused site.disk
    rw [if_neg hused, he]
    by_cases hlong : e.fault = .nameTooLong <;> simp [Disk.isKind, hlong]

/-- The text of a project's Makefile comes from the entries of the project's folder. -/
theorem makefileText_eq (site : Site) (p : Project) :
    site.makefileText p =
      Disk.makefileIn (site.folderOf p) (site.disk.childrenAt (site.folderOf p)) := by
  unfold makefileText Disk.readMakefile Disk.readText Disk.contentsOf Disk.makefileIn
  by_cases hused : Disk.CanBeUsed (Disk.pathIn (site.folderOf p) Workspace.makefileName)
  · rw [if_pos hused, Disk.find_of_canBeUsed hused, Disk.placeOf_makefile,
      Disk.follow_snoc (by decide) (by decide), Disk.childrenAt]
    cases Disk.follow [] (.folder site.disk.root) (Disk.placeOf (site.folderOf p)) with
    | ok entry =>
      cases entry with
      | file content => rfl
      | folder children =>
        cases hmakefile : Table.get? children Workspace.makefileName with
        | none => simp [hmakefile, Except.mapError, Disk.unlessImpossible, Except.map]
        | some found =>
          cases found <;> simp [hmakefile, Except.mapError, Disk.unlessImpossible, Except.map]
    | error fault =>
      by_cases hnul : fault = .nullByte <;>
        simp [Except.mapError, Disk.unlessImpossible, Except.map, hnul, Table.get?]
  · obtain ⟨e, he⟩ := Disk.exists_find_eq_error hused site.disk
    rw [if_neg hused, he]
    by_cases hnul : e.fault = .nullByte <;> simp [Disk.unlessImpossible, Except.map, hnul]

/-- A project has the same references in two states of its folder that a walk cannot tell apart. -/
theorem lexical_references_eq {first second : Site} {scope : ScanScope} {p : Project}
    (folder : first.folderOf p = second.folderOf p)
    (same : Workspace.SameFiles scope.excludeDirs
      (.folder (first.disk.childrenAt (first.folderOf p)))
      (.folder (second.disk.childrenAt (second.folderOf p))))
    (hfirst : (Entry.folder first.disk.root).wellNamed = true)
    (hsecond : (Entry.folder second.disk.root).wellNamed = true) :
    first.references (.lexical scope) p = second.references (.lexical scope) p := by
  have hfiles : Evidence.filesOf scope Evidence.lexicalExtensions
      (first.disk.childrenAt (first.folderOf p)) =
      Evidence.filesOf scope Evidence.lexicalExtensions
        (second.disk.childrenAt (second.folderOf p)) :=
    Workspace.walk_eq_of_sameFiles same (Disk.wellNamed_childrenAt hfirst _)
      (Disk.wellNamed_childrenAt hsecond _) _
  have hmentions : first.sourceMentions (.lexical scope) p =
      second.sourceMentions (.lexical scope) p := by
    rw [sourceMentions_lexical, sourceMentions_lexical, hfiles, folder]
  have htext : first.makefileText p = second.makefileText p := by
    rw [makefileText_eq, makefileText_eq, Disk.makefileIn_eq_of_sameFiles _ same, folder]
  rw [references, references, includeReferences, includeReferences, makefileReferences,
    makefileReferences, hmentions, htext]

end Site

end MakeAtlas
