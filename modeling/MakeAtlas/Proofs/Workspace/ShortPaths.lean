import MakeAtlas.Proofs.Text.Encoded
import MakeAtlas.Proofs.Workspace.Trails
import Mathlib.Data.List.Flatten

/-!
# Short paths

Only a name that is too long makes it an error to ask for the kind of an entry. A text of at most as
many bytes as a name may have holds no such name, so there is always an answer to whether it is the
path of a file.

## Key results

- `Path.utf8ByteSize_le_of_mem_steps`: a step is no longer than its path
- `Path.utf8ByteSize_plain_le`: neither is the plain form
- `Disk.exists_isFile_eq_ok`: whether there is a file at a short path
- `Disk.isFile_eq_error_iff`: when there is no answer
- `Disk.isTooLong_of_isStep`: a name that is too long
-/

namespace MakeAtlas

open MakeAtlas.Text

namespace Path

/-! ## Sizes -/

/-- The bytes of a text that is left when characters are taken away. -/
private theorem utf8ByteSize_mono {cs ds : List Char} (h : cs.Sublist ds) :
    (String.ofList cs).utf8ByteSize ≤ (String.ofList ds).utf8ByteSize := by
  have hsize : ∀ text : String, text.utf8ByteSize =
      (text.toList.flatMap String.utf8EncodeChar).length := by
    intro text
    rw [← Utf8.encode_eq, Utf8.encode, Array.length_toList]
    rfl
  rw [hsize, hsize, String.toList_ofList, String.toList_ofList]
  exact (h.flatMap _).length_le

private theorem sublist_joinSteps {names : List (List Char)} {name : List Char}
    (h : name ∈ names) : name.Sublist (joinSteps names) := by
  induction names with
  | nil => cases h
  | cons first rest ih =>
    cases rest with
    | nil =>
      cases List.mem_singleton.1 h
      exact List.Sublist.refl _
    | cons next rest =>
      rw [joinSteps_cons_cons]
      rcases List.mem_cons.1 h with rfl | h
      · exact List.sublist_append_left _ _
      · exact ((ih h).cons _).trans (List.sublist_append_right _ _)

/-- Leaving out steps takes characters away. -/
private theorem joinSteps_sublist {names more : List (List Char)} (h : names.Sublist more) :
    (joinSteps names).Sublist (joinSteps more) := by
  induction h with
  | slnil => exact List.Sublist.refl _
  | @cons names more name _ ih =>
    cases more with
    | nil => exact ih.trans (List.nil_sublist _)
    | cons next more =>
      rw [joinSteps_cons_cons]
      exact (ih.cons _).trans (List.sublist_append_right _ _)
  | @cons_cons names more name h ih =>
    cases names with
    | nil => exact sublist_joinSteps List.mem_cons_self
    | cons next names =>
      cases more with
      | nil => cases h
      | cons next' more =>
        rw [joinSteps_cons_cons, joinSteps_cons_cons]
        exact (ih.cons_cons _).append_left _

/-- The steps of a path, written as a path, are what is left of it. -/
private theorem joinSteps_steps_sublist (cs : List Char) : (joinSteps (steps cs)).Sublist cs := by
  have hall : joinSteps (cs.splitOn '/') = cs := by
    rw [joinSteps_eq_intercalate, List.intercalate_splitOn]
  have hsub : (joinSteps (steps cs)).Sublist (joinSteps (cs.splitOn '/')) := by
    rw [steps_eq_filter_splitOn]
    exact joinSteps_sublist List.filter_sublist
  rwa [hall] at hsub

private theorem exists_eq_anchor_append (cs : List Char) : ∃ rest, cs = anchor cs ++ rest := by
  unfold anchor
  split
  · exact ⟨_, rfl⟩
  · exact ⟨_, rfl⟩
  · exact ⟨_, rfl⟩
  · exact ⟨cs, rfl⟩

/-- A step has no more bytes than its path. -/
theorem utf8ByteSize_le_of_mem_steps {path : String} {step : List Char}
    (h : step ∈ steps path.toList) : (String.ofList step).utf8ByteSize ≤ path.utf8ByteSize := by
  have hsub := (sublist_joinSteps h).trans (joinSteps_steps_sublist path.toList)
  have hsize := utf8ByteSize_mono hsub
  rwa [String.ofList_toList] at hsize

/-- The plain form of a path has no more bytes than the path, unless it is the point that stands for
    the empty path. -/
theorem utf8ByteSize_plain_le (path : String) :
    (plain path).utf8ByteSize ≤ max 1 path.utf8ByteSize := by
  have hsub : (anchor path.toList ++ joinSteps (steps path.toList)).Sublist path.toList := by
    obtain ⟨rest, hrest⟩ := exists_eq_anchor_append path.toList
    have hsteps : steps path.toList = steps rest := by
      rw [hrest, steps_anchor_append]
    rw [hsteps]
    conv_rhs => rw [hrest]
    exact (joinSteps_steps_sublist rest).append_left _
  have hsize := utf8ByteSize_mono hsub
  rw [String.ofList_toList] at hsize
  unfold plain
  split
  · exact le_max_left _ _
  · exact hsize.trans (le_max_right _ _)

/-- A step is a path of one step that is not anchored. -/
private theorem of_isStep {name : List Char} (h : IsStep name) :
    isAnchored name = false ∧ steps name = [name] := by
  have hsteps : ∀ step ∈ [name], IsStep step := List.forall_mem_singleton.2 h
  exact ⟨isAnchored_joinSteps hsteps, steps_joinSteps hsteps⟩

/-- It is in its plain form. -/
theorem plain_of_isStep {name : List Char} (h : IsStep name) :
    plain (String.ofList name) = String.ofList name := by
  obtain ⟨hanchored, hsteps⟩ := of_isStep h
  rw [plain, String.toList_ofList, anchor_of_not hanchored, hsteps, List.nil_append, joinSteps]
  split
  · exact absurd rfl h.ne_nil
  · rfl

end Path

namespace Disk

open MakeAtlas.Path

/-! ## Following steps -/

/-- A name is too long where steps lead to a folder in which a longer one than there can be is
    looked up next. -/
theorem follow_eq_nameTooLong_iff {parents : List Entry} {current : Entry} {names : List String} :
    follow parents current names = .error .nameTooLong ↔
      ∃ before name behind children, names = before ++ name :: behind ∧
        follow parents current before = .ok (.folder children) ∧ name ≠ ".." ∧
        maxNameBytes < name.utf8ByteSize := by
  constructor
  · intro h
    induction names generalizing parents current with
    | nil => cases h
    | cons name names ih =>
      cases current with
      | file content => cases h
      | folder children =>
        -- a step that leads somewhere stands in front of those that lead on from there
        have hrest : ∀ {parents' current'},
            (∀ more, follow parents (.folder children) (name :: more) =
              follow parents' current' more) →
            follow parents' current' names = .error .nameTooLong →
            ∃ before long behind children', name :: names = before ++ long :: behind ∧
              follow parents (.folder children) before = .ok (.folder children') ∧ long ≠ ".." ∧
              maxNameBytes < long.utf8ByteSize := by
          intro parents' current' hstep hfollow
          obtain ⟨before, long, behind, children', rfl, hbefore, hlong⟩ := ih hfollow
          exact ⟨name :: before, long, behind, children', rfl, by rw [hstep, hbefore], hlong⟩
        have hstep := follow_folder_cons parents children name
        rw [hstep] at h
        split at h
        · next hup =>
          simp only [if_pos hup] at hstep
          cases parents with
          | nil => exact hrest hstep h
          | cons parent above => exact hrest hstep h
        · next hup =>
          split at h
          · next hlong => exact ⟨[], name, names, children, rfl, rfl, hup, hlong⟩
          · next hshort =>
            simp only [if_neg hup, if_neg hshort] at hstep
            cases hentry : Table.get? children name with
            | none =>
              rw [hentry] at h
              cases h
            | some entry =>
              rw [hentry] at h
              simp only [hentry] at hstep
              exact hrest hstep h
  · rintro ⟨before, name, behind, children, rfl, hbefore, hup, hlong⟩
    obtain ⟨above, hbehind⟩ := exists_follow_append hbefore
    rw [hbehind, follow_folder_cons, if_neg hup, if_pos hlong]

/-- A name is too long only where there is one in the path. -/
theorem exists_long_of_follow {parents : List Entry} {current : Entry} {names : List String}
    (h : follow parents current names = .error .nameTooLong) :
    ∃ name ∈ names, maxNameBytes < name.utf8ByteSize := by
  obtain ⟨before, name, behind, -, rfl, -, -, hlong⟩ := follow_eq_nameTooLong_iff.1 h
  exact ⟨name, List.mem_append_right _ List.mem_cons_self, hlong⟩

/-! ## Asking for files -/

/-- The steps of a folder that is there lead to it. -/
private theorem exists_follow_of_isFolder {disk : Disk} {folder : String}
    (h : disk.isFolder folder "." = .ok true) : ∃ children,
      follow [] (.folder disk.root) ((steps folder.toList).map String.ofList) =
        .ok (.folder children) := by
  have hsteps : stepsFrom folder "." = (steps folder.toList).map String.ofList := by
    have hpath : steps (append folder.toList ['.']) = steps folder.toList ++ [] :=
      steps_append_path folder.toList rfl
    rw [List.append_nil] at hpath
    exact congrArg _ hpath
  rw [isFolder, find, hsteps] at h
  split at h
  · cases h
  · rw [if_neg (by decide)] at h
    cases hfound : follow [] (.folder disk.root) ((steps folder.toList).map String.ofList) with
    | ok found =>
      rw [hfound] at h
      cases found with
      | file content => cases h
      | folder children => exact ⟨children, rfl⟩
    | error fault =>
      rw [hfound] at h
      simp only [Except.mapError, isKind] at h
      split at h <;> cases h

/-- Steps of a short path, behind those of a folder that is there, are never too long. -/
private theorem follow_ne_nameTooLong {disk : Disk} {folder path : String}
    (hfolder : disk.isFolder folder "." = .ok true) (hshort : path.utf8ByteSize ≤ maxNameBytes) :
    follow [] (.folder disk.root) (stepsFrom folder path) ≠ .error .nameTooLong := by
  intro hlong
  have hpath : ∀ name ∈ (steps path.toList).map String.ofList,
      ¬ maxNameBytes < name.utf8ByteSize := by
    intro name hname
    obtain ⟨step, hstep, rfl⟩ := List.mem_map.1 hname
    have := utf8ByteSize_le_of_mem_steps hstep
    omega
  cases hanchored : isAnchored path.toList with
  | true =>
    rw [stepsFrom, append_of_isAnchored hanchored] at hlong
    obtain ⟨name, hname, hsize⟩ := exists_long_of_follow hlong
    exact hpath name hname hsize
  | false =>
    rw [stepsFrom, steps_append_path folder.toList hanchored, List.map_append] at hlong
    obtain ⟨found, hfound⟩ := exists_follow_of_isFolder hfolder
    obtain ⟨above, hbehind⟩ := exists_follow_append hfound
    rw [hbehind] at hlong
    obtain ⟨name, hname, hsize⟩ := exists_long_of_follow hlong
    exact hpath name hname hsize

/-- Seen from a folder that is there, it can always be told whether a short text is the path of a
    file. -/
theorem exists_isFile_eq_ok {disk : Disk} {folder text : String}
    (hfolder : disk.isFolder folder "." = .ok true) (hshort : text.utf8ByteSize ≤ maxNameBytes) :
    ∃ answer, disk.isFile folder (plain text) = .ok answer := by
  have hplain : (plain text).utf8ByteSize ≤ maxNameBytes :=
    (utf8ByteSize_plain_le text).trans (max_le (by decide) hshort)
  have hfit : ¬ maxPathBytes < (plain text).utf8ByteSize := by
    have : maxNameBytes ≤ maxPathBytes := by decide
    omega
  rw [isFile, find, if_neg hfit]
  split
  · exact ⟨false, rfl⟩
  · cases hfound : follow [] (.folder disk.root) (stepsFrom folder (plain text)) with
    | ok found => exact ⟨found.isFile, rfl⟩
    | error fault =>
      refine ⟨false, ?_⟩
      simp only [Except.mapError, isKind]
      rw [if_neg]
      rintro rfl
      exact follow_ne_nameTooLong hfolder hplain hfound

/-- Seen from a folder, a path is too long to be asked for: it is longer than there can be, or a
    name in it is that is looked up. -/
def IsTooLong (disk : Disk) (folder path : String) : Prop :=
  ('\x00' ∉ path.toList ∧ '\x00' ∉ folder.toList) ∧
    (maxPathBytes < path.utf8ByteSize ∨
      ∃ before name behind children, stepsFrom folder path = before ++ name :: behind ∧
        follow [] (.folder disk.root) before = .ok (.folder children) ∧ name ≠ ".." ∧
        maxNameBytes < name.utf8ByteSize)

/-- It is an error to ask for a file at a path that is too long, and at no other one. -/
theorem isFile_eq_error_iff {disk : Disk} {folder path : String} {e : FileError} :
    disk.isFile folder path = .error e ↔
      disk.IsTooLong folder path ∧ e = ⟨.nameTooLong, path⟩ := by
  rw [isFile, find, IsTooLong, ← follow_eq_nameTooLong_iff]
  by_cases hnul : '\x00' ∉ path.toList ∧ '\x00' ∉ folder.toList
  · rw [if_neg (by simpa using hnul), and_iff_right hnul]
    by_cases hfit : maxPathBytes < path.utf8ByteSize
    · rw [if_pos hfit]
      simp [isKind, hfit, eq_comm]
    · rw [if_neg hfit]
      cases follow [] (.folder disk.root) (stepsFrom folder path) with
      | ok entry => simp [isKind, Except.mapError, hfit]
      | error fault =>
        by_cases hfault : fault = .nameTooLong
        · simp [isKind, Except.mapError, hfault, eq_comm]
        · simp [isKind, Except.mapError, hfit, hfault]
  · have hcontains : (path.toList.contains '\x00' || folder.toList.contains '\x00') = true := by
      rw [not_and_or, not_not, not_not] at hnul
      simpa using hnul
    rw [if_pos hcontains]
    simp [isKind, hnul]

/-- Seen from a folder that is there, no short text is too long. -/
theorem not_isTooLong_plain {disk : Disk} {folder text : String}
    (hfolder : disk.isFolder folder "." = .ok true) (hshort : text.utf8ByteSize ≤ maxNameBytes) :
    ¬ disk.IsTooLong folder (plain text) := by
  intro hlong
  obtain ⟨answer, hanswer⟩ := exists_isFile_eq_ok hfolder hshort
  rw [isFile_eq_error_iff.2 ⟨hlong, rfl⟩] at hanswer
  cases hanswer

/-- Seen from a folder that is there, a step that is longer than a name may be is too long. -/
theorem isTooLong_of_isStep {disk : Disk} {folder : String} {name : List Char}
    (hfolder : disk.isFolder folder "." = .ok true) (hstep : IsStep name) (hnul : '\x00' ∉ name)
    (hlong : maxNameBytes < (String.ofList name).utf8ByteSize) :
    disk.IsTooLong folder (plain (String.ofList name)) := by
  obtain ⟨children, hfollow⟩ := exists_follow_of_isFolder hfolder
  have hpath : steps (append folder.toList name) = steps folder.toList ++ [name] := by
    obtain ⟨hanchored, hsteps⟩ := of_isStep hstep
    rw [steps_append_path _ hanchored, hsteps]
  have hback : String.ofList name ≠ ".." := by
    intro hname
    rw [hname] at hlong
    exact absurd hlong (by decide)
  rw [plain_of_isStep hstep]
  refine ⟨⟨by rwa [String.toList_ofList], fun hmem => ?_⟩, .inr ⟨_, String.ofList name, [],
    children, ?_, hfollow, hback, hlong⟩⟩
  · rw [isFolder, find, if_pos (by simpa using hmem)] at hfolder
    cases hfolder
  · rw [stepsFrom, String.toList_ofList, hpath, List.map_append]
    rfl

end Disk

end MakeAtlas
