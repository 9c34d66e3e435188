import MakeAtlas.Project.Name
import MakeAtlas.Proofs.Path.Segments
import Mathlib.Data.List.DropRight

/-!
# Paths that are made of names

The names that lead from a folder to a file, written with slashes between them, are a path in normal
form. So the text of such a path tells the names, and a folder of the workspace tells the root of
the project in it.

## Key results

- `joined_normal`: names written with slashes are in normal form
- `rootOf_joined`: the root of the project whose Makefile has the given names
- `underRoot_joined`: a file below a project's root, seen from the workspace
- `segments_resolve`: the segments of an absolute path that is made of names
- `append_resolve`: going on from a folder by more names
- `resolve_raised`: a path that goes up as often as there were names down
-/

namespace MakeAtlas.Path

open MakeAtlas.Text

/-! ## Names -/

/-- Whether a file or folder can have a name, and its path means the same to all: the name is not
    empty, is none of the two special steps, and holds neither a slash nor a backslash. -/
def isName (name : String) : Bool :=
  name != "" && name != "." && name != ".." && !name.toList.contains '/' &&
    !name.toList.contains '\\'

/-- Some names, written with slashes between them. -/
def joined (names : List String) : String :=
  String.intercalate "/" names

variable {names more : List String} {name : String}

theorem isStep_of_isName (h : isName name = true) : IsStep name.toList := by
  simp only [isName, Bool.and_eq_true, bne_iff_ne, Bool.not_eq_true', List.contains_eq_mem,
    decide_eq_false_iff_not] at h
  obtain ⟨⟨⟨⟨hempty, hhere⟩, -⟩, hslash⟩, -⟩ := h
  refine ⟨?_, ?_, hslash⟩
  · rwa [Ne, String.toList_eq_nil_iff]
  · exact fun heq => hhere (String.toList_inj.1 heq)

theorem ne_up_of_isName (h : isName name = true) : name.toList ≠ up := by
  simp only [isName, Bool.and_eq_true, bne_iff_ne] at h
  exact fun heq => h.1.1.2 (String.toList_inj.1 heq)

theorem not_backslash_of_isName (h : isName name = true) : '\\' ∉ name.toList := by
  simp only [isName, Bool.and_eq_true, Bool.not_eq_true', List.contains_eq_mem,
    decide_eq_false_iff_not] at h
  exact h.2

/-- The characters of some names, in a list for each. -/
private theorem isStep_of_mem_map (h : ∀ n ∈ names, isName n = true) :
    ∀ n ∈ names.map String.toList, IsStep n := by
  rw [List.forall_mem_map]
  exact fun n hn => isStep_of_isName (h n hn)

theorem up_not_mem_map (h : ∀ n ∈ names, isName n = true) :
    up ∉ names.map String.toList := by
  rw [List.mem_map]
  rintro ⟨n, hn, hup⟩
  exact ne_up_of_isName (h n hn) hup

/-! ## Names with slashes -/

theorem toList_joined (names : List String) :
    (joined names).toList = joinSteps (names.map String.toList) := by
  rw [joined, String.toList_intercalate, joinSteps_eq_intercalate]
  rfl

theorem joined_append (hnames : names ≠ []) (hmore : more ≠ []) :
    joined (names ++ more) = joined names ++ "/" ++ joined more :=
  String.intercalate_append_of_ne_nil hnames hmore

theorem steps_joined (h : ∀ n ∈ names, isName n = true) :
    steps (joined names).toList = names.map String.toList := by
  rw [toList_joined, steps_joinSteps (isStep_of_mem_map h)]

theorem isAnchored_joined (h : ∀ n ∈ names, isName n = true) :
    isAnchored (joined names).toList = false := by
  rw [toList_joined, isAnchored_joinSteps (isStep_of_mem_map h)]

/-- Only no names at all are written as the empty text. -/
theorem toList_joined_ne_nil (h : ∀ n ∈ names, isName n = true) (hne : names ≠ []) :
    (joined names).toList ≠ [] := by
  intro hnil
  have hsteps := steps_joined h
  rw [hnil] at hsteps
  exact hne (List.map_eq_nil_iff.1 hsteps.symm)

/-- What names are written as does not end with a slash. -/
theorem getLast?_joined (h : ∀ n ∈ names, isName n = true) (hne : names ≠ []) :
    ∃ c, (joined names).toList.getLast? = some c ∧ c ≠ '/' := by
  rw [toList_joined]
  exact getLast?_joinSteps (isStep_of_mem_map h) (by simpa using hne)

/-- There are no slashes to drop at the end of what names are written as. -/
theorem dropEndWhile_joined (h : ∀ n ∈ names, isName n = true) (hne : names ≠ []) :
    dropEndWhile (· == '/') (joined names).toList = (joined names).toList := by
  obtain ⟨c, hlast, hc⟩ := getLast?_joined h hne
  apply dropEndWhile_eq_self
  rw [hlast]
  simpa using hc

/-- What names are written as holds no backslash. -/
theorem forward_joined (h : ∀ n ∈ names, isName n = true) :
    forward (joined names).toList = (joined names).toList := by
  apply forward_eq_self
  rw [toList_joined]
  intro hmem
  rcases mem_of_mem_joinSteps hmem with hslash | ⟨step, hstep, hc⟩
  · exact nomatch hslash
  · obtain ⟨n, hn, rfl⟩ := List.mem_map.1 hstep
    exact not_backslash_of_isName (h n hn) hc

theorem toForward_joined (h : ∀ n ∈ names, isName n = true) :
    toForward (joined names) = joined names := by
  rw [toForward, forward_joined h, String.ofList_toList]

/-- Names are read off what they are written as. -/
theorem joined_injective (hnames : ∀ n ∈ names, isName n = true)
    (hmore : ∀ n ∈ more, isName n = true) (h : joined names = joined more) : names = more := by
  have hsteps := steps_joined hnames
  rw [h, steps_joined hmore] at hsteps
  exact ((List.map_inj_right fun _ _ => String.toList_inj.1).1 hsteps).symm

/-! ## Normal forms -/

/-- Names written with slashes are in normal form; no names at all lead to where one is. -/
theorem joined_normal (h : ∀ n ∈ names, isName n = true) :
    normal (joined names).toList = if names = [] then here else (joined names).toList := by
  have hanchored := isAnchored_joined h
  have htext : anchor (joined names).toList ++ joinSteps
      (collapse (isAnchored (joined names).toList) (steps (joined names).toList)) =
        (joined names).toList := by
    rw [anchor_of_not hanchored, steps_joined h, collapse_eq_self _ (up_not_mem_map h),
      ← toList_joined, List.nil_append]
  rcases normal_cases (joined names).toList with hnormal | ⟨hnil, hnormal⟩
  · rw [htext] at hnormal
    split
    · next hnames =>
      subst hnames
      rfl
    · exact hnormal
  · rw [htext] at hnil
    have hnames : names = [] :=
      Decidable.byContradiction fun hne => toList_joined_ne_nil h hne hnil
    rw [hnormal, if_pos hnames]

/-- The workspace-relative text for the folder at some names. -/
def rootText (names : List String) : String :=
  if names = [] then "." else joined names

theorem normalize_joined (h : ∀ n ∈ names, isName n = true) :
    normalize (joined names) = rootText names := by
  rw [normalize, forward_joined h, joined_normal h, rootText]
  split
  · rfl
  · rw [String.ofList_toList]

theorem rootText_nil : rootText [] = "." := rfl

theorem rootText_of_ne_nil (h : names ≠ []) : rootText names = joined names :=
  if_neg h

/-- The steps of a root are the names it is the text for. -/
theorem steps_rootText (h : ∀ n ∈ names, isName n = true) :
    steps (rootText names).toList = names.map String.toList := by
  by_cases hnames : names = []
  · subst hnames
    rfl
  · rw [rootText_of_ne_nil hnames, steps_joined h]

theorem forward_rootText (h : ∀ n ∈ names, isName n = true) :
    forward (rootText names).toList = (rootText names).toList := by
  by_cases hnames : names = []
  · subst hnames
    rfl
  · rw [rootText_of_ne_nil hnames, forward_joined h]

/-- Only the workspace itself has the root of the workspace. -/
theorem isWorkspaceRoot_rootText (h : ∀ n ∈ names, isName n = true) :
    isWorkspaceRoot (rootText names) = decide (names = []) := by
  by_cases hnames : names = []
  · subst hnames
    rfl
  · rw [rootText_of_ne_nil hnames, isWorkspaceRoot, decide_eq_false hnames, Bool.or_eq_false_iff,
      beq_eq_false_iff_ne, beq_eq_false_iff_ne]
    constructor
    · intro hempty
      exact toList_joined_ne_nil h hnames (by rw [hempty]; rfl)
    · intro hhere
      -- a path of one dot has no steps
      have hsteps := steps_joined h
      rw [hhere] at hsteps
      exact hnames (List.map_eq_nil_iff.1 hsteps.symm)

theorem rootText_injective (hnames : ∀ n ∈ names, isName n = true)
    (hmore : ∀ n ∈ more, isName n = true) (h : rootText names = rootText more) : names = more := by
  have hroot := isWorkspaceRoot_rootText hnames
  rw [h, isWorkspaceRoot_rootText hmore, decide_eq_decide] at hroot
  by_cases hnil : names = []
  · rw [hnil, hroot.2 hnil]
  · rw [rootText_of_ne_nil hnil, rootText_of_ne_nil (mt hroot.1 hnil)] at h
    exact joined_injective hnames hmore h

/-! ## Folders and projects -/

/-- The folder of a path that is made of names. -/
theorem folderPart_joined (hnames : ∀ n ∈ names, isName n = true) (hname : isName name = true) :
    folderPart (joined (names ++ [name])).toList = (joined names).toList := by
  have hlast : ∀ c ∈ name.toList, (c != '/') = true := by
    intro c hc
    rw [bne_iff_ne]
    exact fun hslash => (isStep_of_isName hname).not_slash (hslash ▸ hc)
  have hdrop : ∀ front : List Char,
      dropEndWhile (· != '/') (front ++ '/' :: name.toList) = front ++ ['/'] := by
    intro front
    rw [dropEndWhile, List.reverse_append, List.reverse_cons, List.append_assoc,
      List.dropWhile_append_of_pos (fun c hc => hlast c (List.mem_reverse.1 hc))]
    simp
  by_cases hne : names = []
  · subst hne
    have hall : dropEndWhile (· != '/') name.toList = [] := List.rdropWhile_eq_nil_iff.2 hlast
    have hjoined : (joined ([] ++ [name])).toList = name.toList := by
      rw [toList_joined]
      rfl
    rw [folderPart, hjoined, hall]
    rfl
  · have hjoined : (joined (names ++ [name])).toList =
        (joined names).toList ++ '/' :: name.toList := by
      rw [toList_joined, toList_joined, List.map_append,
        joinSteps_append (by simpa using hne) (by simp)]
      rfl
    obtain ⟨c, cs, hcs⟩ := List.exists_cons_of_ne_nil (toList_joined_ne_nil hnames hne)
    have hc : c ≠ '/' := by
      have hanchored := isAnchored_joined hnames
      rw [hcs] at hanchored
      simpa [isAnchored] using hanchored
    obtain ⟨d, hlast, hd⟩ := getLast?_joined hnames hne
    have hsome : ((joined names).toList ++ ['/']).all (· == '/') = false := by
      rw [hcs]
      simp [hc]
    have hslash : dropEndWhile (· == '/') ((joined names).toList ++ ['/']) =
        dropEndWhile (· == '/') (joined names).toList :=
      List.rdropWhile_concat_pos _ _ '/' rfl
    rw [folderPart, hjoined, hdrop, if_neg (by simp [hsome]), hslash]
    -- the last name does not end with a slash
    apply dropEndWhile_eq_self
    rw [hlast]
    simpa using hd

/-- The root of the project whose Makefile has the given names. -/
theorem rootOf_joined (hnames : ∀ n ∈ names, isName n = true) (hname : isName name = true) :
    Project.rootOf (joined (names ++ [name])) = rootText names := by
  have hall : ∀ n ∈ names ++ [name], isName n = true :=
    List.forall_mem_append.2 ⟨hnames, List.forall_mem_singleton.2 hname⟩
  rw [Project.rootOf, forward_joined hall, folderPart_joined hnames hname, joined_normal hnames,
    rootText]
  split
  · rfl
  · rw [String.ofList_toList]

/-- A file below a project's root, seen from the workspace. -/
theorem underRoot_joined (hnames : ∀ n ∈ names, isName n = true)
    (hmore : ∀ n ∈ more, isName n = true) (hne : more ≠ []) :
    underRoot (rootText names) (joined more) = joined (names ++ more) := by
  have hall : ∀ n ∈ names ++ more, isName n = true := List.forall_mem_append.2 ⟨hnames, hmore⟩
  have hnormal : normalize (joined (names ++ more)) = joined (names ++ more) := by
    rw [normalize_joined hall, rootText_of_ne_nil (by simp [hne])]
  rw [underRoot, isWorkspaceRoot_rootText hnames]
  by_cases hroot : names = []
  · subst hroot
    exact hnormal
  · rw [if_neg (by simpa using hroot), rootText_of_ne_nil hroot, ← joined_append hroot hne, hnormal]

/-! ## Absolute paths -/

section Absolute

variable {location : String}

/-- A project's root leads to the folder with the root's names. -/
theorem resolve_rootText (h : ∀ n ∈ names, isName n = true) :
    resolve location (rootText names) = resolve location (joined names) := by
  rw [← normalize_joined h, resolve_normalize]
  rw [forward_joined h]
  exact isAnchored_joined h

/-- An absolute path that is made of names has the anchor of the workspace. -/
theorem anchor_resolve (h : ∀ n ∈ names, isName n = true) :
    anchor (resolve location (joined names)).toList = anchor location.toList := by
  refine anchor_resolve_of_relative ?_ location
  rw [forward_joined h]
  exact isAnchored_joined h

variable (absolute : isAnchored location.toList = true)

include absolute

/-- The steps of an absolute path that is made of names are those of the workspace, then the
    names. -/
theorem steps_resolve (h : ∀ n ∈ names, isName n = true) :
    steps (resolve location (joined names)).toList =
      collapse true (steps location.toList) ++ names.map String.toList := by
  have hrelative : isAnchored (forward (joined names).toList) = false := by
    rw [forward_joined h]
    exact isAnchored_joined h
  rw [steps_resolve_of_relative absolute hrelative, forward_joined h, steps_joined h,
    collapse_append_down _ _ (up_not_mem_map h)]

/-- Going on from a folder by more names. -/
theorem segments_resolve (hnames : ∀ n ∈ names, isName n = true)
    (hmore : ∀ n ∈ more, isName n = true) :
    segments (resolve location (joined (names ++ more))) =
      segments (resolve location (joined names)) ++ more.map String.toList := by
  have hall : ∀ n ∈ names ++ more, isName n = true := List.forall_mem_append.2 ⟨hnames, hmore⟩
  rw [segments, segments, anchor_resolve hall, anchor_resolve hnames,
    steps_resolve absolute hall, steps_resolve absolute hnames, List.map_append]
  simp only [List.append_assoc]

/-- A folder is above what has the folder's names first among its own, and nothing else. -/
theorem isAbove_resolve_iff (hnames : ∀ n ∈ names, isName n = true)
    (hmore : ∀ n ∈ more, isName n = true) :
    IsAbove (resolve location (joined names)) (resolve location (joined more)) ↔
      names <+: more := by
  have hbase : ∀ ns : List String, (∀ n ∈ ns, isName n = true) →
      segments (resolve location (joined ([] ++ ns))) =
        segments (resolve location (joined [])) ++ ns.map String.toList :=
    fun ns h => segments_resolve absolute (fun _ hn => absurd hn List.not_mem_nil) h
  rw [IsAbove, ← List.nil_append names, ← List.nil_append more, hbase _ hnames, hbase _ hmore,
    List.prefix_append_right_inj]
  exact List.prefix_map_iff_of_injective fun _ _ => String.toList_inj.1

/-- Different names lead to different absolute paths. -/
theorem resolve_joined_injective (hnames : ∀ n ∈ names, isName n = true)
    (hmore : ∀ n ∈ more, isName n = true)
    (h : resolve location (joined names) = resolve location (joined more)) : names = more := by
  have hfirst := (isAbove_resolve_iff absolute hnames hmore).1 (h ▸ List.prefix_refl _)
  have hsecond := (isAbove_resolve_iff absolute hmore hnames).1 (h ▸ List.prefix_refl _)
  exact hfirst.eq_of_length_le hsecond.length_le

/-- Going on from a folder by more names gives the absolute path of the place they lead to. -/
theorem append_resolve (hnames : ∀ n ∈ names, isName n = true)
    (hmore : ∀ n ∈ more, isName n = true) (hne : more ≠ []) :
    append (resolve location (joined names)).toList (joined more).toList =
      (resolve location (joined (names ++ more))).toList := by
  have hall : ∀ n ∈ names ++ more, isName n = true := List.forall_mem_append.2 ⟨hnames, hmore⟩
  have hfolder := isSettled_resolve absolute (joined names)
  have htext : (resolve location (joined (names ++ more))).toList =
      anchor (resolve location (joined names)).toList ++
        joinSteps (steps (resolve location (joined names)).toList ++ more.map String.toList) := by
    rw [(isSettled_resolve absolute _).text, anchor_resolve hall, anchor_resolve hnames,
      steps_resolve absolute hall, steps_resolve absolute hnames, List.map_append,
      List.append_assoc]
  rw [append, if_neg (by simp [isAnchored_joined hmore]), htext, toList_joined more]
  by_cases hsteps : steps (resolve location (joined names)).toList = []
  · -- a folder without steps is an anchor, whose own slash is the one between the two
    have hfolder := hfolder.text
    have hanchored := (isSettled_resolve absolute (joined names)).isAnchored
    rw [hsteps, joinSteps, List.append_nil] at hfolder
    have hlast : (resolve location (joined names)).toList.getLast? = some '/' := by
      have hanchor := isEmpty_anchor (resolve location (joined names)).toList
      rw [hanchored] at hanchor
      rcases anchor_cases (resolve location (joined names)).toList with h | h | h <;>
        rw [h] at hanchor hfolder <;> rw [hfolder]
      · cases hanchor
      · rfl
      · rfl
    rw [if_pos (by simp [hlast]), hsteps, List.nil_append, ← hfolder]
  · obtain ⟨c, hlast, hc⟩ := getLast?_joinSteps (fun n => isStep_of_mem_steps) hsteps
    have hfolderLast : (resolve location (joined names)).toList.getLast? = some c := by
      rw [hfolder.text, List.getLast?_append, hlast]
      rfl
    have hopen : ((resolve location (joined names)).toList.isEmpty ||
        (resolve location (joined names)).toList.getLast? == some '/') = false := by
      rw [Bool.or_eq_false_iff, hfolderLast]
      refine ⟨?_, by simpa using hc⟩
      rw [List.isEmpty_eq_false_iff]
      rintro hnil
      rw [hnil] at hfolderLast
      cases hfolderLast
    rw [hopen, if_neg Bool.false_ne_true, joinSteps_append hsteps (by simpa using hne),
      ← List.append_assoc, ← hfolder.text]

end Absolute

/-! ## Going up again -/

/-- A path that goes up some folders before it goes its way. -/
def raised : Nat → String → String
  | 0, path => path
  | n + 1, path => "../" ++ raised n path

theorem isAnchored_raised {path : String} (h : isAnchored (forward path.toList) = false) (n : Nat) :
    isAnchored (forward (raised n path).toList) = false := by
  cases n with
  | zero => exact h
  | succ n =>
    rw [raised, String.toList_append]
    rfl

theorem steps_raised (n : Nat) (path : String) :
    steps (forward (raised n path).toList) =
      List.replicate n up ++ steps (forward path.toList) := by
  induction n with
  | zero => rfl
  | succ n ih =>
    have hstep : forward (raised (n + 1) path).toList =
        up ++ '/' :: forward (raised n path).toList := by
      rw [raised, String.toList_append]
      rfl
    rw [hstep, steps_append_slash, ih, List.replicate_succ]
    rfl

/-- Going up as often as there were steps down leads back. -/
theorem foldl_advance_replicate_up {down : List (List Char)} (h : up ∉ down)
    (trail : List (List Char)) :
    (List.replicate down.length up).foldl (advance true) (down ++ trail) = trail := by
  induction down with
  | nil => rfl
  | cons step down ih =>
    rw [List.mem_cons, not_or] at h
    have hback : advance true (step :: down ++ trail) up = down ++ trail := by
      simp [advance, Ne.symm h.1]
    rw [List.length_cons, List.replicate_succ, List.foldl_cons, hback, ih h.2]

/-- Steps down and as many up again change nothing about what follows. -/
theorem collapse_back {down : List (List Char)} (h : up ∉ down) (start rest : List (List Char)) :
    collapse true (collapse true (start ++ down) ++ (List.replicate down.length up ++ rest)) =
      collapse true (start ++ rest) := by
  have hdown : collapse true (collapse true (start ++ down)) = collapse true (start ++ down) :=
    collapse_eq_self true (up_not_mem_collapse _)
  have hreverse : up ∉ down.reverse := fun hup => h (List.mem_reverse.1 hup)
  have hback := foldl_advance_replicate_up hreverse (collapse true start).reverse
  rw [List.length_reverse] at hback
  rw [collapse_append, hdown, collapse_append, foldl_advance_eq true h, List.reverse_reverse,
    List.foldl_append, hback, ← collapse_append]

/-- From a folder some names further down, a path that first goes up as often leads where it leads
    without that. -/
theorem resolve_raised {folder path : String} {names : List String}
    (absolute : isAnchored folder.toList = true) (hnames : ∀ n ∈ names, isName n = true)
    (h : isAnchored (forward path.toList) = false) :
    resolve (resolve folder (joined names)) (raised names.length path) = resolve folder path := by
  have hjoined := isAnchored_joined hnames
  have hraised := isAnchored_raised h names.length
  have hfolder : isAnchored (append folder.toList (joined names).toList) = true :=
    isAnchored_append_path absolute _
  -- both paths start at the same root
  have hanchor : anchor (append (resolve folder (joined names)).toList
      (forward (raised names.length path).toList)) =
        anchor (append folder.toList (forward path.toList)) := by
    rw [anchor_append_path _ hraised, anchor_append_path _ h, resolve, String.toList_ofList,
      forward_joined hnames, anchor_normal, anchor_append_path _ hjoined]
  -- and the steps up take back the names down
  have hback := collapse_back (up_not_mem_map hnames) (steps folder.toList)
    (steps (forward path.toList))
  rw [List.length_map] at hback
  have hseen : isAnchored (append folder.toList (forward path.toList)) = true :=
    isAnchored_append_path absolute _
  rw [resolve, resolve]
  apply congrArg String.ofList
  apply normal_congr hanchor
  rw [isAnchored_congr hanchor, hseen, steps_append_path _ hraised, steps_append_path _ h,
    steps_raised, resolve, String.toList_ofList, forward_joined hnames, steps_normal, hfolder,
    steps_append_path _ hjoined, steps_joined hnames, hback]

end MakeAtlas.Path
