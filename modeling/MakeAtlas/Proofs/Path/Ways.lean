import MakeAtlas.Proofs.Path.Names

/-!
# The way from a folder to a path

The way from a folder to a path goes up to the folder where the two part, and down from there. It
is written with nothing left to resolve, so that it is its own normal form.

## Key results

- `dropCommon_fst_eq_nil_iff`: nothing is left of a list that begins the other one
- `collapse_wayBetween`: the steps of a way lead from the folder to the path
- `up_mem_wayBetween_iff`: when the way goes up
- `relativeTo?_eq_normalize`: the way is written in normal form
-/

namespace MakeAtlas.Path

/-! ## Where two paths part -/

/-- What two lists begin with in common is dropped. -/
theorem dropCommon_append_append (front first second : List (List Char)) :
    dropCommon (front ++ first) (front ++ second) = dropCommon first second := by
  induction front with
  | nil => rfl
  | cons step front ih => rw [List.cons_append, List.cons_append, dropCommon, if_pos rfl, ih]

theorem dropCommon_append (front rest : List (List Char)) :
    dropCommon front (front ++ rest) = ([], rest) := by
  simpa [dropCommon] using dropCommon_append_append front [] rest

/-- Two lists are what they have in common, each with what is left of it. -/
theorem exists_common (first second : List (List Char)) :
    ∃ common, first = common ++ (dropCommon first second).1 ∧
      second = common ++ (dropCommon first second).2 := by
  fun_induction dropCommon first second with
  | case1 as a bs ih =>
    obtain ⟨common, hfirst, hsecond⟩ := ih
    exact ⟨a :: common, congrArg (a :: ·) hfirst, congrArg (a :: ·) hsecond⟩
  | case2 => exact ⟨[], rfl, rfl⟩
  | case3 => exact ⟨[], rfl, rfl⟩

/-- Nothing is left of a list exactly if it begins the other one. -/
theorem dropCommon_fst_eq_nil_iff {first second : List (List Char)} :
    (dropCommon first second).1 = [] ↔ first <+: second := by
  constructor
  · intro hnone
    obtain ⟨common, hfirst, hsecond⟩ := exists_common first second
    rw [hnone, List.append_nil] at hfirst
    rw [hfirst]
    exact ⟨_, hsecond.symm⟩
  · rintro ⟨rest, rfl⟩
    rw [dropCommon_append]

/-! ## The steps of a way -/

variable {folder path : String}

/-- The steps from a folder to a path: up to where they part, then down. -/
def wayBetween (folder path : String) : List (List Char) :=
  let (climb, descend) :=
    dropCommon (collapse true (steps folder.toList)) (collapse true (steps path.toList))
  List.replicate climb.length up ++ descend

/-- A way goes up some steps that lead down to the folder, and down to the path. -/
theorem exists_wayBetween_eq (folder path : String) :
    ∃ common climb descend, collapse true (steps folder.toList) = common ++ climb ∧
      collapse true (steps path.toList) = common ++ descend ∧
      wayBetween folder path = List.replicate climb.length up ++ descend ∧
      (climb = [] ↔ collapse true (steps folder.toList) <+: collapse true (steps path.toList)) := by
  obtain ⟨common, hfolder, hpath⟩ :=
    exists_common (collapse true (steps folder.toList)) (collapse true (steps path.toList))
  exact ⟨common, _, _, hfolder, hpath, rfl, dropCommon_fst_eq_nil_iff⟩

/-- A way is made of steps up and of steps of the path. -/
theorem eq_up_or_mem_of_mem_wayBetween {step : List Char} (h : step ∈ wayBetween folder path) :
    step = up ∨ step ∈ steps path.toList := by
  obtain ⟨common, climb, descend, -, hpath, hway, -⟩ := exists_wayBetween_eq folder path
  rw [hway, List.mem_append] at h
  refine h.imp List.eq_of_mem_replicate fun hdown => ?_
  have hstep : step ∈ collapse true (steps path.toList) := hpath ▸ List.mem_append_right _ hdown
  exact mem_of_mem_collapse hstep

theorem isStep_of_mem_wayBetween {step : List Char} (h : step ∈ wayBetween folder path) :
    IsStep step := by
  rcases eq_up_or_mem_of_mem_wayBetween h with rfl | hstep
  · exact ⟨by decide, by decide, by decide⟩
  · exact isStep_of_mem_steps hstep

/-- From the folder, the way leads to the path. -/
theorem collapse_wayBetween (folder path : String) :
    collapse true (steps folder.toList ++ wayBetween folder path) =
      collapse true (steps path.toList) := by
  obtain ⟨common, climb, descend, hfolder, hpath, hway, -⟩ := exists_wayBetween_eq folder path
  have hup : up ∉ common ++ climb := hfolder ▸ up_not_mem_collapse _
  have hup' : up ∉ common ++ descend := hpath ▸ up_not_mem_collapse _
  have hclimb : up ∉ climb := fun hmem => hup (List.mem_append_right _ hmem)
  -- the steps of the folder are resolved first
  have hearly : collapse true (steps folder.toList ++ wayBetween folder path) =
      collapse true (collapse true (common ++ climb) ++ wayBetween folder path) := by
    rw [collapse_eq_self true hup, ← hfolder, collapse_append, collapse_append, collapse_collapse]
  rw [hearly, hway, collapse_back hclimb, hpath, collapse_eq_self true hup']

/-- Steps up, as many as there are, are left as they are. -/
private theorem collapse_replicate_up (n : Nat) :
    collapse false (List.replicate n up) = List.replicate n up := by
  have hrun : ∀ m, (List.replicate n up).foldl (advance false) (List.replicate m up) =
      List.replicate (m + n) up := by
    induction n with
    | zero => exact fun _ => rfl
    | succ n ih =>
      intro m
      have hup : advance false (List.replicate m up) up = List.replicate (m + 1) up := by
        cases m <;> simp [advance, List.replicate_succ]
      rw [List.replicate_succ, List.foldl_cons, hup, ih, Nat.add_right_comm, Nat.add_assoc]
  have hsteps := hrun 0
  rw [List.replicate_zero, Nat.zero_add] at hsteps
  rw [collapse, hsteps, List.reverse_replicate]

/-- Nothing is left to resolve on a way. -/
theorem collapse_false_wayBetween (folder path : String) :
    collapse false (wayBetween folder path) = wayBetween folder path := by
  obtain ⟨common, climb, descend, -, hpath, hway, -⟩ := exists_wayBetween_eq folder path
  have hup : up ∉ common ++ descend := hpath ▸ up_not_mem_collapse _
  have hdescend : up ∉ descend := fun hmem => hup (List.mem_append_right _ hmem)
  rw [hway, collapse_append_down false _ hdescend, collapse_replicate_up]

/-- A way goes up exactly if the folder's steps are not the first ones of the path. -/
theorem up_mem_wayBetween_iff :
    up ∈ wayBetween folder path ↔
      ¬ collapse true (steps folder.toList) <+: collapse true (steps path.toList) := by
  obtain ⟨common, climb, descend, -, hpath, hway, hclimb⟩ := exists_wayBetween_eq folder path
  have hup : up ∉ common ++ descend := hpath ▸ up_not_mem_collapse _
  have hdescend : up ∉ descend := fun hmem => hup (List.mem_append_right _ hmem)
  rw [hway, List.mem_append, or_iff_left hdescend, List.mem_replicate, and_iff_left rfl, Ne,
    List.length_eq_zero_iff, hclimb]

/-! ## The written way -/

/-- A way, written with slashes. -/
def written (folder path : String) : String :=
  String.ofList (joinSteps (wayBetween folder path))

theorem isAnchored_written : isAnchored (written folder path).toList = false := by
  rw [written, String.toList_ofList]
  exact isAnchored_joinSteps fun _ => isStep_of_mem_wayBetween

theorem steps_written : steps (written folder path).toList = wayBetween folder path := by
  rw [written, String.toList_ofList]
  exact steps_joinSteps fun _ => isStep_of_mem_wayBetween

/-- A way is written without backslashes if none of its steps has any. -/
theorem backslash_not_mem_written (h : ∀ step ∈ wayBetween folder path, '\\' ∉ step) :
    '\\' ∉ (written folder path).toList := by
  rw [written, String.toList_ofList]
  intro hmem
  rcases mem_of_mem_joinSteps hmem with hslash | ⟨step, hstep, hc⟩
  · cases hslash
  · exact h step hstep hc

/-- The way to a path is its steps, written with slashes, or `.` where there are none. -/
private theorem relativeTo?_eq (hne : path ≠ "") (folder : String) :
    relativeTo? path folder = match joinSteps (wayBetween folder path) with
      | [] => some "."
      | text => some (String.ofList (forward text)) := by
  have hnonempty : path.isEmpty = false := by simpa using hne
  have hmap : ∀ climb : List (List Char),
      climb.map (fun _ => up) = List.replicate climb.length up := fun _ => List.map_const'
  simp only [relativeTo?, hnonempty, Bool.false_eq_true, if_false, hmap]
  rfl

/-- The way to a path is written in normal form. -/
theorem relativeTo?_eq_normalize (hne : path ≠ "") (h : '\\' ∉ (written folder path).toList) :
    relativeTo? path folder = some (normalize (written folder path)) := by
  have hplain := forward_eq_self h
  have hnormal := normal_cases (written folder path).toList
  rw [isAnchored_written, anchor_of_not isAnchored_written, steps_written,
    collapse_false_wayBetween, List.nil_append] at hnormal
  rw [relativeTo?_eq hne, normalize, hplain]
  rw [written, String.toList_ofList] at hplain hnormal ⊢
  cases htext : joinSteps (wayBetween folder path) with
  | nil => rfl
  | cons c rest =>
    rw [htext] at hnormal hplain
    rcases hnormal with hnormal | ⟨hnone, -⟩
    · rw [hnormal]
      exact congrArg (some ∘ String.ofList) hplain
    · cases hnone

end MakeAtlas.Path
