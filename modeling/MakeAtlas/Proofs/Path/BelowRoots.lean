import MakeAtlas.Proofs.Path.Blanks
import MakeAtlas.Proofs.Resolution.Resolved

/-!
# Files below a root

The file that shows a dependency is written as the names that lead to it below a project's root,
with the root in front. What stands in front is the same for all files below the root, so whether
such a file belongs to the root, and shows anything for it, hangs on the root alone.

## Key results

- `toList_underRoot`: what stands in front of the names is the same for all files below a root
- `exists_climb_then_down`: the steps of a relative path that are left climb first
- `beginsBlank_underRoot`: only a name on the way to a file may begin the file's path with a blank
- `belongsTo_underRoot`: whether a file below a root belongs to it
- `shows_underRoot_iff`: whether a file below a root shows anything for it
-/

namespace MakeAtlas.Path

open MakeAtlas.Text (dropEndWhile hasPrefix isBlank)

/-! ## Steps that are left -/

/-- The resolved steps of a relative path climb first and then go down. -/
theorem exists_climb_then_down (steps : List (List Char)) :
    ∃ n down, collapse false steps = List.replicate n up ++ down ∧ up ∉ down := by
  -- along the way the trail, whose last step comes first, goes down at its front
  suffices ∀ trail : List (List Char),
      (∃ n down, trail = down ++ List.replicate n up ∧ up ∉ down) →
      ∃ n down, steps.foldl (advance false) trail = down ++ List.replicate n up ∧ up ∉ down by
    obtain ⟨n, down, hfold, hdown⟩ := this [] ⟨0, [], rfl, List.not_mem_nil⟩
    refine ⟨n, down.reverse, ?_, fun hup => hdown (List.mem_reverse.1 hup)⟩
    rw [collapse, hfold, List.reverse_append, List.reverse_replicate]
  induction steps with
  | nil => exact fun _ h => h
  | cons step steps ih =>
    intro trail h
    obtain ⟨n, down, rfl, hdown⟩ := h
    apply ih
    by_cases hstep : step = up
    · subst hstep
      cases down with
      | nil =>
        refine ⟨n + 1, [], ?_, List.not_mem_nil⟩
        cases n <;> simp [advance, List.replicate_succ]
      | cons last above =>
        -- the last step down is taken back
        rw [List.mem_cons, not_or] at hdown
        refine ⟨n, above, ?_, hdown.2⟩
        simp [advance, Ne.symm hdown.1]
    · refine ⟨n, step :: down, ?_, ?_⟩
      · simp [advance, hstep]
      · simp [Ne.symm hstep, hdown]

/-! ## What stands in front -/

/-- The resolved steps of a root. -/
def rootSteps (root : String) : List (List Char) :=
  collapse (isAnchored (forward root.toList)) (steps (forward root.toList))

/-- What stands in front of the names in the path of a file below a root. -/
def front (root : String) : List Char :=
  if isWorkspaceRoot root then []
  else anchor (forward root.toList ++ ['/']) ++ (rootSteps root).flatMap (· ++ ['/'])

variable {root : String} {names : List String}

theorem isStep_of_mem_rootSteps {step : List Char} (h : step ∈ rootSteps root) : IsStep step :=
  isStep_of_mem_steps (mem_of_mem_collapse h)

/-- Steps that are followed by others are each written with a slash. -/
theorem joinSteps_append_eq_flatMap (first : List (List Char)) {second : List (List Char)}
    (h : second ≠ []) :
    joinSteps (first ++ second) = first.flatMap (· ++ ['/']) ++ joinSteps second := by
  induction first with
  | nil => rfl
  | cons step first ih =>
    have hmore := List.append_ne_nil_of_right_ne_nil first h
    obtain ⟨next, rest, hrest⟩ := List.exists_cons_of_ne_nil hmore
    rw [List.cons_append, hrest, joinSteps_cons_cons, ← hrest, ih, List.flatMap_cons]
    simp

/-- A slash behind a text does not make it anchored, unless there was nothing. -/
private theorem isAnchored_append_slash {cs : List Char} (h : cs ≠ []) :
    isAnchored (cs ++ ['/']) = isAnchored cs := by
  cases cs with
  | nil => exact absurd rfl h
  | cons c rest => rfl

/-- Only an empty root has no characters. -/
private theorem forward_ne_nil (h : isWorkspaceRoot root = false) : forward root.toList ≠ [] := by
  intro hnil
  rw [forward, List.map_eq_nil_iff, String.toList_eq_nil_iff] at hnil
  rw [hnil] at h
  cases h

/-- What is brought into normal form for a file below a root. -/
private theorem forward_below (h : ∀ n ∈ names, isName n = true) :
    forward (root ++ "/" ++ joined names).toList =
      forward root.toList ++ ['/'] ++ (joined names).toList := by
  have happend : ∀ first second : List Char,
      forward (first ++ second) = forward first ++ forward second :=
    fun _ _ => List.map_append
  rw [String.toList_append, String.toList_append, happend, happend, forward_joined h]
  rfl

/-- The names are left as they are behind the resolved steps of the root. -/
private theorem collapse_below (hroot : isWorkspaceRoot root = false)
    (h : ∀ n ∈ names, isName n = true) :
    collapse (isAnchored (forward root.toList ++ ['/'] ++ (joined names).toList))
        (steps (forward root.toList ++ ['/'] ++ (joined names).toList)) =
      rootSteps root ++ names.map String.toList := by
  have hanchored : isAnchored (forward root.toList ++ ['/'] ++ (joined names).toList) =
      isAnchored (forward root.toList) := by
    rw [isAnchored_congr (anchor_append _ (isAnchored_joined h)),
      isAnchored_append_slash (forward_ne_nil hroot)]
  rw [hanchored, List.append_assoc, List.singleton_append, steps_append_slash, steps_joined h]
  exact collapse_append_down _ _ (up_not_mem_map h)

/-- Written with slashes, the steps are what stands in front, and the names. -/
private theorem written_below (hroot : isWorkspaceRoot root = false)
    (h : ∀ n ∈ names, isName n = true) (hne : names ≠ []) :
    anchor (forward root.toList ++ ['/'] ++ (joined names).toList) ++
        joinSteps (rootSteps root ++ names.map String.toList) =
      front root ++ (joined names).toList := by
  rw [front, hroot, if_neg Bool.false_ne_true, anchor_append _ (isAnchored_joined h),
    joinSteps_append_eq_flatMap _ (by simpa using hne), toList_joined, List.append_assoc]

/-- What stands in front of the names is the same for all files below a root. -/
theorem toList_underRoot (h : ∀ n ∈ names, isName n = true) (hne : names ≠ []) :
    (underRoot root (joined names)).toList = front root ++ (joined names).toList := by
  rw [underRoot]
  cases hroot : isWorkspaceRoot root with
  | true =>
    rw [if_pos rfl, front, if_pos hroot, normalize_joined h, rootText_of_ne_nil hne,
      List.nil_append]
  | false =>
    rw [if_neg Bool.false_ne_true, normalize, String.toList_ofList, forward_below h]
    rcases normal_cases (forward root.toList ++ ['/'] ++ (joined names).toList) with
      hnormal | ⟨hnil, -⟩
    · rw [hnormal, collapse_below hroot h, written_below hroot h hne]
    · -- the names leave something to be written
      rw [collapse_below hroot h, written_below hroot h hne, List.append_eq_nil_iff] at hnil
      exact absurd hnil.2 (toList_joined_ne_nil h hne)

/-- Nothing stands in front of the steps of a relative root. -/
theorem front_of_not_isAnchored (h : isAnchored (forward root.toList) = false) :
    front root = (rootSteps root).flatMap (· ++ ['/']) := by
  rw [front]
  cases hroot : isWorkspaceRoot root with
  | true =>
    rw [isWorkspaceRoot, Bool.or_eq_true, beq_iff_eq, beq_iff_eq] at hroot
    rcases hroot with rfl | rfl <;> rfl
  | false =>
    have hnonempty := forward_ne_nil hroot
    rw [if_neg Bool.false_ne_true, anchor_of_not, List.nil_append]
    rw [isAnchored_append_slash hnonempty, h]

/-- A slash stands in front of the steps of an absolute root. -/
theorem exists_front_eq_slash_cons (h : isAnchored (forward root.toList) = true) :
    ∃ rest, front root = '/' :: rest := by
  have hroot : isWorkspaceRoot root = false := by
    rw [isWorkspaceRoot, Bool.or_eq_false_iff, beq_eq_false_iff_ne, beq_eq_false_iff_ne]
    refine ⟨?_, ?_⟩ <;> rintro rfl <;> cases h
  have hanchor := isEmpty_anchor (forward root.toList ++ ['/'])
  rw [isAnchored_append_slash (forward_ne_nil hroot), h] at hanchor
  rw [front, hroot, if_neg Bool.false_ne_true]
  rcases anchor_cases (forward root.toList ++ ['/']) with hnone | hone | htwo
  · rw [hnone] at hanchor
    cases hanchor
  · exact ⟨_, congrArg (· ++ _) hone⟩
  · exact ⟨_, congrArg (· ++ _) htwo⟩

/-- A relative root that climbs begins with a step up. -/
theorem exists_rootSteps_eq_up_cons (h : isAnchored (forward root.toList) = false)
    (hup : up ∈ rootSteps root) : ∃ rest, rootSteps root = up :: rest := by
  obtain ⟨n, down, hclimb, hdown⟩ := exists_climb_then_down (steps (forward root.toList))
  rw [rootSteps, h, hclimb] at hup ⊢
  cases n with
  | zero => exact absurd hup hdown
  | succ n => exact ⟨_, rfl⟩

/-- The path of a file below a root begins with a slash, climbs, or begins with the first name on
    the way to the file. Only the last may be a blank. -/
theorem beginsBlank_underRoot (h : ∀ n ∈ names, isName n = true) (hne : names ≠ [])
    (hfirst : isAnchored (forward root.toList) = false → up ∉ rootSteps root →
      ∀ first ∈ ((rootSteps root).map String.ofList ++ names).head?,
        Text.beginsBlank first = false) :
    Text.beginsBlank (underRoot root (joined names)) = false := by
  rw [Text.beginsBlank, toList_underRoot h hne]
  cases hanchored : isAnchored (forward root.toList) with
  | true =>
    obtain ⟨rest, hfront⟩ := exists_front_eq_slash_cons hanchored
    rw [hfront]
    rfl
  | false =>
    rw [front_of_not_isAnchored hanchored, toList_joined,
      ← joinSteps_append_eq_flatMap _ (by simpa using hne)]
    by_cases hup : up ∈ rootSteps root
    · obtain ⟨rest, hclimb⟩ := exists_rootSteps_eq_up_cons hanchored hup
      have hstep : up ≠ [] := by decide
      rw [hclimb, List.cons_append, head?_joinSteps hstep]
      rfl
    · have hnames : (rootSteps root).map String.ofList ++ names =
          (rootSteps root ++ names.map String.toList).map String.ofList := by
        simp
      have hsteps : ∀ step ∈ rootSteps root ++ names.map String.toList, IsStep step := by
        rw [List.forall_mem_append, List.forall_mem_map]
        exact ⟨fun _ => isStep_of_mem_rootSteps, fun n hn => isStep_of_isName (h n hn)⟩
      have hbegins := hfirst hanchored hup
      rw [hnames] at hbegins
      cases hall : rootSteps root ++ names.map String.toList with
      | nil => rfl
      | cons step rest =>
        rw [hall] at hsteps hbegins
        rw [head?_joinSteps (hsteps step List.mem_cons_self).ne_nil]
        have hstep := hbegins (String.ofList step) rfl
        rwa [Text.beginsBlank, String.toList_ofList] at hstep

/-! ## Whether a file belongs to a root -/

/-- A root with a slash behind it, in place of those it ends with. -/
def withSlash (root : String) : List Char :=
  dropEndWhile (· == '/') root.toList ++ ['/']

/-- Slashes at the end give no steps. -/
private theorem steps_dropEndWhile_slash (cs : List Char) :
    steps (dropEndWhile (· == '/') cs) = steps cs := by
  induction cs using List.reverseRecOn with
  | nil => rfl
  | append_singleton cs c ih =>
    by_cases hc : (c == '/') = true
    · have hdrop : dropEndWhile (· == '/') (cs ++ [c]) = dropEndWhile (· == '/') cs :=
        List.rdropWhile_concat_pos _ _ c hc
      rw [hdrop, ih, beq_iff_eq.1 hc, steps_append_slash]
      exact (List.append_nil _).symm
    · have hdrop : dropEndWhile (· == '/') (cs ++ [c]) = cs ++ [c] :=
        List.rdropWhile_concat_neg _ _ c hc
      rw [hdrop]

theorem steps_withSlash (root : String) : steps (withSlash root) = steps root.toList := by
  rw [withSlash, steps_append_slash, steps_dropEndWhile_slash]
  exact List.append_nil _

/-- All characters of a root are there when it has one slash behind it. -/
theorem mem_withSlash_of_mem {c : Char} (h : c ∈ root.toList) : c ∈ withSlash root := by
  have hsplit : dropEndWhile (· == '/') root.toList ++ root.toList.rtakeWhile (· == '/') =
      root.toList := List.rdropWhile_append_rtakeWhile
  rw [← hsplit, List.mem_append] at h
  rcases h with hfront | hslashes
  · exact List.mem_append_left _ hfront
  · have hslash := List.mem_rtakeWhile_imp hslashes
    rw [beq_iff_eq.1 hslash]
    exact List.mem_append_right _ List.mem_cons_self

/-- The steps of what stands in front, and of a text behind it. -/
theorem steps_front_append (root : String) (text : List Char) :
    steps (front root ++ text) = rootSteps root ++ steps text := by
  have hslashes : ∀ first : List (List Char), (∀ step ∈ first, IsStep step) →
      steps (first.flatMap (· ++ ['/']) ++ text) = first ++ steps text := by
    intro first hfirst
    induction first with
    | nil => rfl
    | cons step first ih =>
      rw [List.forall_mem_cons] at hfirst
      have hone : ∀ n ∈ [step], IsStep n := List.forall_mem_singleton.2 hfirst.1
      have hstep : steps step = [step] := steps_joinSteps hone
      have htext : (step :: first).flatMap (· ++ ['/']) ++ text =
          step ++ '/' :: (first.flatMap (· ++ ['/']) ++ text) := by simp
      rw [htext, steps_append_slash, hstep, ih hfirst.2, List.singleton_append, List.cons_append]
  rw [front]
  split
  · next hroot =>
    have hnone : rootSteps root = [] := by
      rw [isWorkspaceRoot, Bool.or_eq_true, beq_iff_eq, beq_iff_eq] at hroot
      rcases hroot with rfl | rfl <;> rfl
    rw [hnone, List.nil_append, List.nil_append]
  · rw [List.append_assoc, steps_anchor_append, hslashes _ fun _ => isStep_of_mem_rootSteps]

/-- A root without backslashes has no steps down behind its resolved ones. -/
private theorem eq_nil_of_steps_eq {down : List (List Char)} (h : up ∉ down)
    (hforward : '\\' ∉ root.toList) (hsteps : steps root.toList = rootSteps root ++ down) :
    down = [] := by
  have hroot : rootSteps root = rootSteps root ++ down := by
    conv => lhs; rw [rootSteps, forward_eq_self hforward, hsteps, collapse_append_down _ _ h]
    rw [rootSteps, forward_eq_self hforward, collapse_collapse]
  exact List.self_eq_append_right.1 hroot

/-- Before a slash in what names are written as there is a step. -/
private theorem steps_ne_nil_of_joined_eq (h : ∀ n ∈ names, isName n = true) (hne : names ≠ [])
    {before behind : List Char} (hjoined : (joined names).toList = before ++ '/' :: behind) :
    steps before ≠ [] := by
  have hstep : ∀ step ∈ names.map String.toList, IsStep step := by
    rw [List.forall_mem_map]
    exact fun n hn => isStep_of_isName (h n hn)
  -- every piece between the slashes is a name
  have hpieces : before.splitOn '/' ++ behind.splitOn '/' = names.map String.toList := by
    rw [← List.splitOn_append_cons_self, ← hjoined, toList_joined, joinSteps_eq_intercalate]
    exact List.splitOn_intercalate '/' (fun n hn => (hstep n hn).not_slash) (by simpa using hne)
  obtain ⟨piece, pieces, hbefore⟩ := List.exists_cons_of_ne_nil (List.splitOn_ne_nil '/' before)
  have hpiece : IsStep piece := by
    apply hstep
    rw [← hpieces, hbefore]
    exact List.mem_cons_self
  rw [steps_eq_filter_splitOn, hbefore]
  simp [hpiece.ne_nil, hpiece.ne_here]

/-- A file below a root has no backslash in its path. -/
theorem backslash_not_mem_underRoot (root path : String) :
    '\\' ∉ (underRoot root path).toList := by
  have hnormal : ∀ path : String, '\\' ∉ (normalize path).toList := by
    intro path
    have hforward := forward_normalize path
    rw [← String.toList_ofList (l := normal (forward path.toList)), ← normalize] at hforward
    rw [← hforward]
    exact not_mem_forward _
  rw [underRoot]
  split
  · exact hnormal _
  · exact hnormal _

/-- If a file's path begins with the root, then so does what stands in front of the names: the root
    has no steps where the names are. -/
private theorem withSlash_prefix_front (h : ∀ n ∈ names, isName n = true) (hne : names ≠ [])
    (hslashed : withSlash root <+: front root ++ (joined names).toList) :
    withSlash root <+: front root := by
  rcases List.prefix_or_prefix_of_prefix hslashed (List.prefix_append _ _) with
    hfront | ⟨more, hmore⟩
  · exact hfront
  · by_cases hnil : more = []
    · have hfront : front root = withSlash root := by rw [← hmore, hnil, List.append_nil]
      exact hfront ▸ List.prefix_refl (front root)
    · have hlast : more.getLast? = some '/' := by
        rw [← List.getLast?_append_of_ne_nil (front root) hnil, hmore, withSlash,
          List.getLast?_concat]
      obtain ⟨before, rfl⟩ := List.getLast?_eq_some_iff.1 hlast
      obtain ⟨behind, hbehind⟩ := (List.prefix_append_right_inj _).1 (hmore ▸ hslashed)
      have hjoined : (joined names).toList = before ++ '/' :: behind := by
        rw [← hbehind, List.append_assoc, List.singleton_append]
      have hnames : steps before ++ steps behind = names.map String.toList := by
        rw [← steps_append_slash, ← hjoined, steps_joined h]
      have hdown : up ∉ steps before := by
        intro hup
        exact up_not_mem_map h (hnames ▸ List.mem_append_left _ hup)
      have hsteps : steps root.toList = rootSteps root ++ steps before := by
        rw [← steps_withSlash, ← hmore, steps_front_append, steps_append_slash]
        exact congrArg _ (List.append_nil _)
      have hplain : '\\' ∉ root.toList := by
        intro hmem
        have hfile := backslash_not_mem_underRoot root (joined names)
        rw [toList_underRoot h hne] at hfile
        exact hfile (hslashed.subset (mem_withSlash_of_mem hmem))
      exact absurd (eq_nil_of_steps_eq hdown hplain hsteps)
        (steps_ne_nil_of_joined_eq h hne hjoined)

/-- What belongs to a root begins with the root and a slash. A file below the root does so exactly
    if what stands in front of all such files does. -/
theorem belongsTo_underRoot (hroot : isWorkspaceRoot root = false)
    (h : ∀ n ∈ names, isName n = true) (hne : names ≠ []) :
    belongsTo (underRoot root (joined names)) root = hasPrefix (withSlash root) (front root) := by
  have htext : (underRoot root (joined names)).toList = front root ++ (joined names).toList :=
    toList_underRoot h hne
  have hself : underRoot root (joined names) ≠ root := by
    intro heq
    have hplain := backslash_not_mem_underRoot root (joined names)
    have hsteps : steps (underRoot root (joined names)).toList =
        rootSteps root ++ names.map String.toList := by
      rw [htext, steps_front_append, steps_joined h]
    rw [heq] at hsteps hplain
    have hnil := eq_nil_of_steps_eq (up_not_mem_map h) hplain hsteps
    exact hne (List.map_eq_nil_iff.1 hnil)
  have hprefix : withSlash root <+: front root ++ (joined names).toList ↔
      withSlash root <+: front root :=
    ⟨withSlash_prefix_front h hne, fun hfront => hfront.trans (List.prefix_append _ _)⟩
  rw [belongsTo, hroot, if_neg Bool.false_ne_true, beq_eq_false_iff_ne.2 hself, Bool.false_or,
    htext, Bool.eq_iff_iff, hasPrefix, hasPrefix, List.isPrefixOf_iff_prefix,
    List.isPrefixOf_iff_prefix]
  exact hprefix

/-! ## Whether a file shows anything -/

/-- Whether files below a root show anything for it. -/
def keepsFiles (root : String) : Bool :=
  isWorkspaceRoot root || hasPrefix (withSlash root) (front root)

/-- A file below a root, whose path has no blanks around it, shows something for the root exactly if
    all such files do. -/
theorem shows_underRoot_iff (h : ∀ n ∈ names, isName n = true) (hne : names ≠ [])
    (hfirst : Text.beginsBlank (underRoot root (joined names)) = false)
    (hlast : ∃ c ∈ (underRoot root (joined names)).toList.getLast?, isBlank c = false) :
    Dependency.Shows (underRoot root (joined names)) root ↔ keepsFiles root = true := by
  have hnamed := Text.isEmpty_trim hlast
  have htrim := Text.trim_eq_of_not_beginsBlank hfirst hlast
  have hbelongs : belongsTo (underRoot root (joined names)) root = keepsFiles root := by
    cases hroot : isWorkspaceRoot root with
    | false => rw [belongsTo_underRoot hroot h hne, keepsFiles, hroot, Bool.false_or]
    | true =>
      -- no file below the workspace climbs out of it
      have hfile : underRoot root (joined names) = joined names := by
        rw [underRoot, if_pos hroot, normalize_joined h, rootText_of_ne_nil hne]
      rw [belongsTo, if_pos hroot, hfile, climbs_joined h hne, keepsFiles, hroot, Bool.true_or,
        Bool.not_false]
  constructor
  · intro hshows
    have hbelongs' := hshows.belongs
    rw [htrim, String.ofList_toList, hbelongs] at hbelongs'
    exact hbelongs'
  · intro hkeeps
    refine ⟨hnamed, ?_⟩
    rw [htrim, String.ofList_toList, hbelongs, hkeeps]

end MakeAtlas.Path
