import MakeAtlas.Proofs.Path.Blanks

/-!
# Paths that go down

A path goes down if it is relative and no step up is left once its steps are resolved, whatever
detours it takes. The normal forms of these paths are made of names, so both questions about a path
and a root, whether the one is written below the other and whether the places that they name lie so,
come down to whether the names of the root come first.

## Key results

- `goesDown_iff`: paths that go down are those whose normal form is made of names
- `climbs_of_goesDown`: such a path does not climb
- `belongsTo_rootText_iff`: which normal forms belong to a root
- `belongsTo_normalize_iff_isWithin`: the normal form belongs to a root exactly if the place lies in
  the root's folder
-/

namespace MakeAtlas.Path

open MakeAtlas.Text (hasPrefix)

/-- A path that goes down: it is relative, and no step up is left of it. -/
structure GoesDown (path : String) : Prop where
  relative : isAnchored (forward path.toList) = false
  no_up : up ∉ collapse false (steps (forward path.toList))

/-- A path that goes down without a detour: it is its own normal form. -/
structure IsTidy (path : String) : Prop extends GoesDown path where
  normal : normalize path = path

variable {names more : List String} {path root location : String}

/-! ## Names on the way down -/

/-- What a path that goes down has in its normal form are names. -/
private theorem isName_ofList {step : List Char} (hdown : GoesDown path)
    (h : step ∈ collapse false (steps (forward path.toList))) :
    isName (String.ofList step) = true := by
  have hmem := mem_of_mem_collapse h
  have hstep := isStep_of_mem_steps hmem
  have hup : step ≠ up := fun heq => hdown.no_up (heq ▸ h)
  have hback : '\\' ∉ step := fun hc => not_mem_forward _ (mem_of_mem_steps hmem hc)
  have htext : ∀ text : String, String.ofList step = text ↔ step = text.toList := by
    intro text
    rw [← String.toList_inj, String.toList_ofList]
  simp only [isName, Bool.and_eq_true, bne_iff_ne, Bool.not_eq_true', List.contains_eq_mem,
    decide_eq_false_iff_not, String.toList_ofList, ne_eq, htext]
  exact ⟨⟨⟨⟨hstep.ne_nil, hstep.ne_here⟩, hup⟩, hstep.not_slash⟩, hback⟩

/-- A root that is made of names is relative. -/
private theorem isAnchored_rootText (h : ∀ n ∈ names, isName n = true) :
    isAnchored (rootText names).toList = false := by
  by_cases hnames : names = []
  · subst hnames
    rfl
  · rw [rootText_of_ne_nil hnames, isAnchored_joined h]

/-- A path goes down exactly if its normal form is made of names. -/
theorem goesDown_iff :
    GoesDown path ↔ ∃ names, (∀ n ∈ names, isName n = true) ∧ normalize path = rootText names := by
  constructor
  · intro hdown
    have hnames : ∀ n ∈ (collapse false (steps (forward path.toList))).map String.ofList,
        isName n = true := List.forall_mem_map.2 fun _ hstep => isName_ofList hdown hstep
    have hsteps := steps_joined hnames
    rw [List.map_map, String.toList_comp_ofList, List.map_id] at hsteps
    refine ⟨_, hnames, ?_⟩
    -- the path has the normal form of its names, written with slashes
    rw [← normalize_joined hnames, normalize, normalize, forward_joined hnames]
    apply congrArg String.ofList
    apply normal_congr
    · rw [anchor_of_not hdown.relative, anchor_of_not (isAnchored_joined hnames)]
    · rw [hdown.relative, isAnchored_joined hnames, hsteps, collapse_collapse]
  · rintro ⟨names, hnames, hnormal⟩
    have htext : normal (forward path.toList) = (rootText names).toList := by
      rw [← hnormal, normalize, String.toList_ofList]
    have hrelative : isAnchored (forward path.toList) = false := by
      rw [← isAnchored_congr (anchor_normal _), htext, isAnchored_rootText hnames]
    have hsteps := steps_normal (forward path.toList)
    rw [htext, steps_rootText hnames, hrelative] at hsteps
    exact ⟨hrelative, hsteps ▸ up_not_mem_map hnames⟩

/-- A tidy path is made of names. -/
theorem IsTidy.exists_names (h : IsTidy path) :
    ∃ names, (∀ n ∈ names, isName n = true) ∧ path = rootText names := by
  obtain ⟨names, hnames, hnormal⟩ := goesDown_iff.1 h.toGoesDown
  exact ⟨names, hnames, h.normal.symm.trans hnormal⟩

/-- A path that goes down does not climb. -/
theorem climbs_of_goesDown (h : GoesDown path) : climbs path = false := by
  obtain ⟨names, hnames, hnormal⟩ := goesDown_iff.1 h
  rw [climbs, hnormal]
  by_cases hnil : names = []
  · subst hnil
    rfl
  · have hclimbs := climbs_joined hnames hnil
    rwa [climbs, normalize_joined hnames] at hclimbs

/-! ## Places on the way down -/

/-- The place of a path that goes down is that of the names in its normal form. -/
private theorem resolve_eq_of_normalize_eq (h : GoesDown path)
    (hnames : ∀ n ∈ names, isName n = true) (hnormal : normalize path = rootText names) :
    resolve location path = resolve location (joined names) := by
  rw [← resolve_normalize h.relative, hnormal, resolve_rootText hnames]

/-! ## Texts and places -/

/-- What belongs to a root below the workspace is the root, or begins with it and a slash. -/
theorem belongsTo_iff_of_ne_nil (hnames : ∀ n ∈ names, isName n = true) (hroot : names ≠ []) :
    belongsTo path (rootText names) = true ↔
      path = joined names ∨ (joined names).toList ++ ['/'] <+: path.toList := by
  rw [belongsTo, isWorkspaceRoot_rootText hnames, decide_eq_false hroot,
    if_neg Bool.false_ne_true, Bool.or_eq_true, beq_iff_eq, rootText_of_ne_nil hroot,
    dropEndWhile_joined hnames hroot, hasPrefix, List.isPrefixOf_iff_prefix]

/-- What begins with the names of a root and a slash has these names first. -/
private theorem prefix_of_append_slash (hnames : ∀ n ∈ names, isName n = true)
    (hmore : ∀ n ∈ more, isName n = true)
    (h : (joined names).toList ++ ['/'] <+: (rootText more).toList) : names <+: more := by
  obtain ⟨rest, hrest⟩ := h
  have hsteps := steps_rootText hmore
  rw [← hrest, List.append_assoc, List.singleton_append, steps_append_slash,
    steps_joined hnames] at hsteps
  have hprefix : names.map String.toList <+: more.map String.toList := ⟨_, hsteps⟩
  exact (List.prefix_map_iff_of_injective fun _ _ => String.toList_inj.1).1 hprefix

/-- A normal form that goes down belongs to a root exactly if the names of the root come first. -/
theorem belongsTo_rootText_iff (hnames : ∀ n ∈ names, isName n = true)
    (hmore : ∀ n ∈ more, isName n = true) :
    belongsTo (rootText more) (rootText names) = true ↔ names <+: more := by
  by_cases hroot : names = []
  · -- nothing that goes down leaves the workspace
    subst hroot
    have hdown : GoesDown (rootText more) := goesDown_iff.2 ⟨more, hmore, by
      rw [← normalize_joined hmore, normalize_normalize]⟩
    simp [belongsTo, isWorkspaceRoot_rootText hnames, climbs_of_goesDown hdown]
  · rw [belongsTo_iff_of_ne_nil hnames hroot]
    constructor
    · rintro (hsame | hprefix)
      · rw [← rootText_of_ne_nil hroot] at hsame
        exact rootText_injective hmore hnames hsame ▸ List.prefix_refl _
      · exact prefix_of_append_slash hnames hmore hprefix
    · rintro ⟨extra, rfl⟩
      have hne : names ++ extra ≠ [] := List.append_ne_nil_of_left_ne_nil hroot extra
      rw [rootText_of_ne_nil hne]
      by_cases hextra : extra = []
      · rw [hextra, List.append_nil]
        exact Or.inl rfl
      · right
        rw [joined_append hroot hextra, String.toList_append, String.toList_append]
        exact List.prefix_append _ _

/-- In an absolute workspace, for a path and a root that go down: the normal form of the path
    belongs to that of the root exactly if the place of the path is in the root's folder. -/
theorem belongsTo_normalize_iff_isWithin (absolute : isAnchored location.toList = true)
    (hpath : GoesDown path) (hroot : GoesDown root) :
    belongsTo (normalize path) (normalize root) = true ↔
      isWithin (resolve location path) (resolve location root) = true := by
  obtain ⟨more, hmore, hnormal⟩ := goesDown_iff.1 hpath
  obtain ⟨names, hnames, hrootNormal⟩ := goesDown_iff.1 hroot
  rw [hnormal, hrootNormal, belongsTo_rootText_iff hnames hmore,
    isWithin_iff_isAbove (isSettled_resolve absolute path) (isSettled_resolve absolute root),
    resolve_eq_of_normalize_eq hpath hmore hnormal,
    resolve_eq_of_normalize_eq hroot hnames hrootNormal, isAbove_resolve_iff absolute hnames hmore]

end MakeAtlas.Path
