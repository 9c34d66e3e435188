import MakeAtlas.Project.Name
import MakeAtlas.Proofs.Path.Names

/-!
# Which roots share a name

A name shows the steps of a root with dashes between them, but not always all of them: the workspace
itself shows a step that it does not have, and a folder right below a grouping folder does not show
the grouping folder. Without dashes in the steps, the steps that are shown can be read off the name.
So two roots share a name exactly if they show the same steps.

## Key results

- `exists_names_of_isInside`: a root within the workspace is the text for some names
- `nameOfSteps_eq_intercalate`: a name is what is shown, with dashes between
- `nameOf_eq_iff_shownSteps_eq`: roots share a name exactly if they show the same steps
- `nameOf_eq_iff_mistakable`: the pairs of roots that share a name, for the default grouping folders
-/

namespace MakeAtlas

namespace Path

variable {names : List String} {root : String}

/-- A workspace-relative path in normal form that does not lead out of the workspace. -/
structure IsInside (root : String) : Prop where
  normal : normalize root = root
  relative : isAnchored root.toList = false
  stays : up ∉ steps root.toList

theorem isInside_rootText (h : ∀ n ∈ names, isName n = true) : IsInside (rootText names) where
  normal := by
    by_cases hnames : names = []
    · subst hnames
      decide
    · rw [rootText_of_ne_nil hnames, normalize_joined h, rootText_of_ne_nil hnames]
  relative := by
    by_cases hnames : names = []
    · subst hnames
      rfl
    · rw [rootText_of_ne_nil hnames, isAnchored_joined h]
  stays := by
    rw [steps_rootText h]
    exact up_not_mem_map h

/-- A path within the workspace, in normal form, is the text for some names. -/
theorem exists_names_of_isInside (h : IsInside root) :
    ∃ names, (∀ n ∈ names, isName n = true) ∧ root = rootText names := by
  have hforward : '\\' ∉ root.toList := by
    rw [← h.normal, normalize, String.toList_ofList]
    intro hmem
    rcases mem_of_mem_normal hmem with hpath | hslash | hdot
    · obtain ⟨c, -, hc⟩ := List.mem_map.1 hpath
      split at hc
      · exact absurd hc (by decide)
      · next hne => exact hne hc
    · exact absurd hslash (by decide)
    · exact absurd hdot (by decide)
  have hnames : ∀ n ∈ (steps root.toList).map String.ofList, isName n = true := by
    rw [List.forall_mem_map]
    intro step hstep
    have hkind := isStep_of_mem_steps hstep
    have hback : '\\' ∉ step := fun hc => hforward (mem_of_mem_steps hstep hc)
    have hup : step ≠ up := fun heq => h.stays (heq ▸ hstep)
    have hne : String.ofList step ≠ "" ∧ String.ofList step ≠ "." ∧ String.ofList step ≠ ".." := by
      simp only [Ne, ← String.toList_inj, String.toList_ofList]
      exact ⟨hkind.ne_nil, hkind.ne_here, hup⟩
    simp [isName, hne, hback, hkind.not_slash]
  refine ⟨_, hnames, ?_⟩
  -- both are the normal form of the same steps
  have hsteps : steps (joined ((steps root.toList).map String.ofList)).toList =
      steps root.toList := by
    have hid : String.toList ∘ String.ofList = id := funext fun _ => String.toList_ofList
    rw [steps_joined hnames, List.map_map, hid, List.map_id]
  have hjoined := isAnchored_joined hnames
  have hnormal : normal root.toList =
      normal (joined ((steps root.toList).map String.ofList)).toList := by
    apply normal_congr
    · rw [anchor_of_not h.relative, anchor_of_not hjoined]
    · rw [h.relative, hjoined, hsteps]
  calc root
      = normalize root := h.normal.symm
    _ = normalize (joined ((steps root.toList).map String.ofList)) := by
        rw [normalize, normalize, forward_eq_self hforward, forward_joined hnames, hnormal]
    _ = rootText ((steps root.toList).map String.ofList) := normalize_joined hnames

end Path

namespace Project

open MakeAtlas.Path (isName rootText)

variable {names more : List String}

/-- The steps of a root that its name shows. -/
def shownSteps (groupingDirs : List String) : List String → List String
  | [] => [workspaceName]
  | [group, step] => if group ∈ groupingDirs then [step] else [group, step]
  | steps => steps

/-- A name is what is shown of a root, with dashes between. -/
theorem nameOfSteps_eq_intercalate (groupingDirs steps : List String) :
    nameOfSteps groupingDirs steps = String.intercalate "-" (shownSteps groupingDirs steps) := by
  match steps with
  | [] => rw [nameOfSteps, shownSteps, String.intercalate_singleton]
  | [step] => exact String.intercalate_singleton.symm
  | [group, step] =>
    rw [nameOfSteps, shownSteps]
    split
    · rw [String.intercalate_singleton]
    · rw [String.intercalate_cons_cons, String.intercalate_singleton]
  | first :: second :: third :: rest => rfl

theorem shownSteps_ne_nil (groupingDirs steps : List String) :
    shownSteps groupingDirs steps ≠ [] := by
  match steps with
  | [] => exact List.cons_ne_nil _ _
  | [step] => exact List.cons_ne_nil _ _
  | [group, step] =>
    rw [shownSteps]
    split <;> exact List.cons_ne_nil _ _
  | first :: second :: third :: rest => exact List.cons_ne_nil _ _

/-- Nothing is shown but steps of the root, unless it has none. -/
theorem mem_shownSteps {groupingDirs steps : List String} {step : String}
    (h : step ∈ shownSteps groupingDirs steps) : step = workspaceName ∨ step ∈ steps := by
  match steps with
  | [] => exact Or.inl (List.mem_singleton.1 h)
  | [_] => exact Or.inr h
  | [group, last] =>
    rw [shownSteps] at h
    split at h
    · exact Or.inr (List.mem_cons_of_mem _ h)
    · exact Or.inr h
  | first :: second :: third :: rest => exact Or.inr h

/-- Words without dashes are read off what they are with dashes between. -/
theorem intercalate_dash_injective {words others : List String}
    (hwords : ∀ w ∈ words, '-' ∉ w.toList)
    (hothers : ∀ w ∈ others, '-' ∉ w.toList) (hne : words ≠ []) (hne' : others ≠ [])
    (h : String.intercalate "-" words = String.intercalate "-" others) : words = others := by
  have hsplit : ∀ {ws : List String}, (∀ w ∈ ws, '-' ∉ w.toList) → ws ≠ [] →
      (String.intercalate "-" ws).toList.splitOn '-' = ws.map String.toList := by
    intro ws hws hnil
    rw [String.toList_intercalate]
    exact List.splitOn_intercalate '-' (List.forall_mem_map.2 hws) (by simpa using hnil)
  have hchars := hsplit hwords hne
  rw [h, hsplit hothers hne'] at hchars
  exact ((List.map_inj_right fun _ _ => String.toList_inj.1).1 hchars).symm

/-- Two roots without dashes share a name exactly if they show the same steps. -/
theorem nameOf_eq_iff_shownSteps_eq (groupingDirs : List String)
    (hnames : ∀ n ∈ names, isName n = true) (hmore : ∀ n ∈ more, isName n = true)
    (hdash : ∀ n ∈ names, '-' ∉ n.toList) (hdash' : ∀ n ∈ more, '-' ∉ n.toList) :
    nameOf groupingDirs (rootText names) = nameOf groupingDirs (rootText more) ↔
      shownSteps groupingDirs names = shownSteps groupingDirs more := by
  have hname : ∀ {steps : List String}, (∀ n ∈ steps, isName n = true) →
      nameOf groupingDirs (rootText steps) =
        String.intercalate "-" (shownSteps groupingDirs steps) := by
    intro steps hsteps
    have hid : String.ofList ∘ String.toList = id := funext fun _ => String.ofList_toList
    rw [nameOf, Path.forward_rootText hsteps, Path.steps_rootText hsteps, List.map_map, hid,
      List.map_id, nameOfSteps_eq_intercalate]
  have hshown : ∀ {steps : List String}, (∀ n ∈ steps, '-' ∉ n.toList) →
      ∀ step ∈ shownSteps groupingDirs steps, '-' ∉ step.toList := by
    intro steps hsteps step hstep
    rcases mem_shownSteps hstep with rfl | hstep
    · decide
    · exact hsteps step hstep
  rw [hname hnames, hname hmore]
  exact ⟨intercalate_dash_injective (hshown hdash) (hshown hdash') (shownSteps_ne_nil _ _)
    (shownSteps_ne_nil _ _), congrArg _⟩

/-! ## The default grouping folders -/

/-- Two roots that share a name: the workspace and a folder `root`, below the grouping folder or not,
    or a folder right below the workspace and the one of its name below the grouping folder. -/
inductive Mistakable : String → String → Prop where
  | workspace : Mistakable "." "root"
  | groupedWorkspace : Mistakable "." "examples/root"
  | grouped {name : String} (plain : isName name = true) : Mistakable name ("examples/" ++ name)

/-- A root is not mistaken for itself. -/
theorem Mistakable.ne {root other : String} (h : Mistakable root other) : root ≠ other := by
  cases h with
  | workspace => decide
  | groupedWorkspace => decide
  | grouped plain =>
    intro heq
    have hlength := congrArg String.length heq
    rw [String.length_append] at hlength
    have hgroup : "examples/".length = 9 := rfl
    omega

private theorem rootText_singleton (name : String) : rootText [name] = name := by
  rw [Path.rootText_of_ne_nil (List.cons_ne_nil _ _), Path.joined, String.intercalate_singleton]

private theorem rootText_grouped (name : String) :
    rootText ["examples", name] = "examples/" ++ name := by
  rw [Path.rootText_of_ne_nil (List.cons_ne_nil _ _), Path.joined, String.intercalate_cons_cons,
    String.intercalate_singleton]
  rfl

/-- Which names lead to two roots that can be mistaken for each other. -/
theorem mistakable_rootText_iff (hnames : ∀ n ∈ names, isName n = true)
    (hmore : ∀ n ∈ more, isName n = true) :
    Mistakable (rootText names) (rootText more) ↔
      names = [] ∧ (more = ["root"] ∨ more = ["examples", "root"]) ∨
      ∃ name, names = [name] ∧ more = ["examples", name] := by
  constructor
  · intro h
    generalize hroot : rootText names = root at h
    generalize hother : rootText more = other at h
    cases h with
    | workspace =>
      exact Or.inl ⟨Path.rootText_injective hnames (by decide) hroot,
        Or.inl (Path.rootText_injective hmore (by decide) hother)⟩
    | groupedWorkspace =>
      exact Or.inl ⟨Path.rootText_injective hnames (by decide) hroot,
        Or.inr (Path.rootText_injective hmore (by decide) hother)⟩
    | grouped plain =>
      have hsingle : ∀ n ∈ [root], isName n = true := List.forall_mem_singleton.2 plain
      have hpair : ∀ n ∈ ["examples", root], isName n = true :=
        List.forall_mem_cons.2 ⟨by decide, hsingle⟩
      rw [← rootText_grouped] at hother
      rw [← rootText_singleton root] at hroot
      exact Or.inr ⟨root, Path.rootText_injective hnames hsingle hroot,
        Path.rootText_injective hmore hpair hother⟩
  · rintro (⟨rfl, rfl | rfl⟩ | ⟨name, rfl, rfl⟩)
    · exact .workspace
    · exact .groupedWorkspace
    · rw [rootText_singleton, rootText_grouped]
      exact .grouped (hnames name List.mem_cons_self)

/-- What is shown of a root by default: `root` of the workspace, the folder of a root right below the
    grouping folder, and every other root as it is. -/
private theorem shownSteps_default_cases (steps : List String) :
    steps = [] ∧ shownSteps defaultGroupingDirs steps = ["root"] ∨
    (∃ name, steps = ["examples", name] ∧ shownSteps defaultGroupingDirs steps = [name]) ∨
    steps ≠ [] ∧ (∀ name, steps ≠ ["examples", name]) ∧
      shownSteps defaultGroupingDirs steps = steps := by
  match steps with
  | [] => exact Or.inl ⟨rfl, rfl⟩
  | [step] => exact Or.inr (Or.inr ⟨by simp, by simp, rfl⟩)
  | [group, step] =>
    by_cases hgroup : group = "examples"
    · subst hgroup
      exact Or.inr (Or.inl ⟨step, rfl, rfl⟩)
    · refine Or.inr (Or.inr ⟨by simp, by simp [hgroup], ?_⟩)
      rw [shownSteps, if_neg (by simpa [defaultGroupingDirs] using hgroup)]
  | first :: second :: third :: rest => exact Or.inr (Or.inr ⟨by simp, by simp, rfl⟩)

/-- The texts for different names without dashes share a name exactly if one can be mistaken for the
    other. -/
theorem nameOf_rootText_eq_iff (hnames : ∀ n ∈ names, isName n = true)
    (hmore : ∀ n ∈ more, isName n = true) (hdash : ∀ n ∈ names, '-' ∉ n.toList)
    (hdash' : ∀ n ∈ more, '-' ∉ n.toList) (hne : names ≠ more) :
    nameOf defaultGroupingDirs (rootText names) = nameOf defaultGroupingDirs (rootText more) ↔
      Mistakable (rootText names) (rootText more) ∨ Mistakable (rootText more) (rootText names) := by
  rw [nameOf_eq_iff_shownSteps_eq _ hnames hmore hdash hdash', mistakable_rootText_iff hnames hmore,
    mistakable_rootText_iff hmore hnames]
  constructor
  · intro h
    rcases shownSteps_default_cases names with ⟨rfl, hshown⟩ | ⟨name, rfl, hshown⟩ |
        ⟨-, -, hshown⟩ <;>
      rcases shownSteps_default_cases more with ⟨rfl, hshown'⟩ | ⟨name', rfl, hshown'⟩ |
        ⟨-, -, hshown'⟩ <;>
      simp only [hshown, hshown'] at h
    -- the first root is the workspace
    · exact absurd rfl hne
    · obtain rfl := (List.cons.inj h).1
      exact Or.inl (Or.inl ⟨rfl, Or.inr rfl⟩)
    · exact Or.inl (Or.inl ⟨rfl, Or.inl h.symm⟩)
    -- the first root is right below the grouping folder
    · obtain rfl := (List.cons.inj h).1
      exact Or.inr (Or.inl ⟨rfl, Or.inr rfl⟩)
    · exact absurd (congrArg (List.cons "examples") h) hne
    · exact Or.inr (Or.inr ⟨name, h.symm, rfl⟩)
    -- the first root is shown as it is
    · exact Or.inr (Or.inl ⟨rfl, Or.inl h⟩)
    · exact Or.inl (Or.inr ⟨name', h, rfl⟩)
    · exact absurd h hne
  · rintro ((⟨rfl, rfl | rfl⟩ | ⟨name, rfl, rfl⟩) | (⟨rfl, rfl | rfl⟩ | ⟨name, rfl, rfl⟩))
    all_goals rfl

/-- Different roots without dashes, both within the workspace and in normal form, share a name exactly
    if one can be mistaken for the other. -/
theorem nameOf_eq_iff_mistakable {root other : String} (hroot : Path.IsInside root)
    (hother : Path.IsInside other) (hdash : '-' ∉ root.toList) (hdash' : '-' ∉ other.toList)
    (hne : root ≠ other) :
    nameOf defaultGroupingDirs root = nameOf defaultGroupingDirs other ↔
      Mistakable root other ∨ Mistakable other root := by
  have hdashes : ∀ {names : List String}, (∀ n ∈ names, isName n = true) →
      '-' ∉ (rootText names).toList → ∀ n ∈ names, '-' ∉ n.toList := by
    intro names hnames hdash n hn hmem
    refine hdash (Path.mem_of_mem_steps ?_ hmem)
    rw [Path.steps_rootText hnames]
    exact List.mem_map_of_mem hn
  obtain ⟨names, hnames, rfl⟩ := Path.exists_names_of_isInside hroot
  obtain ⟨more, hmore, rfl⟩ := Path.exists_names_of_isInside hother
  exact nameOf_rootText_eq_iff hnames hmore (hdashes hnames hdash) (hdashes hmore hdash')
    fun heq => hne (congrArg rootText heq)

end Project

end MakeAtlas
