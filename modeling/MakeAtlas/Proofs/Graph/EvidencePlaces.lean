import MakeAtlas.Proofs.Graph.Validity
import MakeAtlas.Proofs.Path.DownPaths
import MakeAtlas.Proofs.Resolution.OutsidePaths

/-!
# Where the files lie that show dependencies

A file may show a dependency if its path belongs to the root of the source. Whether it does is seen
from how the path is written, except for the workspace itself: the path has to begin with the root
and a slash, and what comes behind is not looked at. So the check is right about tidy paths, and
about all that goes down behind the root; it is wrong about a path that leaves the root again, and
about one below the root that begins in another way.

## Key results

- `isWithin_resolve_append`, `belongsTo_append`: what goes down behind a root is in the root's
  folder and belongs to the root
- `belongsTo_of_isAnchored`: absolute paths belong to the workspace, and to no other root
- `checksPlaces_of_isTidy`: which files the check is right about, and what that means for
  dependencies
- `foreign_evidence_accepted`: a file outside of a project that shows a dependency of the project
-/

namespace MakeAtlas

namespace Path

variable {location root path : String}

/-! ## Behind a root -/

/-- A path behind a root, with forward slashes. -/
private theorem forward_append_slash (root path : String) :
    forward (root ++ "/" ++ path).toList = forward root.toList ++ '/' :: forward path.toList := by
  have happend : ∀ first second : List Char,
      forward (first ++ second) = forward first ++ forward second :=
    fun _ _ => List.map_append
  rw [String.toList_append, String.toList_append, happend, happend, List.append_assoc]
  rfl

/-- A root in normal form is not empty. -/
private theorem ne_empty_of_isTidy (h : IsTidy root) : root ≠ "" := by
  rintro rfl
  exact absurd h.normal (by decide)

/-- What goes down behind a root does so as a whole. -/
theorem goesDown_append (hroot : IsTidy root) (hpath : GoesDown path) :
    GoesDown (root ++ "/" ++ path) := by
  have hne := mt String.toList_eq_nil_iff.1 (ne_empty_of_isTidy hroot)
  obtain ⟨c, cs, hcs⟩ := List.exists_cons_of_ne_nil hne
  constructor
  · -- the root has a first character, which tells whether the whole is relative
    have hrelative := hroot.relative
    rw [forward_append_slash, hcs] at *
    exact hrelative
  · rw [forward_append_slash, steps_append_slash, collapse_append_straight false _ hpath.no_up,
      List.mem_append, not_or]
    exact ⟨hroot.no_up, hpath.no_up⟩

/-- What goes down behind a root is in the root's folder. -/
theorem isWithin_resolve_append (absolute : isAnchored location.toList = true)
    (hroot : IsTidy root) (hpath : GoesDown path) :
    isWithin (resolve location (root ++ "/" ++ path)) (resolve location root) = true := by
  have hboth := goesDown_append hroot hpath
  -- the steps of the one place are those of the other, and then the path's
  rw [isWithin_iff_isAbove (isSettled_resolve absolute _) (isSettled_resolve absolute _), IsAbove,
    segments, segments, anchor_resolve_of_relative hboth.relative,
    anchor_resolve_of_relative hroot.relative, steps_resolve_of_relative absolute hboth.relative,
    steps_resolve_of_relative absolute hroot.relative, forward_append_slash, steps_append_slash,
    ← List.append_assoc, collapse_append_straight true _ hpath.no_up, ← List.append_assoc]
  exact List.prefix_append _ _

/-- What does not climb belongs to the workspace. -/
theorem belongsTo_workspace (path : String) : belongsTo path "." = !climbs path :=
  if_pos rfl

/-- What goes down behind a root belongs to it. -/
theorem belongsTo_append (hroot : IsTidy root) (hpath : GoesDown path) :
    belongsTo (root ++ "/" ++ path) root = true := by
  have hclimbs := climbs_of_goesDown (goesDown_append hroot hpath)
  obtain ⟨names, hnames, rfl⟩ := hroot.exists_names
  by_cases hnil : names = []
  · subst hnil
    rw [rootText_nil] at hclimbs ⊢
    rw [belongsTo_workspace, hclimbs]
    rfl
  · rw [belongsTo_iff_of_ne_nil hnames hnil, rootText_of_ne_nil hnil, String.toList_append,
      String.toList_append]
    exact Or.inr (List.prefix_append _ _)

/-- What belongs to a root other than the workspace is relative, as the root is. -/
private theorem relative_of_belongsTo (hroot : IsTidy root) (hne : root ≠ ".")
    (h : belongsTo path root = true) : isAnchored (forward path.toList) = false := by
  have hrelative := hroot.relative
  obtain ⟨names, hnames, rfl⟩ := hroot.exists_names
  have hnil : names ≠ [] := by
    rintro rfl
    exact hne rfl
  rw [belongsTo_iff_of_ne_nil hnames hnil] at h
  rw [rootText_of_ne_nil hnil] at hrelative
  rcases h with rfl | ⟨rest, hrest⟩
  · exact hrelative
  · -- the first characters are those of the root
    obtain ⟨c, cs, hcs⟩ := List.exists_cons_of_ne_nil (toList_joined_ne_nil hnames hnil)
    rw [← hrest]
    rw [hcs] at hrelative ⊢
    exact hrelative

/-- An absolute path belongs to the workspace, wherever it leads, and to no other root. -/
theorem belongsTo_of_isAnchored (hroot : IsTidy root)
    (hpath : isAnchored (forward path.toList) = true) :
    belongsTo path root = true ↔ root = "." := by
  constructor
  · intro h
    by_contra hne
    rw [relative_of_belongsTo hroot hne h] at hpath
    cases hpath
  · rintro rfl
    rw [belongsTo_workspace, Bool.not_eq_true', ← Bool.not_eq_true]
    intro hclimbs
    rw [isAnchored_of_climbs hclimbs] at hpath
    cases hpath

/-! ## Right and wrong answers -/

/-- It is rightly told whether a path belongs to a root: it does exactly if the place of the path is
    in the root's folder. -/
def RightlyTold (location root path : String) : Prop :=
  belongsTo path root = true ↔ isWithin (resolve location path) (resolve location root) = true

/-- Of a path that goes down it is rightly told exactly if it is told the same of the path and of
    its normal form. -/
theorem rightlyTold_iff (absolute : isAnchored location.toList = true) (hroot : IsTidy root)
    (hpath : GoesDown path) :
    RightlyTold location root path ↔ belongsTo path root = belongsTo (normalize path) root := by
  have hplace := belongsTo_normalize_iff_isWithin absolute hpath hroot.toGoesDown
  rw [hroot.normal] at hplace
  rw [RightlyTold, ← hplace]
  exact Bool.eq_iff_iff.symm

/-- What climbs out of the workspace is seen from the normal form. -/
theorem belongsTo_normalize_workspace (path : String) :
    belongsTo (normalize path) "." = belongsTo path "." := by
  rw [belongsTo_workspace, belongsTo_workspace, climbs, climbs, normalize_normalize]

/-- Of the relative paths that go up, only the parent folder belongs to the workspace. -/
theorem belongsTo_workspace_of_up (hrelative : isAnchored (forward path.toList) = false)
    (hup : ¬ GoesDown path) : belongsTo path "." = true ↔ normalize path = ".." := by
  have hfirst : firstPiece? path = some up := by
    rw [firstPiece?_eq_up_iff hrelative]
    by_contra hno
    exact hup ⟨hrelative, hno⟩
  have hclimbs : climbs path = true ↔ normalize path ≠ ".." := by
    rw [climbs_iff_firstPiece?]
    exact and_iff_right hfirst
  rw [belongsTo_workspace, Bool.not_eq_true', ← Bool.not_eq_true, hclimbs, not_not]

end Path

namespace Graph

open MakeAtlas.Path (GoesDown IsTidy RightlyTold belongsTo isAnchored isWithin normalize resolve)

/-- What the check of a path against a root tells of the places that the two name. -/
structure ChecksPlaces (location root : String) : Prop where
  /-- It is right about tidy paths, -/
  tidy : ∀ path, IsTidy path → RightlyTold location root path
  /-- and, for the workspace itself, about all paths that go down. -/
  workspace : root = "." → ∀ path, GoesDown path → RightlyTold location root path
  /-- In general, it is right about a path that goes down exactly if it tells the same of the path's
  normal form. -/
  goesDown : ∀ path, GoesDown path →
    (RightlyTold location root path ↔ belongsTo path root = belongsTo (normalize path) root)
  /-- What goes down behind the root belongs to it, and is in its folder. -/
  behind : ∀ path, GoesDown path → belongsTo (root ++ "/" ++ path) root = true ∧
    isWithin (resolve location (root ++ "/" ++ path)) (resolve location root) = true
  /-- Of the relative paths that go up, only the parent folder belongs to the workspace. -/
  goesUp : root = "." → ∀ path, isAnchored (Path.forward path.toList) = false → ¬ GoesDown path →
    (belongsTo path root = true ↔ normalize path = "..")
  /-- Absolute paths belong to the workspace, and to no other root. -/
  anchored : ∀ path, isAnchored (Path.forward path.toList) = true →
    (belongsTo path root = true ↔ root = ".")
  /-- A dependency of a project at the root on another one, shown by a tidy path, is valid exactly
  if the file is in the root's folder. -/
  valid_iff : ∀ (projects : Table Project) (d : Dependency) (source : Project),
    projects.get? d.source = some source → source.root = root → projects.has d.target = true →
    d.evidenceFile.isEmpty = false → IsTidy d.evidenceFile →
    (d.invalidity projects = none ↔
      isWithin (resolve location d.evidenceFile) (resolve location root) = true)
  /-- So of the dependencies shown by tidy paths, a graph accepts only those whose file is there. -/
  accepted : ∀ (g : Graph) (d : Dependency) (source : Project),
    g.projects.get? d.source = some source → source.root = root → g.accepts d = true →
    IsTidy d.evidenceFile →
    isWithin (resolve location d.evidenceFile) (resolve location root) = true

/-- In an absolute workspace, whether a path belongs to a tidy root is rightly told of tidy paths,
    and of a path that goes down with detours if the detours do not matter; files with tidy paths
    show dependencies only of projects that they lie in. -/
theorem checksPlaces_of_isTidy (location root : String)
    (absolute : isAnchored location.toList = true) (hroot : IsTidy root) :
    ChecksPlaces location root := by
  have htidy : ∀ path, IsTidy path → RightlyTold location root path := by
    intro path hpath
    rw [Path.rightlyTold_iff absolute hroot hpath.toGoesDown, hpath.normal]
  have hvalid : ∀ (projects : Table Project) (d : Dependency) (source : Project),
      projects.get? d.source = some source → source.root = root → projects.has d.target = true →
      d.evidenceFile.isEmpty = false → IsTidy d.evidenceFile →
      (d.invalidity projects = none ↔
        isWithin (resolve location d.evidenceFile) (resolve location root) = true) := by
    intro projects d source hsource hat htarget hnamed hfile
    have htold : belongsTo d.evidenceFile root = true ↔
        isWithin (resolve location d.evidenceFile) (resolve location root) = true :=
      htidy d.evidenceFile hfile
    rw [← htold, Dependency.invalidity_of_known hsource htarget hnamed, hat]
    cases belongsTo d.evidenceFile root <;> simp
  exact {
    tidy := htidy
    workspace := by
      rintro rfl path hpath
      rw [Path.rightlyTold_iff absolute hroot hpath, Path.belongsTo_normalize_workspace]
    goesDown := fun path hpath => Path.rightlyTold_iff absolute hroot hpath
    behind := fun path hpath =>
      ⟨Path.belongsTo_append hroot hpath, Path.isWithin_resolve_append absolute hroot hpath⟩
    goesUp := by
      rintro rfl path hrelative hup
      exact Path.belongsTo_workspace_of_up hrelative hup
    anchored := fun path hpath => Path.belongsTo_of_isAnchored hroot hpath
    valid_iff := hvalid
    accepted := by
      intro g d source hsource hat haccepts hfile
      have hnone := (accepts_iff.1 haccepts).1
      obtain ⟨_, _, htarget, hnamed, _⟩ := Dependency.invalidity_eq_none_iff.1 hnone
      exact (hvalid g.projects d source hsource hat htarget hnamed hfile).1 hnone }

/-- A library and a program beside it. -/
def neighbours : List Change :=
  [.node { root := "lib", name := "lib", makefile := "lib/Makefile" },
    .node { root := "app", name := "app", makefile := "app/Makefile" }]

/-- A file of the program shows that it uses the library. -/
theorem checksPlaces_of_isTidy_neighbours :
    isAnchored "/w".toList = true ∧ IsTidy "app" ∧
      (after none neighbours).projects.get? usesLibrary.source = some ⟨"app", "app"⟩ ∧
      (after none neighbours).accepts usesLibrary = true ∧ IsTidy usesLibrary.evidenceFile ∧
      isWithin (resolve "/w" usesLibrary.evidenceFile) (resolve "/w" "app") = true := by
  have habsolute : isAnchored "/w".toList = true := by decide
  have hroot : IsTidy "app" := ⟨⟨by decide, by decide⟩, by decide⟩
  have hsource :
      (after none neighbours).projects.get? usesLibrary.source = some ⟨"app", "app"⟩ := by decide
  have haccepts : (after none neighbours).accepts usesLibrary = true := by decide +kernel
  have hfile : IsTidy usesLibrary.evidenceFile := ⟨⟨by decide, by decide⟩, by decide⟩
  have hchecks := checksPlaces_of_isTidy "/w" "app" habsolute hroot
  exact ⟨habsolute, hroot, hsource, haccepts, hfile,
    hchecks.accepted _ _ _ hsource rfl haccepts hfile⟩

/-- The program's use of the library, shown by a file of the library whose path begins with the
    program's root. -/
def shownByLibrary : Dependency :=
  { usesLibrary with evidence := "app/../lib/x.c" }

/-- The library's file is accepted for the program, though it is not in the program's folder. A file
    that is there is refused if its path begins with the step that stays where it is. -/
theorem foreign_evidence_accepted :
    IsTidy "app" ∧ belongsTo "app/../lib/x.c" "app" = true ∧
      isWithin (resolve "/w" "app/../lib/x.c") (resolve "/w" "app") = false ∧
      shownByLibrary.invalidity (after none neighbours).projects = none ∧
      (after none neighbours).accepts shownByLibrary = true ∧
      belongsTo "./app/main.c" "app" = false ∧
      isWithin (resolve "/w" "./app/main.c") (resolve "/w" "app") = true :=
  ⟨⟨⟨by decide, by decide⟩, by decide⟩, by decide, by decide, by decide +kernel, by decide +kernel,
    by decide, by decide⟩

end Graph

end MakeAtlas
