import MakeAtlas.Proofs.Evidence.References
import MakeAtlas.Proofs.Path.EarlyNormalForms
import MakeAtlas.Proofs.Resolution.NearestRoot

/-!
# Paths that lead out of a project

A relative path that leads out of a project's folder has a normal form that begins with `..`. Such a
path is a candidate for a dependency, with one exception: the parent folder itself, whose normal
form is `..` and has no slash in it. Every mention of the parent folder is dropped without a trace.

## Key results

- `climbs_iff_firstPiece?`: which paths are taken to climb
- `firstPiece?_eq_up_iff`: the first piece of a normal form is `..` if any is left
- `isAbove_resolve`: a path of which none is left stays below its folder
- `outside_unless_parent`: what becomes of the paths that lead out of a project
- `parent_dropped`: the parent folder is not looked up
-/

namespace MakeAtlas.Path

open MakeAtlas.Text (hasPrefix)

/-! ## Normal forms that begin with a step up -/

/-- The first piece of a path's normal form, between slashes. -/
def firstPiece? (path : String) : Option (List Char) :=
  ((normalize path).toList.splitOn '/').head?

/-- A text begins with a step up and a slash exactly if the first piece between its slashes is a
    step up, and not all of it. -/
private theorem hasPrefix_up_iff (text : List Char) :
    hasPrefix ['.', '.', '/'] text = true ↔ (text.splitOn '/').head? = some up ∧ text ≠ up := by
  have hslash : '/' ∉ up := by decide
  have halone : ∀ {piece : List Char}, '/' ∉ piece → piece.splitOn '/' = [piece] := by
    intro piece h
    have hsingle := splitOn_joinSteps (List.forall_mem_singleton.2 h) (List.cons_ne_nil piece [])
    exact hsingle
  rw [hasPrefix, List.isPrefixOf_iff_prefix]
  constructor
  · rintro ⟨rest, rfl⟩
    have hsplit : (up ++ '/' :: rest).splitOn '/' = [up] ++ rest.splitOn '/' := by
      rw [List.splitOn_append_cons_self, halone hslash]
    refine ⟨congrArg List.head? hsplit, fun heq => ?_⟩
    cases heq
  · rintro ⟨hfirst, hne⟩
    by_cases hmem : '/' ∈ text
    · obtain ⟨first, rest, rfl, hnot⟩ := List.eq_append_cons_of_mem hmem
      rw [List.splitOn_append_cons_self, halone hnot] at hfirst
      cases hfirst
      exact ⟨rest, rfl⟩
    · -- the text is its only piece
      rw [halone hmem] at hfirst
      cases hfirst
      exact absurd rfl hne

/-- A path is taken to climb exactly if the first piece of its normal form is a step up and not all
    of it. -/
theorem climbs_iff_firstPiece? (path : String) :
    climbs path = true ↔ firstPiece? path = some up ∧ normalize path ≠ ".." := by
  have htext : (normalize path).toList ≠ "..".toList ↔ normalize path ≠ ".." :=
    not_congr String.toList_inj
  rw [climbs, hasPrefix_up_iff, firstPiece?, ← htext]
  rfl

/-- The first piece of a relative path's normal form is a step up as soon as any step up is left. -/
theorem firstPiece?_eq_up_iff {path : String} (h : isAnchored (forward path.toList) = false) :
    firstPiece? path = some up ↔ up ∈ collapse false (steps (forward path.toList)) := by
  rw [firstPiece?, splitOn_normalize h]
  split
  · next hnone =>
    -- the path stays where it is
    rw [hnone]
    decide
  · obtain ⟨n, down, hclimb, hdown⟩ := exists_climb_then_down (steps (forward path.toList))
    rw [hclimb]
    cases n with
    | zero => exact ⟨List.mem_of_mem_head?, fun hmem => absurd hmem hdown⟩
    | succ n => simp [List.replicate_succ]

/-! ## Places below a folder -/

/-- A relative path of which no step up is left stays below the folder that it is seen from. -/
theorem isAbove_resolve {folder path : String} (absolute : isAnchored folder.toList = true)
    (resolved : up ∉ steps folder.toList) (h : isAnchored (forward path.toList) = false)
    (hdown : up ∉ collapse false (steps (forward path.toList))) :
    IsAbove folder (resolve folder path) := by
  have hsteps : steps (resolve folder path).toList =
      steps folder.toList ++ collapse false (steps (forward path.toList)) := by
    rw [steps_resolve_of_relative absolute h, collapse_append_straight true _ hdown,
      collapse_eq_self true resolved]
  rw [IsAbove, segments, segments, hsteps, anchor_resolve_of_relative h, ← List.append_assoc]
  exact List.prefix_append _ _

end MakeAtlas.Path

namespace MakeAtlas.Atlas

open MakeAtlas.RootIndex (IsNearest namesAt rootAt)

/-! ## What becomes of paths that lead out -/

/-- A path is a candidate exactly if it is taken to climb. -/
theorem outcome_ne_notCandidate_iff {atlas : Atlas} {source : Project} {path evidence : String}
    {line : Option Int} :
    atlas.outcome source path evidence line ≠ .notCandidate ↔ Path.climbs path = true := by
  constructor
  · intro h
    by_contra hstays
    exact h (if_neg hstays)
  · intro hclimbs h
    have hleads := atlas.leads_outcome source path evidence line
    rw [h] at hleads
    cases hleads with
    | stays hstays => exact hstays hclimbs

/-- A path leads out of a project: it is relative, backslashes counting as slashes, and the place
that it names, seen from the project's folder, is not below the folder. -/
structure LeadsOut (location : String) (source : Project) (path : String) : Prop where
  relative : Path.isAnchored (Path.forward path.toList) = false
  outside : ¬ Path.IsAbove (rootAt location source.root)
    (Path.resolve (rootAt location source.root) path)

section LeadsOut

variable {location : String} {source : Project} {path : String}

/-- The normal form of a path that leads out begins with a step up. -/
theorem LeadsOut.firstPiece?_eq (absolute : Path.isAnchored location.toList = true)
    (h : LeadsOut location source path) : Path.firstPiece? path = some Path.up := by
  have hroot : Path.isAnchored (rootAt location source.root).toList = true :=
    (Path.isSettled_resolve absolute _).isAnchored
  -- all steps up of a root are resolved
  have hresolved : Path.up ∉ Path.steps (rootAt location source.root).toList :=
    Path.up_not_mem_steps_resolve absolute _
  rw [Path.firstPiece?_eq_up_iff h.relative]
  -- a path of which no step up is left would stay below the folder
  by_contra hdown
  exact h.outside (Path.isAbove_resolve hroot hresolved h.relative hdown)

/-- A path that leads out is taken to climb, unless it is the parent folder. -/
theorem LeadsOut.climbs_iff (absolute : Path.isAnchored location.toList = true)
    (h : LeadsOut location source path) :
    Path.climbs path = true ↔ Path.normalize path ≠ ".." := by
  rw [Path.climbs_iff_firstPiece?]
  exact and_iff_right (h.firstPiece?_eq absolute)

end LeadsOut

/-- What becomes of the paths that lead out of a project. -/
structure LooksOutside (location : String) (projects : Table Project) (source : Project)
    (text : String) : Prop where
  /-- A path is taken to climb if its normal form begins with `..` and is not `..`. -/
  climbs_iff : ∀ path, Path.climbs path = true ↔
    Path.firstPiece? path = some Path.up ∧ Path.normalize path ≠ ".."
  /-- The normal form of every path that leads out begins with `..`. -/
  begins_up : ∀ path, LeadsOut location source path → Path.firstPiece? path = some Path.up
  /-- What the project's Makefile mentions of these paths is a reference, unless it is the parent
  folder. -/
  reference_iff : ∀ path number, Evidence.Mentions text path number →
    LeadsOut location source path → ∀ file,
      (⟨path, file, some number⟩ ∈ Evidence.makefileReferences file text ↔
        Path.normalize path ≠ "..")
  /-- Each of these paths is a candidate, unless it is the parent folder. -/
  candidate_iff : ∀ path, LeadsOut location source path → ∀ evidence line,
    ((Atlas.ofProjects location projects).outcome source path evidence line ≠ .notCandidate ↔
      Path.normalize path ≠ "..")

/-- In an absolute workspace, whatever the projects and their Makefiles are: every path that leads
    out of its project is looked up, except those that name the parent folder. -/
theorem outside_unless_parent (location : String) (projects : Table Project) (source : Project)
    (text : String) (absolute : Path.isAnchored location.toList = true) :
    LooksOutside location projects source text where
  climbs_iff := Path.climbs_iff_firstPiece?
  begins_up _ h := h.firstPiece?_eq absolute
  reference_iff := by
    intro path number hmentions h file
    rw [Evidence.mem_makefileReferences_iff, ← h.climbs_iff absolute]
    exact and_iff_left ⟨rfl, number, rfl, hmentions⟩
  candidate_iff _ h _ _ := outcome_ne_notCandidate_iff.trans (h.climbs_iff absolute)

/-- A project in the folder of another one. -/
def innerProject : Table Project :=
  [("lib", ⟨"lib", "lib"⟩), ("app", ⟨"app", "lib/app"⟩)]

/-- A Makefile that looks for headers in the folder beside its own, and in the one above. -/
def searching : String := "CFLAGS = -Isrc/../../inc -I..\n"

/-- The folder beside the project's own is a reference, and looked up. -/
theorem outside_unless_parent_beside :
    Path.isAnchored "/w".toList = true ∧
      LeadsOut "/w" ⟨"app", "lib/app"⟩ "src/../../inc" ∧
      ⟨"src/../../inc", "lib/app/Makefile", some 1⟩ ∈
        Evidence.makefileReferences "lib/app/Makefile" searching ∧
      (Atlas.ofProjects "/w" innerProject).outcome ⟨"app", "lib/app"⟩ "src/../../inc"
        "lib/app/Makefile" (some 1) ≠ .notCandidate := by
  have habsolute : Path.isAnchored "/w".toList = true := by decide
  have hleads : LeadsOut "/w" ⟨"app", "lib/app"⟩ "src/../../inc" := ⟨by decide, by decide⟩
  have hflag : (⟨"src/../../inc", 1⟩ : Makefile.Flag) ∈ Makefile.flags searching := by
    decide +kernel
  have hother : Path.normalize "src/../../inc" ≠ ".." := by decide
  have hlooks := outside_unless_parent "/w" innerProject ⟨"app", "lib/app"⟩ searching habsolute
  exact ⟨habsolute, hleads, (hlooks.reference_iff _ 1 (Or.inl hflag) hleads _).2 hother,
    (hlooks.candidate_iff _ hleads _ _).2 hother⟩

/-- The folder above leads out of the project, into another one; it is no reference, and would not
    be looked up. -/
theorem parent_dropped :
    Path.climbs ".." = false ∧ Path.firstPiece? ".." = some Path.up ∧
      LeadsOut "/w" ⟨"app", "lib/app"⟩ ".." ∧
      (⟨"..", 1⟩ : Makefile.Flag) ∈ Makefile.flags searching ∧
      (RootIndex.ofProjects "/w" innerProject.values).owners (Path.resolve "/w/lib/app" "..") =
        ["lib"] ∧
      Evidence.makefileReferences "lib/app/Makefile" searching =
        [⟨"src/../../inc", "lib/app/Makefile", some 1⟩] ∧
      (Atlas.ofProjects "/w" innerProject).outcome ⟨"app", "lib/app"⟩ ".." "lib/app/Makefile"
        (some 1) = .notCandidate := by
  have hnearest : IsNearest "/w" innerProject.values "/w/lib" (Path.resolve "/w/lib/app" "..") := by
    decide
  have howners := RootIndex.owners_eq_namesAt (by decide) (Path.isSettled_resolve (by decide) "..")
    hnearest
  have hnames : namesAt "/w" innerProject.values "/w/lib" = ["lib"] := by decide
  rw [hnames] at howners
  refine ⟨by decide, by decide, ⟨by decide, by decide⟩, by decide +kernel, howners,
    by decide +kernel, ?_⟩
  rw [outcome, if_neg (by decide)]

end MakeAtlas.Atlas
