import MakeAtlas.Proofs.Path.DownPaths
import MakeAtlas.Proofs.Resolution.OutsidePaths
import Mathlib.Data.List.Nodup

/-!
# Paths that stay in a project's folder

A path that goes down names a place in its project's folder, and is no candidate for a dependency.
Roots may lie inside one another, so the place need not be the project's own: it belongs to the
projects at the deepest root on the way down to it. A dependency on a project in the folder of
another one is never drawn from such a path; one on a project outside of the folder is never lost.

## Key results

- `isAbove_of_isNearest`: the nearest root above a place in a project's folder is in the folder
- `namesAt_of_between`: a project that is alone on the way down is the only one at the nearest root
- `between_of_namesAt`: and only then, where names are distinct
- `owned_within_folder`: who owns the place that such a path names
- `inner_project_not_looked_up`: the place may belong to another project
-/

namespace MakeAtlas

namespace RootIndex

open MakeAtlas.Path (IsAbove)

/-! ## Projects on the way down -/

/-- The projects on the way from a folder down to a path: their roots are in the folder, and at or
    above the path. -/
def between (location : String) (projects : List Project) (folder path : String) : List Project :=
  projects.filter fun p =>
    IsAbove folder (rootAt location p.root) ∧ IsAbove (rootAt location p.root) path

variable {location : String} {projects : List Project} {folder path root : String}

/-- Where the folder is itself a root, the nearest root above a path in it is in the folder. -/
theorem isAbove_of_isNearest (hroot : IsRoot location projects folder)
    (habove : IsAbove folder path) (hnearest : IsNearest location projects root path) :
    IsAbove folder root :=
  List.prefix_of_prefix_length_le habove hnearest.isAbove (hnearest.most folder hroot habove)

section Nearest

variable (hroot : IsRoot location projects folder) (habove : IsAbove folder path)
  (hnearest : IsNearest location projects root path)

include hroot habove hnearest

/-- The projects at the nearest root are on the way down. -/
private theorem filter_root_eq :
    (projects.filter fun p => rootAt location p.root == root) =
      (between location projects folder path).filter fun p => rootAt location p.root == root := by
  have hfolder := isAbove_of_isNearest hroot habove hnearest
  rw [between, List.filter_filter]
  refine List.filter_congr fun p _ => ?_
  by_cases hp : rootAt location p.root = root
  · simp [hp, hfolder, hnearest.isAbove]
  · simp [hp]

/-- A project that is alone on the way down is the only one at the nearest root. -/
theorem namesAt_of_between {source : Project}
    (h : between location projects folder path = [source]) :
    namesAt location projects root = [source.name] := by
  have hsome := namesAt_ne_nil hnearest.isRoot
  rw [namesAt, filter_root_eq hroot habove hnearest, h, List.filter_singleton] at hsome ⊢
  cases hat : rootAt location source.root == root with
  | true => rfl
  | false =>
    -- some project is at the nearest root
    rw [hat] at hsome
    exact absurd rfl hsome

end Nearest

/-- Where names are distinct, a project whose name is the only one at the nearest root is alone on
    the way down from its root. -/
theorem between_of_namesAt (absolute : Path.isAnchored location.toList = true)
    (distinct : (projects.map Project.name).Nodup) {source : Project} (hsource : source ∈ projects)
    (hnearest : IsNearest location projects root path)
    (h : namesAt location projects root = [source.name]) :
    between location projects (rootAt location source.root) path = [source] := by
  obtain ⟨p, hp, hname⟩ := List.map_eq_singleton_iff.1 h
  have hmem : p ∈ projects ∧ (rootAt location p.root == root) = true :=
    List.mem_filter.1 (hp ▸ List.mem_cons_self)
  -- the only project at the nearest root is the source, whose root is then the nearest one
  obtain rfl : p = source := List.inj_on_of_nodup_map distinct hmem.1 hsource hname
  have hat : rootAt location p.root = root := beq_iff_eq.1 hmem.2
  rw [← hp, hat]
  refine List.filter_congr fun q hq => ?_
  rw [Bool.eq_iff_iff, decide_eq_true_iff, beq_iff_eq]
  constructor
  · -- a root between the nearest one and the path is no longer than the nearest one
    rintro ⟨hbelow, hqabove⟩
    have hqroot : IsRoot location projects (rootAt location q.root) := ⟨q, hq, rfl⟩
    have hsame : Path.segments root = Path.segments (rootAt location q.root) :=
      hbelow.eq_of_length_le (hnearest.most _ hqroot hqabove)
    exact (isSettled_of_isRoot absolute hqroot).eq_of_segments_eq
      (isSettled_of_isRoot absolute hnearest.isRoot) hsame
  · intro hqat
    rw [hqat]
    exact ⟨List.prefix_refl _, hnearest.isAbove⟩

end RootIndex

namespace Atlas

open MakeAtlas.Path (IsAbove)
open MakeAtlas.RootIndex (IsRoot IsNearest namesAt rootAt between)

/-! ## Who owns the place -/

/-- Who owns a place in the folder of a project, whose path is no candidate. -/
structure OwnedWithin (location : String) (projects : Table Project) (source : Project)
    (candidate place : String) : Prop where
  /-- The path is no candidate, whoever owns the place. -/
  notCandidate : ∀ evidence line,
    (Atlas.ofProjects location projects).outcome source candidate evidence line = .notCandidate
  /-- The owners are the projects at one root, the nearest above the place, which is in the
  folder. -/
  owners : ∃ root, IsNearest location projects.values root place ∧
    IsAbove (rootAt location source.root) root ∧
    (RootIndex.ofProjects location projects.values).owners place =
      namesAt location projects.values root
  /-- The project is the only owner if no other one is on the way down, -/
  alone : between location projects.values (rootAt location source.root) place = [source] →
    (RootIndex.ofProjects location projects.values).owners place = [source.name]
  /-- and only then, where no two projects share a name. -/
  alone_iff : (projects.values.map Project.name).Nodup →
    ((RootIndex.ofProjects location projects.values).owners place = [source.name] ↔
      between location projects.values (rootAt location source.root) place = [source])

/-- In an absolute workspace, whatever the projects are and however their roots are nested: the
    place of a path that goes down belongs to projects in the folder of the path's own project, and
    the path is no candidate. -/
theorem owned_within_folder (location : String) (projects : Table Project) (source : Project)
    (candidate : String) (absolute : Path.isAnchored location.toList = true)
    (known : source ∈ projects.values) (down : Path.GoesDown candidate) :
    OwnedWithin location projects source candidate
      ((Atlas.ofProjects location projects).target source candidate) := by
  have htarget : (Atlas.ofProjects location projects).target source candidate =
      Path.resolve (rootAt location source.root) candidate :=
    Path.resolve_normalize down.relative _
  have hfolder : Path.isAnchored (rootAt location source.root).toList = true :=
    (Path.isSettled_resolve absolute _).isAnchored
  have hresolved : Path.up ∉ Path.steps (rootAt location source.root).toList :=
    Path.up_not_mem_steps_resolve absolute _
  have habove := Path.isAbove_resolve hfolder hresolved down.relative down.no_up
  have settled := Path.isSettled_resolve hfolder candidate
  have hroot : IsRoot location projects.values (rootAt location source.root) := ⟨source, known, rfl⟩
  obtain ⟨root, hnearest⟩ := RootIndex.exists_isNearest absolute settled hroot habove
  have howners := RootIndex.owners_eq_namesAt absolute settled hnearest
  rw [htarget]
  exact {
    notCandidate := by
      intro evidence line
      by_contra hcandidate
      have hclimbs := outcome_ne_notCandidate_iff.1 hcandidate
      rw [Path.climbs_of_goesDown down] at hclimbs
      cases hclimbs
    owners := ⟨root, hnearest, RootIndex.isAbove_of_isNearest hroot habove hnearest, howners⟩
    alone := fun halone => howners.trans (RootIndex.namesAt_of_between hroot habove hnearest halone)
    alone_iff := by
      intro distinct
      rw [howners]
      constructor
      · exact RootIndex.between_of_namesAt absolute distinct known hnearest
      · exact RootIndex.namesAt_of_between hroot habove hnearest }

/-- A path in the folder of the inner project belongs to that project alone. -/
theorem owned_within_folder_inner :
    Path.isAnchored "/w".toList = true ∧ ⟨"app", "lib/app"⟩ ∈ innerProject.values ∧
      Path.GoesDown "src/../x.h" ∧
      (RootIndex.ofProjects "/w" innerProject.values).owners
          ((Atlas.ofProjects "/w" innerProject).target ⟨"app", "lib/app"⟩ "src/../x.h") =
        ["app"] := by
  have hknown : (⟨"app", "lib/app"⟩ : Project) ∈ innerProject.values := by decide
  have hdown : Path.GoesDown "src/../x.h" := ⟨by decide, by decide⟩
  have howned := owned_within_folder "/w" innerProject ⟨"app", "lib/app"⟩ "src/../x.h"
    (by decide) hknown hdown
  exact ⟨by decide, hknown, hdown, howned.alone (by decide)⟩

/-- A path in the folder of the outer project belongs to the inner one, and is not looked up. -/
theorem inner_project_not_looked_up :
    ⟨"lib", "lib"⟩ ∈ innerProject.values ∧ Path.GoesDown "app/x.h" ∧
      (RootIndex.ofProjects "/w" innerProject.values).owners
        ((Atlas.ofProjects "/w" innerProject).target ⟨"lib", "lib"⟩ "app/x.h") = ["app"] ∧
      (Atlas.ofProjects "/w" innerProject).outcome ⟨"lib", "lib"⟩ "app/x.h" "lib/Makefile"
        (some 1) = .notCandidate := by
  have hnearest : IsNearest "/w" innerProject.values "/w/lib/app"
      ((Atlas.ofProjects "/w" innerProject).target ⟨"lib", "lib"⟩ "app/x.h") := by
    decide
  have hsettled : Path.IsSettled
      ((Atlas.ofProjects "/w" innerProject).target ⟨"lib", "lib"⟩ "app/x.h") :=
    Path.isSettled_resolve (by decide) _
  have howners := RootIndex.owners_eq_namesAt (by decide) hsettled hnearest
  have hnames : namesAt "/w" innerProject.values "/w/lib/app" = ["app"] := by decide
  refine ⟨by decide, ⟨by decide, by decide⟩, howners.trans hnames, ?_⟩
  rw [outcome, if_neg (by decide)]

end Atlas

end MakeAtlas
