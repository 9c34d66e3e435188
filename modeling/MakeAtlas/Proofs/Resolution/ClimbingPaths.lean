import MakeAtlas.Proofs.Resolution.NearestRoot

/-!
# Where a climbing path leads

A path that climbs out of its project is looked up among the roots of all projects. The nearest
root above it decides: no root, several projects at the root, the project itself, or another
project, on which the dependency is then checked.

## Key results

- `target_of_climbs`: bringing the path into normal form first changes nothing
- `outcome_decided_by_nearest_root`: what a path leads to, by the nearest root above it
-/

namespace MakeAtlas.Atlas

open MakeAtlas.Path (IsAbove IsSettled)
open MakeAtlas.RootIndex (IsRoot IsNearest namesAt rootAt)

section Owners

variable {atlas : Atlas} {source : Project} {candidate : String}

/-- A climbing path names the same place before and after it is brought into normal form. -/
theorem target_of_climbs (climbs : Path.climbs candidate = true) :
    atlas.target source candidate =
      Path.resolve (atlas.index.absoluteRoot source.root) candidate :=
  Path.resolve_normalize (Path.isAnchored_of_climbs climbs) _

/-- Without an owner there is no match. -/
private theorem outcome_of_no_owner (climbs : Path.climbs candidate = true)
    (owners : atlas.index.owners (atlas.target source candidate) = [])
    (evidence : String) (line : Option Int) :
    atlas.outcome source candidate evidence line = .noMatch := by
  rw [outcome, if_pos climbs, owners]

/-- With one owner the path leads to it, unless that is the project itself. -/
private theorem outcome_of_one_owner (climbs : Path.climbs candidate = true) {owner : String}
    (owners : atlas.index.owners (atlas.target source candidate) = [owner])
    (evidence : String) (line : Option Int) :
    atlas.outcome source candidate evidence line =
      if owner = source.name then .selfReference
      else atlas.found source.name owner evidence line := by
  rw [outcome, if_pos climbs, owners]

/-- With several owners the path is ambiguous. -/
private theorem outcome_of_many_owners (climbs : Path.climbs candidate = true)
    (many : 2 ≤ (atlas.index.owners (atlas.target source candidate)).length)
    (evidence : String) (line : Option Int) :
    atlas.outcome source candidate evidence line =
      .invalid (.ambiguous (atlas.index.owners (atlas.target source candidate))) := by
  rw [outcome, if_pos climbs]
  split
  · next hnone => simp [hnone] at many
  · next owner hone => simp [hone] at many
  · rfl

/-- There is a match as soon as there is an owner. -/
private theorem owners_eq_nil_of_noMatch {evidence : String} {line : Option Int}
    (h : atlas.outcome source candidate evidence line = .noMatch) :
    atlas.index.owners (atlas.target source candidate) = [] := by
  have hleads := atlas.leads_outcome source candidate evidence line
  rw [h] at hleads
  cases hleads with
  | unowned _ hnone => exact hnone

end Owners

/-- A climbing path leads to the dependency on the only project at the nearest root, if it holds. -/
theorem outcome_eq_resolved_of_isNearest {location : String} {projects : Table Project}
    {source : Project} {candidate evidence root place : String} {line : Option Int} {d : Dependency}
    (absolute : Path.isAnchored location.toList = true) (climbs : Path.climbs candidate = true)
    (target : (Atlas.ofProjects location projects).target source candidate = place)
    (settled : IsSettled place) (nearest : IsNearest location projects.values root place)
    (names : namesAt location projects.values root = [d.target])
    (parts : d.source = source.name ∧ d.evidence = evidence ∧ d.line.map Int.ofNat = line)
    (holds : d.invalidity projects = none) :
    (Atlas.ofProjects location projects).outcome source candidate evidence line = .resolved d := by
  have howners := RootIndex.owners_eq_namesAt absolute settled nearest
  rw [names] at howners
  exact outcome_eq_resolved_iff.2 ⟨climbs, target ▸ howners, parts, holds⟩

/-- What a reference to an absolute path leads to is decided by the nearest root above the path. -/
structure DecidedByNearestRoot (location : String) (projects : Table Project) (source : Project)
    (evidence : String) (line : Option Int) (path : String) (outcome : Outcome) : Prop where
  /-- Nothing is matched exactly if no root is above the path. -/
  noMatch_iff : outcome = .noMatch ↔
    ∀ root, IsRoot location projects.values root → ¬ IsAbove root path
  /-- If some root is above the path, then one of them is the nearest, -/
  exists_nearest : ∀ root, IsRoot location projects.values root → IsAbove root path →
    ∃ nearest, IsNearest location projects.values nearest path
  /-- and no other root is. -/
  nearest_unique : ∀ root other, IsNearest location projects.values root path →
    IsNearest location projects.values other path → other = root
  /-- The owners are the projects at the nearest root. -/
  owners : ∀ root, IsNearest location projects.values root path →
    (RootIndex.ofProjects location projects.values).owners path =
      namesAt location projects.values root
  /-- Several owners are rejected. -/
  ambiguous : ∀ root, IsNearest location projects.values root path →
    2 ≤ (namesAt location projects.values root).length →
    outcome = .invalid (.ambiguous (namesAt location projects.values root))
  /-- The project itself as the only owner is no dependency. -/
  selfReference : ∀ root, IsNearest location projects.values root path →
    namesAt location projects.values root = [source.name] → outcome = .selfReference
  /-- Another project as the only owner is depended on exactly if that is supported, -/
  resolved_iff : ∀ root owner, IsNearest location projects.values root path →
    namesAt location projects.values root = [owner] → owner ≠ source.name →
    ((∃ d, outcome = .resolved d) ↔ IsSupported projects source.name owner evidence line)
  /-- and rejected if it is not. -/
  rejected : ∀ root owner, IsNearest location projects.values root path →
    namesAt location projects.values root = [owner] → owner ≠ source.name →
    ¬ IsSupported projects source.name owner evidence line → ∃ why, outcome = .invalid why
  /-- The dependency is the project's on the owner, with the given evidence. -/
  resolved : ∀ root d, IsNearest location projects.values root path → outcome = .resolved d →
    namesAt location projects.values root = [d.target] ∧ d.source = source.name ∧
      d.evidence = evidence ∧ d.line.map Int.ofNat = line
  /-- A root whose text only begins a segment of the path is not above it, and the owners would be
      the same without the projects at that root. -/
  begins_segment : ∀ root c rest, IsRoot location projects.values root →
    path.toList = root.toList ++ c :: rest → c ≠ '/' → root.toList.getLast? ≠ some '/' →
    ¬ IsAbove root path ∧
      (RootIndex.ofProjects location
        (projects.values.filter fun p => rootAt location p.root != root)).owners path =
        (RootIndex.ofProjects location projects.values).owners path

/-- In an absolute workspace, whatever the projects and their roots are: what a path that climbs out
    of its project leads to is decided by the nearest root above the place that the path, seen from
    the project's root, names. -/
theorem outcome_decided_by_nearest_root (location : String) (projects : Table Project)
    (source : Project) (candidate evidence : String) (line : Option Int)
    (absolute : Path.isAnchored location.toList = true)
    (climbs : Path.climbs candidate = true) :
    DecidedByNearestRoot location projects source evidence line
      (Path.resolve (rootAt location source.root) candidate)
      ((Atlas.ofProjects location projects).outcome source candidate evidence line) := by
  have hroot : Path.isAnchored (rootAt location source.root).toList = true :=
    (Path.isSettled_resolve absolute _).isAnchored
  have settled := Path.isSettled_resolve hroot candidate
  have htarget : (Atlas.ofProjects location projects).target source candidate =
      Path.resolve (rootAt location source.root) candidate := target_of_climbs climbs
  have howners : ∀ root, IsNearest location projects.values root
      (Path.resolve (rootAt location source.root) candidate) →
      (Atlas.ofProjects location projects).index.owners
        ((Atlas.ofProjects location projects).target source candidate) =
        namesAt location projects.values root := by
    intro root hnearest
    rw [htarget]
    exact RootIndex.owners_eq_namesAt absolute settled hnearest
  exact {
    noMatch_iff := by
      rw [← RootIndex.owners_eq_nil_iff absolute settled]
      constructor
      · intro hnoMatch
        have hnil := owners_eq_nil_of_noMatch hnoMatch
        rw [htarget] at hnil
        exact hnil
      · intro hnil
        apply outcome_of_no_owner climbs
        rw [htarget]
        exact hnil
    exists_nearest := fun root hroot habove =>
      RootIndex.exists_isNearest absolute settled hroot habove
    nearest_unique := fun root other hnearest hother => hnearest.unique absolute hother
    owners := fun root hnearest => RootIndex.owners_eq_namesAt absolute settled hnearest
    ambiguous := by
      intro root hnearest hmany
      rw [← howners root hnearest] at hmany ⊢
      exact outcome_of_many_owners climbs hmany evidence line
    selfReference := by
      intro root hnearest hself
      rw [← howners root hnearest] at hself
      rw [outcome_of_one_owner climbs hself, if_pos rfl]
    resolved_iff := by
      intro root owner hnearest hone hother
      rw [← howners root hnearest] at hone
      rw [outcome_of_one_owner climbs hone, if_neg hother, exists_found_eq_resolved_iff]
      exact and_iff_right hother.symm
    rejected := by
      intro root owner hnearest hone hother hunsupported
      rw [← howners root hnearest] at hone
      rw [outcome_of_one_owner climbs hone, if_neg hother]
      apply ((Atlas.ofProjects location projects).found_eq_resolved_or_invalid
        source.name owner evidence line).resolve_left
      intro hfound
      exact hunsupported (exists_found_eq_resolved_iff.1 hfound).2
    resolved := by
      intro root d hnearest hresolved
      obtain ⟨_, hone, ⟨hsource, hevidence, hline⟩, _⟩ := outcome_eq_resolved_iff.1 hresolved
      rw [howners root hnearest] at hone
      exact ⟨hone, hsource, hevidence, hline⟩
    begins_segment := by
      intro root c rest hroot hpath hc hlast
      have hnot := Path.not_isAbove_of_begins_segment settled
        (RootIndex.isSettled_of_isRoot absolute hroot) hpath hc hlast
      exact ⟨hnot, RootIndex.owners_filter_of_not_isAbove absolute settled hnot⟩ }

/-- Two nested projects, and one beside them. -/
def nestedRoots : Table Project :=
  [("B", ⟨"B", "B"⟩), ("sub", ⟨"sub", "B/sub"⟩), ("app", ⟨"app", "app"⟩)]

/-- The outer root is the nearest one above a folder whose name only begins with the inner's. -/
private theorem isNearest_outer : IsNearest "/w" nestedRoots.values "/w/B"
    (Path.resolve (rootAt "/w" "app") "./x/../../B/subway/x.h") := by
  decide

/-- Below a folder beside the inner project, a path of a third project leads to the outer one. -/
theorem outcome_decided_by_nearest_root_nested :
    Path.isAnchored "/w".toList = true ∧ Path.climbs "./x/../../B/subway/x.h" = true ∧
      ∃ d, (Atlas.ofProjects "/w" nestedRoots).outcome ⟨"app", "app"⟩ "./x/../../B/subway/x.h"
        "app/main.c" (some 3) = .resolved d ∧ d.target = "B" := by
  have hdecided := outcome_decided_by_nearest_root "/w" nestedRoots ⟨"app", "app"⟩
    "./x/../../B/subway/x.h" "app/main.c" (some 3) (by decide) (by decide)
  have hnames : namesAt "/w" nestedRoots.values "/w/B" = ["B"] := by decide
  have hsupported : IsSupported nestedRoots "app" "B" "app/main.c" (some 3) :=
    ⟨by decide, by decide, by decide, by
      intro p hp
      cases hp
      exact ⟨by decide, by decide⟩⟩
  obtain ⟨d, hd⟩ := (hdecided.resolved_iff _ "B" isNearest_outer hnames (by decide)).2 hsupported
  have htarget := (hdecided.resolved _ d isNearest_outer hd).1
  rw [hnames] at htarget
  exact ⟨by decide, by decide, d, hd, (List.cons.inj htarget).1.symm⟩
end MakeAtlas.Atlas
