import MakeAtlas.Proofs.Evidence.ListedHeaders
import MakeAtlas.Proofs.Path.RootedPaths
import MakeAtlas.Proofs.Resolution.NearestRoot

/-!
# Headers that are named by absolute paths

A compiler may name a header by its absolute path. The header is then the way from the project's
folder to that path, and what becomes of it is what becomes of the path: it is looked up there, and
stays with the project exactly if the path is in the project's folder.

## Key results

- `headerPath_eq_way`: the header of an absolute path is the way to it
- `attributed_of_leadsBack`: what becomes of a header that leads back to its path
- `absolute_headers_lead_back`: all of it, for headers that a run names
-/

namespace MakeAtlas.Evidence

open MakeAtlas.RootIndex (IsNearest namesAt rootAt)

/-- The header of an absolute path is the way to it. -/
theorem headerPath_eq_way {folder path : String} (h : Path.IsRooted path) :
    headerPath folder path = Path.normalize (Path.written folder path) := by
  rw [headerPath, if_pos h.isAnchored, h.relativeTo?_eq, Option.getD_some]

/-- A header of a project is attributed to the projects that own the place of a file. -/
structure AttributedTo (location : String) (projects : Table Project) (source : Project)
    (header place : String) : Prop where
  /-- The header is looked up at the place, -/
  target : (Atlas.ofProjects location projects).target source header = place
  /-- whose owners are the projects at the nearest root above it. -/
  owners : ∀ root, IsNearest location projects.values root place →
    (RootIndex.ofProjects location projects.values).owners
      ((Atlas.ofProjects location projects).target source header) =
        namesAt location projects.values root
  /-- It is no candidate exactly if the place is in the project's folder. The parent folder, which
  is no file, is none either. -/
  notCandidate_iff : ∀ evidence line,
    (Atlas.ofProjects location projects).outcome source header evidence line = .notCandidate ↔
      Path.isWithin place (rootAt location source.root) = true ∨
        place = Path.resolve (rootAt location source.root) ".."
  /-- A dependency is found exactly if the place is elsewhere, its only owner is the target, and the
  dependency holds. -/
  resolved_iff : ∀ evidence line d,
    (Atlas.ofProjects location projects).outcome source header evidence line = .resolved d ↔
      (Path.isWithin place (rootAt location source.root) = false ∧
        place ≠ Path.resolve (rootAt location source.root) "..") ∧
      (RootIndex.ofProjects location projects.values).owners place = [d.target] ∧
      (d.source = source.name ∧ d.evidence = evidence ∧ d.line.map Int.ofNat = line) ∧
      d.invalidity projects = none

/-- A header that leads back to a path is attributed to the owners of the path. -/
theorem attributed_of_leadsBack {location : String} {projects : Table Project} {source : Project}
    {path header : String} (absolute : Path.isAnchored location.toList = true)
    (hpath : Path.IsRooted path) (normal : Path.normalize header = header)
    (h : Path.LeadsBack (rootAt location source.root) path header)
    (hroot : Path.normalize (rootAt location source.root) = rootAt location source.root) :
    AttributedTo location projects source header (Path.normalize path) := by
  have htarget : (Atlas.ofProjects location projects).target source header =
      Path.normalize path := by
    rw [← h.place, Atlas.target, normal]
    rfl
  have hclimbs := h.climbs_iff
  rw [hroot] at hclimbs
  exact {
    target := htarget
    owners := fun root hnearest => by
      rw [htarget]
      exact RootIndex.owners_eq_namesAt absolute hpath.isSettled_normalize hnearest
    notCandidate_iff := fun evidence line => by
      rw [← not_iff_not, ← Ne, Atlas.outcome_ne_notCandidate_iff, hclimbs, not_or,
        Bool.not_eq_true]
    resolved_iff := fun evidence line d => by
      rw [Atlas.outcome_eq_resolved_iff, hclimbs, htarget]
      rfl }

/-- In every folder, for every file that is named by its absolute path: the way from the folder
    leads back to the file and does not go up exactly if the file is in the folder; a run that names
    the file mentions the way as a header, unless the file is its source; and the header of a
    project in the folder is attributed to the projects that own the file. -/
theorem absolute_headers_lead_back {folder path : String} (hfolder : Path.IsRooted folder)
    (hpath : Path.IsRooted path) :
    ∃ way, Path.relativeTo? path folder = some way ∧ Path.LeadsBack folder path way ∧
      (∀ (l : Listing) (toolchain : Toolchain) (source : String), l.folder = folder →
        l.Names toolchain source path →
        (way ∈ l.headers toolchain source ↔ way ≠ Path.normalize source)) ∧
      ∀ (location : String) (projects : Table Project) (source : Project),
        Path.isAnchored location.toList = true →
        rootAt location source.root = Path.normalize folder →
        AttributedTo location projects source way (Path.normalize path) := by
  refine ⟨_, hpath.relativeTo?_eq folder,
    Path.leadsBack_way hfolder hpath, ?_, ?_⟩
  · rintro l toolchain source rfl hnames
    rw [Listing.mem_headers_iff, Listing.Mentions]
    exact and_iff_right ⟨path, hnames, headerPath_eq_way hpath⟩
  · intro location projects source absolute hroot
    -- the project's folder is the normal form of the one that the way was taken from
    have hback := Path.leadsBack_way hfolder.isRooted_normalize hpath
    rw [Path.written_normalize hfolder, ← hroot] at hback
    refine attributed_of_leadsBack absolute hpath (Path.normalize_normalize _) hback ?_
    rw [hroot, Path.normalize_normalize]

/-- A compiler that names a header by its absolute path. -/
def namingAbsolutely : Toolchain where
  isInstalled _ := true
  version _ := .finished 0 [] []
  list _ _ := .finished 0 (Text.Utf8.encode "dummy: main.c /w/lib/inc/../x.h\n") []

/-- The run for the inner project names a header of the outer one, on which the inner one then
    depends. -/
theorem absolute_headers_lead_back_inner :
    Path.IsRooted "/w/./lib/app" ∧ Path.IsRooted "/w/lib/inc/../x.h" ∧
      Path.relativeTo? "/w/lib/inc/../x.h" "/w/./lib/app" = some "../x.h" ∧
      Path.resolve "/w/./lib/app" "../x.h" = "/w/lib/x.h" ∧
      "../x.h" ∈ (⟨"gcc", [], "/w/./lib/app", ["main.c"]⟩ : Listing).headers namingAbsolutely
        "main.c" ∧
      ∃ d, (Atlas.ofProjects "/w" Atlas.innerProject).outcome ⟨"app", "lib/app"⟩ "../x.h"
        "lib/app/main.c" none = .resolved d ∧ d.target = "lib" := by
  have hfolder : Path.IsRooted "/w/./lib/app" := by decide
  have hpath : Path.IsRooted "/w/lib/inc/../x.h" := by decide
  have hway : Path.relativeTo? "/w/lib/inc/../x.h" "/w/./lib/app" = some "../x.h" := by decide
  obtain ⟨way, hsome, hback, hheaders, hattributed⟩ := absolute_headers_lead_back hfolder hpath
  obtain rfl : "../x.h" = way := Option.some.inj (hway.symm.trans hsome)
  have hplace : Path.normalize "/w/lib/inc/../x.h" = "/w/lib/x.h" := by decide
  rw [hplace] at hattributed
  have hnames : (⟨"gcc", [], "/w/./lib/app", ["main.c"]⟩ : Listing).Names namingAbsolutely "main.c"
      "/w/lib/inc/../x.h" := ⟨_, rfl, by decide +kernel⟩
  have hinner := hattributed "/w" Atlas.innerProject ⟨"app", "lib/app"⟩ (by decide) (by decide)
  have hnearest : IsNearest "/w" Atlas.innerProject.values "/w/lib" "/w/lib/x.h" := by decide
  have howners := hinner.owners "/w/lib" hnearest
  rw [hinner.target] at howners
  refine ⟨hfolder, hpath, hway, hback.place.trans hplace,
    (hheaders _ namingAbsolutely "main.c" rfl hnames).2 (by decide),
    ⟨"app", "lib", "lib/app/main.c", none, by decide, nofun⟩, ?_, rfl⟩
  refine (hinner.resolved_iff _ _ _).2 ⟨by decide, howners.trans (by decide), by decide, ?_⟩
  decide

end MakeAtlas.Evidence
