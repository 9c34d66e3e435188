import MakeAtlas.Proofs.Inference.FirstEvidence
import MakeAtlas.Proofs.Resolution.ClimbingPaths

/-!
# Looking at changed projects only

A search that visits only the projects of some names finds what the search over all projects finds
for them: the same dependencies, with the same evidence and in the same order.

## Key results

- `visited_some_eq_filter`: the projects that are visited are those of the names, in their order
- `dependencies_changed_eq_filter`: a search over some names against the search over all
-/

namespace MakeAtlas

namespace Inference

/-- The projects of some names are visited in the order of all projects. -/
theorem visited_some_eq_filter {projects : Table Project} (keyed : KeyedByName projects)
    (names : List String) :
    visited projects (some names) =
      (visited projects none).filter fun p => names.contains p.name := by
  rw [visited, visited, Table.values, Table.values, List.filter_map]
  congr 1
  refine List.filter_congr fun entry hentry => ?_
  rw [Function.comp_apply, keyed.name_eq entry hentry]

/-! ## Two projects that lead to each other -/

/-- A workspace of a program and a library whose Makefiles refer to each other, on a machine without
    compilers. -/
def loopTarget : Target where
  disk := ⟨[("w", .folder [
    ("app", .folder [("Makefile", .file (Text.Utf8.encode "all: ../lib/x\n"))]),
    ("lib", .folder [("Makefile", .file (Text.Utf8.encode "all: ../app/x\n"))])])]⟩
  toolchain := ⟨fun _ => false, fun _ => .missing, fun _ _ => .missing⟩
  location := "/w"

/-- The program leads to the library. -/
theorem app_leadsTo_lib : ∃ r ∈ (loopTarget.site sampleProjects).references
      (.lexical ({ mode := .manual } : Settings).scope) ⟨"app", "app"⟩,
    (loopTarget.site sampleProjects).LeadsTo ⟨"app", "app"⟩ r "lib" := by
  have hreference : ⟨"../lib/x", "app/Makefile", some 1⟩ ∈
      (loopTarget.site sampleProjects).makefileReferences ⟨"app", "app"⟩ := by decide +kernel
  refine ⟨_, List.mem_append_right _ hreference,
    ⟨"app", "lib", "app/Makefile", some 1, by decide, by decide⟩, ?_, rfl⟩
  have hnearest : RootIndex.IsNearest "/w" sampleProjects.values "/w/lib" "/w/lib/x" := by decide
  rw [Site.outcome_resolve]
  exact Atlas.outcome_eq_resolved_of_isNearest (by decide) (by decide) (by decide)
    ⟨by decide, by decide⟩ hnearest (by decide) ⟨rfl, rfl, rfl⟩ (by decide)

/-- The library leads to the program. -/
theorem lib_leadsTo_app : ∃ r ∈ (loopTarget.site sampleProjects).references
      (.lexical ({ mode := .manual } : Settings).scope) ⟨"lib", "lib"⟩,
    (loopTarget.site sampleProjects).LeadsTo ⟨"lib", "lib"⟩ r "app" := by
  have hreference : ⟨"../app/x", "lib/Makefile", some 1⟩ ∈
      (loopTarget.site sampleProjects).makefileReferences ⟨"lib", "lib"⟩ := by decide +kernel
  refine ⟨_, List.mem_append_right _ hreference,
    ⟨"lib", "app", "lib/Makefile", some 1, by decide, by decide⟩, ?_, rfl⟩
  have hnearest : RootIndex.IsNearest "/w" sampleProjects.values "/w/app" "/w/app/x" := by decide
  rw [Site.outcome_resolve]
  exact Atlas.outcome_eq_resolved_of_isNearest (by decide) (by decide) (by decide)
    ⟨by decide, by decide⟩ hnearest (by decide) ⟨rfl, rfl, rfl⟩ (by decide)

end Inference

/-- Whatever the files, the compilers and the settings are, and whatever names are asked for, known
    or not and however often: the search over these names finds the dependencies that the search
    over all projects finds for them, in the same order and with the same evidence. Both searches
    fail alike, and only because the settings cannot be used. -/
theorem dependencies_changed_eq_filter (t : Inference.Target) (settings : Settings)
    {projects : Table Project} (keyed : KeyedByName projects) (names : List String) :
    (t.dependencies settings projects (some names)).map Prod.fst =
      (t.dependencies settings projects none).map
        (fun found => found.1.filter fun d => names.contains d.source) ∧
    ∀ changed e, t.dependencies settings projects changed = .error e →
      e.isConfiguration = true := by
  constructor
  · obtain ⟨_, hall⟩ := t.dependencies_eq_blocks settings keyed none
    obtain ⟨_, hsome⟩ := t.dependencies_eq_blocks settings keyed (some names)
    rw [hall, hsome]
    cases t.toolchain.check settings.mode with
    | error e => rfl
    | ok compiler =>
      rw [Inference.visited_some_eq_filter keyed]
      exact congrArg Except.ok (flatMap_filter_source
        (fun p _ d hd => Site.source_of_mem_dependenciesOf hd) names.contains)
  · intro changed e he
    obtain ⟨_, hblocks⟩ := t.dependencies_eq_blocks settings keyed changed
    rw [hblocks] at he
    cases hcheck : t.toolchain.check settings.mode with
    | error cause =>
      obtain ⟨c, detail, -, -, rfl⟩ := Toolchain.check_eq_error_iff.1 hcheck
      rw [hcheck, Except.error.injEq] at he
      rw [← he]
      rfl
    | ok compiler =>
      rw [hcheck] at he
      cases he

/-- Where a program and a library lead to each other, a search that asks twice for the program and
    once for a project that is gone keeps the dependency of the program and leaves out that of the
    library. -/
theorem dependencies_changed_eq_filter_loop :
    KeyedByName Inference.sampleProjects ∧ ∃ kept found,
      (Inference.loopTarget.dependencies { mode := .manual } Inference.sampleProjects
        (some ["app", "gone", "app"])).map Prod.fst = .ok kept ∧
      (Inference.loopTarget.dependencies { mode := .manual } Inference.sampleProjects none).map
        Prod.fst = .ok found ∧
      kept = found.filter (fun d => ["app", "gone", "app"].contains d.source) ∧
      ("app", "lib") ∈ kept.map Dependency.ends ∧ ("lib", "app") ∈ found.map Dependency.ends ∧
      ("lib", "app") ∉ kept.map Dependency.ends := by
  have hkeyed : KeyedByName Inference.sampleProjects := by decide
  obtain ⟨warnings, hall⟩ :=
    Inference.loopTarget.dependencies_eq_blocks { mode := .manual } hkeyed none
  have hchanged := (dependencies_changed_eq_filter Inference.loopTarget { mode := .manual } hkeyed
    ["app", "gone", "app"]).1
  rw [hall] at hchanged
  -- both references lead somewhere, so both dependencies are found when all projects are visited
  have hjoined := (@shownByReferences_flatMap (Inference.loopTarget.site Inference.sampleProjects)
    (.lexical ({ mode := .manual } : Settings).scope) _
    (Inference.nodup_names_visited hkeyed none)).joined_iff
  have happ := (hjoined "app" "lib").2 ⟨_, by decide, rfl, Inference.app_leadsTo_lib⟩
  have hlib := (hjoined "lib" "app").2 ⟨_, by decide, rfl, Inference.lib_leadsTo_app⟩
  refine ⟨hkeyed, _, _, hchanged, congrArg (Except.map Prod.fst) hall, rfl, ?_, hlib, ?_⟩
  · obtain ⟨d, hd, hends⟩ := List.mem_map.1 happ
    have hsource : d.source = "app" := congrArg Prod.fst hends
    exact List.mem_map.2 ⟨d, List.mem_filter.2 ⟨hd, by rw [hsource]; decide⟩, hends⟩
  · intro hkept
    obtain ⟨d, hd, hends⟩ := List.mem_map.1 hkept
    have hsource : d.source = "lib" := congrArg Prod.fst hends
    have hasked := (List.mem_filter.1 hd).2
    rw [hsource] at hasked
    exact absurd hasked (by decide)

end MakeAtlas
