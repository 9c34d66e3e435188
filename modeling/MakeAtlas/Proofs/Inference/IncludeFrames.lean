import MakeAtlas.Proofs.Inference.FileOwners
import MakeAtlas.Proofs.Resolution.ClimbingPaths

/-!
# From where an included path is seen

What a source includes is written as seen from the folder of the source, but it is looked up as it
is written from the root of the project. So a source some folders below the root is taken to mean a
place as many folders further up than it says. For the sources right in the root's folder both
places are the same.

## Key results

- `include_leads_from_root`: where the includes of a source lead, at any depth below the root
- `include_not_seen_from_its_folder`: a dependency on another project, for a file of the project
-/

namespace MakeAtlas.Inference.Target

open MakeAtlas.Evidence (fileReferences filesOf lexicalExtensions)
open MakeAtlas.Path (isName joined raised)
open MakeAtlas.RootIndex (IsNearest namesAt)
open MakeAtlas.Workspace (FoundFile)

variable {t : Target} {settings : Settings} {nodes : Table Node}

/-- The absolute path of the folder that a file of a project is in. -/
def fileFolder (t : Target) (p : Project) (f : FoundFile) : String :=
  Path.resolve (t.folderOf p) (joined f.steps.dropLast)

/-- What a reference of a project leads to is decided by who owns a place: a dependency is drawn on
    the owner of the place only, and none is drawn if the project owns the place itself. -/
structure DecidedByOwner (site : Site) (p : Project) (r : Reference) (place : String) : Prop where
  drawn : ∀ d, (site.resolve p r).outcome = .resolved d →
    site.atlas.index.owners place = [d.target]
  inside : site.atlas.index.owners place = [p.name] →
    ∀ d, (site.resolve p r).outcome ≠ .resolved d

/-- It is enough to know the place for references that climb out of the project. -/
theorem decidedByOwner_of_climbs {p : Project} (placed : p.IsPlaced) (projects : Table Project)
    {r : Reference} {place : String}
    (h : Path.climbs r.path = true → place = Path.resolve (t.folderOf p) r.path) :
    DecidedByOwner (t.site projects) p r place := by
  have hresolved : ∀ d, ((t.site projects).resolve p r).outcome = .resolved d →
      (t.site projects).atlas.index.owners place = [d.target] ∧ d.target ≠ p.name := by
    intro d hd
    rw [Site.outcome_resolve] at hd
    obtain ⟨hclimbs, howners, ⟨hsource, -, -⟩, -⟩ := Atlas.outcome_eq_resolved_iff.1 hd
    have htarget : (t.site projects).atlas.target p r.path = place := by
      rw [h hclimbs, target_eq_resolve placed,
        Path.resolve_normalize (Path.isAnchored_of_climbs hclimbs)]
    rw [htarget] at howners
    exact ⟨howners, fun hself => d.source_ne_target (hsource.trans hself.symm)⟩
  refine ⟨fun d hd => (hresolved d hd).1, ?_⟩
  -- a dependency is never on the project itself
  intro hown d hd
  obtain ⟨howners, hother⟩ := hresolved d hd
  rw [hown, List.cons.injEq] at howners
  exact hother howners.1.symm

/-- Where no compiler is asked, what sources are found to depend on is what the includes of some
    walked file lead to. -/
theorem exists_include_of_mem_found (manual : settings.mode = .manual) (projects : Table Project)
    {p : Project} {d : Dependency}
    (hd : d ∈ Resolution.dependencies
      ((EvidenceKind.includes settings.chosenScanner).found (t.site projects) p)) :
    ∃ f ∈ filesOf settings.scope lexicalExtensions (t.childrenOf p),
      ∃ r ∈ fileReferences p.root f, ((t.site projects).resolve p r).outcome = .resolved d := by
  have hscanner : settings.chosenScanner = .lexical settings.scope := by
    rw [Settings.chosenScanner, manual]
  rw [hscanner, EvidenceKind.found_includes] at hd
  obtain ⟨r, hr, hd⟩ := Site.exists_of_mem_dependencies hd
  have hmention := mem_of_mem_distinctBy hr
  rw [Site.sourceMentions_lexical] at hmention
  split at hmention
  · obtain ⟨f, hf, hr⟩ := List.mem_flatMap.1 hmention
    exact ⟨f, hf, r, hr, hd⟩
  · exact absurd hmention List.not_mem_nil

section Manual

variable (built : t.nodes settings = .ok nodes) (tree : t.tree.IsTree)
  (absolute : Path.isAnchored t.location.toList = true) (manual : settings.mode = .manual)

include built tree absolute manual

/-- Where no compiler is asked, every dependency that is drawn for the sources of a project comes
    from an include of a file of the project, at whatever depth. The include is decided by who owns
    the place that it names, seen from the folder of the file, after going up as many folders as the
    file is below the root. Only for files right in the root's folder is that the place that it
    names, seen from the folder of the file. -/
theorem include_leads_from_root (p : Project) (hp : p ∈ (projectsOf nodes).values) :
    (∀ d ∈ Resolution.dependencies ((EvidenceKind.includes settings.chosenScanner).found
        (t.site (projectsOf nodes)) p),
      ∃ f ∈ filesOf settings.scope lexicalExtensions (t.childrenOf p),
        ∃ r ∈ fileReferences p.root f,
          ((t.site (projectsOf nodes)).resolve p r).outcome = .resolved d) ∧
      ∀ f ∈ filesOf settings.scope lexicalExtensions (t.childrenOf p),
        ∀ r ∈ fileReferences p.root f,
          DecidedByOwner (t.site (projectsOf nodes)) p r
            (Path.resolve (t.fileFolder p f) (raised f.steps.dropLast.length r.path)) ∧
          (f.steps.dropLast = [] → DecidedByOwner (t.site (projectsOf nodes)) p r
            (Path.resolve (t.fileFolder p f) r.path)) := by
  refine ⟨fun d hd => exists_include_of_mem_found manual _ hd, ?_⟩
  intro f hf r hr
  obtain ⟨node, hnode, rfl⟩ := exists_node_of_mem_projects hp
  obtain ⟨placed, -⟩ := isProjectAt_place built tree hnode
  have hsteps := isName_of_walked built tree absolute hnode hf
  have hfolder : Path.isAnchored (t.folderOf node.project).toList = true :=
    (Path.isSettled_resolve absolute _).isAnchored
  have hdecided : DecidedByOwner (t.site (projectsOf nodes)) node.project r
      (Path.resolve (t.fileFolder node.project f) (raised f.steps.dropLast.length r.path)) := by
    refine decidedByOwner_of_climbs placed _ fun hclimbs => ?_
    -- going up from the file's folder to the root, the include is where it is looked up
    exact Path.resolve_raised hfolder (fun n hn => hsteps n (List.dropLast_subset _ hn))
      (Path.isAnchored_of_climbs hclimbs)
  refine ⟨hdecided, fun hroot => ?_⟩
  rw [hroot] at hdecided
  exact hdecided

end Manual

/-- A workspace with a source below the root of its project, which includes a header of the same
    project by a path that, seen from the root, leads to another project. -/
def deepTarget : Target where
  disk := ⟨[("w", .folder [
    ("app", .folder [
      ("Makefile", .file (Text.Utf8.encode "all:\n")),
      ("lib", .folder [("x.h", .file [])]),
      ("src", .folder [("main.c", .file (Text.Utf8.encode "#include \"../lib/x.h\"\n"))])]),
    ("lib", .folder [("Makefile", .file (Text.Utf8.encode "all:\n"))])])]⟩
  toolchain := ⟨fun _ => false, fun _ => .missing, fun _ _ => .missing⟩
  location := "/w"

/-- The source, as a walk of the project finds it. -/
def deepSource : FoundFile :=
  ⟨["src", "main.c"], Text.Utf8.encode "#include \"../lib/x.h\"\n"⟩

/-- What the source includes. -/
def deepInclude : Reference :=
  ⟨"../lib/x.h", "app/src/main.c", some 1⟩

private theorem isTree_deep : deepTarget.tree.IsTree := by decide +kernel

private theorem exists_nodes_deep : ∃ nodes, deepTarget.nodes { mode := .manual } = .ok nodes ∧
    projectsOf nodes = sampleProjects :=
  exists_nodes_of_table [⟨"app", "app"⟩, ⟨"lib", "lib"⟩] (by decide +kernel) (by decide +kernel)
    (by decide +kernel) (by decide +kernel) (by decide)

private theorem mem_filesOf_deep : deepSource ∈ filesOf ({ mode := .manual } : Settings).scope
    lexicalExtensions (deepTarget.childrenOf ⟨"app", "app"⟩) := by
  refine (Workspace.mem_walk_iff (by decide +kernel)).2 ?_
  exact Workspace.reaches_folder_iff.2 (Or.inr ⟨"src", ["main.c"], _, rfl, rfl, by decide,
    by decide, Workspace.reaches_folder_iff.2 (Or.inl ⟨"main.c", rfl, rfl, by decide⟩)⟩)

private theorem mem_fileReferences_deep : deepInclude ∈ fileReferences "app" deepSource := by
  decide +kernel

/-- The include leads to the other project, as a path seen from the root of its own does. -/
private theorem outcome_deep : ((deepTarget.site sampleProjects).resolve ⟨"app", "app"⟩
    deepInclude).outcome =
      .resolved ⟨"app", "lib", "app/src/main.c", some 1, by decide, by decide⟩ := by
  have hplace : (Atlas.ofProjects "/w" sampleProjects).target ⟨"app", "app"⟩ "../lib/x.h" =
      "/w/lib/x.h" := by decide
  have hnearest : IsNearest "/w" sampleProjects.values "/w/lib" "/w/lib/x.h" := by decide
  rw [Site.outcome_resolve]
  exact Atlas.outcome_eq_resolved_of_isNearest (by decide) (by decide) hplace
    ⟨by decide, by decide⟩ hnearest (by decide) ⟨rfl, rfl, rfl⟩ (by decide)

/-- The include names a header of the project itself, seen from the folder of the source. -/
private theorem owners_deep : (deepTarget.site sampleProjects).atlas.index.owners
      (Path.resolve (deepTarget.fileFolder ⟨"app", "app"⟩ deepSource) "../lib/x.h") = ["app"] := by
  have hplace : Path.resolve (deepTarget.fileFolder ⟨"app", "app"⟩ deepSource) "../lib/x.h" =
      "/w/app/lib/x.h" := by decide +kernel
  have hnearest : IsNearest "/w" [⟨"app", "app"⟩, ⟨"lib", "lib"⟩] "/w/app" "/w/app/lib/x.h" := by
    decide
  have howners := RootIndex.owners_eq_namesAt (by decide) ⟨by decide, by decide⟩ hnearest
  rw [hplace]
  exact howners.trans (by decide)

/-- The dependency that is drawn is on the project one folder up from where the include points. -/
theorem include_leads_from_root_deep : ∃ nodes, deepTarget.nodes { mode := .manual } = .ok nodes ∧
    deepTarget.tree.IsTree ∧ Path.isAnchored deepTarget.location.toList = true ∧
    ⟨"app", "app"⟩ ∈ (projectsOf nodes).values ∧
    ∃ d, ((deepTarget.site (projectsOf nodes)).resolve ⟨"app", "app"⟩ deepInclude).outcome =
        .resolved d ∧
      (deepTarget.site (projectsOf nodes)).atlas.index.owners (Path.resolve
        (deepTarget.fileFolder ⟨"app", "app"⟩ deepSource) "../../lib/x.h") = [d.target] := by
  obtain ⟨nodes, built, hprojects⟩ := exists_nodes_deep
  have hp : ⟨"app", "app"⟩ ∈ (projectsOf nodes).values := by
    rw [hprojects]
    exact List.mem_cons_self
  have hleads := (include_leads_from_root built isTree_deep (by decide) rfl ⟨"app", "app"⟩ hp).2
    deepSource mem_filesOf_deep deepInclude mem_fileReferences_deep
  have houtcome := outcome_deep
  rw [← hprojects] at houtcome
  exact ⟨nodes, built, isTree_deep, by decide, hp, _, houtcome, hleads.1.drawn _ houtcome⟩

/-- Includes are not decided by who owns the place that they name, seen from the folder of their
    file: a dependency is drawn for a header of the project itself. -/
theorem include_not_seen_from_its_folder :
    ¬ ∀ (t : Target) (settings : Settings) (nodes : Table Node), t.nodes settings = .ok nodes →
      t.tree.IsTree → Path.isAnchored t.location.toList = true → settings.mode = .manual →
      ∀ p ∈ (projectsOf nodes).values,
        ∀ f ∈ filesOf settings.scope lexicalExtensions (t.childrenOf p),
          ∀ r ∈ fileReferences p.root f, DecidedByOwner (t.site (projectsOf nodes)) p r
            (Path.resolve (t.fileFolder p f) r.path) := by
  intro hall
  obtain ⟨nodes, built, hprojects⟩ := exists_nodes_deep
  have hp : ⟨"app", "app"⟩ ∈ (projectsOf nodes).values := by
    rw [hprojects]
    exact List.mem_cons_self
  have hdecided := hall deepTarget { mode := .manual } nodes built isTree_deep (by decide) rfl
    ⟨"app", "app"⟩ hp deepSource mem_filesOf_deep deepInclude mem_fileReferences_deep
  rw [hprojects] at hdecided
  exact hdecided.inside owners_deep _ outcome_deep

end MakeAtlas.Inference.Target
