import MakeAtlas.Proofs.Evidence.Origins
import MakeAtlas.Proofs.Inference.FileOwners
import MakeAtlas.Proofs.Path.Blanks

/-!
# Evidence of a project's own

A reference of a project comes from a file below the project's root, so one might think that a
dependency never fails for the sake of its evidence. But the evidence is looked at without the
blanks around it, and the root with them: where the first name of the path begins with a blank, the
file is no longer below the root.

## Key results

- `isOwnReference_of_mem_references`: every reference comes from a file of the project
- `rejected_iff_losesRoot`: what is rejected is rejected for a blank, and for nothing else
- `own_evidence_rejected`: a reference that is rejected
-/

namespace MakeAtlas.Inference.Target

open MakeAtlas.Path (isName joined)
open MakeAtlas.Text (isBlank trim)
open MakeAtlas.Workspace (FoundFile WalkRules makefileName)

variable {t : Target} {settings : Settings} {nodes : Table Node}

/-! ## Files that references come from -/

/-- A workspace-relative path is that of a file of the workspace, below a project's folder. -/
def IsOwnFile (t : Target) (p : Project) (file : String) : Prop :=
  ∃ more content, more ≠ [] ∧ t.tree.at? (p.place ++ more) = some (.file content) ∧
    file = joined (p.place ++ more)

/-- A reference comes from a file of the project, whose path does not end with a blank, and from
    one of the lines of a file if it names a line. -/
structure IsOwnReference (t : Target) (p : Project) (r : Reference) : Prop where
  file : t.IsOwnFile p r.file
  last : ∃ c ∈ r.file.toList.getLast?, isBlank c = false
  line_pos : ∀ n ∈ r.line, 0 < n

/-- A name with one of the endings of sources and headers does not end with a blank. -/
theorem getLast?_of_admits {rules : WalkRules} {name : String}
    (hendings : rules.extensions ⊆ Evidence.lexicalExtensions) (h : rules.admits name = true) :
    ∃ c ∈ name.toList.getLast?, isBlank c = false := by
  obtain ⟨ending, hending, hsuffix⟩ := List.any_eq_true.1 h
  obtain ⟨front, hfront⟩ := List.isSuffixOf_iff_suffix.1 hsuffix
  have hall : ∀ ending ∈ Evidence.lexicalExtensions,
      ending.toList.getLast?.all isBlank = false := by decide
  obtain ⟨c, hc, hblank⟩ := (Option.all_eq_false _ _).1 (hall ending (hendings hending))
  have hne : ending.toList ≠ [] := by
    intro hnil
    rw [hnil] at hc
    cases hc
  refine ⟨c, ?_, hblank⟩
  rw [← hfront, List.getLast?_append_of_ne_nil _ hne]
  exact hc

/-- A file below a project's folder, named by the project's root and the names from there on. -/
private theorem isOwnReference_of_file {p : Project} (placed : p.IsPlaced) {r : Reference}
    {more : List String} {name : String} {content : Text.Utf8.Bytes}
    (hfile : t.tree.at? (p.place ++ more) = some (.file content))
    (hmore : ∀ n ∈ more, isName n = true) (hname : name ∈ more.getLast?)
    (hlast : ∃ c ∈ name.toList.getLast?, isBlank c = false)
    (hpath : r.file = Path.underRoot p.root (joined more)) (hline : ∀ n ∈ r.line, 0 < n) :
    t.IsOwnReference p r := by
  have hne : more ≠ [] := List.ne_nil_of_mem (List.mem_of_getLast? hname)
  rw [placed.root_eq, Path.underRoot_joined placed.isName hmore hne] at hpath
  refine ⟨⟨more, content, hne, hfile, hpath⟩, ?_, hline⟩
  have hends : more.dropLast ++ [name] = more := List.dropLast_append_getLast? name hname
  rw [hpath, ← hends, ← List.append_assoc,
    Path.getLast?_toList_joined (hmore name (List.mem_of_getLast? hname))]
  exact hlast

section References

variable (built : t.nodes settings = .ok nodes) (tree : t.tree.IsTree)
  (absolute : Path.isAnchored t.location.toList = true) {node : Node}
  (hnode : node ∈ nodes.values)

include built tree hnode

/-- What the Makefile mentions comes from the file that makes the folder a project. -/
private theorem isOwnReference_of_mem_makefileReferences {r : Reference}
    (h : r ∈ (t.site (projectsOf nodes)).makefileReferences node.project) :
    t.IsOwnReference node.project r := by
  obtain ⟨placed, hplace⟩ := isProjectAt_place built tree hnode
  obtain ⟨content, hfile⟩ := Workspace.holdsMakefileAt_iff.1 hplace.holdsMakefile
  obtain ⟨hpath, hline⟩ := Site.file_of_mem_makefileReferences h
  have hjoined : joined [makefileName] = makefileName := String.intercalate_singleton
  rw [Site.makefileOf, ← hjoined] at hpath
  exact isOwnReference_of_file placed hfile (List.forall_mem_singleton.2 (by decide)) rfl
    ⟨'e', rfl, rfl⟩ hpath hline

include absolute

/-- What the sources mention comes from files that are walked. -/
private theorem isOwnReference_of_mem_sourceMentions {scanner : IncludeScanner} {r : Reference}
    (h : r ∈ (t.site (projectsOf nodes)).sourceMentions scanner node.project) :
    t.IsOwnReference node.project r := by
  obtain ⟨placed, -⟩ := isProjectAt_place built tree hnode
  obtain ⟨mentions, hmentions, hr⟩ := Site.exists_mentions_of_mem_sourceMentions h
  obtain ⟨scope, extensions, hendings, f, hwalked, hpath, hline⟩ :=
    Site.exists_walked_of_mem_mentions hmentions hr
  have hreaches := reaches_of_walked built tree absolute hnode hwalked
  have hsteps := isName_of_walked built tree absolute hnode hwalked
  obtain ⟨name, hname, hadmitted⟩ := hreaches.admitted
  have hne : f.steps ≠ [] := List.ne_nil_of_mem (List.mem_of_getLast? hname)
  have hforward : Path.toForward f.path = f.path := Path.toForward_joined hsteps
  rw [hforward, or_self] at hpath
  exact isOwnReference_of_file placed (at?_childrenOf placed absolute hne hreaches.isFile) hsteps
    hname (getLast?_of_admits hendings hadmitted) hpath hline

/-- Every reference of a project, to whatever it leads, comes from a file of the project. -/
theorem isOwnReference_of_mem_references {scanner : IncludeScanner} {r : Reference}
    (h : r ∈ (t.site (projectsOf nodes)).references scanner node.project) :
    t.IsOwnReference node.project r := by
  rcases List.mem_append.1 h with hincluded | hmakefile
  · rw [Site.includeReferences, Reference.first] at hincluded
    have hmention := mem_of_mem_distinctBy hincluded
    exact isOwnReference_of_mem_sourceMentions built tree absolute hnode hmention
  · exact isOwnReference_of_mem_makefileReferences built tree hnode hmakefile

end References

/-! ## Why a reference is rejected -/

/-- A path that a project mentions climbs out of it, and leads to another project. -/
def LeadsElsewhere (t : Target) (nodes : Table Node) (p : Project) (path : String) : Prop :=
  Path.climbs path = true ∧ ∃ owner, owner ≠ p.name ∧
    (t.site (projectsOf nodes)).atlas.index.owners (Path.resolve (t.folderOf p) path) = [owner]

/-- Why a reference is rejected whose file is not below the project's root. -/
def foreign (file root : String) : Rejection :=
  .unfounded (.foreignEvidence (String.ofList (trim file.toList)) root)

section Rejected

variable (built : t.nodes settings = .ok nodes) (tree : t.tree.IsTree)
  (absolute : Path.isAnchored t.location.toList = true) {p : Project}
  (hp : p ∈ (projectsOf nodes).values)

include built tree absolute hp

/-- A reference from a file of a project is rejected exactly if it leads to another project and the
    project's root is lost without the blanks around the file's path. -/
theorem outcome_eq_invalid_iff_losesRoot {r : Reference} (own : t.IsOwnReference p r)
    {why : Rejection} :
    ((t.site (projectsOf nodes)).resolve p r).outcome = .invalid why ↔
      t.LeadsElsewhere nodes p r.path ∧ Path.losesRoot p.root r.file = true ∧
        why = foreign r.file p.root := by
  have placed := isPlaced_of_mem_projects built tree hp
  obtain ⟨⟨more, -, hne, -, hjoined⟩, hlast, hline⟩ := own
  -- what is known of the projects, the file and its line leaves one way to be rejected
  have hlines : ∀ n ∈ r.line.map Int.ofNat, 1 ≤ n := Dependency.le_of_mem_map_ofNat hline
  have htarget := target_eq_resolve placed t (projectsOf nodes) r.path
  have hsettled : Path.IsSettled (Path.resolve (t.folderOf p) (Path.normalize r.path)) :=
    Path.isSettled_resolve (Path.isSettled_resolve absolute _).isAnchored _
  have hsingle := owners_eq_nil_or_singleton built tree absolute hsettled
  rw [← htarget] at hsingle
  have hbelongs : Path.belongsTo (String.ofList (trim r.file.toList)) p.root =
      !Path.losesRoot p.root r.file := by
    rw [hjoined] at hlast ⊢
    rw [placed.root_eq]
    exact Path.belongsTo_eq_not_losesRoot placed.isName hne hlast
  have hleads : (Path.climbs r.path = true ∧ ∃ owner, owner ≠ p.name ∧
      (t.site (projectsOf nodes)).atlas.index.owners
        ((t.site (projectsOf nodes)).atlas.target p r.path) = [owner]) ↔
      t.LeadsElsewhere nodes p r.path := by
    refine and_congr_right fun hclimbs => ?_
    rw [htarget, Path.resolve_normalize (Path.isAnchored_of_climbs hclimbs)]
  rw [Site.outcome_resolve, Atlas.outcome_eq_invalid_iff (get?_projectsOf hp) hlines
    (Text.isEmpty_trim hlast) hsingle, hleads, hbelongs, Bool.not_eq_false', foreign]

omit absolute in
/-- No root is lost in a workspace without names that begin with a blank. -/
private theorem losesRoot_eq_false_of_plain {r : Reference} (own : t.IsOwnReference p r)
    (plain : ∀ name ∈ Table.keys t.tree.children, Text.beginsBlank name = false) :
    Path.losesRoot p.root r.file = false := by
  have placed := isPlaced_of_mem_projects built tree hp
  obtain ⟨⟨more, content, hne, hfile, hjoined⟩, hlast, -⟩ := own
  have hmore : ∀ n ∈ more, isName n = true := fun n hn =>
    tree.isName_of_at? hfile n (List.mem_append_right _ hn)
  rw [hjoined] at hlast ⊢
  rw [placed.root_eq]
  refine Path.losesRoot_eq_false placed.isName hmore hne hlast fun first hfirst => ?_
  cases hsteps : p.place ++ more with
  | nil =>
    rw [hsteps] at hfirst
    cases hfirst
  | cons name rest =>
    rw [hsteps] at hfile hfirst
    cases hfirst
    exact plain _ (Entry.mem_keys_of_at? hfile)

/-- Whatever evidence is looked for, each of a project's references comes from a file of the
    project. It is rejected for one reason only: it leads to another project, and without the blanks
    around the file's path the project's root is lost. In a workspace without names that begin with
    a blank nothing is rejected. -/
theorem rejected_iff_losesRoot (kind : EvidenceKind) (resolution : Resolution)
    (hresolution : resolution ∈ kind.found (t.site (projectsOf nodes)) p) :
    (∃ file, t.IsOwnFile p file ∧ ∀ why, resolution.outcome = .invalid why ↔
      t.LeadsElsewhere nodes p resolution.candidate ∧ Path.losesRoot p.root file = true ∧
        why = foreign file p.root) ∧
      ((∀ name ∈ Table.keys t.tree.children, Text.beginsBlank name = false) →
        resolution.outcome.status ≠ "invalid") := by
  -- whichever evidence it is, the resolution is that of one of the project's references
  have hreference : ∃ scanner, ∃ r ∈ (t.site (projectsOf nodes)).references scanner p,
      resolution = (t.site (projectsOf nodes)).resolve p r := by
    cases kind with
    | includes scanner =>
      rw [EvidenceKind.found_includes] at hresolution
      obtain ⟨r, hr, rfl⟩ := List.mem_map.1 hresolution
      exact ⟨scanner, r, List.mem_append_left _ hr, rfl⟩
    | makefile =>
      rw [EvidenceKind.found_makefile] at hresolution
      obtain ⟨r, hr, rfl⟩ := List.mem_map.1 hresolution
      exact ⟨settings.chosenScanner, r, List.mem_append_right _ hr, rfl⟩
  obtain ⟨scanner, r, hr, rfl⟩ := hreference
  have own : t.IsOwnReference p r := by
    obtain ⟨node, hnode, rfl⟩ := exists_node_of_mem_projects hp
    exact isOwnReference_of_mem_references built tree absolute hnode hr
  refine ⟨⟨r.file, own.file, fun why => ?_⟩, fun plain => ?_⟩
  · exact outcome_eq_invalid_iff_losesRoot built tree absolute hp own
  · rw [ne_eq, Outcome.status_eq_invalid_iff]
    intro hrejected
    obtain ⟨why, hwhy⟩ := hrejected
    have hlost := ((outcome_eq_invalid_iff_losesRoot built tree absolute hp own).1 hwhy).2.1
    rw [losesRoot_eq_false_of_plain built tree hp own plain] at hlost
    cases hlost

end Rejected

/-- A workspace with a project in a folder whose name begins with a blank. The project's Makefile
    leads to the other project. -/
def spacedTarget : Target where
  disk := ⟨[("w", .folder [
    (" app", .folder [("Makefile", .file (Text.Utf8.encode "all: ../lib/x.h\n"))]),
    ("lib", .folder [("Makefile", .file (Text.Utf8.encode "all:\n"))])])]⟩
  toolchain := ⟨fun _ => false, fun _ => .missing, fun _ _ => .missing⟩
  location := "/w"

/-- The two projects of the workspace. -/
def spacedProjects : Table Project :=
  [(" app", ⟨" app", " app"⟩), ("lib", ⟨"lib", "lib"⟩)]

/-- The only reference of the project's Makefile. -/
def spacedReference : Reference :=
  ⟨"../lib/x.h", " app/Makefile", some 1⟩

private theorem isTree_spaced : spacedTarget.tree.IsTree := by decide +kernel

private theorem exists_nodes_spaced : ∃ nodes, spacedTarget.nodes { mode := .manual } = .ok nodes ∧
    projectsOf nodes = spacedProjects :=
  exists_nodes_of_table [⟨" app", " app"⟩, ⟨"lib", "lib"⟩] (by decide +kernel) (by decide +kernel)
    (by decide +kernel) (by decide +kernel) (by decide)

private theorem mem_makefileReferences_spaced :
    spacedReference ∈ (spacedTarget.site spacedProjects).makefileReferences ⟨" app", " app"⟩ := by
  decide +kernel

private theorem leadsElsewhere_spaced {nodes : Table Node}
    (hprojects : projectsOf nodes = spacedProjects) :
    spacedTarget.LeadsElsewhere nodes ⟨" app", " app"⟩ "../lib/x.h" := by
  have hplace : Path.resolve (spacedTarget.folderOf ⟨" app", " app"⟩) "../lib/x.h" =
      "/w/lib/x.h" := by decide +kernel
  have hnearest : RootIndex.IsNearest "/w" [⟨" app", " app"⟩, ⟨"lib", "lib"⟩] "/w/lib"
      "/w/lib/x.h" := by decide
  have howners := RootIndex.owners_eq_namesAt (by decide) ⟨by decide, by decide⟩ hnearest
  refine ⟨by decide, "lib", by decide, ?_⟩
  rw [hprojects, hplace]
  exact howners.trans (by decide)

/-- The reference to the other project is rejected. -/
theorem rejected_iff_losesRoot_spaced :
    ∃ nodes, spacedTarget.nodes { mode := .manual } = .ok nodes ∧ spacedTarget.tree.IsTree ∧
      Path.isAnchored spacedTarget.location.toList = true ∧
      ⟨" app", " app"⟩ ∈ (projectsOf nodes).values ∧
      ∃ resolution ∈ EvidenceKind.makefile.found (spacedTarget.site (projectsOf nodes))
          ⟨" app", " app"⟩,
        ∃ file, spacedTarget.IsOwnFile ⟨" app", " app"⟩ file ∧
          resolution.outcome = .invalid (foreign file " app") := by
  obtain ⟨nodes, built, hprojects⟩ := exists_nodes_spaced
  have hp : ⟨" app", " app"⟩ ∈ (projectsOf nodes).values := by
    rw [hprojects]
    exact List.mem_cons_self
  have hresolution : (spacedTarget.site (projectsOf nodes)).resolve ⟨" app", " app"⟩
      spacedReference ∈ EvidenceKind.makefile.found (spacedTarget.site (projectsOf nodes))
        ⟨" app", " app"⟩ := by
    rw [EvidenceKind.found_makefile, hprojects]
    exact List.mem_map_of_mem mem_makefileReferences_spaced
  obtain ⟨⟨file, own, hrejected⟩, -⟩ :=
    rejected_iff_losesRoot built isTree_spaced (by decide) hp .makefile _ hresolution
  refine ⟨nodes, built, isTree_spaced, by decide, hp, _, hresolution, file, own, ?_⟩
  exact (hrejected _).2 ⟨leadsElsewhere_spaced hprojects, rfl, rfl⟩

/-- Evidence of a project's own is not always good enough: the file is said to lie elsewhere. -/
theorem own_evidence_rejected :
    ¬ ∀ (t : Target) (settings : Settings) (nodes : Table Node), t.nodes settings = .ok nodes →
      t.tree.IsTree → Path.isAnchored t.location.toList = true →
      ∀ p ∈ (projectsOf nodes).values, ∀ kind : EvidenceKind,
        ∀ resolution ∈ kind.found (t.site (projectsOf nodes)) p,
          resolution.outcome.status ≠ "invalid" := by
  intro hall
  obtain ⟨nodes, built, hprojects⟩ := exists_nodes_spaced
  have hp : ⟨" app", " app"⟩ ∈ (projectsOf nodes).values := by
    rw [hprojects]
    exact List.mem_cons_self
  have hreference : spacedReference ∈
      (spacedTarget.site (projectsOf nodes)).makefileReferences ⟨" app", " app"⟩ := by
    rw [hprojects]
    exact mem_makefileReferences_spaced
  have own : spacedTarget.IsOwnReference ⟨" app", " app"⟩ spacedReference := by
    obtain ⟨node, hnode, hproject⟩ := exists_node_of_mem_projects hp
    rw [hproject] at hreference ⊢
    exact isOwnReference_of_mem_makefileReferences built isTree_spaced hnode hreference
  refine hall spacedTarget { mode := .manual } nodes built isTree_spaced (by decide) _ hp .makefile
    ((spacedTarget.site (projectsOf nodes)).resolve ⟨" app", " app"⟩ spacedReference) ?_ ?_
  · rw [EvidenceKind.found_makefile]
    exact List.mem_map_of_mem hreference
  · rw [Outcome.status_eq_invalid_iff]
    exact ⟨_, (outcome_eq_invalid_iff_losesRoot built isTree_spaced (by decide) hp own).2
      ⟨leadsElsewhere_spaced hprojects, rfl, rfl⟩⟩

end MakeAtlas.Inference.Target
