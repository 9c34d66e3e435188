import MakeAtlas.Proofs.Inference.ProjectPlaces

/-!
# Which project a file belongs to

Two things say which project a source file belongs to. A walk stops at folders with a Makefile of
their own, so a file is walked for one project only; the index takes the nearest root above the
file's path. Both hang on what lies between the project's folder and the file: no folder with a
Makefile for the walk, no folder whose Makefile is found for the index. They differ where a Makefile
is there but left out of the search for projects.

## Key results

- `isNearest_folderOf_iff`: a project is the nearest one above a file if none is found between them
- `walked_files_have_one_owner`: a file that is walked for a project belongs to it, and to it only
- `walked_unless_left_out`: which files of a project are walked
- `not_every_file_is_walked`: a file that is walked for no project
-/

namespace MakeAtlas.Inference.Target

open MakeAtlas.Path (IsAbove isName joined segments)
open MakeAtlas.RootIndex (IsNearest IsRoot)
open MakeAtlas.Workspace (FoundFile PassedOver WalkRules leavesOut makefileName)

variable {t : Target} {settings : Settings} {nodes : Table Node}
  (built : t.nodes settings = .ok nodes) (tree : t.tree.IsTree)
  (absolute : Path.isAnchored t.location.toList = true)

/-! ## The nearest project above a file -/

section Nearest

variable {node : Node} (hnode : node ∈ nodes.values) {steps : List String}
  {content : Text.Utf8.Bytes}
  (file : (Entry.folder (t.childrenOf node.project)).at? steps = some (.file content))

/-- A file is not its own folder. -/
private theorem ne_nil_of_file {children : List (String × Entry)}
    (file : (Entry.folder children).at? steps = some (.file content)) : steps ≠ [] := by
  rintro rfl
  cases file

include built tree absolute hnode file

/-- The names that lead to a file below a project's folder, from the workspace and from the folder
    on. -/
private theorem isName_of_file :
    (∀ n ∈ node.project.place, isName n = true) ∧ ∀ n ∈ steps, isName n = true := by
  obtain ⟨placed, -⟩ := isProjectAt_place built tree hnode
  have hfile := at?_childrenOf placed absolute (ne_nil_of_file file) file
  exact ⟨placed.isName, fun n hn => tree.isName_of_at? hfile n (List.mem_append_right _ hn)⟩

/-- The nearest root above a file below a project's folder is the project's, exactly if no folder
    on the way from there to the file is the place of another project. -/
theorem isNearest_folderOf_iff :
    IsNearest t.location (nodes.values.map Node.project) (t.folderOf node.project)
        (Disk.pathIn (t.folderOf node.project) (joined steps)) ↔
      ∀ between, between ≠ [] → between <+: steps →
        ¬ t.IsProjectAt (node.project.place ++ between) := by
  obtain ⟨placed, hplace⟩ := isProjectAt_place built tree hnode
  obtain ⟨hnames, hsteps⟩ := isName_of_file built tree absolute hnode file
  have hall : ∀ n ∈ node.project.place ++ steps, isName n = true :=
    List.forall_mem_append.2 ⟨hnames, hsteps⟩
  rw [pathIn_folderOf placed absolute hsteps (ne_nil_of_file file), folderOf_eq_resolve placed]
  constructor
  · intro hnearest between hbetween hprefix hproject
    have hnamesBetween := hproject.isName tree
    have habove : IsAbove (Path.resolve t.location (joined (node.project.place ++ between)))
        (Path.resolve t.location (joined (node.project.place ++ steps))) :=
      (Path.isAbove_resolve_iff absolute hnamesBetween hall).2
        ((List.prefix_append_right_inj _).2 hprefix)
    have hmost := hnearest.most _ ((isRoot_iff built tree).2 ⟨_, hproject, rfl⟩) habove
    -- the root between has more segments
    rw [Path.segments_resolve absolute hnames (List.forall_mem_append.1 hnamesBetween).2,
      List.length_append, List.length_map] at hmost
    have hlength := List.length_pos_iff.2 hbetween
    omega
  · intro hnone
    refine ⟨(isRoot_iff built tree).2 ⟨_, hplace, rfl⟩,
      (Path.isAbove_resolve_iff absolute hnames hall).2 (List.prefix_append _ _), ?_⟩
    intro other hother habove
    obtain ⟨more, hproject, rfl⟩ := (isRoot_iff built tree).1 hother
    have hmore := hproject.isName tree
    have hprefix := (Path.isAbove_resolve_iff absolute hmore hall).1 habove
    -- the other root is above the project's: there is none below it
    have hle : more <+: node.project.place := by
      rcases List.prefix_or_prefix_of_prefix hprefix (List.prefix_append _ steps) with
        hle | ⟨between, rfl⟩
      · exact hle
      · have hbetween : between = [] := by
          refine Decidable.byContradiction fun hbetween => hnone between hbetween ?_ hproject
          exact (List.prefix_append_right_inj _).1 hprefix
        simp [hbetween]
    exact ((Path.isAbove_resolve_iff absolute hmore hnames).2 hle).length_le

end Nearest

/-! ## Files that are walked -/

section Walked

include built tree absolute

/-- A project's folder is a tree of named files and folders, as the workspace is. -/
theorem isTree_childrenOf {node : Node} (hnode : node ∈ nodes.values) :
    (Entry.folder (t.childrenOf node.project)).IsTree := by
  obtain ⟨placed, -⟩ := isProjectAt_place built tree hnode
  cases hchildren : t.childrenOf node.project with
  | nil => exact ⟨rfl, rfl⟩
  | cons child rest =>
    obtain ⟨name, entry⟩ := child
    have hentry : (Entry.folder (t.childrenOf node.project)).at? [name] = some entry :=
      Workspace.at?_singleton (by rw [hchildren, Table.get?, if_pos rfl])
    have hfolder := tree_at?_place placed absolute (List.cons_ne_nil name []) hentry
    rw [← hchildren]
    exact tree.of_at? hfolder

/-- What a walk yields for a project can be reached in the project's folder. -/
theorem reaches_of_walked {node : Node} (hnode : node ∈ nodes.values) {rules : WalkRules}
    {limit : Option Int} {f : FoundFile} (hf : f ∈ rules.walk limit (t.childrenOf node.project)) :
    rules.Reaches (.folder (t.childrenOf node.project)) f.steps f.content :=
  Workspace.reaches_of_mem_walk (isTree_childrenOf built tree absolute hnode).wellNamed hf

/-- The names that lead to a file that is walked. -/
theorem isName_of_walked {node : Node} (hnode : node ∈ nodes.values) {rules : WalkRules}
    {limit : Option Int} {f : FoundFile} (hf : f ∈ rules.walk limit (t.childrenOf node.project)) :
    ∀ n ∈ f.steps, isName n = true :=
  (isName_of_file built tree absolute hnode
    (reaches_of_walked built tree absolute hnode hf).isFile).2

/-- The absolute path of a file that is walked is that of its place in the workspace. -/
theorem pathIn_walked {node : Node} (hnode : node ∈ nodes.values) {rules : WalkRules}
    {limit : Option Int} {f : FoundFile} (hf : f ∈ rules.walk limit (t.childrenOf node.project)) :
    Disk.pathIn (t.folderOf node.project) f.path =
      Path.resolve t.location (joined (node.project.place ++ f.steps)) := by
  obtain ⟨placed, -⟩ := isProjectAt_place built tree hnode
  exact pathIn_folderOf placed absolute (isName_of_walked built tree absolute hnode hf)
    (ne_nil_of_file (reaches_of_walked built tree absolute hnode hf).isFile)

/-- A project is the nearest one above every file that is walked for it. -/
theorem isNearest_of_walked {node : Node} (hnode : node ∈ nodes.values) {rules : WalkRules}
    {limit : Option Int} {f : FoundFile} (hf : f ∈ rules.walk limit (t.childrenOf node.project)) :
    IsNearest t.location (nodes.values.map Node.project) (t.folderOf node.project)
      (Disk.pathIn (t.folderOf node.project) f.path) := by
  obtain ⟨placed, -⟩ := isProjectAt_place built tree hnode
  have hreaches := reaches_of_walked built tree absolute hnode hf
  have hfolder := tree_at?_place placed absolute (ne_nil_of_file hreaches.isFile) hreaches.isFile
  refine (isNearest_folderOf_iff built tree absolute hnode hreaches.isFile).2 ?_
  intro between hbetween hprefix hproject
  -- a project between the two has its Makefile in the folder that is walked
  have hmakefile := hproject.holdsMakefile
  rw [Workspace.holdsMakefileAt_append hfolder] at hmakefile
  exact hreaches.notPassedOver ((Workspace.passedOver_iff hreaches.isFile).2
    (Or.inr ⟨between, hbetween, hprefix, hmakefile⟩))

/-- Files with the same path are walked for the same project. -/
theorem eq_of_walked_eq {node other : Node} (hnode : node ∈ nodes.values)
    (hother : other ∈ nodes.values) {rules otherRules : WalkRules} {limit otherLimit : Option Int}
    {f g : FoundFile} (hf : f ∈ rules.walk limit (t.childrenOf node.project))
    (hg : g ∈ otherRules.walk otherLimit (t.childrenOf other.project))
    (hpath : Disk.pathIn (t.folderOf other.project) g.path =
      Disk.pathIn (t.folderOf node.project) f.path) : other = node := by
  have hnearest := isNearest_of_walked built tree absolute hnode hf
  have honearest := isNearest_of_walked built tree absolute hother hg
  rw [hpath] at honearest
  exact eq_of_folderOf_eq built tree absolute hother hnode (hnearest.unique absolute honearest)

/-- In a workspace whose projects have different names: whatever is looked for and passed over, and
    however many files a walk may yield, every file that is walked for a project belongs to that
    project and no other, and is walked for no other. -/
theorem walked_files_have_one_owner (distinct : (nodes.values.map Node.name).Nodup)
    (rules : WalkRules) (limit : Option Int) (node : Node) (hnode : node ∈ nodes.values)
    (f : FoundFile) (hf : f ∈ rules.walk limit (t.childrenOf node.project)) :
    (t.site (projectsOf nodes)).atlas.index.owners
        (Disk.pathIn (t.folderOf node.project) f.path) = [node.name] ∧
      ∀ other ∈ nodes.values, ∀ (otherRules : WalkRules) (otherLimit : Option Int),
        ∀ g ∈ otherRules.walk otherLimit (t.childrenOf other.project),
          Disk.pathIn (t.folderOf other.project) g.path =
            Disk.pathIn (t.folderOf node.project) f.path → other = node := by
  -- as the names are different, no project takes another one's entry
  have hprojects : (projectsOf nodes).values = nodes.values.map Node.project := by
    have hkeys : (Table.keys (nodes.values.map fun node => (node.name, node.project))).Nodup := by
      rw [Table.keys, List.map_map]
      exact distinct
    rw [projectsOf, Table.ofList_eq_self hkeys, Table.values, List.map_map]
    rfl
  constructor
  · have hp : node.project ∈ (projectsOf nodes).values := by
      rw [hprojects]
      exact List.mem_map_of_mem hnode
    have hnearest : IsNearest t.location (projectsOf nodes).values (t.folderOf node.project)
        (Disk.pathIn (t.folderOf node.project) f.path) := by
      rw [hprojects]
      exact isNearest_of_walked built tree absolute hnode hf
    have hsettled : Path.IsSettled (Disk.pathIn (t.folderOf node.project) f.path) := by
      rw [pathIn_walked built tree absolute hnode hf]
      exact Path.isSettled_resolve absolute _
    show (RootIndex.ofProjects t.location (projectsOf nodes).values).owners _ = _
    rw [RootIndex.owners_eq_namesAt absolute hsettled hnearest,
      namesAt_eq_singleton built tree absolute hp, Node.project]
  · intro other hother otherRules otherLimit g hg hpath
    exact eq_of_walked_eq built tree absolute hnode hother hf hg hpath

end Walked

/-- A workspace that is a project of its own, with another one inside. -/
def nestedTarget : Target where
  disk := ⟨[("w", .folder [
    ("Makefile", .file (Text.Utf8.encode "all:\n")),
    ("main.c", .file []),
    ("lib", .folder [
      ("Makefile", .file (Text.Utf8.encode "all:\n")),
      ("src", .folder [("lib.c", .file [])])])])]⟩
  toolchain := ⟨fun _ => false, fun _ => .missing, fun _ _ => .missing⟩
  location := "/w"

/-- The source of the inner project belongs to the inner project, and is walked for no other. -/
theorem walked_files_have_one_owner_nested : ∃ nodes, nestedTarget.nodes {} = .ok nodes ∧
    nestedTarget.tree.IsTree ∧ Path.isAnchored nestedTarget.location.toList = true ∧
    (nodes.values.map Node.name).Nodup ∧ ∃ node ∈ nodes.values, node.project = ⟨"lib", "lib"⟩ ∧
      ⟨["src", "lib.c"], []⟩ ∈ WalkRules.walk ⟨[".c"], []⟩ none
        (nestedTarget.childrenOf node.project) ∧
      (nestedTarget.site (projectsOf nodes)).atlas.index.owners "/w/lib/src/lib.c" = ["lib"] ∧
      ∀ other ∈ nodes.values, ∀ limit, ∀ g ∈ WalkRules.walk ⟨[".c"], []⟩ limit
        (nestedTarget.childrenOf other.project),
        Disk.pathIn (nestedTarget.folderOf other.project) g.path = "/w/lib/src/lib.c" →
          other = node := by
  obtain ⟨nodes, built, hprojects⟩ : ∃ nodes, nestedTarget.nodes {} = .ok nodes ∧
      nodes.values.map Node.project = [⟨"root", "."⟩, ⟨"lib", "lib"⟩] :=
    exists_nodes_of_projects (by decide +kernel) (by decide +kernel) (by decide +kernel)
      (by decide +kernel)
  have tree : nestedTarget.tree.IsTree := by decide +kernel
  have distinct : (nodes.values.map Node.name).Nodup := by
    have hnames : nodes.values.map Node.name = ["root", "lib"] := by
      have := congrArg (List.map Project.name) hprojects
      rwa [List.map_map] at this
    rw [hnames]
    decide
  obtain ⟨node, hnode, hproject⟩ : ∃ node ∈ nodes.values, node.project = ⟨"lib", "lib"⟩ := by
    rw [← List.mem_map, hprojects]
    decide
  have hf : ⟨["src", "lib.c"], []⟩ ∈ WalkRules.walk ⟨[".c"], []⟩ none
      (nestedTarget.childrenOf node.project) := by
    rw [hproject, Workspace.mem_walk_iff (by decide +kernel)]
    exact Workspace.reaches_folder_iff.2 (Or.inr ⟨"src", ["lib.c"], _, rfl, rfl, by decide,
      by decide, Workspace.reaches_folder_iff.2 (Or.inl ⟨"lib.c", rfl, rfl, by decide⟩)⟩)
  have hpath : Disk.pathIn (nestedTarget.folderOf node.project)
      (FoundFile.path ⟨["src", "lib.c"], []⟩) = "/w/lib/src/lib.c" := by
    rw [hproject]
    decide +kernel
  obtain ⟨howner, honly⟩ := walked_files_have_one_owner built tree (by decide) distinct
    ⟨[".c"], []⟩ none node hnode _ hf
  rw [hpath] at howner honly
  have hname : node.name = "lib" := congrArg Project.name hproject
  rw [hname] at howner
  exact ⟨nodes, built, tree, by decide, distinct, node, hnode, hproject, hf, howner,
    fun other hother limit g hg => honly other hother _ limit g hg⟩

/-! ## Files that no walk reaches -/

/-- A folder on the way from a project to a file below it holds a Makefile that is left out of the
    search for projects: a pattern names it, or a folder on the way to it. -/
def HidesMakefile (t : Target) (p : Project) (steps : List String) : Prop :=
  ∃ between, between ≠ [] ∧ between <+: steps ∧
    t.tree.holdsMakefileAt (p.place ++ between) = true ∧
    leavesOut t.ignores [] (p.place ++ between ++ [makefileName]) = true

section Covered

include built tree absolute

/-- Of the files that a walk looks for, and that are below no folder with an excluded name, those of
    the nearest project above them are walked for it, unless a folder in between holds a Makefile
    that is left out of the search; and then they are walked for no project. -/
theorem walked_unless_left_out (node : Node) (hnode : node ∈ nodes.values) (rules : WalkRules)
    (steps : List String) (content : Text.Utf8.Bytes)
    (file : (Entry.folder (t.childrenOf node.project)).at? steps = some (.file content))
    (admitted : ∃ name ∈ steps.getLast?, rules.admits name = true)
    (notExcluded : ∀ name ∈ steps.dropLast, name ∉ rules.excludeDirs)
    (nearest : IsNearest t.location (nodes.values.map Node.project) (t.folderOf node.project)
      (Disk.pathIn (t.folderOf node.project) (joined steps))) :
    (⟨steps, content⟩ ∈ rules.walk none (t.childrenOf node.project) ↔
        ¬ t.HidesMakefile node.project steps) ∧
      (t.HidesMakefile node.project steps → ∀ other ∈ nodes.values,
        ∀ limit, ∀ g ∈ rules.walk limit (t.childrenOf other.project),
          Disk.pathIn (t.folderOf other.project) g.path ≠
            Disk.pathIn (t.folderOf node.project) (joined steps)) := by
  obtain ⟨placed, -⟩ := isProjectAt_place built tree hnode
  have hfolder := tree_at?_place placed absolute (ne_nil_of_file file) file
  have hwell := (isTree_childrenOf built tree absolute hnode).wellNamed
  have hnone := (isNearest_folderOf_iff built tree absolute hnode file).1 nearest
  -- below the nearest project, a Makefile on the way is one that is left out
  have hpassed : PassedOver rules.excludeDirs (.folder (t.childrenOf node.project))
      (.folder (t.childrenOf node.project)) steps ↔ t.HidesMakefile node.project steps := by
    rw [Workspace.passedOver_iff file, or_iff_right (by simpa using notExcluded)]
    refine exists_congr fun between => and_congr_right fun hbetween =>
      and_congr_right fun hprefix => ?_
    rw [← Workspace.holdsMakefileAt_append hfolder]
    constructor
    · intro hmakefile
      refine ⟨hmakefile, ?_⟩
      rw [← Bool.not_eq_false]
      exact fun hfound => hnone between hbetween hprefix ⟨hmakefile, hfound⟩
    · exact And.left
  have hwalked : ⟨steps, content⟩ ∈ rules.walk none (t.childrenOf node.project) ↔
      ¬ t.HidesMakefile node.project steps := by
    rw [Workspace.mem_walk_iff hwell, ← hpassed]
    exact ⟨fun h => h.notPassedOver, fun h => ⟨file, admitted, h⟩⟩
  refine ⟨hwalked, ?_⟩
  intro hhides other hother limit g hg hpath
  have hreaches := reaches_of_walked built tree absolute hother hg
  -- the project that it is walked for would be the nearest one
  have honearest := isNearest_of_walked built tree absolute hother hg
  rw [hpath] at honearest
  have hsame := eq_of_folderOf_eq built tree absolute hother hnode
    (nearest.unique absolute honearest)
  subst hsame
  obtain ⟨hnames, hsteps⟩ := isName_of_file built tree absolute hnode file
  have hgsteps := isName_of_walked built tree absolute hnode hg
  rw [pathIn_walked built tree absolute hother hg,
    pathIn_folderOf placed absolute hsteps (ne_nil_of_file file)] at hpath
  have hplace : other.project.place ++ g.steps = other.project.place ++ steps :=
    Path.resolve_joined_injective absolute (List.forall_mem_append.2 ⟨hnames, hgsteps⟩)
      (List.forall_mem_append.2 ⟨hnames, hsteps⟩) hpath
  rw [List.append_cancel_left hplace] at hreaches
  exact hreaches.notPassedOver (hpassed.2 hhides)

end Covered

/-- A workspace that ignores a folder with foreign sources and a Makefile of their own. -/
def vendoringTarget : Target where
  disk := ⟨[("w", .folder [
    (".gitignore", .file (Text.Utf8.encode "vendor\n")),
    ("Makefile", .file (Text.Utf8.encode "all:\n")),
    ("main.c", .file []),
    ("vendor", .folder [("Makefile", .file (Text.Utf8.encode "all:\n")), ("x.c", .file [])])])]⟩
  toolchain := ⟨fun _ => false, fun _ => .missing, fun _ _ => .missing⟩
  location := "/w"

/-- The only project of the workspace is the workspace itself. -/
private theorem exists_node_vendoring : ∃ nodes, vendoringTarget.nodes {} = .ok nodes ∧
    nodes.values.map Node.project = [⟨"root", "."⟩] ∧
    ∃ node ∈ nodes.values, node.project = ⟨"root", "."⟩ := by
  obtain ⟨nodes, built, hprojects⟩ : ∃ nodes, vendoringTarget.nodes {} = .ok nodes ∧
      nodes.values.map Node.project = [⟨"root", "."⟩] :=
    exists_nodes_of_projects (by decide +kernel) (by decide +kernel) (by decide +kernel)
      (by decide +kernel)
  refine ⟨nodes, built, hprojects, ?_⟩
  rw [← List.mem_map, hprojects]
  exact List.mem_cons_self

private theorem isTree_vendoring : vendoringTarget.tree.IsTree := by decide +kernel

/-- The workspace's own source is walked for it, the foreign one for no project. -/
theorem walked_unless_left_out_vendoring : ∃ nodes, vendoringTarget.nodes {} = .ok nodes ∧
    vendoringTarget.tree.IsTree ∧ Path.isAnchored vendoringTarget.location.toList = true ∧
    ∃ node ∈ nodes.values, node.project = ⟨"root", "."⟩ ∧
      ⟨["main.c"], []⟩ ∈ WalkRules.walk ⟨[".c"], ["build"]⟩ none
        (vendoringTarget.childrenOf node.project) ∧
      ∀ other ∈ nodes.values, ∀ limit, ∀ g ∈ WalkRules.walk ⟨[".c"], ["build"]⟩ limit
        (vendoringTarget.childrenOf other.project),
          Disk.pathIn (vendoringTarget.folderOf other.project) g.path ≠
            Disk.pathIn (vendoringTarget.folderOf node.project) "vendor/x.c" := by
  obtain ⟨nodes, built, hprojects, node, hnode, hproject⟩ := exists_node_vendoring
  have hown := walked_unless_left_out built isTree_vendoring (by decide) node hnode
    ⟨[".c"], ["build"]⟩ ["main.c"] [] (by rw [hproject]; rfl) ⟨"main.c", rfl, by decide⟩
    (by decide) (by rw [hprojects, hproject]; decide)
  have hforeign := walked_unless_left_out built isTree_vendoring (by decide) node hnode
    ⟨[".c"], ["build"]⟩ ["vendor", "x.c"] [] (by rw [hproject]; rfl) ⟨"x.c", rfl, by decide⟩
    (by decide) (by rw [hprojects, hproject]; decide)
  have hhides : vendoringTarget.HidesMakefile node.project ["vendor", "x.c"] := by
    rw [hproject]
    exact ⟨["vendor"], by decide, ⟨["x.c"], rfl⟩, by decide +kernel, by decide +kernel⟩
  have hopen : ¬ vendoringTarget.HidesMakefile node.project ["main.c"] := by
    rw [hproject]
    rintro ⟨between, hbetween, hprefix, hmakefile, -⟩
    -- nothing but the file itself is on its way
    rcases List.prefix_cons_iff.1 hprefix with hnil | ⟨rest, rfl, hrest⟩
    · exact hbetween hnil
    · rw [List.prefix_nil.1 hrest] at hmakefile
      revert hmakefile
      decide +kernel
  exact ⟨nodes, built, isTree_vendoring, by decide, node, hnode, hproject, hown.1.2 hopen,
    hforeign.2 hhides⟩

/-- Not every file is walked for the nearest project above it: the foreign source is not. -/
theorem not_every_file_is_walked :
    ¬ ∀ (t : Target) (settings : Settings) (nodes : Table Node), t.nodes settings = .ok nodes →
      t.tree.IsTree → Path.isAnchored t.location.toList = true → ∀ node ∈ nodes.values,
      ∀ (rules : WalkRules) (steps : List String) (content : Text.Utf8.Bytes),
        (Entry.folder (t.childrenOf node.project)).at? steps = some (.file content) →
        (∃ name ∈ steps.getLast?, rules.admits name = true) →
        (∀ name ∈ steps.dropLast, name ∉ rules.excludeDirs) →
        IsNearest t.location (nodes.values.map Node.project) (t.folderOf node.project)
          (Disk.pathIn (t.folderOf node.project) (joined steps)) →
        ⟨steps, content⟩ ∈ rules.walk none (t.childrenOf node.project) := by
  intro hall
  obtain ⟨nodes, built, hprojects, node, hnode, hproject⟩ := exists_node_vendoring
  have hwalked := hall vendoringTarget {} nodes built isTree_vendoring (by decide) node hnode
    ⟨[".c"], ["build"]⟩ ["vendor", "x.c"] [] (by rw [hproject]; rfl) ⟨"x.c", rfl, by decide⟩
    (by decide) (by rw [hprojects, hproject]; decide)
  rw [hproject, Workspace.mem_walk_iff (by decide +kernel)] at hwalked
  -- the walk stops at the folder's Makefile
  refine hwalked.notPassedOver ⟨[], "vendor", ["x.c"], rfl, by decide, Or.inr ⟨?_, ?_⟩⟩ <;>
    decide +kernel

end MakeAtlas.Inference.Target
