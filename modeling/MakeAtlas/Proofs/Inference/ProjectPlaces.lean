import MakeAtlas.Proofs.Inference.Attempts
import MakeAtlas.Proofs.Inference.OwnFiles
import MakeAtlas.Proofs.Resolution.NearestRoot
import MakeAtlas.Proofs.Workspace.Discovered
import MakeAtlas.Proofs.Workspace.Walking
import Mathlib.Data.List.Nodup

/-!
# Where the projects of a workspace lie

The nodes of a workspace come from the Makefiles that are found in it. So a node tells the names
that lead to its folder, no two nodes lie in the same folder, and the folder of a node, its root
seen from the file system, and the entries that are read for it all belong to these names.

## Key results

- `isProjectAt_place`: every node lies at the place of a Makefile that is found
- `exists_node`: every such place has its node
- `isRoot_iff`: the absolute roots of the nodes
- `at?_childrenOf`: the entries of a project's folder are those of the workspace at its place
- `namesAt_eq_singleton`: one project at each root
- `owners_eq_nil_or_singleton`: no path has two owners
-/

namespace MakeAtlas

open MakeAtlas.Path (isName joined rootText)
open MakeAtlas.Workspace (makefileName leavesOut)

/-- The names that lead from the workspace to a project's folder. -/
def Project.place (p : Project) : List String :=
  (Path.steps p.root.toList).map String.ofList

/-- A project's root is the text for the names that lead to its folder. -/
structure Project.IsPlaced (p : Project) : Prop where
  isName : ∀ n ∈ p.place, isName n = true
  root_eq : p.root = rootText p.place

theorem Project.place_eq {p : Project} {names : List String} (h : ∀ n ∈ names, isName n = true)
    (hroot : p.root = rootText names) : p.place = names := by
  have hid : String.ofList ∘ String.toList = id := funext fun _ => String.ofList_toList
  rw [place, hroot, Path.steps_rootText h, List.map_map, hid, List.map_id]

namespace Workspace

/-- The Makefiles of a workspace are those found below the entries of its folder. -/
theorem makefiles_eq_ok {disk : Disk} {location : String} {extra found : List String}
    (h : makefiles disk location extra = .ok found) :
    found = makefilesIn (disk.childrenAt (Path.absolute "/" location)) extra := by
  have hnone : makefilesIn [] extra = [] :=
    makefilesIn_eq_of_pairwise List.Pairwise.nil
  unfold makefiles at h
  dsimp only at h
  by_cases hused : Disk.CanBeUsed (Path.absolute "/" location)
  · rw [Disk.find_of_canBeUsed hused] at h
    rw [Disk.childrenAt]
    cases hfollow : Disk.follow [] (.folder disk.root)
        (Disk.placeOf (Path.absolute "/" location)) with
    | ok entry =>
      rw [hfollow] at h
      cases entry <;> cases h <;> rfl
    | error fault =>
      -- a path that can be used leads nowhere, or through a name that is too long
      rw [hfollow] at h
      simp only [Except.mapError] at h
      split at h
      · cases h
      · split at h
        · cases h
        · cases h
          exact hnone.symm
  · have hfault : ∀ e, disk.find "/" (Path.absolute "/" location) = .error e →
        e.fault = .nullByte ∨ e.fault = .nameTooLong := by
      intro e he
      unfold Disk.find at he
      split at he
      · cases he
        exact Or.inl rfl
      · next hnul =>
        rw [if_pos] at he
        · cases he
          exact Or.inr rfl
        · simp only [Disk.CanBeUsed, not_and, Nat.not_le] at hused
          exact hused (by simpa using hnul)
    obtain ⟨e, he⟩ := Disk.exists_find_eq_error hused disk
    rw [he] at h
    rcases hfault e he with hnul | hlong
    · simp [hnul] at h
    · simp [hlong] at h

end Workspace

namespace Inference

/-! ## Nodes of Makefiles -/

/-- A node is made of the text of its Makefile, which may not be there. -/
theorem exists_text_of_nodeOf {disk : Disk} {location : String} {settings : Settings}
    {makefile : String} {node : Node} (h : nodeOf disk location settings makefile = .ok node) :
    ∃ text, node = nodeOfText settings makefile text := by
  unfold nodeOf at h
  cases htext : disk.readText (Disk.pathIn location (Path.normalize makefile)) with
  | error e =>
    rw [htext] at h
    exact nomatch h
  | ok text =>
    rw [htext] at h
    exact ⟨text, (Except.ok.inj h).symm⟩

/-- If all nodes can be made, every Makefile has one, made of the text of the Makefile. -/
theorem createNodes_eq_ok {disk : Disk} {location : String} {settings : Settings}
    {makefiles : List String} {made : List (String × Node)}
    (h : createNodes disk location settings makefiles = .ok made) :
    (∀ makefile ∈ makefiles, ∃ node, (makefile, node) ∈ made) ∧
      ∀ entry ∈ made, entry.1 ∈ makefiles ∧
        ∃ text, entry.2 = nodeOfText settings entry.1 text := by
  have hdivides := divides_of_createNodes_ok h
  have hkeys := hdivides.map_fst_eq
  constructor
  · intro makefile hmakefile
    rw [← hkeys] at hmakefile
    obtain ⟨⟨key, node⟩, hentry, rfl⟩ := List.mem_map.1 hmakefile
    exact ⟨node, hentry⟩
  · intro entry hentry
    refine ⟨?_, exists_text_of_nodeOf (hdivides.made_run entry hentry)⟩
    rw [← hkeys]
    exact List.mem_map_of_mem hentry

/-- The node of a Makefile lies at the place of the Makefile's folder. -/
theorem root_nodeOfText (settings : Settings) {names : List String}
    (h : ∀ n ∈ names, isName n = true) (text : Option (List Char)) :
    (nodeOfText settings (joined (names ++ [makefileName])) text).root = rootText names := by
  have hname : isName makefileName = true := by decide
  have hall : ∀ n ∈ names ++ [makefileName], isName n = true :=
    List.forall_mem_append.2 ⟨h, List.forall_mem_singleton.2 hname⟩
  have hnormal : Path.normalize (joined (names ++ [makefileName])) =
      joined (names ++ [makefileName]) := by
    rw [Path.normalize_joined hall, Path.rootText_of_ne_nil (by simp)]
  rw [nodeOfText, hnormal, Path.rootOf_joined h hname]

namespace Target

variable {t : Target} {settings : Settings} {nodes : Table Node} {names : List String}

/-- The workspace as a tree of files and folders. -/
def tree (t : Target) : Entry :=
  .folder (t.disk.childrenAt (Path.absolute "/" t.location))

theorem children_tree (t : Target) :
    t.tree.children = t.disk.childrenAt (Path.absolute "/" t.location) := by
  rw [tree, Entry.children]

/-- The patterns that say what is no part of the workspace. -/
def ignores (t : Target) : List String :=
  Workspace.ignoresFor (t.disk.childrenAt (Path.absolute "/" t.location)) []

/-- Names lead to a folder of the workspace whose Makefile is found. -/
structure IsProjectAt (t : Target) (names : List String) : Prop where
  holdsMakefile : t.tree.holdsMakefileAt names = true
  notLeftOut : leavesOut t.ignores [] (names ++ [makefileName]) = false

theorem IsProjectAt.isName (h : t.IsProjectAt names) (tree : t.tree.IsTree) :
    ∀ n ∈ names, isName n = true := by
  obtain ⟨content, hfile⟩ := Workspace.holdsMakefileAt_iff.1 h.holdsMakefile
  exact fun n hn => tree.isName_of_at? hfile n (List.mem_append_left _ hn)

/-! ## Nodes and places -/

/-- The nodes of a workspace are made of the Makefiles in it. -/
theorem exists_made (built : t.nodes settings = .ok nodes) :
    Workspace.makefiles t.disk t.location [] =
      .ok (Workspace.makefilesIn (t.disk.childrenAt (Path.absolute "/" t.location)) []) ∧
    ∃ made, createNodes t.disk t.location settings
        (Workspace.makefilesIn (t.disk.childrenAt (Path.absolute "/" t.location)) []) = .ok made ∧
      nodes = byRoot made := by
  unfold Target.nodes buildNodes at built
  cases hmakefiles : Workspace.makefiles t.disk t.location [] with
  | error e => rw [hmakefiles] at built; cases built
  | ok makefiles =>
    rw [hmakefiles] at built
    cases hmade : createNodes t.disk t.location settings makefiles with
    | error e =>
      simp only [Except.mapError, bind, Except.bind, hmade] at built
      cases built
    | ok made =>
      simp only [Except.mapError, bind, Except.bind, hmade] at built
      cases built
      rw [← Workspace.makefiles_eq_ok hmakefiles]
      exact ⟨rfl, made, hmade, rfl⟩

/-- The folder of a workspace that holds anything is found. -/
theorem find_eq_tree (used : Disk.CanBeUsed (Path.absolute "/" t.location))
    (holds : t.tree.children.isEmpty = false) :
    t.disk.find "/" (Path.absolute "/" t.location) = .ok t.tree := by
  rw [Disk.find_of_canBeUsed used, tree]
  rw [children_tree] at holds
  unfold Disk.childrenAt at holds ⊢
  split at holds
  · next children hfollow => rw [hfollow]; rfl
  · cases holds

/-- The projects of a workspace whose Makefiles are found in order. -/
theorem exists_nodes_of_projects {projects : List Project}
    (used : Disk.CanBeUsed (Path.absolute "/" t.location))
    (holds : t.tree.children.isEmpty = false)
    (sorted : (Workspace.makefilesBelow t.ignores "" t.tree.children).Pairwise (· ≤ ·))
    (made : ((createNodes t.disk t.location settings
        (Workspace.makefilesBelow t.ignores "" t.tree.children)).toOption.map fun made =>
      (byRoot made).values.map Node.project) = some projects) :
    ∃ nodes, t.nodes settings = .ok nodes ∧ nodes.values.map Node.project = projects := by
  have hmakefiles : Workspace.makefiles t.disk t.location [] =
      .ok (Workspace.makefilesBelow t.ignores "" t.tree.children) := by
    rw [Workspace.makefiles_of_find (find_eq_tree used holds)]
    rw [ignores, children_tree] at sorted ⊢
    exact congrArg Except.ok (Workspace.makefilesIn_eq_of_pairwise sorted)
  cases hmade : createNodes t.disk t.location settings
      (Workspace.makefilesBelow t.ignores "" t.tree.children) with
  | error e =>
    rw [hmade] at made
    exact nomatch made
  | ok entries =>
    rw [hmade] at made
    refine ⟨byRoot entries, ?_, Option.some.inj made⟩
    unfold Target.nodes buildNodes
    rw [hmakefiles]
    simp only [Except.mapError, bind, Except.bind, hmade]

section Nodes

variable (built : t.nodes settings = .ok nodes) (tree : t.tree.IsTree)

include built tree

/-- An entry of the table of nodes stands under its root, which is the place of a Makefile that is
    found. -/
private theorem isProjectAt_of_mem {key : String} {node : Node} (h : (key, node) ∈ nodes) :
    key = node.root ∧ ∃ names, t.IsProjectAt names ∧ node.root = rootText names := by
  obtain ⟨-, made, hmade, rfl⟩ := exists_made built
  obtain ⟨⟨makefile, other⟩, hother, hentry⟩ := List.mem_map.1 (Table.mem_of_mem_ofList h)
  cases hentry
  obtain ⟨hmakefile, text, htext⟩ := (createNodes_eq_ok hmade).2 _ hother
  obtain ⟨names, content, hfile, hout, rfl⟩ := (Workspace.mem_makefilesIn_iff tree).1 hmakefile
  have hplace : t.IsProjectAt names :=
    ⟨Workspace.holdsMakefileAt_iff.2 ⟨content, hfile⟩, hout⟩
  have hroot : node.root = rootText names := by
    rw [show node = _ from htext, root_nodeOfText settings (hplace.isName tree)]
  exact ⟨rfl, names, hplace, hroot⟩

/-- Every node lies at the place of a Makefile that is found. -/
theorem isProjectAt_place {node : Node} (h : node ∈ nodes.values) :
    node.project.IsPlaced ∧ t.IsProjectAt node.project.place := by
  obtain ⟨⟨key, found⟩, hentry, rfl⟩ := List.mem_map.1 h
  obtain ⟨-, names, hplace, hroot⟩ := isProjectAt_of_mem built tree hentry
  have hnames : found.project.place = names := Project.place_eq (hplace.isName tree) hroot
  subst hnames
  exact ⟨⟨hplace.isName tree, hroot⟩, hplace⟩

/-- Every Makefile that is found has its node. -/
theorem exists_node (h : t.IsProjectAt names) :
    ∃ node ∈ nodes.values, node.root = rootText names := by
  have hmakefile : joined (names ++ [makefileName]) ∈
      Workspace.makefilesIn (t.disk.childrenAt (Path.absolute "/" t.location)) [] := by
    obtain ⟨content, hfile⟩ := Workspace.holdsMakefileAt_iff.1 h.holdsMakefile
    exact (Workspace.mem_makefilesIn_iff tree).2 ⟨names, content, hfile, h.notLeftOut, rfl⟩
  obtain ⟨-, made, hmade, hnodes⟩ := exists_made built
  obtain ⟨hevery, hmadeOf⟩ := createNodes_eq_ok hmade
  obtain ⟨node, hnode⟩ := hevery _ hmakefile
  obtain ⟨-, text, htext⟩ := hmadeOf _ hnode
  have hroot : node.root = rootText names := by
    rw [show node = _ from htext, root_nodeOfText settings (h.isName tree)]
  -- the table may hold a later node of the same root
  have hkey : rootText names ∈ nodes.keys := by
    rw [hnodes, byRoot, Table.mem_keys_ofList]
    exact ⟨(node.root, node), List.mem_map.2 ⟨_, hnode, rfl⟩, hroot⟩
  obtain ⟨⟨_, found⟩, hfound, hkey⟩ := List.mem_map.1 hkey
  obtain ⟨hfoundRoot, -⟩ := isProjectAt_of_mem built tree hfound
  exact ⟨found, List.mem_map_of_mem hfound, hfoundRoot.symm.trans hkey⟩

/-- No two nodes have the same root. -/
theorem eq_of_root_eq {node other : Node} (h : node ∈ nodes.values) (ho : other ∈ nodes.values)
    (hroot : node.root = other.root) : node = other := by
  obtain ⟨⟨key, _⟩, hentry, rfl⟩ := List.mem_map.1 h
  obtain ⟨⟨okey, _⟩, hoentry, rfl⟩ := List.mem_map.1 ho
  have hkey := (isProjectAt_of_mem built tree hentry).1
  have hokey := (isProjectAt_of_mem built tree hoentry).1
  have hnodup : nodes.keys.Nodup := by
    obtain ⟨-, made, -, rfl⟩ := exists_made built
    exact Table.nodup_keys_ofList _
  subst hkey hokey
  have hfound := (Table.get?_eq_some_iff_mem hnodup).2 hentry
  rw [hroot, (Table.get?_eq_some_iff_mem hnodup).2 hoentry, Option.some.injEq] at hfound
  exact hfound.symm

end Nodes

/-! ## Folders and absolute roots -/

/-- The names that lead to the workspace. -/
theorem placeOf_absolute (absolute : Path.isAnchored t.location.toList = true) :
    Disk.placeOf (Path.absolute "/" t.location) =
      (Path.collapse true (Path.steps t.location.toList)).map String.ofList := by
  have hsteps : Path.steps (Path.absolute "/" t.location).toList =
      Path.collapse true (Path.steps t.location.toList) := by
    rw [Path.absolute, String.toList_ofList, Path.steps_cons_slash,
      Path.append_of_isAnchored absolute]
    exact Path.steps_joinSteps fun _ hstep =>
      Path.isStep_of_mem_steps (Path.mem_of_mem_collapse hstep)
  rw [Disk.placeOf_eq, hsteps]

/-- If anything is found in a project's folder, which lies below the workspace, then the folder is
    the one of the workspace at the names that lead there. -/
theorem tree_at?_of_placeOf {p : Project} (absolute : Path.isAnchored t.location.toList = true)
    (hplace : t.placeOf p = Disk.placeOf (Path.absolute "/" t.location) ++ names)
    {steps : List String} (hsteps : steps ≠ []) {entry : Entry}
    (hentry : (Entry.folder (t.childrenOf p)).at? steps = some entry) :
    t.tree.at? names = some (.folder (t.childrenOf p)) := by
  have hdown : ".." ∉ t.placeOf p := Disk.up_not_mem_placeOf absolute p.root
  have hfound : Disk.follow [] (.folder t.disk.root) (t.placeOf p) =
      .ok (.folder (t.childrenOf p)) := by
    rw [childrenOf, Disk.childrenAt] at hentry ⊢
    split at hentry
    · next children hfollow => rw [placeOf, hfollow]
    · -- in a folder without entries nothing is found
      obtain ⟨step, rest, rfl⟩ := List.exists_cons_of_ne_nil hsteps
      cases hentry
  rw [hplace] at hfound hdown
  obtain ⟨hshort, hat⟩ := (Disk.follow_eq_ok_iff hdown).1 hfound
  rw [Entry.at?_append, Option.bind_eq_some_iff] at hat
  obtain ⟨workspace, hworkspace, hat⟩ := hat
  have hfollow : Disk.follow [] (.folder t.disk.root)
      (Disk.placeOf (Path.absolute "/" t.location)) = .ok workspace :=
    (Disk.follow_eq_ok_iff fun hup => hdown (List.mem_append_left _ hup)).2
      ⟨fun step hstep => hshort step (List.mem_append_left _ hstep), hworkspace⟩
  have htree : t.tree = workspace := by
    rw [tree, Disk.childrenAt, hfollow]
    cases workspace with
    | folder children => rfl
    | file content =>
      -- nothing is below a file
      cases names with
      | nil => cases hat
      | cons name rest => cases hat
  rw [htree, hat]

section Folders

variable {p : Project} (placed : p.IsPlaced)

include placed

theorem folderOf_eq_resolve (t : Target) :
    t.folderOf p = Path.resolve t.location (joined p.place) := by
  rw [folderOf, placed.root_eq, Path.resolve_rootText placed.isName]

/-- The absolute root of a project is its folder. -/
theorem rootAt_eq_folderOf (t : Target) : RootIndex.rootAt t.location p.root = t.folderOf p := by
  have hempty : p.root.isEmpty = false := by
    have hroot := Path.isWorkspaceRoot_rootText placed.isName
    rw [String.isEmpty_eq_false_iff]
    intro hempty
    rw [← placed.root_eq, hempty] at hroot
    -- only the workspace has an empty root, and its text is a dot
    have hplace : p.place = [] := of_decide_eq_true hroot.symm
    have htext := placed.root_eq
    rw [hempty, hplace] at htext
    exact absurd htext (by decide)
  rw [RootIndex.rootAt, hempty, if_neg Bool.false_ne_true, folderOf]

/-- What a project's path names is looked up from the project's folder. -/
theorem target_eq_resolve (t : Target) (projects : Table Project) (path : String) :
    (t.site projects).atlas.target p path =
      Path.resolve (t.folderOf p) (Path.normalize path) :=
  congrArg (fun root => Path.resolve root _) (rootAt_eq_folderOf placed t)

variable (absolute : Path.isAnchored t.location.toList = true)

include absolute

/-- The path of a file below a project's folder. -/
theorem pathIn_folderOf {more : List String} (hmore : ∀ n ∈ more, isName n = true)
    (hne : more ≠ []) :
    Disk.pathIn (t.folderOf p) (joined more) =
      Path.resolve t.location (joined (p.place ++ more)) := by
  rw [Disk.pathIn, folderOf_eq_resolve placed,
    Path.append_resolve absolute placed.isName hmore hne, String.ofList_toList]

/-- The folder of a project is found by the names of the workspace and then those of the project. -/
theorem placeOf_eq_append :
    t.placeOf p = Disk.placeOf (Path.absolute "/" t.location) ++ p.place := by
  have hid : String.ofList ∘ String.toList = id := funext fun _ => String.ofList_toList
  rw [placeOf, folderOf_eq_resolve placed, Disk.placeOf_eq, placeOf_absolute absolute,
    Path.steps_resolve absolute placed.isName, List.map_append, List.map_map, hid, List.map_id]

/-- If anything is found in a project's folder, then the folder is the one of the workspace at the
    project's place. -/
theorem tree_at?_place {steps : List String} (hsteps : steps ≠ []) {entry : Entry}
    (hentry : (Entry.folder (t.childrenOf p)).at? steps = some entry) :
    t.tree.at? p.place = some (.folder (t.childrenOf p)) :=
  tree_at?_of_placeOf absolute (placeOf_eq_append placed absolute) hsteps hentry

/-- What is found in a project's folder is found in the workspace, further on from the project's
    place. -/
theorem at?_childrenOf {steps : List String} (hsteps : steps ≠ []) {entry : Entry}
    (hentry : (Entry.folder (t.childrenOf p)).at? steps = some entry) :
    t.tree.at? (p.place ++ steps) = some entry := by
  rw [Entry.at?_append, tree_at?_place placed absolute hsteps hentry, Option.bind_some, hentry]

end Folders

/-! ## One project at each root -/

/-- The projects by their names follow from the projects of the nodes. -/
theorem projectsOf_eq (nodes : Table Node) :
    projectsOf nodes = Table.ofList ((nodes.values.map Node.project).map fun p => (p.name, p)) := by
  rw [projectsOf, List.map_map]
  rfl

/-- The table of the projects of a workspace whose Makefiles are found in order. -/
theorem exists_nodes_of_table (projects : List Project) {table : Table Project}
    (used : Disk.CanBeUsed (Path.absolute "/" t.location))
    (holds : t.tree.children.isEmpty = false)
    (sorted : (Workspace.makefilesBelow t.ignores "" t.tree.children).Pairwise (· ≤ ·))
    (made : ((createNodes t.disk t.location settings
        (Workspace.makefilesBelow t.ignores "" t.tree.children)).toOption.map fun made =>
      (byRoot made).values.map Node.project) = some projects)
    (named : Table.ofList (projects.map fun p => (p.name, p)) = table) :
    ∃ nodes, t.nodes settings = .ok nodes ∧ projectsOf nodes = table := by
  obtain ⟨nodes, built, hprojects⟩ := exists_nodes_of_projects used holds sorted made
  exact ⟨nodes, built, by rw [projectsOf_eq, hprojects, named]⟩

/-- A project is found under its name. -/
theorem get?_projectsOf {p : Project} (hp : p ∈ (projectsOf nodes).values) :
    (projectsOf nodes).get? p.name = some p :=
  (Graph.keyedByName_projectsOf nodes).get?_name hp

/-- The projects by their names are projects of the nodes. -/
theorem exists_node_of_mem_projects {p : Project} (hp : p ∈ (projectsOf nodes).values) :
    ∃ node ∈ nodes.values, p = node.project := by
  obtain ⟨⟨name, _⟩, hentry, rfl⟩ := List.mem_map.1 hp
  obtain ⟨node, hnode, hentry⟩ := List.mem_map.1 (Table.mem_of_mem_ofList hentry)
  cases hentry
  exact ⟨node, hnode, rfl⟩

section Projects

variable (built : t.nodes settings = .ok nodes) (tree : t.tree.IsTree)

include built tree

theorem isPlaced_of_mem_projects {p : Project} (hp : p ∈ (projectsOf nodes).values) :
    p.IsPlaced := by
  obtain ⟨node, hnode, rfl⟩ := exists_node_of_mem_projects hp
  exact (isProjectAt_place built tree hnode).1

/-- The absolute roots of the nodes are the places of the Makefiles that are found. -/
theorem isRoot_iff {root : String} :
    RootIndex.IsRoot t.location (nodes.values.map Node.project) root ↔
      ∃ names, t.IsProjectAt names ∧ root = Path.resolve t.location (joined names) := by
  constructor
  · rintro ⟨p, hp, rfl⟩
    obtain ⟨node, hnode, rfl⟩ := List.mem_map.1 hp
    obtain ⟨placed, hplace⟩ := isProjectAt_place built tree hnode
    refine ⟨_, hplace, ?_⟩
    rw [rootAt_eq_folderOf placed, folderOf_eq_resolve placed]
  · rintro ⟨names, hplace, rfl⟩
    obtain ⟨node, hnode, hroot⟩ := exists_node built tree hplace
    obtain ⟨placed, -⟩ := isProjectAt_place built tree hnode
    have hnames : node.project.place = names := Project.place_eq (hplace.isName tree) hroot
    refine ⟨node.project, List.mem_map_of_mem hnode, ?_⟩
    rw [rootAt_eq_folderOf placed, folderOf_eq_resolve placed, hnames]

variable (absolute : Path.isAnchored t.location.toList = true)

include absolute

/-- Nodes whose folders have the same path are the same. -/
theorem eq_of_folderOf_eq {node other : Node} (h : node ∈ nodes.values) (ho : other ∈ nodes.values)
    (hfolder : t.folderOf node.project = t.folderOf other.project) : node = other := by
  obtain ⟨placed, -⟩ := isProjectAt_place built tree h
  obtain ⟨oplaced, -⟩ := isProjectAt_place built tree ho
  rw [folderOf_eq_resolve placed, folderOf_eq_resolve oplaced] at hfolder
  have hplace := Path.resolve_joined_injective absolute placed.isName oplaced.isName hfolder
  have hroot : node.project.root = other.project.root := by
    rw [placed.root_eq, oplaced.root_eq, hplace]
  exact eq_of_root_eq built tree h ho hroot

/-- One project is registered at its folder. -/
theorem namesAt_eq_singleton {p : Project} (hp : p ∈ (projectsOf nodes).values) :
    RootIndex.namesAt t.location (projectsOf nodes).values (t.folderOf p) = [p.name] := by
  have hnodup : (projectsOf nodes).values.Nodup := by
    have hnames := nodup_names_visited (Graph.keyedByName_projectsOf nodes) none
    exact List.Nodup.of_map _ hnames
  -- the index lists a project at a root only if its folder is there, and no two share a folder
  have honly : ∀ q ∈ (projectsOf nodes).values,
      RootIndex.rootAt t.location q.root = t.folderOf p ↔ q = p := by
    intro q hq
    rw [rootAt_eq_folderOf (isPlaced_of_mem_projects built tree hq)]
    obtain ⟨node, hnode, rfl⟩ := exists_node_of_mem_projects hp
    obtain ⟨other, hother, rfl⟩ := exists_node_of_mem_projects hq
    constructor
    · exact fun hfolder => congrArg _ (eq_of_folderOf_eq built tree absolute hother hnode hfolder)
    · exact fun heq => congrArg _ heq
  have hfilter : ((projectsOf nodes).values.filter fun q =>
      RootIndex.rootAt t.location q.root == t.folderOf p) = [p] := by
    apply List.perm_singleton.1
    rw [List.perm_ext_iff_of_nodup (hnodup.filter _) (List.nodup_singleton p)]
    intro q
    rw [List.mem_filter, beq_iff_eq, List.mem_singleton]
    constructor
    · exact fun hq => (honly q hq.1).1 hq.2
    · rintro rfl
      exact ⟨hp, (honly q hp).2 rfl⟩
  rw [RootIndex.namesAt, hfilter, List.map_singleton]

/-- A path has one owner, or none. -/
theorem owners_eq_nil_or_singleton {path : String} (settled : Path.IsSettled path) :
    (t.site (projectsOf nodes)).atlas.index.owners path = [] ∨
      ∃ owner ∈ (projectsOf nodes).keys,
        (t.site (projectsOf nodes)).atlas.index.owners path = [owner] := by
  by_cases hsome : ∃ root, RootIndex.IsRoot t.location (projectsOf nodes).values root ∧
      Path.IsAbove root path
  · obtain ⟨root, hroot, habove⟩ := hsome
    obtain ⟨nearest, hnearest⟩ := RootIndex.exists_isNearest absolute settled hroot habove
    obtain ⟨q, hq, hfolder⟩ := hnearest.isRoot
    rw [rootAt_eq_folderOf (isPlaced_of_mem_projects built tree hq)] at hfolder
    have howners := RootIndex.owners_eq_namesAt absolute settled hnearest
    rw [← hfolder, namesAt_eq_singleton built tree absolute hq] at howners
    have hkey : (q.name, q) ∈ projectsOf nodes := Table.mem_of_get? (get?_projectsOf hq)
    exact Or.inr ⟨q.name, List.mem_map_of_mem hkey, howners⟩
  · refine Or.inl ((RootIndex.owners_eq_nil_iff absolute settled).2 ?_)
    intro root hroot habove
    exact hsome ⟨root, hroot, habove⟩

end Projects

end Target

end Inference

end MakeAtlas
