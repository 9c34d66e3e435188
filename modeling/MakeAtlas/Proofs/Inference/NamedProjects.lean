import MakeAtlas.Proofs.Inference.ProjectPlaces
import MakeAtlas.Proofs.Project.Naming
import MakeAtlas.Proofs.Workspace.MakefileSearch

/-!
# One project for each Makefile

Every Makefile that is found gets its own node, but the graph of a scan knows projects by their
names: where two roots share a name, the later project takes the place of the earlier one. Without
dashes in the roots, that happens exactly if two of them can be mistaken for each other.

## Key results

- `makefiles_eq_nodes`: the nodes of a workspace, Makefile by Makefile
- `warningsOf_eq_nil_iff`: no project is replaced exactly if no name is used twice
- `nodup_names_iff`: no name is used twice exactly if no roots can be mistaken
- `projects_told_apart`: all of it, for names and for scans
-/

namespace MakeAtlas

open MakeAtlas.Path (isName joined rootText)
open MakeAtlas.Project (nameOf rootOf defaultGroupingDirs Mistakable)
open MakeAtlas.Workspace (makefileName)

namespace Inference

/-! ## Makefile by Makefile -/

namespace Target

variable {t : Target} {settings : Settings} {nodes : Table Node}

section Nodes

variable (built : t.nodes settings = .ok nodes) (tree : t.tree.IsTree)

include built tree

/-- The nodes of a workspace are in the order of the Makefiles that are found, each made of its
    own. -/
private theorem values_nodes_eq : ∃ made,
    createNodes t.disk t.location settings
      (Workspace.makefilesIn (t.disk.childrenAt (Path.absolute "/" t.location)) []) = .ok made ∧
    nodes.values = made.map Prod.snd ∧ ∀ entry ∈ made, entry.2.makefile = entry.1 := by
  obtain ⟨-, made, hmade, rfl⟩ := exists_made built
  have hkeys := (divides_of_createNodes_ok hmade).map_fst_eq
  have hentry : ∀ entry ∈ made, entry.2.makefile = entry.1 ∧
      ∃ names, (∀ n ∈ names, isName n = true) ∧ entry.1 = joined (names ++ [makefileName]) ∧
        entry.2.root = rootText names := by
    intro entry hmem
    obtain ⟨hmakefile, text, htext⟩ := (createNodes_eq_ok hmade).2 _ hmem
    obtain ⟨names, content, hfile, -, hpath⟩ := (Workspace.mem_makefilesIn_iff tree).1 hmakefile
    have hall := tree.isName_of_at? hfile
    have hnames : ∀ n ∈ names, isName n = true := fun n hn => hall n (List.mem_append_left _ hn)
    refine ⟨?_, names, hnames, hpath, ?_⟩
    · rw [htext, nodeOfText, hpath, Path.normalize_joined hall, Path.rootText_of_ne_nil (by simp)]
    · rw [htext, hpath, root_nodeOfText settings hnames]
  -- no Makefile is found twice, and the root tells the Makefile
  have hnodup : (Table.keys (made.map fun entry => (entry.2.root, entry.2))).Nodup := by
    have hmakefiles : (made.map Prod.fst).Nodup := by
      rw [hkeys]
      exact Workspace.nodup_makefilesIn tree []
    rw [Table.keys, List.map_map]
    refine List.Nodup.map_on (fun a ha b hb hroot => ?_) (List.Nodup.of_map _ hmakefiles)
    obtain ⟨-, names, hnames, hpath, hrootA⟩ := hentry a ha
    obtain ⟨-, names', hnames', hpath', hrootB⟩ := hentry b hb
    have hsame : names = names' :=
      Path.rootText_injective hnames hnames' (hrootA.symm.trans (hroot.trans hrootB))
    exact List.inj_on_of_nodup_map hmakefiles ha hb (by rw [hpath, hpath', hsame])
  refine ⟨made, hmade, ?_, fun entry hmem => (hentry entry hmem).1⟩
  have hbyRoot : byRoot made = made.map fun entry => (entry.2.root, entry.2) :=
    Table.ofList_eq_self hnodup
  rw [hbyRoot, Table.values, List.map_map]
  rfl

/-- The Makefiles that are found are those of the nodes, in their order. -/
theorem makefiles_eq_nodes :
    Workspace.makefiles t.disk t.location [] = .ok (nodes.values.map Node.makefile) := by
  obtain ⟨made, hmade, hvalues, hmakefile⟩ := values_nodes_eq built tree
  rw [(exists_made built).1, hvalues, List.map_map]
  refine congrArg Except.ok ?_
  calc Workspace.makefilesIn (t.disk.childrenAt (Path.absolute "/" t.location)) []
      = made.map Prod.fst := ((divides_of_createNodes_ok hmade).map_fst_eq).symm
    _ = made.map (Node.makefile ∘ Prod.snd) :=
        List.map_congr_left fun entry hentry => (hmakefile entry hentry).symm

/-- The name of a node is made of its root, and the root of the path of its Makefile. -/
theorem name_and_root_of_mem {node : Node} (h : node ∈ nodes.values) :
    node.name = nameOf settings.groupingDirs node.root ∧ node.root = rootOf node.makefile := by
  obtain ⟨made, hmade, hvalues, -⟩ := values_nodes_eq built tree
  rw [hvalues] at h
  obtain ⟨entry, hentry, rfl⟩ := List.mem_map.1 h
  obtain ⟨-, text, htext⟩ := (createNodes_eq_ok hmade).2 entry hentry
  rw [htext]
  simp only [nodeOfText, and_self]

/-- No node stands twice, and so does no root. -/
theorem nodup_roots : (nodes.values.map Node.root).Nodup := by
  have hmakefiles : (nodes.values.map Node.makefile).Nodup := by
    have hlisted := makefiles_eq_nodes built tree
    rw [(exists_made built).1, Except.ok.injEq] at hlisted
    rw [← hlisted]
    exact Workspace.nodup_makefilesIn tree []
  exact List.Nodup.map_on (fun _ h _ ho hroot => eq_of_root_eq built tree h ho hroot)
    (List.Nodup.of_map _ hmakefiles)

/-- Where roots have no dashes in them, no name is used twice exactly if none of the roots can be
    mistaken for another. -/
theorem nodup_names_iff (grouping : settings.groupingDirs = defaultGroupingDirs)
    (dash : ∀ node ∈ nodes.values, '-' ∉ node.root.toList) :
    (nodes.values.map Node.name).Nodup ↔
      ∀ node ∈ nodes.values, ∀ other ∈ nodes.values, ¬ Mistakable node.root other.root := by
  have hinside : ∀ node ∈ nodes.values, Path.IsInside node.root := by
    intro node hnode
    have placed := (isProjectAt_place built tree hnode).1
    have hroot : node.root = rootText node.project.place := placed.root_eq
    rw [hroot]
    exact Path.isInside_rootText placed.isName
  have hshared : ∀ node ∈ nodes.values, ∀ other ∈ nodes.values, node.root ≠ other.root →
      (node.name = other.name ↔
        Mistakable node.root other.root ∨ Mistakable other.root node.root) := by
    intro node hnode other hother hne
    rw [(name_and_root_of_mem built tree hnode).1, (name_and_root_of_mem built tree hother).1,
      grouping]
    exact Project.nameOf_eq_iff_mistakable (hinside node hnode) (hinside other hother)
      (dash node hnode) (dash other hother) hne
  constructor
  · intro hnodup node hnode other hother hmistakable
    have hname := (hshared node hnode other hother hmistakable.ne).2 (Or.inl hmistakable)
    have hsame := List.inj_on_of_nodup_map hnodup hnode hother hname
    exact hmistakable.ne (congrArg Node.root hsame)
  · intro hapart
    refine List.Nodup.map_on (fun node hnode other hother hname => ?_)
      (List.Nodup.of_map _ (nodup_roots built tree))
    by_contra hne
    have hroots : node.root ≠ other.root :=
      fun hroot => hne (eq_of_root_eq built tree hnode hother hroot)
    rcases (hshared node hnode other hother hroots).1 hname with h | h
    · exact hapart node hnode other hother h
    · exact hapart other hother node hnode h

end Nodes

end Target

end Inference

/-! ## Projects that are replaced -/

namespace Graph

/-- Adding a node to a graph without its root replaces no project exactly if its name is new. -/
theorem replacing_eq_none_iff {g : Graph} {node : Node}
    (apart : ∀ old ∈ g.nodes.values, old.root ≠ node.root) :
    g.replacing node = none ↔ node.name ∉ g.nodes.keys := by
  rw [replacing, Option.map_eq_none_iff]
  cases hfound : g.nodes.get? node.name with
  | none =>
    refine iff_of_true rfl fun hkey => ?_
    obtain ⟨old, hold⟩ := Table.exists_get?_of_mem_keys hkey
    rw [hfound] at hold
    cases hold
  | some old =>
    have hmem := Table.mem_of_get? hfound
    have hroot : (old.root != node.root) = true :=
      bne_iff_ne.2 (apart old (List.mem_map_of_mem hmem))
    have hkey : node.name ∈ g.nodes.keys := List.mem_map_of_mem hmem
    rw [Option.filter_some, if_pos hroot]
    simp [hkey]

/-- Adding nodes of different roots, none of them the root of a project in the graph, replaces no
    project exactly if no name is used twice. -/
theorem warningsOf_eq_nil_iff {g : Graph} {added : List Node} (roots : (added.map Node.root).Nodup)
    (apart : ∀ old ∈ g.nodes.values, ∀ node ∈ added, old.root ≠ node.root) :
    warningsOf g added = [] ↔
      (added.map Node.name).Nodup ∧ ∀ node ∈ added, node.name ∉ g.nodes.keys := by
  induction added generalizing g with
  | nil => simp [warningsOf]
  | cons node rest ih =>
    rw [List.map_cons, List.nodup_cons] at roots
    have hrest : ∀ old ∈ (g.addNode node).nodes.values, ∀ later ∈ rest,
        old.root ≠ later.root := by
      intro old hold later hlater
      obtain ⟨entry, hentry, rfl⟩ := List.mem_map.1 hold
      rcases Table.mem_of_mem_put hentry with rfl | hentry
      · exact fun heq => roots.1 (heq ▸ List.mem_map_of_mem hlater)
      · exact apart _ (List.mem_map_of_mem hentry) later (List.mem_cons_of_mem _ hlater)
    have hkeys : ∀ name, name ∈ (g.addNode node).nodes.keys ↔
        name = node.name ∨ name ∈ g.nodes.keys := fun _ => Table.mem_keys_put
    rw [warningsOf, List.append_eq_nil_iff, Option.toList_eq_nil_iff,
      replacing_eq_none_iff fun old hold => apart old hold node List.mem_cons_self,
      ih roots.2 hrest, List.map_cons, List.nodup_cons, List.forall_mem_cons]
    simp only [hkeys, not_or, List.mem_map, not_exists, not_and]
    constructor
    · rintro ⟨hnew, hnodup, hothers⟩
      exact ⟨⟨fun later hlater => (hothers later hlater).1, hnodup⟩, hnew,
        fun later hlater => (hothers later hlater).2⟩
    · rintro ⟨⟨hdiffer, hnodup⟩, hnew, hothers⟩
      exact ⟨hnew, hnodup, fun later hlater => ⟨hdiffer later hlater, hothers later hlater⟩⟩

end Graph

/-! ## Names and scans -/

namespace Inference

open Target

/-- None of the Makefiles has a root that can be mistaken for that of another. -/
def ToldApart (makefiles : List String) : Prop :=
  ∀ m ∈ makefiles, ∀ m' ∈ makefiles, ¬ Mistakable (rootOf m) (rootOf m')

/-- Different roots without dashes, within the workspace and in normal form, share a name by default
    exactly if one is the workspace and the other a folder `root`, below the grouping folder or not,
    or one is a folder right below the workspace and the other the one of its name right below the
    grouping folder. So if no folder on the way to a Makefile that is found has a dash in its name, a
    scan looks at exactly one project for each of them, its graph has exactly one project for each,
    and no project takes the place of another, if and only if none of their roots can be mistaken for
    another in this way. -/
theorem projects_told_apart :
    (∀ root other, Path.IsInside root → Path.IsInside other → '-' ∉ root.toList →
      '-' ∉ other.toList → root ≠ other →
      (nameOf defaultGroupingDirs root = nameOf defaultGroupingDirs other ↔
        Mistakable root other ∨ Mistakable other root)) ∧
    ∀ (t : Target) (settings : Settings) changed g warnings makefiles,
      settings.groupingDirs = defaultGroupingDirs → t.tree.IsTree →
      Workspace.makefiles t.disk t.location [] = .ok makefiles →
      (∀ makefile ∈ makefiles, '-' ∉ (rootOf makefile).toList) →
      t.scan settings changed = .ok (g, warnings) →
      ∃ nodes, t.nodes settings = .ok nodes ∧
        ((projectsOf nodes).values.map Project.root = makefiles.map rootOf ↔
          ToldApart makefiles) ∧
        (g.nodes.values.map Node.makefile = makefiles ↔ ToldApart makefiles) ∧
        (Graph.warningsOf { location := some t.location } nodes.values = [] ↔
          ToldApart makefiles) := by
  refine ⟨fun root other hroot hother hdash hdash' hne =>
    Project.nameOf_eq_iff_mistakable hroot hother hdash hdash' hne, ?_⟩
  intro t settings changed g warnings makefiles grouping tree hmakefiles hdash hscan
  obtain ⟨nodes, found, built, rfl⟩ := Graph.exists_nodes_of_scan hscan
  have hlisted := makefiles_eq_nodes built tree
  rw [hmakefiles, Except.ok.injEq] at hlisted
  subst hlisted
  have hroot : ∀ node ∈ nodes.values, rootOf node.makefile = node.root :=
    fun node hnode => (name_and_root_of_mem built tree hnode).2.symm
  have hdashes : ∀ node ∈ nodes.values, '-' ∉ node.root.toList := by
    intro node hnode
    rw [← hroot node hnode]
    exact hdash _ (List.mem_map_of_mem hnode)
  have hapart : ToldApart (nodes.values.map Node.makefile) ↔
      (nodes.values.map Node.name).Nodup := by
    rw [nodup_names_iff built tree grouping hdashes, ToldApart]
    simp only [List.forall_mem_map]
    refine forall₂_congr fun node hnode => forall₂_congr fun other hother => ?_
    rw [hroot node hnode, hroot other hother]
  have hroots : (nodes.values.map Node.makefile).map rootOf =
      (nodes.values.map Node.project).map Project.root := by
    rw [List.map_map, List.map_map]
    exact List.map_congr_left hroot
  -- both tables are filled with the nodes by name, one with the projects of the nodes
  have hfilled : ∀ {α : Type} (f : Node → α),
      (nodes.values.map fun node => (node.name, f node)).map Prod.fst = nodes.values.map Node.name ∧
      (nodes.values.map fun node => (node.name, f node)).map Prod.snd = nodes.values.map f :=
    fun _ => ⟨List.map_map, List.map_map⟩
  refine ⟨nodes, built, ?_, ?_, ?_⟩
  · rw [hapart, hroots, projectsOf, ← (hfilled Node.project).1, ← (hfilled Node.project).2]
    exact Table.map_values_ofList_eq_iff Project.root
  · rw [hapart, Graph.nodes_ofResults, ← (hfilled id).1,
      ← Table.map_values_ofList_eq_iff Node.makefile, (hfilled id).2, List.map_id]
    rfl
  · rw [hapart, Graph.warningsOf_eq_nil_iff (nodup_roots built tree)
      fun _ hold => absurd hold List.not_mem_nil]
    exact and_iff_left fun _ _ hkey => absurd hkey List.not_mem_nil

/-- A workspace with two programs of one name, one of them below the grouping folder. -/
def twinTarget : Target where
  disk := ⟨[("w", .folder [
    ("a", .folder [("Makefile", .file (Text.Utf8.encode "all:\n"))]),
    ("examples", .folder [("a", .folder [("Makefile", .file (Text.Utf8.encode "all:\n"))])])])]⟩
  toolchain := ⟨fun _ => false, fun _ => .missing, fun _ _ => .missing⟩
  location := "/w"

private theorem isTree_twin : twinTarget.tree.IsTree := by decide +kernel

private theorem makefiles_twin :
    Workspace.makefiles twinTarget.disk "/w" [] = .ok ["a/Makefile", "examples/a/Makefile"] := by
  have hfound : twinTarget.disk.find "/" (Path.absolute "/" "/w") = .ok twinTarget.tree := rfl
  rw [Workspace.makefiles_of_find hfound, Workspace.makefilesIn_eq_of_pairwise (by decide +kernel)]
  exact congrArg Except.ok (by decide +kernel)

private theorem exists_nodes_twin : ∃ nodes, twinTarget.nodes { mode := .manual } = .ok nodes ∧
    nodes.values.map Node.project = [⟨"a", "a"⟩, ⟨"a", "examples/a"⟩] :=
  exists_nodes_of_projects (by decide +kernel) (by decide +kernel) (by decide +kernel)
    (by decide +kernel)

/-- The two programs share a name. A scan of their workspace goes through, but it looks at only one of
    them, its graph does not have a project for each Makefile, and something is said of the program
    that was replaced. -/
theorem projects_told_apart_twin :
    nameOf defaultGroupingDirs "a" = nameOf defaultGroupingDirs "examples/a" ∧
    twinTarget.tree.IsTree ∧
    Workspace.makefiles twinTarget.disk "/w" [] = .ok ["a/Makefile", "examples/a/Makefile"] ∧
    ∃ nodes g warnings, twinTarget.nodes { mode := .manual } = .ok nodes ∧
      twinTarget.scan { mode := .manual } none = .ok (g, warnings) ∧
      (projectsOf nodes).values.map Project.root ≠ ["a", "examples/a"] ∧
      g.nodes.values.map Node.makefile ≠ ["a/Makefile", "examples/a/Makefile"] ∧
      Graph.warningsOf { location := some "/w" } nodes.values ≠ [] := by
  obtain ⟨nodes, built, -⟩ := exists_nodes_twin
  obtain ⟨said, hfound⟩ := twinTarget.dependencies_eq_blocks { mode := .manual }
    (Graph.keyedByName_projectsOf nodes) none
  have hscan := Graph.scan_eq_ok built hfound
  obtain ⟨hnames, hscans⟩ := projects_told_apart
  obtain ⟨nodes', built', hprojects, hgraph, hsaid⟩ :=
    hscans twinTarget { mode := .manual } none _ _ _ rfl isTree_twin makefiles_twin (by decide)
      hscan
  obtain rfl : nodes' = nodes := Except.ok.inj (built'.symm.trans built)
  have htwin : Mistakable "a" "examples/a" := .grouped (by decide)
  have hroot : rootOf "a/Makefile" = "a" := by decide
  have hroot' : rootOf "examples/a/Makefile" = "examples/a" := by decide
  have hnot : ¬ ToldApart ["a/Makefile", "examples/a/Makefile"] := by
    intro hapart
    refine hapart "a/Makefile" (by decide) "examples/a/Makefile" (by decide) ?_
    rw [hroot, hroot']
    exact htwin
  have hshared := hnames "a" "examples/a" ⟨by decide, by decide, by decide⟩
    ⟨by decide, by decide, by decide⟩ (by decide) (by decide) (by decide)
  refine ⟨hshared.2 (Or.inl htwin), isTree_twin, makefiles_twin, _, _, _, built, hscan,
    fun heq => hnot (hprojects.1 ?_), fun heq => hnot (hgraph.1 heq),
    fun hnone => hnot (hsaid.1 hnone)⟩
  rw [heq, List.map_cons, List.map_cons, List.map_nil, hroot, hroot']

/-- Without dashes, roots can still share a name; and two Makefiles that are found can have one root,
    since a backslash in the name of a folder is read as a slash. -/
theorem names_shared_without_dashes :
    (¬ ∀ root other, Path.IsInside root → Path.IsInside other → '-' ∉ root.toList →
      '-' ∉ other.toList → root ≠ other →
      nameOf defaultGroupingDirs root ≠ nameOf defaultGroupingDirs other) ∧
    Workspace.makefilesIn
      [("a", .folder [("b", .folder [("Makefile", .file [])])]),
        ("a\\b", .folder [("Makefile", .file [])])] [] = ["a/b/Makefile", "a/b/Makefile"] := by
  constructor
  · intro hdiffer
    exact hdiffer "a" "examples/a" ⟨by decide, by decide, by decide⟩
      ⟨by decide, by decide, by decide⟩ (by decide) (by decide) (by decide) (by decide)
  · rw [Workspace.makefilesIn_eq_of_pairwise (by decide +kernel)]
    decide +kernel

end Inference

end MakeAtlas
