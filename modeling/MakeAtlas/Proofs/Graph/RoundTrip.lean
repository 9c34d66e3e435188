import MakeAtlas.Proofs.Graph.Listing
import MakeAtlas.Proofs.Graph.Rebuild
import MakeAtlas.Proofs.Project.Records
import MakeAtlas.Graph.Export

/-!
# Reading back the record of a graph

The record of a graph holds the full nodes by their roots and the dependencies as they are listed.
A graph that is made again of these has the same nodes and the same record. What differs is only the
order in which its edges came, which is that of the listing from then on.

Some nodes and dependencies do not come into the record: nodes whose name is taken by a later one,
and dependencies that the graph did not accept.

## Key results

- `nodesByRoot_eq`: no node of a graph is lost when the nodes are entered by their roots
- `ofResults_regrouped`: the graph that is made of a graph's nodes and listing
- `toValue_regrouped`: the order in which edges came does not show in the record
- `record_reads_back`: a graph is read back from its record with all that the record shows
-/

namespace MakeAtlas

open MakeAtlas.Record

namespace Graph

/-! ## Reading a graph -/

/-- The name of a graph's record. -/
def title : String := "ProjectGraph"

/-- Makes a graph of the nodes and the dependencies that are read from a record. -/
def read (location : Option String) : Value → Reading Graph :=
  record title fun es =>
    let nodes := required es { key := "projects" } (table Node.read)
    let dependencies := required es { key := "dependencies" } (list Dependency.read)
    ofResults location <$> nodes <*> dependencies

/-- The graph with its edges in the order of the listing. -/
def regrouped (g : Graph) : Graph :=
  { g with edges := g.dependencies }

/-- Nodes are entered under their roots, each root once. -/
structure KeyedByRoot (nodes : Table Node) : Prop where
  nodup : nodes.keys.Nodup
  root_eq : ∀ entry ∈ nodes, entry.2.root = entry.1

instance (nodes : Table Node) : Decidable (KeyedByRoot nodes) :=
  decidable_of_iff (nodes.keys.Nodup ∧ ∀ entry ∈ nodes, entry.2.root = entry.1)
    ⟨fun h => ⟨h.1, h.2⟩, fun h => ⟨h.1, h.2⟩⟩

/-! ## The graph of nodes and dependencies -/

section OfResults

variable {location : Option String} {nodes : Table Node} {offered : List Dependency}

/-- A graph of nodes and dependencies is made by adding the ones and offering the others. -/
theorem ofResults_eq_after :
    ofResults location nodes offered =
      after location (nodes.values.map .node ++ offered.map .dependency) := by
  rw [after_append, ofResults, after, applyAll, applyAll, List.foldl_map, List.foldl_map]
  rfl

theorem coherent_ofResults : Coherent (ofResults location nodes offered) := by
  rw [ofResults_eq_after]
  exact coherent_after location _

theorem location_ofResults : (ofResults location nodes offered).location = location := by
  rw [ofResults_eq_after, after, location_applyAll]

/-- A node of the graph is one of those that it was made of. -/
theorem mem_of_mem_nodes_ofResults {n : Node}
    (h : n ∈ (ofResults location nodes offered).nodes.values) : n ∈ nodes.values := by
  obtain ⟨entry, hentry, rfl⟩ := List.mem_map.1 h
  rw [nodes_ofResults] at hentry
  obtain ⟨m, hm, rfl⟩ := List.mem_map.1 (Table.mem_of_mem_ofList hentry)
  exact hm

/-- While dependencies are offered, the projects stay the same, so that what is accepted of them is
    valid at the end. -/
theorem valid_of_mem_foldl_addDependency {g : Graph} {d : Dependency}
    (h : d ∈ (offered.foldl addDependency g).edges) :
    d ∈ g.edges ∨ d.invalidity g.projects = none := by
  have hchanges : (g.applyAll (offered.map .dependency)).edges =
      (offered.foldl addDependency g).edges := by
    rw [applyAll, List.foldl_map]
    rfl
  rcases exists_accepted_of_mem_applyAll (hchanges ▸ h) with hbefore | ⟨before, later, hsplit, ha⟩
  · exact Or.inl hbefore
  · right
    obtain ⟨earlier, _, -, rfl, -⟩ := List.map_eq_append_iff.1 hsplit
    have hprojects : (g.applyAll (earlier.map .dependency)).projects = g.projects := by
      rw [applyAll, List.foldl_map, projects, projects]
      exact congrArg (List.map _) (nodes_foldl_addDependency g earlier)
    exact hprojects ▸ (accepts_iff.1 ha).1

theorem valid_of_mem_ofResults {d : Dependency}
    (h : d ∈ (ofResults location nodes offered).edges) :
    d.invalidity (ofResults location nodes offered).projects = none := by
  have hnone : (nodes.values.foldl addNode { location }).edges = [] := by
    rw [foldl_addNode_eq]
  rcases valid_of_mem_foldl_addDependency h with hbefore | hvalid
  · rw [hnone] at hbefore
    cases hbefore
  · rw [projects, ofResults, nodes_foldl_addDependency]
    exact hvalid

end OfResults

/-! ## Entering nodes by their roots -/

/-- No node of a graph is lost when the nodes are entered by their roots, if the graph was made of
    nodes of different roots. -/
theorem nodesByRoot_eq {location : Option String} {nodes : Table Node} {offered : List Dependency}
    (keyed : KeyedByRoot nodes) :
    (ofResults location nodes offered).nodesByRoot =
      (ofResults location nodes offered).nodes.values.map fun node => (node.root, node) := by
  have hroots : nodes.values.map Node.root = nodes.keys := by
    rw [Table.values, Table.keys, List.map_map]
    exact List.map_congr_left keyed.root_eq
  have hinj : ∀ m ∈ nodes.values, ∀ n ∈ nodes.values, m.root = n.root → m = n :=
    fun m hm n hn heq => List.inj_on_of_nodup_map (hroots ▸ keyed.nodup) hm hn heq
  -- the nodes of the graph have different names, so that they are different
  have hnodup : (ofResults location nodes offered).nodes.values.Nodup := by
    refine List.Nodup.of_map Node.name ?_
    rw [names_eq_keys coherent_ofResults]
    exact coherent_ofResults.names_nodup
  apply Table.ofList_eq_self
  rw [Table.keys, List.map_map]
  exact hnodup.map_on fun m hm n hn heq =>
    hinj m (mem_of_mem_nodes_ofResults hm) n (mem_of_mem_nodes_ofResults hn) heq

/-- A graph that is made of the nodes and the listing of a graph has its nodes, and its edges in
    the order of the listing. -/
theorem ofResults_regrouped {location : Option String} {nodes : Table Node}
    {offered : List Dependency} (keyed : KeyedByRoot nodes) :
    ofResults location (ofResults location nodes offered).nodesByRoot
        (ofResults location nodes offered).dependencies =
      (ofResults location nodes offered).regrouped := by
  have hcoherent : Coherent (ofResults location nodes offered) := coherent_ofResults
  have hlocation : (ofResults location nodes offered).location = location := location_ofResults
  have hvalid : ∀ d ∈ (ofResults location nodes offered).edges,
      d.invalidity (ofResults location nodes offered).projects = none :=
    fun d hd => valid_of_mem_ofResults hd
  have hbyRoot : (ofResults location nodes offered).nodesByRoot = _ := nodesByRoot_eq keyed
  generalize ofResults location nodes offered = g at *
  -- by their names, the nodes come as they stand in the graph
  have hnames : g.nodesByRoot.values.map (fun node => (node.name, node)) = g.nodes := by
    rw [hbyRoot, Table.values, Table.values, List.map_map, List.map_map, List.map_map]
    calc g.nodes.map (fun entry => (entry.2.name, entry.2))
        = g.nodes.map id :=
          List.map_congr_left fun entry hentry =>
            congrArg (Prod.mk · entry.2) (hcoherent.name_eq entry hentry)
      _ = g.nodes := List.map_id g.nodes
  have hnodes : g.nodesByRoot.values.foldl addNode { location } =
      { location, nodes := g.nodes } := by
    have hputAll : Table.putAll [] g.nodes = g.nodes :=
      Table.ofList_eq_self hcoherent.names_nodup
    rw [foldl_addNode_eq, hnames, hputAll]
  rw [ofResults, hnodes, foldl_addDependency_eq, regrouped, hlocation]
  · rfl
  · exact fun d hd => hvalid d ((dependencies_perm_edges hcoherent).subset hd)
  · exact nodup_ends_dependencies hcoherent

/-! ## The record -/

/-- In the order of the listing, edges are listed as they stand. -/
theorem dependencies_regrouped {g : Graph} (h : Coherent g) :
    g.regrouped.dependencies = g.dependencies :=
  List.flatMap_congr fun _ hname => filter_listing h.names_nodup hname

/-- The order in which edges came does not show in the record. -/
theorem toValue_regrouped {g : Graph} (h : Coherent g) : g.regrouped.toValue = g.toValue := by
  unfold toValue entries
  rw [dependencies_regrouped h]
  rfl

/-- The numbers of a graph do not depend on the order of its edges. -/
theorem summary_regrouped {g : Graph} (h : Coherent g) : g.regrouped.summary = g.summary := by
  have hcount : g.regrouped.edges.length = g.edges.length := (dependencies_perm_edges h).length_eq
  unfold summary
  rw [hcount]
  rfl

/-- Reading the record of a graph takes its nodes by their roots and its listing. -/
theorem read_toValue_eq {g : Graph} (location : Option String)
    (hnodes : ∀ entry ∈ g.nodesByRoot, entry.2.IsValid) :
    read location g.toValue = .ok (ofResults location g.nodesByRoot g.dependencies) := by
  have hprojects : table Node.read
      (.table (g.nodesByRoot.map fun entry => (entry.1, entry.2.toValue))) = .ok g.nodesByRoot :=
    table_map_eq_ok_iff.2 fun entry hentry => Node.read_toValue_iff.2 (hnodes entry hentry)
  have hlisting : list Dependency.read (.list (g.dependencies.map Dependency.toValue)) =
      .ok g.dependencies :=
    list_map_eq_ok fun d _ => Dependency.read_toValue d
  show ofResults location <$> (table Node.read _).below (.key "projects") <*>
    (list Dependency.read _).below (.key "dependencies") = _
  rw [hprojects, hlisting]
  rfl

/-- Whatever the nodes are, also where some share a name, and whatever was offered, accepted or not:
    the record of the graph is read, and a graph is made of it again that has the same record, the
    same nodes in the same order, the same listing, and the same numbers. -/
theorem record_reads_back {location : Option String} {nodes : Table Node}
    {offered : List Dependency} (keyed : KeyedByRoot nodes) (valid : ∀ entry ∈ nodes, entry.2.IsValid) :
    ∃ back, read location (ofResults location nodes offered).toValue = .ok back ∧
      back.toValue = (ofResults location nodes offered).toValue ∧
      back.nodes = (ofResults location nodes offered).nodes ∧
      back.dependencies = (ofResults location nodes offered).dependencies ∧
      back.summary = (ofResults location nodes offered).summary := by
  have hcoherent : Coherent (ofResults location nodes offered) := coherent_ofResults
  refine ⟨(ofResults location nodes offered).regrouped, ?_, toValue_regrouped hcoherent, rfl,
    dependencies_regrouped hcoherent, summary_regrouped hcoherent⟩
  rw [← ofResults_regrouped keyed]
  apply read_toValue_eq
  intro entry hentry
  rw [nodesByRoot_eq keyed] at hentry
  obtain ⟨n, hn, rfl⟩ := List.mem_map.1 hentry
  obtain ⟨original, horiginal, rfl⟩ := List.mem_map.1 (mem_of_mem_nodes_ofResults hn)
  exact valid original horiginal

/-- A workspace in which two libraries share a name, with a program that is built and served. -/
def namesakes : Table Node :=
  [("tool", {
      root := "tool", name := "tool", makefile := "tool/Makefile",
      tasks := [
        ("build", {
          name := "build", invocation := .make "build" "tool", dependsOn := ["^build"],
          metadata := { description := "builds" } }),
        ("serve", {
          name := "serve", invocation := .make "serve" "tool", dependsOn := ["build"],
          metadata := { description := "serves" } })] }),
    ("lib", { root := "lib", name := "lib", makefile := "lib/Makefile" }),
    ("base", { root := "base", name := "base", makefile := "base/Makefile" }),
    ("old/lib", { root := "old/lib", name := "lib", makefile := "old/lib/Makefile" })]

/-- Dependencies of the program and of the older library, one of them offered twice, and one of the
    library that is not kept. -/
def offeredAmongNamesakes : List Dependency :=
  [⟨"lib", "base", "old/lib/lib.c", some 3, by decide, by decide⟩,
    ⟨"tool", "lib", "tool/main.c", some 4, by decide, by decide⟩,
    ⟨"tool", "lib", "tool/Makefile", none, by decide, fun _ h => nomatch h⟩,
    ⟨"lib", "tool", "lib/lib.c", some 2, by decide, by decide⟩,
    ⟨"tool", "base", "tool/Makefile", none, by decide, fun _ h => nomatch h⟩]

theorem record_reads_back_namesakes :
    KeyedByRoot namesakes ∧ (∀ entry ∈ namesakes, entry.2.IsValid) ∧
      (ofResults none namesakes offeredAmongNamesakes).dependencies.map Dependency.ends =
        [("tool", "lib"), ("tool", "base"), ("lib", "base")] ∧
      ∃ back, read none (ofResults none namesakes offeredAmongNamesakes).toValue = .ok back ∧
        back.toValue = (ofResults none namesakes offeredAmongNamesakes).toValue ∧
        back.nodes = (ofResults none namesakes offeredAmongNamesakes).nodes ∧
        back.dependencies = (ofResults none namesakes offeredAmongNamesakes).dependencies ∧
        back.summary = (ofResults none namesakes offeredAmongNamesakes).summary :=
  ⟨by decide, by decide, by decide +kernel, record_reads_back (by decide) (by decide)⟩

end Graph

end MakeAtlas
