import MakeAtlas.Graph.Export
import MakeAtlas.Proofs.Graph.Listing

/-!
# Graphs and the networks kept beside them

General graph tools work on a network of names: every name has a mark with what is to be shown of
its project, and a row of arcs to other names. A ledger keeps such a network beside the full nodes
and enters every change in both. The network of a graph says the same in one go.

## Key results

- `network_addNode`, `network_addDependency`: how a change shows in a graph's network
- `ledger_after`: a ledger that is kept change by change holds the graph's nodes and network
- `inStep_after`: what is kept through all changes, in both books and in the records made of them
-/

namespace MakeAtlas

/-! ## Networks -/

/-- What a network shows of a project. -/
structure Mark where
  root : String
  makefile : String
  tasks : List String
  deriving DecidableEq

/-- What a network shows of a dependency: the file and the line that show it. -/
structure Arc where
  file : String
  line : Option Nat
  deriving DecidableEq

def Mark.ofNode (n : Node) : Mark :=
  ⟨n.root, n.makefile, n.tasks.keys⟩

def Arc.ofDependency (d : Dependency) : Arc :=
  ⟨d.evidence, d.line⟩

/-- Names with marks, and for every name a row of arcs by the names they lead to. -/
structure Network where
  marks : Table Mark := []
  rows : Table (Table Arc) := []

namespace Network

/-- Marks a name. A name that is marked for the first time gets an empty row. -/
def mark (net : Network) (name : String) (m : Mark) : Network :=
  ⟨net.marks.put name m, if net.rows.has name then net.rows else net.rows.put name []⟩

/-- The arcs that start at a name. -/
def row (net : Network) (name : String) : Table Arc :=
  (net.rows.get? name).getD []

/-- Whether an arc leads from one name to another. -/
def joins (net : Network) (source target : String) : Bool :=
  (net.row source).has target

/-- Draws an arc from one name to another. -/
def join (net : Network) (source target : String) (arc : Arc) : Network :=
  { net with rows := net.rows.put source ((net.row source).put target arc) }

/-- All arcs, row by row. -/
def listing (net : Network) : List (String × String × Arc) :=
  net.rows.flatMap fun (source, row) => row.map fun (target, arc) => (source, target, arc)

end Network

/-! ## The network of a graph -/

namespace Graph

/-- The arcs that start at a project. -/
def arcsFrom (g : Graph) (name : String) : Table Arc :=
  (g.edgesFrom name).map fun d => (d.target, Arc.ofDependency d)

/-- The network of a graph. -/
def network (g : Graph) : Network where
  marks := g.nodes.map fun (name, node) => (name, Mark.ofNode node)
  rows := g.nodes.keys.map fun name => (name, g.arcsFrom name)

theorem keys_rows (g : Graph) : g.network.rows.keys = g.nodes.keys := by
  simp only [network, Table.keys, List.map_map]
  rfl

/-- A project that is not known has no edges. -/
theorem edgesFrom_eq_nil {g : Graph} (h : Coherent g) {name : String}
    (hname : name ∉ g.nodes.keys) : g.edgesFrom name = [] := by
  rw [edgesFrom, List.filter_eq_nil_iff]
  intro d hd hsource
  exact hname (beq_iff_eq.1 hsource ▸ (h.ends_known d hd).1)

theorem row_network {g : Graph} (h : Coherent g) (name : String) :
    g.network.row name = g.arcsFrom name := by
  unfold Network.row
  by_cases hname : name ∈ g.nodes.keys
  · rw [network, Table.get?_map_keys g.arcsFrom hname]
    rfl
  · have hnone : g.network.rows.get? name = none := by
      rw [Option.eq_none_iff_forall_ne_some]
      intro row hrow
      exact hname (keys_rows g ▸ List.mem_map_of_mem (Table.mem_of_get? hrow))
    rw [hnone, arcsFrom, edgesFrom_eq_nil h hname]
    rfl

/-- An arc leads from one name to another exactly if an edge does. -/
theorem joins_network {g : Graph} (h : Coherent g) (source target : String) :
    g.network.joins source target = g.joins (source, target) := by
  rw [Network.joins, row_network h, joins, arcsFrom, edgesFrom, Table.has, List.any_map,
    List.any_filter]
  -- two pairs are the same if their parts are
  rfl

/-- The arcs of a graph's network are its listed dependencies. -/
theorem listing_network (g : Graph) :
    g.network.listing =
      g.dependencies.map fun d => (d.source, d.target, Arc.ofDependency d) := by
  rw [Network.listing, network, List.flatMap_map, dependencies, List.map_flatMap]
  refine List.flatMap_congr fun name _ => ?_
  simp only [arcsFrom, List.map_map]
  refine List.map_congr_left fun d hd => ?_
  -- the row's name is the source of each of its arcs
  have hsource : d.source = name := beq_iff_eq.1 (List.mem_filter.1 hd).2
  rw [Function.comp_apply, hsource]

/-- A node that is added is marked in the network, and its row stays as it is. -/
theorem network_addNode {g : Graph} (h : Coherent g) (n : Node) :
    (g.addNode n).network = g.network.mark n.name (Mark.ofNode n) := by
  have hmarks : (g.addNode n).network.marks = g.network.marks.put n.name (Mark.ofNode n) :=
    Table.map_put Mark.ofNode g.nodes n.name n
  have hrows : (g.addNode n).network.rows =
      if g.network.rows.has n.name then g.network.rows else g.network.rows.put n.name [] := by
    by_cases hknown : n.name ∈ g.nodes.keys
    · rw [if_pos (Table.has_eq_true_iff.2 (keys_rows g ▸ hknown))]
      simp only [network, addNode, Table.keys_put_of_mem hknown]
      rfl
    · have hnew : n.name ∉ g.network.rows.keys := keys_rows g ▸ hknown
      rw [if_neg (fun hhas => hnew (Table.has_eq_true_iff.1 hhas)), Table.put_of_not_mem hnew]
      simp only [network, addNode, Table.keys_put_of_not_mem hknown, List.map_append,
        List.map_singleton]
      -- no edge was accepted from a project before it was known
      have hempty : g.arcsFrom n.name = [] := by
        rw [arcsFrom, edgesFrom_eq_nil h hknown]
        rfl
      exact congrArg (fun row => g.network.rows ++ [(n.name, row)]) hempty
  calc (g.addNode n).network
      = ⟨(g.addNode n).network.marks, (g.addNode n).network.rows⟩ := rfl
    _ = g.network.mark n.name (Mark.ofNode n) := by rw [hmarks, hrows, Network.mark]

/-- A dependency that is accepted is drawn in the network, behind the arcs of its row. -/
theorem network_addDependency {g : Graph} (h : Coherent g) {d : Dependency}
    (haccepts : g.accepts d = true) :
    (g.addDependency d).network = g.network.join d.source d.target (Arc.ofDependency d) := by
  obtain ⟨hvalid, hfresh⟩ := accepts_iff.1 haccepts
  have hsource : d.source ∈ g.nodes.keys := (ends_known_of_valid hvalid).1
  -- the target has no arc in the row yet
  have htarget : d.target ∉ (g.arcsFrom d.source).keys := by
    intro hmem
    obtain ⟨⟨target, arc⟩, harc, rfl⟩ := List.mem_map.1 hmem
    obtain ⟨e, he, heq⟩ := List.mem_map.1 harc
    rw [edgesFrom, List.mem_filter, beq_iff_eq] at he
    refine hfresh (List.mem_map.2 ⟨e, he.1, ?_⟩)
    rw [Dependency.ends, Dependency.ends, he.2, (Prod.mk.inj heq).1]
  have hrow : ∀ name, (g.addDependency d).arcsFrom name =
      if name = d.source then (g.arcsFrom d.source).put d.target (Arc.ofDependency d)
      else g.arcsFrom name := by
    intro name
    rw [Table.put_of_not_mem htarget, addDependency_of_accepts haccepts]
    unfold arcsFrom edgesFrom
    rw [List.filter_append, List.map_append]
    by_cases hname : name = d.source
    · subst hname
      simp
    · simp [hname, Ne.symm hname]
  rw [Network.join, row_network h]
  simp only [network, nodes_addDependency, Table.put_map_keys h.names_nodup g.arcsFrom hsource,
    hrow]

end Graph

/-! ## Ledgers -/

/-- The nodes of a workspace with a network of their names beside them. -/
structure Ledger where
  nodes : Table Node := []
  network : Network := {}

namespace Ledger

/-- The projects by their names. -/
def projects (l : Ledger) : Table Project :=
  l.nodes.map fun (name, node) => (name, node.project)

/-- Whether a dependency is entered: it holds among the projects, and the network does not join its
    ends yet. -/
def accepts (l : Ledger) (d : Dependency) : Bool :=
  (d.invalidity l.projects).isNone && !l.network.joins d.source d.target

/-- Enters a change in both books. -/
def apply (l : Ledger) : Graph.Change → Ledger
  | .node n => ⟨l.nodes.put n.name n, l.network.mark n.name (Mark.ofNode n)⟩
  | .dependency d =>
    if l.accepts d then
      { l with network := l.network.join d.source d.target (Arc.ofDependency d) }
    else l

/-- The ledger that is kept through changes, from an empty one on. -/
def after (changes : List Graph.Change) : Ledger :=
  changes.foldl apply {}

/-- The ledger of a graph. -/
def ofGraph (g : Graph) : Ledger :=
  ⟨g.nodes, g.network⟩

/-- A ledger answers as its graph does. -/
theorem accepts_ofGraph {g : Graph} (h : g.Coherent) (d : Dependency) :
    (ofGraph g).accepts d = g.accepts d := by
  rw [accepts, Graph.accepts, ofGraph, Graph.joins_network h]
  rfl

/-- A change is entered in the ledger of a graph as it is made in the graph. -/
theorem apply_ofGraph {g : Graph} (h : g.Coherent) (change : Graph.Change) :
    (ofGraph g).apply change = ofGraph (g.apply change) := by
  cases change with
  | node n => exact congrArg (Ledger.mk _) (Graph.network_addNode h n).symm
  | dependency d =>
    rw [apply, accepts_ofGraph h, Graph.apply]
    cases haccepts : g.accepts d with
    | false =>
      rw [Graph.addDependency_of_not_accepts haccepts]
      rfl
    | true =>
      rw [ofGraph, ofGraph, Graph.nodes_addDependency, Graph.network_addDependency h haccepts]
      rfl

theorem foldl_apply_ofGraph {g : Graph} (h : g.Coherent) (changes : List Graph.Change) :
    changes.foldl apply (ofGraph g) = ofGraph (g.applyAll changes) := by
  induction changes generalizing g with
  | nil => rfl
  | cons change changes ih =>
    have hnext : (g.apply change).Coherent := Graph.coherent_applyAll h [change]
    rw [List.foldl_cons, apply_ofGraph h, ih hnext]
    rfl

/-- A ledger that is kept change by change holds the nodes and the network of the graph. -/
theorem ledger_after (location : Option String) (changes : List Graph.Change) :
    after changes = ofGraph (Graph.after location changes) :=
  foldl_apply_ofGraph (Graph.coherent_empty location) changes

end Ledger

/-! ## What all changes keep -/

/-- The part of a record under a key. -/
def Value.part? : Value → String → Option Value
  | .table es, key => Table.get? es key
  | _, _ => none

namespace Graph

/-- An edge that comes up under the ends of a listed one is that one: no later change puts another
    in its place. -/
theorem mem_dependencies_of_ends {g : Graph} (h : Coherent g) {changes : List Change}
    {d : Dependency} (hd : d ∈ (g.applyAll changes).dependencies)
    (hends : d.ends ∈ g.dependencies.map Dependency.ends) : d ∈ g.dependencies := by
  obtain ⟨e, he, heq⟩ := List.mem_map.1 hends
  have hlater : e ∈ (g.applyAll changes).dependencies :=
    (dependencies_sublist_applyAll g changes).subset he
  have hnodup := nodup_ends_dependencies (coherent_applyAll h changes)
  exact List.inj_on_of_nodup_map hnodup hlater hd heq ▸ he

/-- One project depends on another exactly if an edge between them is listed. -/
theorem mem_dependenciesOf_iff_listed {g : Graph} (h : Coherent g) {name other : String} :
    other ∈ g.dependenciesOf name ↔ (name, other) ∈ g.dependencies.map Dependency.ends := by
  rw [mem_dependenciesOf_iff_exists_edge, List.mem_map]
  refine exists_congr fun d => ?_
  rw [(dependencies_perm_edges h).mem_iff, Dependency.ends, Prod.mk.injEq]

/-- What holds of the graph that changes make of an empty one, of the ledger that is kept through
    the same changes, and of the records of the graph. -/
structure InStep (location : Option String) (changes : List Change) : Prop where
  /-- Both books hold the same, whatever was replaced, refused or offered again. -/
  ledger_eq : Ledger.after changes = .ofGraph (after location changes)
  /-- The network marks exactly the projects, by their names. -/
  marked : (Ledger.after changes).network.marks.keys =
    (after location changes).nodes.values.map Node.name
  /-- Projects stand in the order in which their names first came up. -/
  first_added : (after location changes).nodes.values.map Node.name = firstNames changes
  /-- Under a name stands the node that was added last. -/
  newest : ∀ name, (after location changes).nodes.get? name = lastNode name changes
  /-- An edge joins two different known projects. -/
  ends_known : ∀ d ∈ (after location changes).dependencies, d.source ≠ d.target ∧
    d.source ∈ (after location changes).nodes.values.map Node.name ∧
    d.target ∈ (after location changes).nodes.values.map Node.name
  /-- No two edges have the same ends. -/
  ends_nodup : ((after location changes).dependencies.map Dependency.ends).Nodup
  /-- Whatever is changed later, edges stay as they are, in their order, and no other edge takes the
      ends of one of them. -/
  kept : ∀ more,
    (after location changes).dependencies.Sublist (after location (changes ++ more)).dependencies ∧
    ∀ d ∈ (after location (changes ++ more)).dependencies,
      d.ends ∈ (after location changes).dependencies.map Dependency.ends →
        d ∈ (after location changes).dependencies
  /-- Both books give the same answer to an offered dependency. -/
  answer : ∀ d, (Ledger.after changes).accepts d = (after location changes).accepts d
  /-- A dependency that is accepted becomes one more edge, and all else stays. -/
  accepted : ∀ d, (after location changes).accepts d = true →
    ((after location changes).addDependency d).location = (after location changes).location ∧
    ((after location changes).addDependency d).nodes = (after location changes).nodes ∧
    ∃ before behind, (after location changes).dependencies = before ++ behind ∧
      ((after location changes).addDependency d).dependencies = before ++ d :: behind
  /-- A dependency that is not accepted leaves both books as they are. -/
  refused : ∀ d, (after location changes).accepts d = false →
    (after location changes).addDependency d = after location changes ∧
    (Ledger.after changes).apply (.dependency d) = Ledger.after changes
  /-- One project depends on another exactly if that one has it among its dependents, and exactly if
      an edge between them is listed. -/
  neighbours : ∀ name other,
    (other ∈ (after location changes).dependenciesOf name ↔
      name ∈ (after location changes).dependentsOf other) ∧
    (other ∈ (after location changes).dependenciesOf name ↔
      (name, other) ∈ (after location changes).dependencies.map Dependency.ends)
  /-- The network's arcs are the listed edges. -/
  arcs : (Ledger.after changes).network.listing =
    (after location changes).dependencies.map fun d => (d.source, d.target, Arc.ofDependency d)
  /-- The links and the dependencies of the graph's record are the listed edges. -/
  record : (after location changes).toValue.part? "edges" =
      some (.list ((after location changes).dependencies.map linkRecord)) ∧
    (after location changes).toValue.part? "dependencies" =
      some (.list ((after location changes).dependencies.map Dependency.toValue))
  /-- The numbers of the graph count the projects and the listed edges. -/
  counts : (after location changes).summary.part? "projects" =
      some (.int (after location changes).nodes.values.length) ∧
    (after location changes).summary.part? "dependencies" =
      some (.int (after location changes).dependencies.length)

/-- Whatever changes are made to an empty graph, and in whatever order: the network that is kept
    beside the nodes never falls out of step with them. -/
theorem inStep_after (location : Option String) (changes : List Change) :
    InStep location changes := by
  have h := coherent_after location changes
  have hledger := Ledger.ledger_after location changes
  have hnames := names_eq_keys h
  exact
    { ledger_eq := hledger
      marked := by
        rw [hledger, hnames]
        simp only [Ledger.ofGraph, network, Table.keys, List.map_map]
        rfl
      first_added := by rw [hnames, keys_after]
      newest := get?_nodes_after location changes
      ends_known := by
        intro d hd
        rw [hnames]
        exact ⟨d.source_ne_target, h.ends_known d ((dependencies_perm_edges h).mem_iff.1 hd)⟩
      ends_nodup := nodup_ends_dependencies h
      kept := by
        intro more
        rw [after_append]
        exact ⟨dependencies_sublist_applyAll _ more, fun d => mem_dependencies_of_ends h⟩
      answer := by
        intro d
        rw [hledger, Ledger.accepts_ofGraph h]
      accepted := by
        intro d haccepts
        refine ⟨?_, nodes_addDependency _ d, dependencies_addDependency h haccepts⟩
        rw [addDependency_of_accepts haccepts]
      refused := by
        intro d hrefused
        have hsame := addDependency_of_not_accepts hrefused
        refine ⟨hsame, ?_⟩
        rw [hledger, Ledger.apply_ofGraph h, apply, hsame]
      neighbours := by
        intro name other
        refine ⟨?_, mem_dependenciesOf_iff_listed h⟩
        rw [mem_dependenciesOf_iff_exists_edge, mem_dependentsOf_iff_exists_edge]
      arcs := by rw [hledger, Ledger.ofGraph, listing_network]
      record := ⟨rfl, rfl⟩
      counts := by
        rw [(dependencies_perm_edges h).length_eq, Table.values, List.length_map]
        exact ⟨rfl, rfl⟩ }

end Graph

end MakeAtlas
