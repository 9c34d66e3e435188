import MakeAtlas.Graph.Basic
import MakeAtlas.Proofs.DistinctBlocks
import MakeAtlas.Proofs.TableKeys

/-!
# Graphs that grow by changes

A graph is made from an empty one by changes, each of which adds a node or offers a dependency. What
holds of the empty graph and is kept by every change holds of all these graphs.

## Key results

- `accepts_iff`: when a dependency is added
- `coherent_after`: names are single, edges join two known projects, and no two projects twice
- `keys_after`: projects keep the order in which their names first came up
- `get?_nodes_after`: under a name stands the node that was added last
- `edges_prefix_applyAll`: later changes take no edge away
- `exists_accepted_of_mem_edges`: every edge was offered and accepted at some time
-/

namespace MakeAtlas

namespace Graph

/-! ## Changes -/

/-- What can be done to a graph. -/
inductive Change where
  /-- A node is added, or takes the place of the one of its name. -/
  | node (n : Node)
  /-- A dependency is offered. -/
  | dependency (d : Dependency)

/-- The name that a change adds a node under. -/
def Change.name? : Change → Option String
  | .node n => some n.name
  | .dependency _ => none

/-- The graph after a change. -/
def apply (g : Graph) : Change → Graph
  | .node n => g.addNode n
  | .dependency d => g.addDependency d

/-- The graph after several changes, one after the other. -/
def applyAll (g : Graph) (changes : List Change) : Graph :=
  changes.foldl apply g

/-- The graph that changes make of an empty one. -/
def after (location : Option String) (changes : List Change) : Graph :=
  applyAll { location } changes

theorem after_append (location : Option String) (changes more : List Change) :
    after location (changes ++ more) = (after location changes).applyAll more :=
  List.foldl_append

/-- The location of a workspace is no matter of changes. -/
theorem location_applyAll (g : Graph) (changes : List Change) :
    (g.applyAll changes).location = g.location := by
  induction changes generalizing g with
  | nil => rfl
  | cons change changes ih =>
    have hstep : (g.apply change).location = g.location := by
      cases change with
      | node n => rfl
      | dependency d =>
        simp only [apply, addDependency]
        split <;> rfl
    rw [applyAll, List.foldl_cons, ← hstep]
    exact ih (g.apply change)

/-! ## What a change does -/

/-- A graph accepts a dependency exactly if it is valid among the projects and joins two that are
    not joined yet. -/
theorem accepts_iff {g : Graph} {d : Dependency} :
    g.accepts d = true ↔
      d.invalidity g.projects = none ∧ d.ends ∉ g.edges.map Dependency.ends := by
  rw [accepts, Bool.and_eq_true, Option.isNone_iff_eq_none, Bool.not_eq_true', joins_eq_false_iff]

theorem addDependency_of_accepts {g : Graph} {d : Dependency} (h : g.accepts d = true) :
    g.addDependency d = { g with edges := g.edges ++ [d] } :=
  if_pos h

theorem addDependency_of_not_accepts {g : Graph} {d : Dependency} (h : g.accepts d = false) :
    g.addDependency d = g :=
  if_neg (by rw [h]; exact Bool.false_ne_true)

@[simp] theorem nodes_addDependency (g : Graph) (d : Dependency) :
    (g.addDependency d).nodes = g.nodes := by
  unfold addDependency
  split <;> rfl

theorem keys_projects (g : Graph) : g.projects.keys = g.nodes.keys := by
  rw [projects, Table.keys, Table.keys, List.map_map]
  rfl

/-- The project of a name is that of its node. -/
theorem get?_projects (g : Graph) (name : String) :
    g.projects.get? name = (g.nodes.get? name).map Node.project :=
  Table.get?_map Node.project g.nodes name

/-- An accepted dependency joins two known projects. -/
theorem ends_known_of_valid {g : Graph} {d : Dependency} (h : d.invalidity g.projects = none) :
    d.source ∈ g.nodes.keys ∧ d.target ∈ g.nodes.keys := by
  obtain ⟨source, hsource, htarget, -, -⟩ := Dependency.invalidity_eq_none_iff.1 h
  rw [← keys_projects]
  exact ⟨List.mem_map_of_mem (Table.mem_of_get? hsource), Table.has_eq_true_iff.1 htarget⟩

/-! ## What every change keeps -/

/-- What holds of every graph that is made by changes. -/
structure Coherent (g : Graph) : Prop where
  names_nodup : g.nodes.keys.Nodup
  name_eq : ∀ entry ∈ g.nodes, entry.2.name = entry.1
  ends_known : ∀ d ∈ g.edges, d.source ∈ g.nodes.keys ∧ d.target ∈ g.nodes.keys
  ends_nodup : (g.edges.map Dependency.ends).Nodup

theorem coherent_empty (location : Option String) : Coherent { location } where
  names_nodup := List.nodup_nil
  name_eq _ h := nomatch h
  ends_known _ h := nomatch h
  ends_nodup := List.nodup_nil

theorem coherent_addNode {g : Graph} (h : Coherent g) (n : Node) : Coherent (g.addNode n) where
  names_nodup := Table.nodup_keys_put h.names_nodup n.name n
  name_eq entry hentry := by
    rcases Table.mem_of_mem_put hentry with rfl | hentry
    · rfl
    · exact h.name_eq entry hentry
  ends_known d hd := by
    -- a known name stays known, whatever node is under it
    obtain ⟨hsource, htarget⟩ := h.ends_known d hd
    exact ⟨Table.mem_keys_put.2 (Or.inr hsource), Table.mem_keys_put.2 (Or.inr htarget)⟩
  ends_nodup := h.ends_nodup

theorem coherent_addDependency {g : Graph} (h : Coherent g) (d : Dependency) :
    Coherent (g.addDependency d) where
  names_nodup := by
    rw [nodes_addDependency]
    exact h.names_nodup
  name_eq entry hentry := by
    rw [nodes_addDependency] at hentry
    exact h.name_eq entry hentry
  ends_known e he := by
    rw [nodes_addDependency]
    cases haccepts : g.accepts d with
    | false =>
      rw [addDependency_of_not_accepts haccepts] at he
      exact h.ends_known e he
    | true =>
      rw [addDependency_of_accepts haccepts, List.mem_append, List.mem_singleton] at he
      rcases he with he | rfl
      · exact h.ends_known e he
      · exact ends_known_of_valid (accepts_iff.1 haccepts).1
  ends_nodup := ends_nodup_addDependency h.ends_nodup

theorem coherent_applyAll {g : Graph} (h : Coherent g) (changes : List Change) :
    Coherent (g.applyAll changes) := by
  induction changes generalizing g with
  | nil => exact h
  | cons change changes ih =>
    cases change with
    | node n => exact ih (coherent_addNode h n)
    | dependency d => exact ih (coherent_addDependency h d)

/-- Every graph that is made by changes is coherent. -/
theorem coherent_after (location : Option String) (changes : List Change) :
    Coherent (after location changes) :=
  coherent_applyAll (coherent_empty location) changes

/-- The names of the nodes of a coherent graph are the keys they are entered under. -/
theorem names_eq_keys {g : Graph} (h : Coherent g) :
    g.nodes.values.map Node.name = g.nodes.keys := by
  rw [Table.values, Table.keys, List.map_map]
  exact List.map_congr_left fun entry hentry => h.name_eq entry hentry

/-! ## Nodes in the course of changes -/

/-- The names under which nodes are added, each where it first comes up. -/
def firstNames (changes : List Change) : List String :=
  distinctBy id (changes.filterMap Change.name?)

/-- The node that is added last under a name. -/
def lastNode (name : String) : List Change → Option Node
  | [] => none
  | .dependency _ :: rest => lastNode name rest
  | .node n :: rest => (lastNode name rest).or (if n.name = name then some n else none)

theorem keys_applyAll (g : Graph) (changes : List Change) :
    (g.applyAll changes).nodes.keys =
      g.nodes.keys ++ distinctFrom id g.nodes.keys (changes.filterMap Change.name?) := by
  induction changes generalizing g with
  | nil => simp [applyAll, distinctFrom]
  | cons change changes ih =>
    rw [applyAll, List.foldl_cons, ← applyAll, ih]
    cases change with
    | dependency d =>
      rw [apply, nodes_addDependency]
      rfl
    | node n =>
      simp only [apply, addNode, List.filterMap_cons, Change.name?, distinctFrom, id]
      by_cases hknown : n.name ∈ g.nodes.keys
      · rw [if_pos hknown, Table.keys_put_of_mem hknown]
      · rw [if_neg hknown, Table.keys_put_of_not_mem hknown, List.append_assoc,
          List.singleton_append]
        congr 2
        -- the new name is seen from here on, no matter where among the seen ones it stands
        exact distinctFrom_congr fun name _ => by
          rw [List.mem_append, List.mem_singleton, List.mem_cons, or_comm]

/-- The projects of a graph that is made by changes stand in the order in which their names first
    came up. -/
theorem keys_after (location : Option String) (changes : List Change) :
    (after location changes).nodes.keys = firstNames changes := by
  rw [after, keys_applyAll]
  rfl

theorem get?_nodes_applyAll (g : Graph) (changes : List Change) (name : String) :
    (g.applyAll changes).nodes.get? name = (lastNode name changes).or (g.nodes.get? name) := by
  induction changes generalizing g with
  | nil => rfl
  | cons change changes ih =>
    rw [applyAll, List.foldl_cons, ← applyAll, ih]
    cases change with
    | dependency d => rw [apply, nodes_addDependency, lastNode]
    | node n =>
      rw [apply, addNode, Table.get?_put, lastNode, Option.or_assoc]
      by_cases hname : n.name = name <;> simp [hname]

/-- Under a name stands the node that was added last. -/
theorem get?_nodes_after (location : Option String) (changes : List Change) (name : String) :
    (after location changes).nodes.get? name = lastNode name changes := by
  rw [after, get?_nodes_applyAll]
  exact Option.or_none

/-- The node that is added last under a name is one of those that are added. -/
theorem mem_of_lastNode {name : String} {changes : List Change} {n : Node}
    (h : lastNode name changes = some n) : Change.node n ∈ changes ∧ n.name = name := by
  induction changes with
  | nil => cases h
  | cons change changes ih =>
    cases change with
    | dependency d => exact ⟨List.mem_cons_of_mem _ (ih h).1, (ih h).2⟩
    | node m =>
      rw [lastNode, Option.or_eq_some_iff] at h
      rcases h with h | ⟨-, h⟩
      · exact ⟨List.mem_cons_of_mem _ (ih h).1, (ih h).2⟩
      · split at h
        · next hname =>
          cases h
          exact ⟨List.mem_cons_self, hname⟩
        · cases h

/-! ## Edges in the course of changes -/

/-- Later changes only add edges behind those that are there. -/
theorem edges_prefix_applyAll (g : Graph) (changes : List Change) :
    g.edges <+: (g.applyAll changes).edges := by
  induction changes generalizing g with
  | nil => exact List.prefix_refl g.edges
  | cons change changes ih =>
    have hstep : g.edges <+: (g.apply change).edges := by
      cases change with
      | node n => exact List.prefix_refl g.edges
      | dependency d =>
        simp only [apply, addDependency]
        split
        · exact List.prefix_append g.edges [d]
        · exact List.prefix_refl g.edges
    exact hstep.trans (ih (g.apply change))

theorem exists_accepted_of_mem_applyAll {g : Graph} {changes : List Change} {d : Dependency}
    (h : d ∈ (g.applyAll changes).edges) :
    d ∈ g.edges ∨ ∃ before later, changes = before ++ .dependency d :: later ∧
      (g.applyAll before).accepts d = true := by
  induction changes generalizing g with
  | nil => exact Or.inl h
  | cons change changes ih =>
    rcases ih (g := g.apply change) h with hstep | ⟨before, later, rfl, haccepts⟩
    · cases change with
      | node n => exact Or.inl hstep
      | dependency e =>
        rw [apply] at hstep
        cases haccepts : g.accepts e with
        | false =>
          rw [addDependency_of_not_accepts haccepts] at hstep
          exact Or.inl hstep
        | true =>
          rw [addDependency_of_accepts haccepts, List.mem_append, List.mem_singleton] at hstep
          rcases hstep with hstep | rfl
          · exact Or.inl hstep
          · exact Or.inr ⟨[], changes, rfl, haccepts⟩
    · exact Or.inr ⟨change :: before, later, rfl, haccepts⟩

/-- Every edge was offered at some time, and accepted by the graph as it was then. -/
theorem exists_accepted_of_mem_edges {location : Option String} {changes : List Change}
    {d : Dependency} (h : d ∈ (after location changes).edges) :
    ∃ before later, changes = before ++ .dependency d :: later ∧
      (after location before).accepts d = true :=
  (exists_accepted_of_mem_applyAll h).resolve_left fun hnone => nomatch hnone

end Graph

end MakeAtlas
