import MakeAtlas.Project.Dependency

/-!
# The graph of a workspace

The projects of a workspace with the dependencies between them. Projects keep the place in which
they were first added; a project replaces one of the same name. A dependency is only accepted if it
is valid among the projects there are and joins two projects that are not joined yet.

* `ends_nodup_addDependency`   at most one dependency for each pair of projects
* `mem_dependencies_iff`   the listing holds what has been accepted
-/

namespace MakeAtlas

/-- Projects and dependencies between them. -/
structure Graph where
  /-- The absolute path of the workspace. -/
  location : Option String := none
  /-- The nodes of the projects by their names. -/
  nodes : Table Node := []
  /-- The dependencies, in the order in which they were accepted. -/
  edges : List Dependency := []

namespace Graph

/-- The projects by their names. -/
def projects (g : Graph) : Table Project :=
  g.nodes.map fun (name, node) => (name, node.project)

/-- Adds a project or replaces the one of the same name. -/
def addNode (g : Graph) (node : Node) : Graph :=
  { g with nodes := g.nodes.put node.name node }

/-- What is said when a project is replaced by one with another root. -/
def replacing (g : Graph) (node : Node) : Option String :=
  ((g.nodes.get? node.name).filter fun old => old.root != node.root).map fun old =>
    "Project name '" ++ node.name ++ "' used by both " ++ old.root ++ " and " ++ node.root ++
      "; keeping " ++ node.root

/-- Whether two projects are joined. -/
def joins (g : Graph) (ends : String × String) : Bool :=
  g.edges.any fun d => d.ends == ends

/-- Whether a dependency may be added. -/
def accepts (g : Graph) (d : Dependency) : Bool :=
  (d.invalidity g.projects).isNone && !g.joins d.ends

/-- Adds a dependency if it is accepted. -/
def addDependency (g : Graph) (d : Dependency) : Graph :=
  if g.accepts d then { g with edges := g.edges ++ [d] } else g

/-- The dependencies of one project, in the order in which they were accepted. -/
def edgesFrom (g : Graph) (name : String) : List Dependency :=
  g.edges.filter fun d => d.source == name

/-- All dependencies, project by project. -/
def dependencies (g : Graph) : List Dependency :=
  g.nodes.keys.flatMap g.edgesFrom

/-- The projects that a project depends on, in the order in which they were joined. -/
def successors (g : Graph) (name : String) : List String :=
  (g.edgesFrom name).map Dependency.target

/-- The projects that a project depends on, by name. -/
def dependenciesOf (g : Graph) (name : String) : List String :=
  (g.successors name).mergeSort (· ≤ ·)

/-- The projects that depend on a project, by name. -/
def dependentsOf (g : Graph) (name : String) : List String :=
  ((g.edges.filter fun d => d.target == name).map Dependency.source).mergeSort (· ≤ ·)

/-- How many tasks the projects have together. -/
def taskCount (g : Graph) : Nat :=
  (g.nodes.values.flatMap fun node => node.tasks).length

/-- A graph of nodes and of those dependencies that are accepted. -/
def ofResults (location : Option String) (nodes : Table Node) (dependencies : List Dependency) :
    Graph :=
  dependencies.foldl addDependency (nodes.values.foldl addNode { location })

/-- What is said while nodes are added. -/
def warningsOf : Graph → List Node → List String
  | _, [] => []
  | g, node :: rest => (g.replacing node).toList ++ warningsOf (g.addNode node) rest

theorem mem_dependencies_iff {g : Graph} {d : Dependency} :
    d ∈ g.dependencies ↔ d ∈ g.edges ∧ d.source ∈ g.nodes.keys := by
  simp only [dependencies, edgesFrom, List.mem_flatMap, List.mem_filter, beq_iff_eq]
  constructor
  · rintro ⟨name, hname, hd, rfl⟩
    exact ⟨hd, hname⟩
  · rintro ⟨hd, hname⟩
    exact ⟨d.source, hname, hd, rfl⟩

theorem joins_eq_false_iff {g : Graph} {ends : String × String} :
    g.joins ends = false ↔ ends ∉ g.edges.map Dependency.ends := by
  simp [joins, List.any_eq_false]

theorem ends_nodup_addDependency {g : Graph} {d : Dependency}
    (h : (g.edges.map Dependency.ends).Nodup) :
    ((g.addDependency d).edges.map Dependency.ends).Nodup := by
  unfold addDependency
  split
  · next ha =>
    have fresh : d.ends ∉ g.edges.map Dependency.ends := by
      simp only [accepts, Bool.and_eq_true, Bool.not_eq_true'] at ha
      exact joins_eq_false_iff.1 ha.2
    rw [List.map_append, List.nodup_append]
    refine ⟨h, by simp, ?_⟩
    rintro a hmem b hb rfl
    rw [List.map_singleton, List.mem_singleton] at hb
    exact fresh (hb ▸ hmem)
  · exact h

end Graph

end MakeAtlas
