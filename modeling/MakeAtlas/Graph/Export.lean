import MakeAtlas.Graph.Basic

/-!
# The record of a graph

A graph is written twice: as nodes and links for general graph tools, and with the full records of
its projects and dependencies.
-/

namespace MakeAtlas.Graph

/-- A node for graph tools. -/
def nodeRecord (name : String) (node : Node) : Value :=
  .table [("root", .text node.root), ("makefile", .text node.makefile),
    ("targets", .list (node.tasks.keys.map .text)), ("id", .text name)]

/-- A link for graph tools. -/
def linkRecord (d : Dependency) : Value :=
  .table [("type", .text "static"), ("source_file", .text d.evidence),
    ("line", (d.line.map fun n => Value.int n).getD .null),
    ("source", .text d.source), ("target", .text d.target)]

/-- The nodes by their roots. -/
def nodesByRoot (g : Graph) : Table Node :=
  Table.ofList (g.nodes.values.map fun node => (node.root, node))

/-- The entries of a graph's record, given how a node is written in full. -/
def entries (g : Graph) (writeNodes : Table Node → Value) : Table Value :=
  [("directed", .bool true), ("multigraph", .bool false), ("graph", .table []),
    ("nodes", .list (g.nodes.map fun (name, node) => nodeRecord name node)),
    ("edges", .list (g.dependencies.map linkRecord)),
    ("projects", writeNodes g.nodesByRoot),
    ("dependencies", .list (g.dependencies.map Dependency.toValue))]

/-- The record of a graph. -/
def toValue (g : Graph) : Value :=
  .table (g.entries fun nodes => .table (nodes.map fun (root, node) => (root, node.toValue)))

/-- The numbers of a graph. -/
def summary (g : Graph) : Value :=
  .table [("workspace", (g.location.map Value.text).getD .null), ("projects", .int g.nodes.length),
    ("dependencies", .int g.edges.length), ("targets", .int g.taskCount)]

end MakeAtlas.Graph
