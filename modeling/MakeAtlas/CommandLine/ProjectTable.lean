import MakeAtlas.Graph.Basic

/-!
# The table of projects

A graph is shown as a table with a row for each project, and a line below the table that counts what
is in the graph. The cells are marked-up text.
-/

namespace MakeAtlas.CommandLine

/-- The head of the table of projects. -/
def tableHead : List String := ["Project", "Root", "Targets", "Depends on"]

/-- A list as a cell of the table. -/
def cell (items : List String) : String :=
  if items.isEmpty then "-" else String.intercalate ", " items

/-- The cells below each head, as they are written. -/
def tableColumns (g : Graph) : List (List String) :=
  let nodes := g.nodes.values
  [nodes.map Node.name, nodes.map Node.root, nodes.map fun node => cell node.tasks.keys,
    nodes.map fun node => cell (g.dependenciesOf node.name)]

/-- The line below the table. -/
def lastLine (g : Graph) : String :=
  toString g.nodes.length ++ " project(s), " ++ toString g.taskCount ++ " target(s), " ++
    toString g.edges.length ++ " dependency edge(s)"

end MakeAtlas.CommandLine
