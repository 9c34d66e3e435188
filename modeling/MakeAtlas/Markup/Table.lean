import MakeAtlas.Markup.Basic

/-!
# Tables of marked-up text

A cell of several lines makes its row as high, and blanks at the ends of a line do not count.
-/

namespace MakeAtlas.Markup

/-- The lines of a cell as they are drawn. -/
def cellLines (reader : ParameterReader) (written : String) : Except Fault (List String) := do
  let shown ← shown reader written
  .ok ((Text.splitWhen (· == '\n') shown.toList).map fun line => String.ofList (Text.trim line))

/-- How many lines the highest cell of a row has. -/
def rowHeight (cells : List (List String)) : Nat :=
  cells.foldr (fun lines height => max lines.length height) 0

/-- The lines of a row with cells of several lines. A cell without more lines stays empty. -/
def rowLines (cells : List (List String)) : List (List String) :=
  (List.range (rowHeight cells)).map fun n => cells.map fun lines => lines[n]?.getD ""

/-- The rows of a table whose columns are given, all of the same length. -/
def rowsOf {α : Type} (columns : List (List α)) : List (List α) :=
  (List.range (columns.headD []).length).map fun n =>
    columns.filterMap fun column => column[n]?

/-- The rows of a table as they are drawn, given its columns. All cells are read column after column
before the first style of theirs is put to use. -/
def drawnRows (reader : ParameterReader) (columns : List (List String)) :
    Except Fault (List (List String)) := do
  let drawn ← columns.mapM fun column => column.mapM (cellLines reader)
  match columns.flatten.findSome? styleFault? with
  | some fault => .error fault
  | none => .ok ((rowsOf drawn).flatMap rowLines)

end MakeAtlas.Markup
