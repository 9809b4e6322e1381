import HarnessLink.Text.Ligature

/-!
# Tables

A table is drawn with lines around and between its cells. Every column is as
wide as its widest line, and a cell may have several lines.
-/
namespace HarnessLink.Cli.Table

/-- The lines of a cell. -/
def lines (cell : String) : List String := cell.splitOn "\n"

def cellWidth (cell : String) : Nat := (lines cell).foldl (fun w line => max w (Text.columns line)) 0

/-- The width of every column. -/
def widths : List (List String) → List Nat
  | [] => []
  | [row] => row.map cellWidth
  | row :: rest => List.zipWith max (row.map cellWidth) (widths rest)

/-- A line of a row; cells are padded on the right, and there is a blank on both
sides. -/
def rowLine (widths : List Nat) (texts : List String) : String :=
  let cells := List.zipWith (fun width text =>
    text ++ String.ofList (List.replicate (width - Text.columns text) ' ')) widths texts
  "│ " ++ String.intercalate " ┆ " cells ++ " │"

/-- The lines of a row, as many as its tallest cell has. -/
def rowLines (widths : List Nat) (row : List String) : List String :=
  let cells := row.map lines
  let height := cells.foldl (fun h cell => max h cell.length) 0
  (List.range height).map fun i => rowLine widths (cells.map fun cell => cell.getD i "")

/-- A rule across the table. -/
def rule (left fill joint right : String) (widths : List Nat) : String :=
  let spans := widths.map fun width => String.join (List.replicate (width + 2) fill)
  left ++ String.intercalate joint spans ++ right

/-- A table of a header and one row. -/
def render (header row : List String) : String :=
  let widths := widths [header, row]
  String.intercalate "\n" <|
    [rule "┌" "─" "┬" "┐" widths] ++ rowLines widths header ++
    [rule "╞" "═" "╪" "╡" widths] ++ rowLines widths row ++ [rule "└" "─" "┴" "┘" widths]

end HarnessLink.Cli.Table
