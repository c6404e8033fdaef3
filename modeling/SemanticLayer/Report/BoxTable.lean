import SemanticLayer.Text.Ascii
import SemanticLayer.Text.Width
/-!
Tables drawn with box characters. Each column is as wide as its widest line, with a space on both
sides; a cell may have several lines.
-/
namespace SemanticLayer.BoxTable

/-- The lines of a cell. -/
def cellLines (cell : String) : List String :=
  (Text.splitAtChar '\n' cell.toList).map String.ofList

/-- The number of columns that a cell takes. -/
def cellWidth (cell : String) : Nat := ((cellLines cell).map Text.width).foldl max 0

/-- The width of each column of a table with `count` columns. -/
def columnWidths (count : Nat) (rows : List (List String)) : List Nat :=
  (List.range count).map fun i =>
    (rows.map fun row => cellWidth (row.getD i "")).foldl max 0

/-- A horizontal line, from the characters of its left end, its length, its crossings and its
right end. -/
def rule (left fill cross right : String) (widths : List Nat) : String :=
  left ++ Text.join cross (widths.map fun w =>
    String.join (List.replicate (w + 2) fill)) ++ right

/-- A line of a cell, filled up to the width of its column. -/
def padded (width : Nat) (line : String) : String :=
  " " ++ line ++ String.ofList (List.replicate (width - Text.width line) ' ') ++ " "

/-- The lines of a row. -/
def rowLines (widths : List Nat) (row : List String) : List String :=
  let cells := row.map cellLines
  let height := (cells.map List.length).foldl max 0
  (List.range height).map fun n =>
    "│" ++ Text.join "┆" ((widths.zip cells).map fun (w, lines) => padded w (lines.getD n "")) ++ "│"

/-- Rows with a line between neighbours. -/
def separated (separator : String) (widths : List Nat) : List (List String) → List String
  | [] => []
  | [row] => rowLines widths row
  | row :: rest => rowLines widths row ++ separator :: separated separator widths rest

/-- A table with a header. -/
def render (header : List String) (rows : List (List String)) : String :=
  let widths := columnWidths header.length (header :: rows)
  Text.join "\n" <|
    rule "┌" "─" "┬" "┐" widths :: rowLines widths header
      ++ rule "╞" "═" "╪" "╡" widths :: separated (rule "├" "╌" "┼" "┤" widths) widths rows
      ++ [rule "└" "─" "┴" "┘" widths]

end SemanticLayer.BoxTable
