import DuplicateLogic.Text.Split
import DuplicateLogic.Text.Width

/-! # Tables

A table has a header and rows of cells. A cell is cut into lines at every newline. A column is as
wide as its widest line, a row as high as its tallest cell, and a blank stands on both sides of
every cell. -/

namespace DuplicateLogic.Report

/-- The lines of a cell. -/
def cellLines (text : String) : List String :=
  (Text.splitOn '\n' text.toList).map String.ofList

/-- The width of the widest line of a cell. -/
def cellWidth (text : String) : Nat :=
  (cellLines text).foldl (fun width line => max width (Text.displayWidth line)) 0

/-- The widths of the columns of a table. -/
def columnWidths (header : List String) (rows : List (List String)) : List Nat :=
  rows.foldl (fun widths row => widths.zipWith max (row.map cellWidth))
    (header.map fun text => max 1 (cellWidth text))

/-- A text with blanks after it up to a width. -/
def padded (width : Nat) (text : String) : String :=
  text ++ String.ofList (List.replicate (width - Text.displayWidth text) ' ')

/-- One line of a row, with blanks around every cell. -/
def tableLine (widths : List Nat) (cells : List String) : String :=
  let parts := widths.zipWith (fun width cell => " " ++ padded width cell ++ " ") cells
  "│" ++ "┆".intercalate parts ++ "│"

/-- The lines of a row. -/
def tableRow (widths : List Nat) (cells : List String) : List String :=
  let columns := cells.map cellLines
  let height := columns.foldl (fun height lines => max height lines.length) 0
  (List.range height).map fun index =>
    tableLine widths (columns.map fun lines => lines.getD index "")

/-- A border line. -/
def border (left fill middle right : String) (widths : List Nat) : String :=
  let parts := widths.map fun width => String.join (List.replicate (width + 2) fill)
  left ++ middle.intercalate parts ++ right

/-- A table without a line end after its last line. -/
def table (header : List String) (rows : List (List String)) : String :=
  let widths := columnWidths header rows
  let between := border "├" "╌" "┼" "┤" widths
  let body := ([between].intercalate (rows.map (tableRow widths)))
  "\n".intercalate
    ([border "┌" "─" "┬" "┐" widths] ++ tableRow widths header ++
      [border "╞" "═" "╪" "╡" widths] ++ body ++ [border "└" "─" "┴" "┘" widths])

end DuplicateLogic.Report
