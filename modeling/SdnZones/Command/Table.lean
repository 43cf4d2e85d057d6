-- SUMMARY: Tables of text with aligned columns.
import SdnZones.Text.Blank
import SdnZones.Text.Split
import SdnZones.Text.Utf8

/-!
# Tables

A table has a line of headers, a line of dashes and a line for each row. A column is as
wide as its longest cell takes bytes; cells are filled up with spaces to that many
characters, so a line is never longer than the dashes. Cells beyond the headers are
left out, and white space at the end of a line is removed.
-/

namespace SdnZones.Table

/-- The bytes of a cell. -/
def cellWidth (cell : String) : Nat := Utf8.byteLength cell.toList

/-- The widths of the columns, the first of them being column `i`. -/
def widthsFrom (rows : List (List String)) (i : Nat) : List String → List Nat
  | [] => []
  | header :: headers =>
    let cells := rows.filterMap (·[i]?)
    (cells.map cellWidth).foldl max (cellWidth header) :: widthsFrom rows (i + 1) headers

/-- The widths of the columns. -/
def widths (headers : List String) (rows : List (List String)) : List Nat :=
  widthsFrom rows 0 headers

/-- A cell filled up to a width. -/
def padded (cell : String) (width : Nat) : List Char :=
  cell.toList ++ List.replicate (width - cell.length) ' '

/-- Cells with two spaces between them. -/
def joinCells : List (List Char) → List Char
  | [] => []
  | [cell] => cell
  | cell :: next :: cells => cell ++ ' ' :: ' ' :: joinCells (next :: cells)

/-- A line of cells. -/
def line (ws : List Nat) (cells : List String) : String :=
  String.ofList (Text.trimEnd (joinCells (List.zipWith padded cells ws)))

/-- The line below the headers. -/
def rule (ws : List Nat) : String :=
  String.ofList (List.replicate (ws.foldr (· + ·) 0 + 2 * (ws.length - 1)) '-')

/-- The lines of a table. -/
def lines (headers : List String) (rows : List (List String)) : List String :=
  let ws := widths headers rows
  line ws headers :: rule ws :: rows.map (line ws)

/-- A table. -/
def render (headers : List String) (rows : List (List String)) : String :=
  Text.joinWith "\n" (lines headers rows)

end SdnZones.Table
