import Gleaner.Output.Style
import Gleaner.Text.Space

/-!
# Tables

Columns are as wide as their widest cell, counted in characters, and separated by bars; a line of
dashes and crossings stands below the header. Padding at the end of a line is dropped.
-/

namespace Gleaner.Output.Table

def pad (width : Nat) (cell : String) : String :=
  cell ++ String.ofList (List.replicate (width - cell.length) ' ')

/-- Widen columns to the cells of a row; cells beyond the columns have no width. -/
def widen : List Nat → List String → List Nat
  | width :: widths, cell :: cells => max width cell.length :: widen widths cells
  | widths, _ => widths

def widths (header : List String) (rows : List (List String)) : List Nat :=
  rows.foldl widen (header.map String.length)

/-- The cells of a row, padded; cells beyond the columns stay as they are. -/
def padRow : List Nat → List String → List String
  | width :: widths, cell :: cells => pad width cell :: padRow widths cells
  | [], cells => cells
  | _, [] => []

def rowLine (widths : List Nat) (cells : List String) : String :=
  String.ofList (Text.trimEnd (String.intercalate " │ " (padRow widths cells)).toList)

def separator (widths : List Nat) : String :=
  String.intercalate "─┼─" (widths.map fun width => String.ofList (List.replicate width '─'))

/-- The lines of a table; the header may be painted. -/
def lines (color : Bool) (header : List String) (rows : List (List String)) : List String :=
  let widths := widths header rows
  Style.paintIf color .bold (rowLine widths header) :: separator widths ::
    rows.map (rowLine widths)

end Gleaner.Output.Table
