import Quizmaster.Text.Pieces
import Quizmaster.Text.Width

namespace Quizmaster.Grid

/-- The lines of a cell. -/
abbrev Cell := List String

/-- A cell is as high as its text has lines. -/
def cellOf (s : String) : Cell := Text.split '\n' s

def cellWidth (c : Cell) : Nat := (c.map Text.width).foldl max 0

/-- The width of every column; the rows have equally many cells. -/
def columnWidths (rows : List (List Cell)) : List Nat :=
  rows.foldl (fun widths row => row.zipWith (fun cell w => max (cellWidth cell) w) widths)
    ((rows.head?.getD []).map fun _ => 0)

def pad (width : Nat) (s : String) : String :=
  " " ++ s ++ String.ofList (List.replicate (width - Text.width s + 1) ' ')

/-- One line of a row; cells that have ended are blank. -/
def rowLine (widths : List Nat) (row : List Cell) (index : Nat) : String :=
  "|" ++ Text.join "|" (row.zipWith (fun cell w => pad w (cell[index]?.getD "")) widths) ++ "|"

def rowLines (widths : List Nat) (row : List Cell) : List String :=
  (List.range ((row.map List.length).foldl max 1)).map (rowLine widths row)

/-- A line between rows: its ends, what it is drawn with, and what it is drawn with where columns
    meet. -/
def rule (ends fill joint : Char) (widths : List Nat) : String :=
  String.ofList [ends] ++
    Text.join (String.ofList [joint])
      (widths.map fun w => String.ofList (List.replicate (w + 2) fill)) ++
    String.ofList [ends]

/-- Rows with a line between each two. -/
def body (widths : List Nat) : List (List Cell) → List String
  | [] => []
  | [row] => rowLines widths row
  | row :: rest => rowLines widths row ++ rule '|' '-' '+' widths :: body widths rest

/-- The table of a header and rows below it, drawn with characters: cells padded by a space on both
    sides, columns as wide as their widest cell, and a line between any two rows. -/
def render (header : List String) (rows : List (List String)) : String :=
  let header := header.map cellOf
  let rows := rows.map (·.map cellOf)
  let widths := columnWidths (header :: rows)
  Text.join "\n" (rule '+' '-' '+' widths :: rowLines widths header ++
    rule '+' '=' '=' widths :: body widths rows ++ [rule '+' '-' '+' widths])

end Quizmaster.Grid
