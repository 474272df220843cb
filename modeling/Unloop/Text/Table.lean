-- Tables with a title, a heavy head and light rows.

namespace Unloop.Text

/-- A table: its title, the names of its columns, and its rows, each with as
many cells. -/
structure Table where
  title : String
  head : List String
  rows : List (List String)
  deriving DecidableEq

/-- The strokes of a line between rows: at the left, along the cells, between
them, and at the right. -/
structure Rule where
  left : Char
  along : Char
  between : Char
  right : Char

/-- The strokes of a row: at the left, between the cells, and at the right. -/
structure Bars where
  left : Char
  between : Char
  right : Char

namespace Table

/-- The line above the head. -/
def top : Rule := ⟨'┏', '━', '┳', '┓'⟩

/-- The line below the head. -/
def below : Rule := ⟨'┡', '━', '╇', '┩'⟩

/-- The line below the rows. -/
def bottom : Rule := ⟨'└', '─', '┴', '┘'⟩

/-- The strokes of the head. -/
def headBars : Bars := ⟨'┃', '┃', '┃'⟩

/-- The strokes of the other rows. -/
def rowBars : Bars := ⟨'│', '│', '│'⟩

/-- The width of each column: that of its widest cell. -/
def widths (t : Table) : List Nat :=
  t.rows.foldl (fun ws row => List.zipWith (fun w cell => max w cell.length) ws row)
    (t.head.map String.length)

/-- Cells beside one another. -/
def joined (between : Char) : List (List Char) → List Char
  | [] => []
  | [cell] => cell
  | cell :: more => cell ++ between :: joined between more

/-- A line between rows. -/
def ruleLine (r : Rule) (ws : List Nat) : List Char :=
  r.left :: joined r.between (ws.map fun w => List.replicate (w + 2) r.along) ++ [r.right]

/-- A cell with a blank on either side, filled up to the width. -/
def padded (cell : String) (width : Nat) : List Char :=
  ' ' :: cell.toList ++ List.replicate (width - cell.length + 1) ' '

/-- A row. -/
def rowLine (b : Bars) (ws : List Nat) (cells : List String) : List Char :=
  b.left :: joined b.between (List.zipWith padded cells ws) ++ [b.right]

/-- The title in the middle of the width; an odd blank goes to its right. -/
def titleLine (title : String) (width : Nat) : List Char :=
  let surplus := width - title.length
  List.replicate (surplus / 2) ' ' ++ title.toList ++ List.replicate (surplus - surplus / 2) ' '

/-- The lines of a table. -/
def lines (t : Table) : List (List Char) :=
  let ws := t.widths
  let first := ruleLine top ws
  [titleLine t.title first.length, first, rowLine headBars ws t.head, ruleLine below ws] ++
    t.rows.map (rowLine rowBars ws) ++ [ruleLine bottom ws]

end Table

end Unloop.Text
