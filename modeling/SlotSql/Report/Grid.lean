import SlotSql.Text.Pieces
import SlotSql.Text.Width
/-!
# Grids

A grid is drawn with lines around and between its cells. Columns are as wide as their widest line of
text takes on a terminal, and at least one column wide; a cell of several lines makes its row higher.

Results:
* `length_rowLines`: a row is as high as its highest cell.
-/
namespace SlotSql.Grid

/-- A cell of a grid. -/
structure Box where
  lines : List (List Char)
  /-- Whether the lines are aligned to the right. -/
  right : Bool := false
  deriving DecidableEq, Repr

/-- The cell of a text. -/
def Box.ofText (s : String) (right : Bool) : Box := ⟨Text.split '\n' s.toList, right⟩

/-- The width of a cell: that of its widest line. -/
def Box.width (b : Box) : Nat := (b.lines.map Text.width).foldl max 0

/-- A kind of horizontal line. -/
structure Rule where
  left : Char
  line : Char
  cross : Char
  right : Char

/-- The line above everything. -/
def top : Rule := ⟨'╭', '─', '┬', '╮'⟩
/-- The line below the heading. -/
def headRule : Rule := ⟨'╞', '═', '╪', '╡'⟩
/-- The line between two rows. -/
def rowRule : Rule := ⟨'├', '╌', '┼', '┤'⟩
/-- The line below everything. -/
def bottom : Rule := ⟨'╰', '─', '┴', '╯'⟩

/-- A horizontal line across columns of the given widths. -/
def Rule.draw (r : Rule) (widths : List Nat) : String :=
  String.ofList ([r.left] ++ Text.join [r.cross] (widths.map fun w => List.replicate (w + 2) r.line) ++
    [r.right])

/-- The vertical line at both ends of a row. -/
def edge : Char := '│'
/-- The vertical line between two cells. -/
def separator : Char := '┆'

/-- A line of a cell in a column. -/
def aligned (right : Bool) (width : Nat) (cs : List Char) : List Char :=
  let gap := List.replicate (width - Text.width cs) ' '
  if right then gap ++ cs else cs ++ gap

/-- The line of a row at an index. -/
def rowLine (widths : List Nat) (row : List Box) (i : Nat) : String :=
  let texts := (row.zip widths).map fun (b, w) =>
    [' '] ++ aligned b.right w ((b.lines[i]?).getD []) ++ [' ']
  String.ofList ([edge] ++ Text.join [separator] texts ++ [edge])

/-- The height of a row: that of its highest cell. -/
def height (row : List Box) : Nat := (row.map fun b => b.lines.length).foldl max 0

/-- The lines of a row. -/
def rowLines (widths : List Nat) (row : List Box) : List String :=
  (List.range (height row)).map (rowLine widths row)

theorem length_rowLines (widths : List Nat) (row : List Box) :
    (rowLines widths row).length = height row := by simp [rowLines]

/-- The widths of the columns of some rows. -/
def widths (columns : Nat) (rows : List (List Box)) : List Nat :=
  (List.range columns).map fun i => (rows.filterMap fun row => (row[i]?).map Box.width).foldl max 1

/-- The lines of rows with a line between every two. -/
def bodyLines (widths : List Nat) : List (List Box) → List String
  | [] => []
  | [row] => rowLines widths row
  | row :: rows => rowLines widths row ++ [rowRule.draw widths] ++ bodyLines widths rows

/-- The lines of a grid with a heading, unless there are no columns. -/
def draw (heading : List Box) (rows : List (List Box)) : List String :=
  let ws := widths heading.length (heading :: rows)
  let head := if heading.isEmpty then [] else rowLines ws heading ++ [headRule.draw ws]
  [top.draw ws] ++ head ++ bodyLines ws rows ++ [bottom.draw ws]

end SlotSql.Grid
