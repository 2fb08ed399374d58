import SlotSql.Result.Basic
/-!
# Results as plain text

A result is drawn with ASCII rules. Columns of the row key are aligned to the left, all others to
the right; a result inside a cell follows its row, indented. Widths count characters.
-/
namespace SlotSql.Rows

/-- A text of at least `width` characters, with blanks behind it. -/
def padRight (width : Nat) (s : String) : String :=
  s ++ String.ofList (List.replicate (width - s.length) ' ')

/-- A text of at least `width` characters, with blanks in front of it. -/
def padLeft (width : Nat) (s : String) : String :=
  String.ofList (List.replicate (width - s.length) ' ') ++ s

/-- What is shown for a missing cell. -/
def missing : String := "NULL"

/-- The text of a cell that may be missing. -/
def cellText : Option Cell → String
  | some c => c.display
  | none => missing

/-- The width of each column: that of its widest text. -/
def widths (r : Rows) : List Nat :=
  r.columns.mapIdx fun i c =>
    (r.rows.filterMap fun row => (row.cells[i]?).map fun x => (cellText x).length).foldl max
      c.name.length

/-- A rule between lines. -/
def rule (ws : List Nat) : String :=
  "+" ++ String.join (ws.map fun w => String.ofList (List.replicate (w + 2) '-') ++ "+")

/-- A line of texts. -/
def line (texts : List String) : String := "|" ++ String.join (texts.map fun t => " " ++ t ++ " |")

/-- The texts of the cells of a row, aligned. -/
def alignedCells : List Header → List Nat → List (Option Cell) → List String
  | c :: cs, w :: ws, x :: xs =>
    (if c.isKey then padRight w (cellText x) else padLeft w (cellText x)) :: alignedCells cs ws xs
  | _, _, _ => []

/-- The lines in front of the rows. -/
def heading (r : Rows) (ws : List Nat) : List String :=
  (if r.title.isEmpty then [] else [r.title]) ++
    [rule ws, line (List.zipWith (fun c w => padRight w c.name) r.columns ws), rule ws]

/-- The lines behind the rows. -/
def footing (r : Rows) (ws : List Nat) : List String :=
  (if r.rows.isEmpty then [] else [rule ws]) ++ ["(" ++ toString r.size ++ " rows)"]

/-- The indentation of a result inside a row. -/
def indent : String := "    "

mutual

/-- The lines of a result. -/
def displayLines : (r : RowsOf Cell) → List String
  | ⟨title, columns, rows⟩ =>
    let ws := widths ⟨title, columns, rows⟩
    heading ⟨title, columns, rows⟩ ws ++ rowsLines columns ws rows ++ footing ⟨title, columns, rows⟩ ws

/-- The lines of rows. -/
def rowsLines (columns : List Header) (ws : List Nat) : List (RowOf Cell) → List String
  | [] => []
  | ⟨_, cells⟩ :: rows =>
    line (alignedCells columns ws cells) :: nestedLines cells ++ rowsLines columns ws rows

/-- The lines of the results inside cells. -/
def nestedLines : List (Option Cell) → List String
  | [] => []
  | none :: cells => nestedLines cells
  | some c :: cells => cellLines c ++ nestedLines cells

/-- The lines of the result inside a cell. -/
def cellLines : Cell → List String
  | .nested r => (displayLines r).map (indent ++ ·)
  | _ => []

end

/-- The result as plain text. -/
def display (r : Rows) : String := String.join ((displayLines r).map (· ++ "\n"))

end SlotSql.Rows
