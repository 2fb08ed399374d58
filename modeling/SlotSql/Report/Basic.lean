import SlotSql.Report.Interchange
import SlotSql.Report.Format
import SlotSql.Report.Grid
import SlotSql.Result.Display
import SlotSql.Session
import SlotSql.Store.KeyMap
/-!
# Reports

What a user is shown of a result. Rows are written in the chosen format; in a grid, in separated
values and in raw values a result inside a cell is drawn as plain text, in JSON it is an array of its
own. All other results are a line in words, whatever the format.
-/
namespace SlotSql

namespace Rows

/-- The text of a cell that may be missing; a result inside a cell keeps its lines. -/
def reportText : Option Cell → String
  | some (.nested r) => String.ofList (Text.trimEnd (display r).toList)
  | c => cellText c

/-- A number of rows, in words. -/
def countText (n : Nat) : String := toString n ++ (if n = 1 then " row" else " rows")

/-- The rows as a grid, with the title above and the number of rows below. -/
def gridReport (r : Rows) : String :=
  let heading := r.columns.map fun c => Grid.Box.ofText c.name false
  let row (x : Row) : List Grid.Box :=
    List.zipWith (fun c v => Grid.Box.ofText (reportText v) (!c.isKey)) r.columns x.cells
  let title := if r.title.isEmpty then [] else [r.title]
  "\n".intercalate (title ++ Grid.draw heading (r.rows.map row) ++ ["(" ++ countText r.size ++ ")"])

/-- The members of the object of a row, in the order of their names; of columns with one name the
last one counts. -/
def members (columns : List Header) (values : List JsonValue) : List (String × JsonValue) :=
  ((columns.zip values).foldl (fun (m : KeyMap JsonValue) (c, v) => m.insert c.name v) .empty).entries

mutual

/-- The array of the objects of rows. -/
def toJson : RowsOf Cell → JsonValue
  | ⟨_, columns, rows⟩ => .array (rowsToJson columns rows)

/-- The objects of rows. -/
def rowsToJson (columns : List Header) : List (RowOf Cell) → List JsonValue
  | [] => []
  | ⟨_, cells⟩ :: rows => .object (members columns (cellsToJson cells)) :: rowsToJson columns rows

/-- The values of cells. -/
def cellsToJson : List (Option Cell) → List JsonValue
  | [] => []
  | none :: cells => .null :: cellsToJson cells
  | some c :: cells => cellToJson c :: cellsToJson cells

/-- The value of a cell. -/
def cellToJson : Cell → JsonValue
  | .integer n => .integer n
  | .double x => .double x
  | .nested r => toJson r
  | c => .text c.display

end

/-- Lines with a line end behind each. -/
def linesText (ls : List String) : String := String.join (ls.map (· ++ "\n"))

/-- The rows as lines: the names of the columns, unless there are none, and a cell of each column. -/
def lineReport (line : List String → String) (text : Option Cell → String) (r : Rows) : String :=
  let heading := if r.columns.isEmpty then [] else [line (r.columns.map Header.name)]
  linesText (heading ++ r.rows.map fun x => line ((List.range r.width).map fun i => text (x.cell? i)))

/-- The text of a cell among separated values, in which a missing cell is empty. -/
def csvText (c : Option Cell) : String := if c.isSome then reportText c else ""

/-- The rows in a format. -/
def report (r : Rows) : Format → String
  | .table => gridReport r
  | .json => (toJson r).render 0
  | .csv => lineReport Csv.record csvText r
  | .raw => lineReport ("\t".intercalate ·) reportText r

end Rows

/-- A result in a format. -/
def StatementResult.report (f : Format) : StatementResult → String
  | .rows r => Rows.report r f
  | .affected verb n => Rows.countText n ++ " " ++ verb
  | .ignored => "duplicate key, row ignored"
  | .done text => text
  | .reply r => r.display

end SlotSql
