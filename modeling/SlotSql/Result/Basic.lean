import SlotSql.Cluster.Reply
import SlotSql.Error
import SlotSql.Number.Double
/-!
# Results

The rows of a result have distinct keys and keep the order in which they were inserted. A row has one
cell for each column; a cell can be missing, and it can hold a whole result of its own.
-/
namespace SlotSql

open Cluster (Reply)

/-- The heading of a column. -/
structure Header where
  name : String
  /-- Whether the column is a part of the row key. -/
  isKey : Bool := false
  deriving DecidableEq, Repr, Inhabited

/-- A row with cells of type `γ`. -/
structure RowOf (γ : Type) where
  key : String
  cells : List (Option γ)

/-- Rows with cells of type `γ` under headings. -/
structure RowsOf (γ : Type) where
  title : String
  columns : List Header
  rows : List (RowOf γ) := []
  deriving Inhabited

/-- What a cell holds. -/
inductive Cell where
  | text (s : String)
  | integer (n : Int)
  | double (x : Float)
  | binary (b : Bytes)
  | reply (r : Reply)
  | nested (rows : RowsOf Cell)

/-- A row of cells. -/
abbrev Row := RowOf Cell

/-- Rows of cells. -/
abbrev Rows := RowsOf Cell

namespace Cell

/-- Two hexadecimal digits for each octet. -/
def hexText (b : Bytes) : String :=
  String.ofList (b.flatMap fun x => [Nat.digitChar (x.toNat / 16), Nat.digitChar (x.toNat % 16)])

/-- The cell as it is shown. -/
def display : Cell → String
  | text s => s
  | integer n => toString n
  | double x => Number.display x
  | binary b => "0x" ++ hexText b
  | reply r => String.ofList (r.display.toList.map fun c => if c = '\n' then ' ' else c)
  | nested r => "<" ++ toString r.rows.length ++ " rows>"

/-- The text of a cell that holds one. -/
def text? : Cell → Option String
  | text s => some s
  | _ => none

/-- The integer of a cell that holds one. -/
def integer? : Cell → Option Int
  | integer n => some n
  | _ => none

/-- The result of a cell that holds one. -/
def nested? : Cell → Option Rows
  | nested r => some r
  | _ => none

end Cell

namespace RowOf

variable {γ : Type}

/-- A row with `width` missing cells. -/
def blank (key : String) (width : Nat) : RowOf γ := ⟨key, List.replicate width none⟩

/-- The cell at an index. -/
def cell? (r : RowOf γ) (i : Nat) : Option γ := (r.cells[i]?).bind id

/-- Replaces the cell at an index, if there is one. -/
def set (r : RowOf γ) (i : Nat) (c : Option γ) : RowOf γ := { r with cells := r.cells.set i c }

/-- The row with exactly `width` cells: more are dropped, and missing ones added. -/
def resize (r : RowOf γ) (width : Nat) : RowOf γ :=
  { r with cells := r.cells.take width ++ List.replicate (width - r.cells.length) none }

theorem length_resize (r : RowOf γ) (width : Nat) : (r.resize width).cells.length = width := by
  simp [resize]; omega

/-- Replaces several cells, one after the other. -/
def write (r : RowOf γ) (cells : List (Nat × Option γ)) : RowOf γ := cells.foldl (fun r (i, c) => r.set i c) r

end RowOf

/-- What becomes of a row that is visited: the cells that are set, and whether the row stays. -/
structure Verdict (γ : Type) where
  cells : List (Nat × Option γ) := []
  keep : Bool

/-- A visitor of rows, who knows the rows visited before. -/
abbrev Visitor (γ : Type) := List (RowOf γ) → RowOf γ → Verdict γ

/-- What a visitor leaves of rows, `seen` being those visited before. -/
def Visitor.sweep {γ : Type} (v : Visitor γ) : (seen rows : List (RowOf γ)) → List (RowOf γ)
  | _, [] => []
  | seen, row :: rows =>
    let rest := sweep v (seen ++ [row]) rows
    if (v seen row).keep then row.write (v seen row).cells :: rest else rest

namespace RowsOf

variable {γ : Type}

/-- The number of rows. -/
def size (r : RowsOf γ) : Nat := r.rows.length

/-- The number of columns. -/
def width (r : RowsOf γ) : Nat := r.columns.length

/-- The keys, in order. -/
def keys (r : RowsOf γ) : List String := r.rows.map RowOf.key

/-- The row of a key. -/
def find? (r : RowsOf γ) (key : String) : Option (RowOf γ) := r.rows.find? fun row => row.key == key

/-- The index of the column of a name. -/
def column? (r : RowsOf γ) (name : String) : Option Nat := r.columns.findIdx? fun c => c.name == name

/-- Adds a row at the end; its key must be new. -/
def insert (r : RowsOf γ) (row : RowOf γ) : Except EngineError (RowsOf γ) :=
  if r.keys.contains row.key then .error (.duplicate row.key)
  else .ok { r with rows := r.rows ++ [row.resize r.width] }

/-- Adds a row of the given cells at the end. -/
def add (r : RowsOf γ) (key : String) (cells : List (Option γ)) : Except EngineError (RowsOf γ) :=
  r.insert ⟨key, cells⟩

/-- Changes the row of a key, which stays where it is. -/
def update (r : RowsOf γ) (key : String) (f : RowOf γ → RowOf γ) : RowsOf γ :=
  { r with rows := r.rows.map fun row => if row.key == key then { f row with key } else row }

/-- Removes the row of a key. -/
def erase (r : RowsOf γ) (key : String) : RowsOf γ :=
  { r with rows := r.rows.filter fun row => row.key != key }

/-- Visits the rows in order. The visited rows come first, then what is left. -/
def traverse (r : RowsOf γ) (v : Visitor γ) : List (RowOf γ) × RowsOf γ :=
  (r.rows, { r with rows := v.sweep [] r.rows })

end RowsOf
end SlotSql
