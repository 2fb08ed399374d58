import SlotSql.Result.Basic
import SlotSql.Store.KeyMap
/-!
# Numbered rows

Rows that are looked up by their keys. They are kept in no order of their own: each row has the number of its insertion,
and the rows are listed by these numbers. A number is never used again, so that a row which is removed and inserted once
more stands at the end.
-/
namespace SlotSql

namespace RowsOf

variable {γ : Type}

/-- What can be done to rows. -/
inductive Request (γ : Type) where
  | insert (row : RowOf γ)
  | erase (key : String)
  /-- Sets a cell of the row of a key. -/
  | set (key : String) (index : Nat) (cell : Option γ)
  | traverse (visitor : Visitor γ)

/-- What comes of it. -/
inductive Answer (γ : Type) where
  | done
  | refused (e : EngineError)
  /-- The row that was removed or changed, if there was one. -/
  | row (r : Option (RowOf γ))
  /-- The rows that were visited, as they were then. -/
  | visited (rows : List (RowOf γ))

/-- The answers to requests that are performed one after the other, and what is left. -/
def runAll {σ : Type} (perform : σ → Request γ → Answer γ × σ) (s : σ) : List (Request γ) → List (Answer γ) × σ
  | [] => ([], s)
  | q :: qs =>
    let (a, s) := perform s q
    let (as, s) := runAll perform s qs
    (a :: as, s)

/-- Performs a request on a list of rows. -/
def perform (r : RowsOf γ) : Request γ → Answer γ × RowsOf γ
  | .insert row =>
    match r.insert row with
    | .ok r => (.done, r)
    | .error e => (.refused e, r)
  | .erase key => (.row (r.find? key), r.erase key)
  | .set key index cell =>
    let r := r.update key (·.set index cell)
    (.row (r.find? key), r)
  | .traverse v =>
    let (rows, r) := r.traverse v
    (.visited rows, r)

end RowsOf

/-- A row with the number of its insertion. -/
structure NumberedRow (γ : Type) where
  number : Nat
  row : RowOf γ

/-- Rows under their keys. -/
structure NumberedRows (γ : Type) where
  title : String
  columns : List Header
  entries : KeyMap (NumberedRow γ) := .empty
  /-- The number of the next insertion. -/
  next : Nat := 0

namespace NumberedRows

variable {γ : Type}

open RowsOf (Request Answer)

/-- Rows in the order of their numbers. -/
def inOrder (es : List (NumberedRow γ)) : List (NumberedRow γ) := es.mergeSort fun a b => a.number ≤ b.number

/-- The rows, in the order of their insertion. -/
def ordered (m : NumberedRows γ) : List (RowOf γ) :=
  (inOrder (m.entries.entries.map Prod.snd)).map NumberedRow.row

/-- The rows as a list. -/
def toRows (m : NumberedRows γ) : RowsOf γ := ⟨m.title, m.columns, m.ordered⟩

/-- The keys, in the order of insertion. -/
def keys (m : NumberedRows γ) : List String := m.ordered.map RowOf.key

/-- The number of rows. -/
def size (m : NumberedRows γ) : Nat := m.entries.size

/-- The number of columns. -/
def width (m : NumberedRows γ) : Nat := m.columns.length

/-- The row of a key. -/
def find? (m : NumberedRows γ) (key : String) : Option (RowOf γ) := (m.entries.get? key).map NumberedRow.row

/-- Inserts a row; its key must be new. -/
def insert (m : NumberedRows γ) (row : RowOf γ) : Except EngineError (NumberedRows γ) :=
  if m.entries.contains row.key then .error (.duplicate row.key)
  else
    .ok { m with
      entries := m.entries.insert row.key ⟨m.next, row.resize m.width⟩
      next := m.next + 1 }

/-- Removes the row of a key. -/
def erase (m : NumberedRows γ) (key : String) : NumberedRows γ := { m with entries := m.entries.erase key }

/-- Puts cells into the row of a key, if there is one. -/
def write (m : NumberedRows γ) (key : String) (cells : List (Nat × Option γ)) : NumberedRows γ :=
  match m.entries.get? key with
  | none => m
  | some e => { m with entries := m.entries.insert key { e with row := e.row.write cells } }

/-- Visits the rows of the given keys that are there when their turn comes, `seen` being those visited before. -/
def visit (v : Visitor γ) : (keys : List String) → (seen : List (RowOf γ)) → NumberedRows γ →
    List (RowOf γ) × NumberedRows γ
  | [], seen, m => (seen, m)
  | k :: ks, seen, m =>
    match m.find? k with
    | none => visit v ks seen m
    | some row =>
      let m := if (v seen row).keep then m.write k (v seen row).cells else m.erase k
      visit v ks (seen ++ [row]) m

/-- Visits the rows in the order of insertion. The visited rows come first, then what is left. -/
def traverse (m : NumberedRows γ) (v : Visitor γ) : List (RowOf γ) × NumberedRows γ := visit v m.keys [] m

/-- Performs a request. -/
def perform (m : NumberedRows γ) : Request γ → Answer γ × NumberedRows γ
  | .insert row =>
    match m.insert row with
    | .ok m => (.done, m)
    | .error e => (.refused e, m)
  | .erase key => (.row (m.find? key), m.erase key)
  | .set key index cell =>
    let m := m.write key [(index, cell)]
    (.row (m.find? key), m)
  | .traverse v =>
    let (rows, m) := m.traverse v
    (.visited rows, m)

end NumberedRows
end SlotSql
