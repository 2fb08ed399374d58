import SlotSql.Filter
import SlotSql.Result.Basic
import SlotSql.Table.Basic
/-!
# Plans

What a query or deletion does on a table: which keys it looks at, which parts of a key and which
attributes it filters, and what it puts into the result. How far a scan for a plan has come is kept
apart from the plan, in its progress.
-/
namespace SlotSql

/-- The conditions on one part of the row key. -/
structure KeyFilter where
  field : Field
  /-- The value that the part must have, if the conditions ask for one value. -/
  bound : Option String := none
  chain : List Filter := []

/-- An attribute that is read for each row, and the conditions on it. -/
structure FetchFilter where
  field : Field
  chain : List Filter := []
  /-- Whether the result shows the attribute. -/
  projected : Bool := false

/-- Where a value of a row comes from. -/
inductive Source where
  /-- A part of the row key. -/
  | key (index : Nat)
  /-- An attribute that is read. -/
  | fetch (index : Nat)
  deriving DecidableEq, Repr

/-- A column of a result. -/
inductive Output where
  | field (f : Field) (source : Source)
  /-- A call, and where the value of the column in its argument comes from. -/
  | call (c : Call) (source : Option Source)
  /-- The number of rows. -/
  | count

/-- The name of the column that shows the number of rows. -/
def countColumn : String := "count"

/-- The heading of a column of a result. -/
def Output.header : Output → Header
  | .field f _ => ⟨f.name, f.isKey⟩
  | .call c _ => ⟨c.text, false⟩
  | .count => ⟨countColumn, false⟩

/-- A plan. -/
structure Plan where
  table : Table
  keys : List KeyFilter
  fetches : List FetchFilter
  outputs : List Output
  /-- The pattern of the keys to look at. -/
  pattern : String
  /-- The only key to look at, if every part of the key is bound. -/
  directKey : Option String
  countOnly : Bool := false

/-- How far the scan of one node has come. -/
structure NodeCursor where
  node : Nat
  /-- The cursor of the next page. -/
  cursor : Nat := 0
  /-- Keys that a page held and that have not been looked at. -/
  pending : List String := []
  /-- Whether the last page has been read. -/
  scanDone : Bool := false
  deriving DecidableEq, Repr

/-- Whether a node has nothing left to offer. -/
def NodeCursor.isFinished (c : NodeCursor) : Bool := c.scanDone && c.pending.isEmpty

/-- How far a scan has come. -/
structure Progress where
  started : Bool := false
  /-- One cursor for each master. -/
  cursors : List NodeCursor := []
  /-- The keys that have been looked at. -/
  seen : List String := []
  /-- The number of rows accepted. -/
  accepted : Nat := 0
  deriving DecidableEq, Repr

/-- Whether no node has anything left to offer. -/
def Progress.isExhausted (g : Progress) : Bool := g.started && g.cursors.all NodeCursor.isFinished

namespace Plan

/-- An empty result with the columns of a plan. -/
def emptyRows (p : Plan) : Rows := ⟨p.table.fullName, p.outputs.map Output.header, []⟩

/-- A truth value as it is shown. -/
def truthText (b : Bool) : String := if b then "true" else "false"

/-- The plan and its progress as they are shown. -/
def notes (p : Plan) (g : Progress) : List String :=
  let keyNotes := (p.keys.filter fun k => !k.chain.isEmpty).map fun k =>
    "rowkey " ++ k.field.name ++ ": " ++ Filter.chainText k.chain
  let fetchNotes := p.fetches.map fun f =>
    "fetch " ++ f.field.name ++
      (if f.chain.isEmpty then "" else ": " ++ Filter.chainText f.chain)
  let nodeNotes := g.cursors.map fun c =>
    "node " ++ toString c.node ++ ": cursor " ++ toString c.cursor ++ ", " ++
      toString c.pending.length ++ " pending" ++ (if c.isFinished then ", finished" else "")
  ["key pattern: " ++ p.pattern, "direct lookup: " ++ truthText p.directKey.isSome] ++
    keyNotes ++ fetchNotes ++ nodeNotes ++ ["accepted: " ++ toString g.accepted]

end Plan
end SlotSql
