import SlotSql.Text.Pieces
import SlotSql.ValueType
/-!
# Statements

What a statement says once it is read, and how its parts are written.
-/
namespace SlotSql

/-- The name of the pseudo table that functions are evaluated on. -/
def dualTable : String := "dual"

/-- A table of a tablespace. -/
structure TableName where
  tablespace : String
  table : String
  deriving DecidableEq, Repr

/-- Whether this is the pseudo table. -/
def TableName.isDual (t : TableName) : Bool := t.table == dualTable

/-- The name as it is written. -/
def TableName.text (t : TableName) : String := t.tablespace ++ "." ++ t.table

/-- A value in a statement: its text, and whether it was written between quotes. -/
structure Literal where
  value : String
  quoted : Bool
  deriving DecidableEq, Repr

/-- Doubles single quotes. -/
def Literal.doubled (cs : List Char) : List Char :=
  cs.flatMap fun c => if c = '\x27' then [c, c] else [c]

/-- The literal as it is written. -/
def Literal.text (l : Literal) : String :=
  if l.quoted then "'" ++ String.ofList (doubled l.value.toList) ++ "'" else l.value

/-- How a condition compares a column with a literal. -/
inductive Comparison where
  | eq | ne | gt | lt | ge | le
  /-- The value starts with, ends with, or holds the literal. -/
  | leftLike | rightLike | like
  /-- A part of the value matches the regular expression. -/
  | pattern
  /-- Holds always. -/
  | ignore
  deriving DecidableEq, Repr

namespace Comparison

/-- The comparison as it is written. -/
def text : Comparison → String
  | eq => "=" | ne => "<>" | gt => ">" | lt => "<" | ge => ">=" | le => "<="
  | leftLike => "LLIKE" | rightLike => "RLIKE" | like => "LIKE"
  | pattern => "MATCH"
  | ignore => "IGNORE"

/-- The signs of the comparisons, in the order in which a condition is searched for them. -/
def signs : List (String × Comparison) :=
  [("<>", ne), ("!=", ne), (">=", ge), ("<=", le), ("=", eq), (">", gt), ("<", lt),
    (" LLIKE ", leftLike), (" RLIKE ", rightLike), (" LIKE ", like), (" MATCH ", pattern)]

/-- A comparison with a part of the value. -/
def isLike (c : Comparison) : Bool := c == leftLike || c == rightLike || c == like

/-- A comparison that applies to texts only. -/
def isTextual (c : Comparison) : Bool := c.isLike || c == pattern

end Comparison

/-- A condition on a column. -/
structure Condition where
  column : String
  comparison : Comparison
  value : Literal
  deriving DecidableEq, Repr

/-- The condition as it is written. -/
def Condition.text (c : Condition) : String :=
  c.column ++ " " ++ c.comparison.text ++ " " ++ c.value.text

/-- The functions of dates and times. -/
inductive TimeFunction where
  /-- The current date, time of day, or both. -/
  | nowDate | nowTime | nowStamp
  /-- The date of the argument, its time of day, or both. -/
  | toDate | toTime | toStamp
  deriving DecidableEq, Repr

namespace TimeFunction

/-- All functions. -/
def all : List TimeFunction := [nowDate, nowTime, nowStamp, toDate, toTime, toStamp]

/-- The name of a function. -/
def name : TimeFunction → String
  | nowDate => "NOWDATE" | nowTime => "NOWTIME" | nowStamp => "NOWSTAMP"
  | toDate => "TODATE" | toTime => "TOTIME" | toStamp => "TOSTAMP"

/-- The function of the given name. -/
def ofName? (s : String) : Option TimeFunction := all.find? fun f => f.name == s

/-- Whether a function takes an argument. -/
def takesArgument : TimeFunction → Bool
  | toDate | toTime | toStamp => true
  | _ => false

/-- The type of a function's value. -/
def resultType : TimeFunction → ValueType
  | nowDate | toDate => .date
  | nowTime | toTime => .time
  | nowStamp | toStamp => .stamp

end TimeFunction

/-- The argument of a function. -/
inductive Argument where
  | column (name : String)
  | literal (value : Literal)
  deriving DecidableEq, Repr

/-- The argument as it is written. -/
def Argument.text : Argument → String
  | column c => c
  | literal l => l.text

/-- A function with its argument. -/
structure Call where
  function : TimeFunction
  argument : Option Argument
  deriving DecidableEq, Repr

/-- The call as it is written. -/
def Call.text (c : Call) : String :=
  c.function.name ++ "(" ++ ((c.argument.map Argument.text).getD "") ++ ")"

/-- One item of the list of a query. -/
inductive SelectItem where
  /-- All columns. -/
  | all
  | column (name : String)
  /-- The number of rows. -/
  | count
  | call (c : Call)
  deriving DecidableEq, Repr

/-- The end of a statement that selects rows: conditions, how many rows to skip and how many to
take. -/
structure Selection where
  conditions : List Condition
  offset : Option Nat
  limit : Option Nat
  deriving DecidableEq, Repr

/-- A query. -/
structure Query where
  items : List SelectItem
  table : TableName
  selection : Selection
  deriving DecidableEq, Repr

/-- Whether a query counts rows. -/
def Query.isCount (q : Query) : Bool := q.items.contains .count

/-- A deletion of rows. -/
structure Deletion where
  table : TableName
  selection : Selection
  deriving DecidableEq, Repr

/-- A value to write. -/
inductive NewValue where
  | literal (value : Literal)
  | call (c : Call)
  deriving DecidableEq, Repr

/-- How an assignment joins the old value with the new one. -/
inductive AssignOp where
  | set | add | sub
  deriving DecidableEq, Repr

/-- An assignment to a column of a row that exists. -/
structure Assignment where
  column : String
  op : AssignOp
  value : NewValue
  deriving DecidableEq, Repr

/-- What to do with a row that exists. -/
inductive OnDuplicate where
  /-- Write over it. -/
  | overwrite
  /-- Leave it. -/
  | ignore
  | update (assignments : List Assignment)
  deriving DecidableEq, Repr

/-- Where rows to write come from. -/
inductive RowSource where
  | values (values : List NewValue)
  | query (q : Query)
  deriving DecidableEq, Repr

/-- A statement that writes rows. The columns are empty if none were written. -/
structure Upsertion where
  table : TableName
  columns : List String
  source : RowSource
  onDuplicate : OnDuplicate
  deriving DecidableEq, Repr

/-- The definition of a column. -/
structure ColumnDef where
  name : String
  type : ValueType
  length : Option Nat
  scale : Option Nat
  notNull : Bool
  comment : Option String
  deriving DecidableEq, Repr

/-- The definition of a table, with the names of its key columns in key order. -/
structure TableDef where
  table : TableName
  ifNotExists : Bool
  columns : List ColumnDef
  rowKey : List String
  comment : Option String
  deriving DecidableEq, Repr

/-- A statement. -/
inductive Statement where
  | select (q : Query)
  | delete (d : Deletion)
  | upsert (u : Upsertion)
  | create (t : TableDef)
  | describe (t : TableName)
  | drop (t : TableName)
  | showDatabases
  | showTables (tablespace : String)
  /-- The state of the nodes: one section or all, one node or all. -/
  | info (part : Option String) (node : Option Nat)
  /-- Whether results carry notes. -/
  | verbose (on : Bool)
  /-- The character that ends a statement. -/
  | delimiter (c : Char)
  /-- A command that goes to the store as it is. -/
  | command (arguments : List String)
  deriving DecidableEq, Repr

/-- The kind of a statement. -/
def Statement.kind : Statement → String
  | select _ => "SELECT"
  | delete _ => "DELETE"
  | upsert _ => "UPSERT"
  | create _ => "CREATE"
  | describe _ => "DESC"
  | drop _ => "DROP"
  | showDatabases => "SHOW DATABASES"
  | showTables _ => "SHOW TABLES"
  | info _ _ => "INFO"
  | verbose _ | delimiter _ | command _ => "COMMAND"

end SlotSql
