import SlotSql.Engine.Basic
import SlotSql.Number.Integer
import SlotSql.Pattern.Glob
import SlotSql.Table.Blob
import SlotSql.Table.Schema
/-!
# The catalog

Each table is described by a hash in the store itself: the number of its columns, the columns, when
it was created, and its comment.
-/
namespace SlotSql.Catalog

open Cluster

/-- The field with the number of columns. -/
def countField : String := "numfields"
/-- The field with the columns. -/
def columnsField : String := "fieldes"
/-- The field with the time of creation. -/
def createdField : String := "timestamp"
/-- The field with the comment. -/
def commentField : String := "comment"

/-- The key of a table's entry. -/
def entryKey (s : Settings) (t : TableName) : String :=
  Key.system s.systemPrefix t.tablespace t.table

/-- How a table is called in messages. -/
def title (t : TableName) : String := "table " ++ t.text

/-- The fields of a table's entry. -/
def entry (t : Table) : List (String × Bytes) :=
  [(countField, Utf8.bytes (toString t.fields.length)), (columnsField, Blob.encode t.fields),
    (createdField, Utf8.bytes (toString t.created)), (commentField, Utf8.bytes t.comment)]

/-- Accepts a table that can be stored: it does not lie in the tablespace of the system and keeps
every condition. -/
def storable (s : Settings) (t : Table) : Except EngineError Unit := do
  if t.tablespace = s.systemPrefix then
    throw (.schema ("tablespace '" ++ t.tablespace ++ "' is reserved"))
  t.validate s

/-- Stores a table. One that exists is replaced, or kept, which is an error, if `ifNotExists`. -/
def create (s : Settings) (t : Table) (ifNotExists : Bool) : Engine Unit := do
  storable s t
  let key := entryKey s t.tableName
  if ifNotExists then
    if ← Asking.existsKey key then throw (.alreadyExists (title t.tableName))
  Asking.hmset key (entry t)

/-- The table of an entry's values. -/
def read (s : Settings) (name : TableName) (count columns created comment : Option Bytes) :
    Except EngineError Table := do
  let some count := count.map Utf8.decodeLossy | throw (.notFound (title name))
  let some n := Number.nat64? (Text.trimmed count)
    | throw (.schema (title name ++ " has a corrupt field count '" ++ count ++ "'"))
  if n = 0 then throw (.notFound (title name))
  let some blob := columns | throw (.schema (title name ++ " has no field descriptors"))
  let fields ← Blob.decode blob
  if fields.length ≠ n then
    throw (.schema (title name ++ " declares " ++ toString n ++ " fields but stores " ++
      toString fields.length))
  let table : Table := {
    tablespace := name.tablespace
    name := name.table
    fields
    created := ((created.map Utf8.decodeLossy).bind Number.int64?).getD 0
    comment := (comment.map Utf8.decodeLossy).getD "" }
  table.validate s
  return table

/-- The table of a name. -/
def describe (s : Settings) (name : TableName) : Engine Table := do
  let values ← Asking.hmget (entryKey s name) [countField, columnsField, createdField, commentField]
  let value (i : Nat) : Option Bytes := (values[i]?).bind id
  read s name (value 0) (value 1) (value 2) (value 3)

/-- Removes the entry of a table. -/
def drop (s : Settings) (name : TableName) : Engine Unit := do
  if (← Asking.del [entryKey s name]) = 0 then throw (.notFound (title name))

/-- The keys of a node that match a pattern, from a cursor on, looking at no more than `patience`
pages. -/
def nodeKeys (s : Settings) (pattern : String) (node : Nat) :
    (patience cursor : Nat) → Engine (List String)
  | 0, _ => return []
  | n + 1, cursor => do
    let page ← Asking.scan node cursor pattern s.scanBatch
    if page.cursor = 0 then return page.keys
    return page.keys ++ (← nodeKeys s pattern node n page.cursor)

/-- The tablespaces and tables of the entries that match a pattern. -/
def tables (s : Settings) (patience : Nat) (masters : List Nat) (pattern : String) :
    Engine (List (String × String)) := do
  let keys ← masters.mapM fun node => nodeKeys s pattern node patience 0
  return keys.flatten.filterMap (Key.parseSystem? s.systemPrefix)

/-- Names in order, each once. -/
def sorted (names : List String) : List String := (names.mergeSort (· ≤ ·)).eraseDups

/-- The tablespaces that hold a table. -/
def databases (s : Settings) (patience : Nat) (masters : List Nat) : Engine (List String) := do
  let found ← tables s patience masters (Key.systemPattern s.systemPrefix none)
  return sorted ((found.map Prod.fst).filter (· ≠ s.systemPrefix))

/-- The tables of a tablespace. -/
def tablesOf (s : Settings) (patience : Nat) (masters : List Nat) (tablespace : String) :
    Engine (List String) := do
  let pattern := Key.systemPattern s.systemPrefix (some (Glob.escape tablespace))
  let found ← tables s patience masters pattern
  return sorted ((found.filter fun t => t.1 = tablespace).map Prod.snd)

end SlotSql.Catalog
