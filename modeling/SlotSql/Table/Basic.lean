import SlotSql.Key
import SlotSql.Statement.Basic
/-!
# Tables and their columns

A table has columns, some of which make up the row key: each of these has an ordinal from 1 on. All
other columns are attributes; those that are no sets are kept in the hash of a row.
-/
namespace SlotSql

/-- A column of a table. -/
structure Field where
  name : String
  type : ValueType
  /-- The greatest number of characters, or the number of digits of a decimal. -/
  length : Nat
  /-- The number of digits behind the point of a decimal. -/
  scale : Nat := 0
  /-- The place in the row key, from 1 on; zero for an attribute. -/
  ordinal : Nat := 0
  nullable : Bool := true
  comment : String := ""
  deriving DecidableEq, Repr

namespace Field

/-- Whether a column is a part of the row key. -/
def isKey (f : Field) : Bool := 0 < f.ordinal

/-- Whether a column is kept in the hash of a row. -/
def isPlain (f : Field) : Bool := !f.isKey && !f.type.isSet

end Field

/-- A table. -/
structure Table where
  tablespace : String
  name : String
  fields : List Field
  /-- When the table was created, in seconds since 1970. -/
  created : Int := 0
  comment : String := ""
  deriving DecidableEq, Repr

namespace Table

/-- Tablespace and name. -/
def tableName (t : Table) : TableName := ⟨t.tablespace, t.name⟩

/-- The name with its tablespace. -/
def fullName (t : Table) : String := t.tableName.text

/-- The column of a name. -/
def field? (t : Table) (name : String) : Option Field := t.fields.find? fun f => f.name == name

/-- The positions and columns of the row key, in key order. -/
def indexedKey (t : Table) : List (Nat × Field) :=
  let indexed := t.fields.mapIdx fun i f => (i, f)
  (indexed.filter fun p => p.2.isKey).mergeSort fun p q => p.2.ordinal ≤ q.2.ordinal

/-- The columns of the row key, in key order. -/
def keyFields (t : Table) : List Field := t.indexedKey.map Prod.snd

/-- The number of columns of the row key. -/
def keyCount (t : Table) : Nat := t.keyFields.length

/-- The sets. -/
def setFields (t : Table) : List Field := t.fields.filter fun f => f.type.isSet

/-- Whether rows keep columns in their hash. -/
def hasPlain (t : Table) : Bool := t.fields.any Field.isPlain

/-- The key of a row, or a pattern for rows if the parts are patterns. -/
def rowKey (t : Table) (parts : List String) : String := Key.row t.tablespace t.name parts

end Table
end SlotSql
