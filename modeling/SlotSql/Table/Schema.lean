import SlotSql.Settings
import SlotSql.Statement.Token
import SlotSql.Table.Basic
/-!
# Conditions on tables

What a table must keep to be stored: proper names, sizes that fit the types, and a row key whose
ordinals count from 1 on without gaps.
-/
namespace SlotSql

/-- What can be wrong with a table. -/
inductive SchemaFault where
  | invalidName (name : String)
  | longName (name : String) (max : Nat)
  | longTableComment (table : String) (max : Nat)
  | noFields (table : String)
  | tooManyFields (table : String) (count max : Nat)
  | duplicateField (field table : String)
  | keyType (type : ValueType) (field : String)
  | nullableKey (field : String)
  | decimalSize (field : String) (length scale : Nat)
  | noLength (type : ValueType) (field : String)
  | charLength (field : String)
  | strayScale (field : String) (type : ValueType)
  | longComment (field : String) (max : Nat)
  | noKey (table : String)
  | ordinals (table : String) (count : Nat)
  /-- A definition names a key column twice, or one that it does not define. -/
  | keyTwice (field : String)
  | keyUndefined (field : String)
  deriving DecidableEq, Repr

namespace SchemaFault

/-- The text of a fault. -/
def message : SchemaFault → String
  | invalidName n => "invalid name '" ++ n ++ "'"
  | longName n k => "name '" ++ n ++ "' is longer than " ++ toString k ++ " characters"
  | longTableComment t k => "comment of " ++ t ++ " is longer than " ++ toString k ++ " characters"
  | noFields t => t ++ " has no fields"
  | tooManyFields t n k =>
    t ++ " has " ++ toString n ++ " fields, at most " ++ toString k ++ " are allowed"
  | duplicateField f t => "duplicate field '" ++ f ++ "' in " ++ t
  | keyType t f => t.name ++ " field '" ++ f ++ "' cannot be part of the rowkey"
  | nullableKey f => "rowkey field '" ++ f ++ "' must be NOT NULL"
  | decimalSize f p k =>
    "DEC field '" ++ f ++ "' needs 0 < scale <= precision, got (" ++ toString p ++ ", " ++
      toString k ++ ")"
  | noLength t f => t.name ++ " field '" ++ f ++ "' needs a positive length"
  | charLength f => "CHAR field '" ++ f ++ "' has length 1"
  | strayScale f t => "only DEC fields take a scale, '" ++ f ++ "' is " ++ t.name
  | longComment f k => "comment of '" ++ f ++ "' is longer than " ++ toString k ++ " characters"
  | noKey t => t ++ " has no rowkey field"
  | ordinals t n => "rowkey ordinals of " ++ t ++ " must be 1.." ++ toString n ++ " without gaps"
  | keyTwice f => "field '" ++ f ++ "' appears twice in ROWKEY"
  | keyUndefined f => "rowkey field '" ++ f ++ "' is not defined"

/-- The fault as an error of the engine. -/
def toEngine (f : SchemaFault) : EngineError := .schema f.message

end SchemaFault

/-- What is wrong with a name. -/
def nameFault? (s : Settings) (name : String) : Option SchemaFault :=
  if !Token.isName name.toList then some (.invalidName name)
  else if s.maxNameLen < Utf8.size name.toList then some (.longName name s.maxNameLen)
  else none

/-- What is wrong with a column, its name apart. -/
def Field.fault? (f : Field) (s : Settings) : Option SchemaFault :=
  if f.isKey && !f.type.isKeyType then some (.keyType f.type f.name)
  else if f.isKey && f.nullable then some (.nullableKey f.name)
  else if f.type = .dec && (f.length = 0 || f.length < f.scale) then
    some (.decimalSize f.name f.length f.scale)
  else if (f.type = .str || f.type = .set) && f.length = 0 then some (.noLength f.type f.name)
  else if f.type = .char && f.length ≠ 1 then some (.charLength f.name)
  else if f.type ≠ .dec && f.scale ≠ 0 then some (.strayScale f.name f.type)
  else if s.maxCommentLen < f.comment.length then some (.longComment f.name s.maxCommentLen)
  else none

namespace Table

/-- The first fault of the columns that follow those of the given names. -/
def fieldsFault? (s : Settings) (table : String) (before : List String) :
    List Field → Option SchemaFault
  | [] => none
  | f :: fs =>
    match nameFault? s f.name <|>
      (if before.contains f.name then some (.duplicateField f.name table) else none) <|>
      f.fault? s with
    | some fault => some fault
    | none => fieldsFault? s table (f.name :: before) fs

/-- What is wrong with the row key. -/
def keyFault? (t : Table) : Option SchemaFault :=
  let ordinals := t.keyFields.map Field.ordinal
  if ordinals.isEmpty then some (.noKey t.fullName)
  else if ordinals ≠ (List.range ordinals.length).map (· + 1) then
    some (.ordinals t.fullName ordinals.length)
  else none

/-- The first condition that a table breaks. -/
def fault? (t : Table) (s : Settings) : Option SchemaFault :=
  nameFault? s t.tablespace <|> nameFault? s t.name <|>
    (if s.maxCommentLen < t.comment.length then some (.longTableComment t.fullName s.maxCommentLen)
      else none) <|>
    (if t.fields.isEmpty then some (.noFields t.fullName) else none) <|>
    (if s.maxFields < t.fields.length then
      some (.tooManyFields t.fullName t.fields.length s.maxFields) else none) <|>
    fieldsFault? s t.fullName [] t.fields <|> t.keyFault?

/-- A table that keeps every condition. -/
def Valid (t : Table) (s : Settings) : Prop := t.fault? s = none

instance (t : Table) (s : Settings) : Decidable (t.Valid s) := by unfold Valid; infer_instance

/-- Accepts a table that keeps every condition. -/
def validate (t : Table) (s : Settings) : Except EngineError Unit :=
  match t.fault? s with
  | none => .ok ()
  | some f => .error f.toEngine

end Table

namespace TableDef

/-- What is wrong with the names of the row key that follow the names `before`. -/
def keyFault? (d : TableDef) (before : List String) : List String → Option SchemaFault
  | [] => none
  | n :: ns =>
    if before.contains n then some (.keyTwice n)
    else if !d.columns.any fun c => c.name == n then some (.keyUndefined n)
    else d.keyFault? (n :: before) ns

/-- The column of a definition. A column of the row key cannot be absent. -/
def field (d : TableDef) (c : ColumnDef) : Field :=
  let ordinal := ((d.rowKey.idxOf? c.name).map (· + 1)).getD 0
  { name := c.name, type := c.type, length := c.length.getD c.type.defaultLength
    scale := c.scale.getD 0, ordinal, nullable := !c.notNull && ordinal == 0
    comment := c.comment.getD "" }

/-- The table of a definition, created at the time `now`. -/
def toTable (d : TableDef) (now : Int) : Except EngineError Table :=
  match d.keyFault? [] d.rowKey with
  | some f => .error f.toEngine
  | none =>
    .ok { tablespace := d.table.tablespace, name := d.table.table, fields := d.columns.map d.field
          created := now, comment := d.comment.getD "" }

end TableDef
end SlotSql
