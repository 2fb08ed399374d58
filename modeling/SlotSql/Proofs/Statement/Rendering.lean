import SlotSql.Statement.Basic
/-!
# How statements are written

Statements, written with single blanks between their words, the clauses in the order of the grammar and a
semicolon at the end.
-/
namespace SlotSql

/-- Texts with a separator between each two. -/
def joinText (sep : String) (ss : List String) : String :=
  String.ofList (Text.join sep.toList (ss.map String.toList))

/-- What stands between the parts of a list. -/
def comma : String := ", "

/-- A table's name in a statement. The pseudo table stands without a tablespace. -/
def TableName.written (t : TableName) : String := if t.isDual then dualTable else t.text

/-- An item of a query's list. -/
def SelectItem.text : SelectItem → String
  | .all => "*"
  | .column n => n
  | .count => "COUNT(*)"
  | .call c => c.text

/-- A keyword with a number, if there is a number. -/
def clauseText (keyword : String) : Option Nat → String
  | none => ""
  | some n => " " ++ keyword ++ " " ++ toString n

/-- What stands between two conditions. -/
def conjunction : String := " AND "

/-- The end of a statement that selects rows. -/
def Selection.text (s : Selection) : String :=
  (if s.conditions = [] then "" else " WHERE " ++ joinText conjunction (s.conditions.map Condition.text)) ++
    (clauseText "OFFSET" s.offset ++ clauseText "LIMIT" s.limit)

/-- What follows `SELECT`. -/
def Query.text (q : Query) : String :=
  joinText comma (q.items.map SelectItem.text) ++ " FROM " ++ q.table.written ++ q.selection.text

/-- What follows `DELETE`. -/
def Deletion.text (d : Deletion) : String := "FROM " ++ d.table.written ++ d.selection.text

/-- A value to write. -/
def NewValue.text : NewValue → String
  | .literal l => l.text
  | .call c => c.text

/-- What stands in front of a new value: the column comes back in a sum or difference. -/
def AssignOp.text (column : String) : AssignOp → String
  | .set => ""
  | .add => column ++ " + "
  | .sub => column ++ " - "

/-- An assignment. -/
def Assignment.text (a : Assignment) : String := a.column ++ " = " ++ a.op.text a.column ++ a.value.text

/-- What to do with a row that exists. -/
def OnDuplicate.text : OnDuplicate → String
  | .overwrite => ""
  | .ignore => " ON DUPLICATE KEY IGNORE"
  | .update as => " ON DUPLICATE KEY UPDATE " ++ joinText comma (as.map Assignment.text)

/-- Where rows to write come from. -/
def RowSource.text : RowSource → String
  | .values vs => " VALUES (" ++ joinText comma (vs.map NewValue.text) ++ ")"
  | .query q => " SELECT " ++ q.text

/-- What follows `UPSERT`. -/
def Upsertion.text (u : Upsertion) : String :=
  "INTO " ++ u.table.written ++ (if u.columns = [] then "" else " (" ++ joinText comma u.columns ++ ")") ++
    u.source.text ++ u.onDuplicate.text

/-- The length and the scale of a column. -/
def sizeText : Option Nat → Option Nat → String
  | none, _ => ""
  | some n, none => "(" ++ toString n ++ ")"
  | some n, some m => "(" ++ toString n ++ ", " ++ toString m ++ ")"

/-- A comment, if there is one. -/
def commentText : Option String → String
  | none => ""
  | some c => " COMMENT " ++ (Literal.mk c true).text

/-- The definition of a column. -/
def ColumnDef.text (c : ColumnDef) : String :=
  c.name ++ " " ++ c.type.name ++ sizeText c.length c.scale ++ (if c.notNull then " NOT NULL" else "") ++
    commentText c.comment

/-- What follows `CREATE`. The key columns stand behind the columns. -/
def TableDef.text (t : TableDef) : String :=
  "TABLE " ++ (if t.ifNotExists then "IF NOT EXISTS " else "") ++ t.table.written ++ " (" ++
    joinText comma (t.columns.map ColumnDef.text ++ ["ROWKEY(" ++ joinText comma t.rowKey ++ ")"]) ++ ")" ++
    commentText t.comment

/-- A statement without its end. -/
def Statement.body : Statement → String
  | .select q => "SELECT " ++ q.text
  | .delete d => "DELETE " ++ d.text
  | .upsert u => "UPSERT " ++ u.text
  | .create t => "CREATE " ++ t.text
  | .describe t => "DESC " ++ t.written
  | .drop t => "DROP TABLE " ++ t.written
  | .showDatabases => "SHOW DATABASES"
  | .showTables n => "SHOW TABLES " ++ n
  | .info part node => "INFO" ++ (part.elim "" fun p => " " ++ p) ++ node.elim "" fun n => " " ++ toString n
  | .verbose on => "VERBOSE " ++ if on then "ON" else "OFF"
  | .delimiter c => "DELIMITER " ++ (Literal.mk c.toString true).text
  | .command arguments => joinText " " arguments

/-- A statement as it is written. -/
def Statement.text (st : Statement) : String := st.body ++ ";"

theorem toList_comma : comma.toList = [',', ' '] := rfl

theorem toList_joinText (sep : String) (ss : List String) :
    (joinText sep ss).toList = Text.join sep.toList (ss.map String.toList) := String.toList_ofList

end SlotSql
