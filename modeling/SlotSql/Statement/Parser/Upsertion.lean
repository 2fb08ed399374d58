import SlotSql.Statement.Parser.Query
/-!
# Statements that write rows

```text
UPSERT INTO <table> (<columns>) VALUES (<values>) [ON DUPLICATE KEY IGNORE | UPDATE <assignments>]
UPSERT INTO <table> [(<columns>)] SELECT ...
```
-/
namespace SlotSql.Parser

/-- A value to write. -/
def newValue (s : Settings) (e : Excerpt) : Read NewValue := do
  check e "missing value" !e.isEmpty
  match ← call? s e with
  | some c => return .call c
  | none => return .literal (← literal e)

/-- An assignment. The column may come back on the right, in a sum or difference. -/
def assignment (s : Settings) (e : Excerpt) : Read Assignment := do
  let (left, right) ← demand e "expected <column> = <value>" (e.cutAt? "=")
  let column ← name s left
  let value := right.trim
  match Token.sum? value with
  | none => return ⟨column, .set, ← newValue s value⟩
  | some (again, op, operand) =>
    check value ("only '" ++ column ++ "' may appear on the right side") (again = column)
    return ⟨column, op, ← newValue s operand⟩

/-- The assignments behind `UPDATE`. -/
def assignments (s : Settings) (e : Excerpt) : Read (List Assignment) := do
  check e "missing assignment" !e.isEmpty
  (e.splitTopLevel ',').mapM (assignment s)

/-- What follows the values. -/
def onDuplicate (s : Settings) (e : Excerpt) : Read OnDuplicate := do
  if e.isEmpty then return .overwrite
  let clause ← demand e "expected ON DUPLICATE KEY" (e.afterKeywords? ["ON", "DUPLICATE", "KEY"])
  match clause.afterKeyword? "IGNORE", clause.afterKeyword? "UPDATE" with
  | some after, _ =>
    check after "unexpected text after IGNORE" after.isEmpty
    return .ignore
  | none, some after => return .update (← assignments s after)
  | none, none => throw (clause.error "expected IGNORE or UPDATE")

/-- The columns in front, if a parenthesis is there, and the rest. -/
def columnList (s : Settings) (e : Excerpt) : Except ParseError (List String × Excerpt) := do
  if e.chars.head? = some '(' then
    let (inner, rest) ← e.splitParens
    return (← (inner.splitTopLevel ',').mapM (name s), rest)
  else return ([], e)

/-- What follows `UPSERT`. -/
def upsertion (s : Settings) (e : Excerpt) : Read Upsertion := do
  let rest ← demand e "expected INTO" (e.afterKeyword? "INTO")
  let (token, rest) := rest.splitToken
  check e "missing table name" !token.isEmpty
  let table ← tableName s token
  check token "cannot upsert into dual" !table.isDual
  let (columns, rest) ← columnList s rest
  match rest.afterKeyword? "SELECT" with
  | some rest => return ⟨table, columns, .query (← query s rest), .overwrite⟩
  | none =>
    let rest ← demand rest "expected VALUES or SELECT" (rest.afterKeyword? "VALUES")
    check token "missing column list" !columns.isEmpty
    let (inner, rest) ← rest.splitParens
    let values ← (inner.splitTopLevel ',').mapM (newValue s)
    check inner ("expected " ++ toString columns.length ++ " values, found " ++
      toString values.length) (values.length = columns.length)
    return ⟨table, columns, .values values, ← onDuplicate s rest⟩

end SlotSql.Parser
