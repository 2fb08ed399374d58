import SlotSql.Statement.Parser.Basic
/-!
# Queries and deletions

```text
SELECT <items> FROM <table> [WHERE <conditions>] [OFFSET <n>] [LIMIT <n>]
DELETE FROM <table> [WHERE <conditions>] [OFFSET <n>] [LIMIT <n>]
```
-/
namespace SlotSql.Parser

/-- One item of a query's list. -/
def selectItem (s : Settings) (e : Excerpt) : Read SelectItem := do
  check e "empty field in select list" !e.isEmpty
  if e.chars = ['*'] then return .all
  if Token.isCount e.chars then return .count
  match ← call? s e with
  | some c => return .call c
  | none => return .column (← name s e)

/-- The list of a query. -/
def selectItems (s : Settings) (e : Excerpt) : Read (List SelectItem) := do
  let items ← (e.splitTopLevel ',').mapM (selectItem s)
  check e "'*' cannot be combined with other fields" (items.length ≤ 1 || !items.contains .all)
  return items

/-- The parts of a condition around the first of the signs that occurs in it. -/
def signIn? (e : Excerpt) :
    List (String × Comparison) → Option (Excerpt × String × Comparison × Excerpt)
  | [] => none
  | (sign, c) :: signs =>
    match e.cutAt? sign with
    | some (a, b) => some (a, sign, c, b)
    | none => signIn? e signs

/-- A condition. -/
def condition (s : Settings) (e : Excerpt) : Read Condition := do
  let (before, sign, c, after) ←
    demand e "expected <column> <operator> <value>" (signIn? e Comparison.signs)
  let column ← name s before
  let value := after.trim
  check e ("missing value after '" ++ Text.trimmed sign ++ "'") !value.isEmpty
  return ⟨column, c, ← literal value⟩

/-- The number behind a keyword, if the keyword is there, and the rest. -/
def numberClause (e : Excerpt) (keyword : String) : Except ParseError (Option Nat × Excerpt) :=
  match e.afterKeyword? keyword with
  | none => .ok (none, e)
  | some after => do
    let (token, rest) := after.splitToken
    return (some (← number token keyword), rest)

/-- The conditions behind the keyword, if it is there, and the rest. They end in front of the next
clause. -/
def whereClause (s : Settings) (e : Excerpt) : Except ParseError (List Condition × Excerpt) :=
  match e.afterKeyword? "WHERE" with
  | none => .ok ([], e)
  | some after => do
    let length := after.chars.length
    let stop := min ((after.findKeyword? "OFFSET").getD length)
      ((after.findKeyword? "LIMIT").getD length)
    let clause := (after.take stop).trim
    check e "missing WHERE condition" !clause.isEmpty
    let conditions ← (clause.splitUnquoted " AND ").mapM fun part => condition s part.trim
    return (conditions, (after.drop stop).trim)

/-- What follows the table of a query or deletion. -/
def selection (s : Settings) (e : Excerpt) : Read Selection := do
  let (conditions, rest) ← whereClause s e.trim
  let (offset, rest) ← numberClause rest "OFFSET"
  let (limit, rest) ← numberClause rest "LIMIT"
  check rest "unexpected text" rest.isEmpty
  return ⟨conditions, offset, limit⟩

/-- Whether an item can be evaluated without a row. -/
def needsNoRow : SelectItem → Bool
  | .call ⟨_, some (.column _)⟩ => false
  | .call _ => true
  | _ => false

/-- What follows `SELECT`. -/
def query (s : Settings) (e : Excerpt) : Read Query := do
  let stop ← demand e "missing FROM clause" (e.findKeyword? "FROM")
  let list := (e.take stop).trim
  check e "missing field list" !list.isEmpty
  let (token, rest) := (e.drop (stop + "FROM".length)).splitToken
  check (e.drop stop) "missing table name" !token.isEmpty
  let table ← tableName s token
  let items ← selectItems s list
  let sel ← selection s rest
  if table.isDual then
    check list "dual only supports functions of literals" (items.all needsNoRow)
    check rest "dual does not accept WHERE" sel.conditions.isEmpty
  return ⟨items, table, sel⟩

/-- What follows `DELETE`. -/
def deletion (s : Settings) (e : Excerpt) : Read Deletion := do
  let rest ← demand e "missing FROM clause" (e.afterKeyword? "FROM")
  let (token, rest) := rest.splitToken
  check e "missing table name" !token.isEmpty
  let table ← tableName s token
  check token "cannot delete from dual" !table.isDual
  return ⟨table, ← selection s rest⟩

end SlotSql.Parser
