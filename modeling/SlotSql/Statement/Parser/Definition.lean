import SlotSql.Statement.Parser.Basic
import SlotSql.Text.Case
/-!
# Table definitions and statements of a session

```text
CREATE TABLE [IF NOT EXISTS] <table> (<columns>, ROWKEY(<names>)) [COMMENT '<text>']
SHOW DATABASES
SHOW TABLES <tablespace>
INFO [<section>] [<node>]
VERBOSE ON | OFF
DELIMITER '<character>'
```
-/
namespace SlotSql.Parser

/-- A comment. -/
def comment (s : Settings) (e : Excerpt) : Read String := do
  let l ← literal e
  check e "comment must be quoted" l.quoted
  check e ("comment longer than " ++ toString s.maxCommentLen ++ " characters")
    (l.value.length ≤ s.maxCommentLen)
  return l.value

/-- A number of 32 bits in a column definition. -/
def size32 (what : String) (e : Excerpt) : Read Nat :=
  demand e (what ++ " out of range") (Number.natural? Number.max32 e.text)

/-- A column definition. -/
def columnDef (s : Settings) (e : Excerpt) : Read ColumnDef := do
  let shape ← demand e "invalid column definition" (Token.column? e)
  let name ← name s shape.name
  let type ← demand shape.type "unknown type" (ValueType.ofName? shape.type.text)
  let length ← shape.length.mapM (size32 "length")
  let scale ← shape.scale.mapM (size32 "scale")
  let comment ← shape.comment.mapM (comment s)
  return ⟨name, type, length, scale, shape.notNull, comment⟩

/-- The names behind `ROWKEY`. -/
def rowKey (s : Settings) (e : Excerpt) : Read (List String) := do
  let (inner, rest) ← e.splitParens
  check rest "unexpected text after ROWKEY" rest.isEmpty
  (inner.splitTopLevel ',').mapM (name s)

/-- The column definitions and the row key among the parts of a definition's body. -/
def definitions (s : Settings) (body : Excerpt) (key : Option (List String)) :
    List Excerpt → Except ParseError (List ColumnDef × Option (List String))
  | [] => .ok ([], key)
  | e :: es => do
    check body "empty column definition" !e.isEmpty
    match e.afterKeyword? "ROWKEY" with
    | some keys =>
      check e "duplicate ROWKEY clause" key.isNone
      definitions s body (some (← rowKey s keys)) es
    | none =>
      let column ← columnDef s e
      let (columns, key) ← definitions s body key es
      return (column :: columns, key)

/-- What follows the body of a table definition. -/
def tableComment (s : Settings) (e : Excerpt) : Read (Option String) := do
  if e.isEmpty then return none
  return some (← comment s (← demand e "unexpected text after column list" (e.afterKeyword? "COMMENT")))

/-- What follows `CREATE`. -/
def tableDef (s : Settings) (e : Excerpt) : Read TableDef := do
  let rest ← demand e "expected TABLE" (e.afterKeyword? "TABLE")
  let unless? := rest.afterKeywords? ["IF", "NOT", "EXISTS"]
  let (token, rest) := (unless?.getD rest).splitToken
  check e "missing table name" !token.isEmpty
  let table ← tableName s token
  check token "dual is reserved" !table.isDual
  let (body, rest) ← rest.splitParens
  let note ← tableComment s rest
  let (columns, key) ← definitions s body none (body.splitTopLevel ',')
  let key ← demand body "missing ROWKEY clause" key
  return ⟨table, unless?.isSome, columns, key, note⟩

/-- What follows `SHOW`. -/
def showing (s : Settings) (e : Excerpt) : Read Statement := do
  match e.afterKeyword? "DATABASES", e.afterKeyword? "TABLES" with
  | some rest, _ =>
    check rest "unexpected text" rest.isEmpty
    return .showDatabases
  | none, some rest =>
    check e "missing database name" !rest.isEmpty
    return .showTables (← name s rest)
  | none, none => throw (e.error "expected DATABASES or TABLES")

/-- Accepts the end of an INFO statement. -/
def infoEnd (e : Excerpt) : Read Unit :=
  check e.splitToken.1 "expected INFO [section] [node]" e.isEmpty

/-- The node of an INFO statement, if there is one. -/
def infoNode (e : Excerpt) : Read (Option Nat) := do
  let (token, rest) := e.splitToken
  if Token.isNumber token.chars then
    let node ← demand token "node index out of range" (Number.nat64? token.text)
    infoEnd rest
    return some node
  else
    infoEnd e
    return none

/-- What follows `INFO`. -/
def info (e : Excerpt) : Read Statement := do
  let e := e.trim
  let (token, rest) := e.splitToken
  if !e.isEmpty && !Token.isNumber token.chars && token.chars.all Char.isAlpha then
    return .info (some (Text.asciiLower token.text)) (← infoNode rest)
  else return .info none (← infoNode e)

/-- What follows `VERBOSE`. -/
def verbose (e : Excerpt) : Read Statement :=
  if e.text = "ON" then .ok (.verbose true)
  else if e.text = "OFF" then .ok (.verbose false)
  else .error (e.error "expected ON or OFF")

/-- What follows `DELIMITER`. -/
def delimiter (e : Excerpt) : Read Statement := do
  match (← literal e).value.toList with
  | [c] =>
    check e "delimiter must be a single visible character" (!Text.isBlank c && c != Excerpt.quote)
    return .delimiter c
  | _ => throw (e.error "delimiter must be a single visible character")

end SlotSql.Parser
