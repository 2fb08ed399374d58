import SlotSql.Proofs.Statement.Scanners
import SlotSql.Statement.Parser
import SlotSql.Statement.RawCommand
/-!
# Reading statements without leaving them

The readers of statements, once more: on ranges of octets, where a place outside of the statement or inside a character, a
counter below zero and cuts without end are each a case of their own. No statement comes to that case. What is read, or the
error that is reported, is what the readers of excerpts give.

Results:
* `Gives.bind`, `Gives.lift`: how that is put together; there is one lemma for each reader.
* `parse_gives`, `raw_gives`: a whole statement, and a command.
* `parsing_stays_inside`: all of it, and where errors point to.
-/
namespace SlotSql

open Utf8

/-- A reading that may come to the case that must not be (none), fail with an error, or give a value. -/
abbrev Checked (α : Type) : Type := ExceptT ParseError Option α

namespace Checked

/-! ## Readers of ranges -/

section Readers

variable (src : Bytes) (s : Settings)

/-- Fails with an error about a range. -/
def refuse {α : Type} (x : Extent) (message : String) : Checked α := do throw (← x.error? src message)

/-- The value, or an error about the range. -/
def demand {α : Type} (x : Extent) (message : String) : Option α → Checked α
  | some a => return a
  | none => refuse src x message

/-- Accepts a range that satisfies a condition. -/
def check (x : Extent) (message : String) (condition : Bool) : Checked Unit :=
  if condition then return () else refuse src x message

/-- Accepts a name that is short enough. -/
def checkLength (x : Extent) (name : List Char) : Checked Unit :=
  check src x ("name longer than " ++ toString s.maxNameLen ++ " characters") (size name ≤ s.maxNameLen)

/-- A name. -/
def name (x : Extent) : Checked String := do
  let x ← x.trim? src
  let cs ← x.chars? src
  check src x "invalid identifier" (Token.isName cs)
  checkLength src s x cs
  return String.ofList cs

/-- A table's name. -/
def tableName (x : Extent) : Checked TableName := do
  let x ← x.trim? src
  let cs ← x.chars? src
  let (tablespace, table) ← demand src x "invalid table name" (Token.tableParts? cs)
  if String.ofList table = dualTable then return ⟨s.systemPrefix, dualTable⟩
  let tablespace ← demand src x "table name must be qualified as <db>.<table>" tablespace
  checkLength src s x tablespace
  checkLength src s x table
  return ⟨String.ofList tablespace, String.ofList table⟩

/-- A table's name that nothing follows. -/
def lastTableName (x : Extent) : Checked TableName := do
  let (token, rest) ← x.splitToken? src
  check src x "missing table name" !token.isEmpty
  check src rest "unexpected text after table name" rest.isEmpty
  tableName src s token

/-- A literal. -/
def literal (x : Extent) : Checked Literal := do
  let x ← x.trim? src
  let cs ← x.chars? src
  match Text.stripStart? [Excerpt.quote] cs with
  | some body =>
    let inner ← demand src x "unterminated string literal" (Text.stripEnd? [Excerpt.quote] body)
    let value ← demand src x "unescaped quote in string literal" (Parser.undoubled? inner)
    return ⟨String.ofList value, true⟩
  | none =>
    check src x "expected a literal" !cs.isEmpty
    check src x "invalid literal; quote values containing spaces" (Token.isBare cs)
    return ⟨String.ofList cs, false⟩

/-- The number of an OFFSET or LIMIT clause. -/
def number (x : Extent) (clause : String) : Checked Nat := do
  let x ← x.trim? src
  let cs ← x.chars? src
  check src x (clause ++ " expects a non-negative integer") (Token.isNumber cs)
  demand src x (clause ++ " value out of range") (Number.nat64? (String.ofList cs))

/-- The argument of a function. -/
def argument (x : Extent) : Checked Argument := do
  let cs ← x.chars? src
  if Token.isName cs then return .column (← name src s x) else return .literal (← literal src x)

/-- A call, or none if the range does not look like one. -/
def call? (x : Extent) : Checked (Option Call) := do
  let x ← x.trim? src
  let e ← x.excerpt? src
  match Token.call? e with
  | none => return none
  | some (name, inner) =>
    let f ← demand src x "unknown function" (TimeFunction.ofName? name)
    let inner ← x.part? e inner
    let inner ← inner.trim? src
    if f.takesArgument then
      check src x (f.name ++ "() requires one argument") !inner.isEmpty
      return some ⟨f, some (← argument src s inner)⟩
    else
      check src inner (f.name ++ "() takes no argument") inner.isEmpty
      return some ⟨f, none⟩

/-! ### Queries and deletions -/

/-- One item of a query's list. -/
def selectItem (x : Extent) : Checked SelectItem := do
  check src x "empty field in select list" !x.isEmpty
  let cs ← x.chars? src
  if cs = ['*'] then return .all
  if Token.isCount cs then return .count
  match ← call? src s x with
  | some c => return .call c
  | none => return .column (← name src s x)

/-- The list of a query. -/
def selectItems (x : Extent) : Checked (List SelectItem) := do
  let parts ← x.splitTopLevel? src ','
  let items ← parts.mapM (selectItem src s)
  check src x "'*' cannot be combined with other fields" (items.length ≤ 1 || !items.contains .all)
  return items

/-- The parts of a condition around the first of the signs that occurs in it. -/
def signIn? (x : Extent) : List (String × Comparison) → Option (Option (Extent × String × Comparison × Extent))
  | [] => some none
  | (sign, c) :: signs => do
    match ← x.cutAt? src sign with
    | some (a, b) => return some (a, sign, c, b)
    | none => signIn? x signs

/-- A condition. -/
def condition (x : Extent) : Checked Condition := do
  let found ← signIn? src x Comparison.signs
  let (before, sign, c, after) ← demand src x "expected <column> <operator> <value>" found
  let column ← name src s before
  let value ← after.trim? src
  check src x ("missing value after '" ++ Text.trimmed sign ++ "'") !value.isEmpty
  return ⟨column, c, ← literal src value⟩

/-- The number behind a keyword, if the keyword is there, and the rest. -/
def numberClause (x : Extent) (keyword : String) : Checked (Option Nat × Extent) := do
  match ← x.afterKeyword? src keyword with
  | none => return (none, x)
  | some after =>
    let (token, rest) ← after.splitToken? src
    return (some (← number src token keyword), rest)

/-- The conditions behind the keyword, if it is there, and the rest. -/
def whereClause (x : Extent) : Checked (List Condition × Extent) := do
  match ← x.afterKeyword? src "WHERE" with
  | none => return ([], x)
  | some after =>
    let length ← after.length?
    let offset ← after.findKeyword? src "OFFSET"
    let limit ← after.findKeyword? src "LIMIT"
    let stop := min (offset.getD length) (limit.getD length)
    let clause ← after.before? stop
    let clause ← clause.trim? src
    check src x "missing WHERE condition" !clause.isEmpty
    let parts ← clause.splitUnquoted? src " AND "
    let conditions ← parts.mapM fun part => do
      let part ← part.trim? src
      condition src s part
    let rest ← after.after? stop
    let rest ← rest.trim? src
    return (conditions, rest)

/-- What follows the table of a query or deletion. -/
def selection (x : Extent) : Checked Selection := do
  let x ← x.trim? src
  let (conditions, rest) ← whereClause src s x
  let (offset, rest) ← numberClause src rest "OFFSET"
  let (limit, rest) ← numberClause src rest "LIMIT"
  check src rest "unexpected text" rest.isEmpty
  return ⟨conditions, offset, limit⟩

/-- What follows `SELECT`. -/
def query (x : Extent) : Checked Query := do
  let found ← x.findKeyword? src "FROM"
  let stop ← demand src x "missing FROM clause" found
  let list ← x.before? stop
  let list ← list.trim? src
  check src x "missing field list" !list.isEmpty
  let behind ← x.after? (stop + (bytes "FROM").length)
  let (token, rest) ← behind.splitToken? src
  let keyword ← x.after? stop
  check src keyword "missing table name" !token.isEmpty
  let table ← tableName src s token
  let items ← selectItems src s list
  let sel ← selection src s rest
  if table.isDual then
    check src list "dual only supports functions of literals" (items.all Parser.needsNoRow)
    check src rest "dual does not accept WHERE" sel.conditions.isEmpty
  return ⟨items, table, sel⟩

/-- What follows `DELETE`. -/
def deletion (x : Extent) : Checked Deletion := do
  let found ← x.afterKeyword? src "FROM"
  let rest ← demand src x "missing FROM clause" found
  let (token, rest) ← rest.splitToken? src
  check src x "missing table name" !token.isEmpty
  let table ← tableName src s token
  check src token "cannot delete from dual" !table.isDual
  return ⟨table, ← selection src s rest⟩

/-! ### Statements that write rows -/

/-- A value to write. -/
def newValue (x : Extent) : Checked NewValue := do
  check src x "missing value" !x.isEmpty
  match ← call? src s x with
  | some c => return .call c
  | none => return .literal (← literal src x)

/-- An assignment. -/
def assignment (x : Extent) : Checked Assignment := do
  let found ← x.cutAt? src "="
  let (left, right) ← demand src x "expected <column> = <value>" found
  let column ← name src s left
  let value ← right.trim? src
  let e ← value.excerpt? src
  match Token.sum? e with
  | none => return ⟨column, .set, ← newValue src s value⟩
  | some (again, op, operand) =>
    check src value ("only '" ++ column ++ "' may appear on the right side") (again = column)
    let operand ← value.part? e operand
    return ⟨column, op, ← newValue src s operand⟩

/-- The assignments behind `UPDATE`. -/
def assignments (x : Extent) : Checked (List Assignment) := do
  check src x "missing assignment" !x.isEmpty
  let parts ← x.splitTopLevel? src ','
  parts.mapM (assignment src s)

/-- What follows a sequence of keywords. -/
def afterKeywords? (x : Extent) (keywords : List String) : Option (Option Extent) := do
  (← x.trim? src).afterAll? src keywords

/-- What follows the values. -/
def onDuplicate (x : Extent) : Checked OnDuplicate := do
  if x.isEmpty then return .overwrite
  let found ← afterKeywords? src x ["ON", "DUPLICATE", "KEY"]
  let clause ← demand src x "expected ON DUPLICATE KEY" found
  let ignoring ← clause.afterKeyword? src "IGNORE"
  let updating ← clause.afterKeyword? src "UPDATE"
  match ignoring, updating with
  | some after, _ =>
    check src after "unexpected text after IGNORE" after.isEmpty
    return .ignore
  | none, some after => return .update (← assignments src s after)
  | none, none => refuse src clause "expected IGNORE or UPDATE"

/-- What stands inside and behind the parentheses in front. -/
def parens (x : Extent) : Checked (Extent × Extent) := ExceptT.mk (x.splitParens? src)

/-- The names of a list. -/
def names (x : Extent) : Checked (List String) := do
  let parts ← x.splitTopLevel? src ','
  parts.mapM (name src s)

/-- The columns in front, if a parenthesis is there, and the rest. -/
def columnList (x : Extent) : Checked (List String × Extent) := do
  let cs ← x.chars? src
  if cs.head? = some '(' then
    let (inner, rest) ← parens src x
    return (← names src s inner, rest)
  else return ([], x)

/-- What follows `UPSERT`. -/
def upsertion (x : Extent) : Checked Upsertion := do
  let found ← x.afterKeyword? src "INTO"
  let rest ← demand src x "expected INTO" found
  let (token, rest) ← rest.splitToken? src
  check src x "missing table name" !token.isEmpty
  let table ← tableName src s token
  check src token "cannot upsert into dual" !table.isDual
  let (columns, rest) ← columnList src s rest
  let selecting ← rest.afterKeyword? src "SELECT"
  match selecting with
  | some rest => return ⟨table, columns, .query (← query src s rest), .overwrite⟩
  | none =>
    let found ← rest.afterKeyword? src "VALUES"
    let rest ← demand src rest "expected VALUES or SELECT" found
    check src token "missing column list" !columns.isEmpty
    let (inner, rest) ← parens src rest
    let parts ← inner.splitTopLevel? src ','
    let values ← parts.mapM (newValue src s)
    check src inner ("expected " ++ toString columns.length ++ " values, found " ++ toString values.length)
      (values.length = columns.length)
    return ⟨table, columns, .values values, ← onDuplicate src s rest⟩

/-! ### Definitions and statements of a session -/

/-- A comment. -/
def comment (x : Extent) : Checked String := do
  let l ← literal src x
  check src x "comment must be quoted" l.quoted
  check src x ("comment longer than " ++ toString s.maxCommentLen ++ " characters") (l.value.length ≤ s.maxCommentLen)
  return l.value

/-- A number of 32 bits in a column definition. -/
def size32 (what : String) (x : Extent) : Checked Nat := do
  let cs ← x.chars? src
  demand src x (what ++ " out of range") (Number.natural? Number.max32 (String.ofList cs))

/-- A column definition. -/
def columnDef (x : Extent) : Checked ColumnDef := do
  let e ← x.excerpt? src
  let shape ← demand src x "invalid column definition" (Token.column? e)
  let front ← x.part? e shape.name
  let name ← name src s front
  let typeRange ← x.part? e shape.type
  let typeChars ← typeRange.chars? src
  let type ← demand src typeRange "unknown type" (ValueType.ofName? (String.ofList typeChars))
  let length ← shape.length.mapM fun part => do
    let part ← x.part? e part
    size32 src "length" part
  let scale ← shape.scale.mapM fun part => do
    let part ← x.part? e part
    size32 src "scale" part
  let comment ← shape.comment.mapM fun part => do
    let part ← x.part? e part
    comment src s part
  return ⟨name, type, length, scale, shape.notNull, comment⟩

/-- The names behind `ROWKEY`. -/
def rowKey (x : Extent) : Checked (List String) := do
  let (inner, rest) ← parens src x
  check src rest "unexpected text after ROWKEY" rest.isEmpty
  names src s inner

/-- The column definitions and the row key among the parts of a definition's body. -/
def definitions (body : Extent) (key : Option (List String)) :
    List Extent → Checked (List ColumnDef × Option (List String))
  | [] => return ([], key)
  | x :: xs => do
    check src body "empty column definition" !x.isEmpty
    let found ← x.afterKeyword? src "ROWKEY"
    match found with
    | some keys =>
      check src x "duplicate ROWKEY clause" key.isNone
      definitions body (some (← rowKey src s keys)) xs
    | none =>
      let column ← columnDef src s x
      let (columns, key) ← definitions body key xs
      return (column :: columns, key)

/-- What follows the body of a table definition. -/
def tableComment (x : Extent) : Checked (Option String) := do
  if x.isEmpty then return none
  let found ← x.afterKeyword? src "COMMENT"
  return some (← comment src s (← demand src x "unexpected text after column list" found))

/-- What follows `CREATE`. -/
def tableDef (x : Extent) : Checked TableDef := do
  let found ← x.afterKeyword? src "TABLE"
  let rest ← demand src x "expected TABLE" found
  let unless? ← afterKeywords? src rest ["IF", "NOT", "EXISTS"]
  let (token, rest) ← (unless?.getD rest).splitToken? src
  check src x "missing table name" !token.isEmpty
  let table ← tableName src s token
  check src token "dual is reserved" !table.isDual
  let (body, rest) ← parens src rest
  let note ← tableComment src s rest
  let parts ← body.splitTopLevel? src ','
  let (columns, key) ← definitions src s body none parts
  let key ← demand src body "missing ROWKEY clause" key
  return ⟨table, unless?.isSome, columns, key, note⟩

/-- What follows `DROP`. -/
def dropping (x : Extent) : Checked Statement := do
  let found ← x.afterKeyword? src "TABLE"
  return .drop (← lastTableName src s (← demand src x "expected TABLE" found))

/-- What follows `SHOW`. -/
def showing (x : Extent) : Checked Statement := do
  let databases ← x.afterKeyword? src "DATABASES"
  let tables ← x.afterKeyword? src "TABLES"
  match databases, tables with
  | some rest, _ =>
    check src rest "unexpected text" rest.isEmpty
    return .showDatabases
  | none, some rest =>
    check src x "missing database name" !rest.isEmpty
    return .showTables (← name src s rest)
  | none, none => refuse src x "expected DATABASES or TABLES"

/-- Accepts the end of an INFO statement. -/
def infoEnd (x : Extent) : Checked Unit := do
  let (token, _) ← x.splitToken? src
  check src token "expected INFO [section] [node]" x.isEmpty

/-- The node of an INFO statement, if there is one. -/
def infoNode (x : Extent) : Checked (Option Nat) := do
  let (token, rest) ← x.splitToken? src
  let cs ← token.chars? src
  if Token.isNumber cs then
    let node ← demand src token "node index out of range" (Number.nat64? (String.ofList cs))
    infoEnd src rest
    return some node
  else
    infoEnd src x
    return none

/-- What follows `INFO`. -/
def info (x : Extent) : Checked Statement := do
  let x ← x.trim? src
  let (token, rest) ← x.splitToken? src
  let cs ← token.chars? src
  if !x.isEmpty && !Token.isNumber cs && cs.all Char.isAlpha then
    return .info (some (Text.asciiLower (String.ofList cs))) (← infoNode src rest)
  else return .info none (← infoNode src x)

/-- What follows `VERBOSE`. -/
def verbose (x : Extent) : Checked Statement := do
  let cs ← x.chars? src
  if String.ofList cs = "ON" then return .verbose true
  else if String.ofList cs = "OFF" then return .verbose false
  else refuse src x "expected ON or OFF"

/-- What follows `DELIMITER`. -/
def delimiter (x : Extent) : Checked Statement := do
  match (← literal src x).value.toList with
  | [c] =>
    check src x "delimiter must be a single visible character" (!Text.isBlank c && c != Excerpt.quote)
    return .delimiter c
  | _ => refuse src x "delimiter must be a single visible character"

/-! ### Whole statements and commands -/

/-- The keywords that statements begin with, each with the reader for what follows it. -/
def readers : List (String × (Extent → Checked Statement)) :=
  [("SELECT", fun x => return .select (← query src s x)),
    ("DELETE", fun x => return .delete (← deletion src s x)),
    ("UPSERT", fun x => return .upsert (← upsertion src s x)),
    ("CREATE", fun x => return .create (← tableDef src s x)),
    ("DESC", fun x => return .describe (← lastTableName src s x)),
    ("DROP", dropping src s),
    ("SHOW", showing src s),
    ("INFO", info src),
    ("VERBOSE", verbose src),
    ("DELIMITER", delimiter src)]

/-- The first reader whose keyword stands in front, applied to what follows. -/
def readWith (x : Extent) : List (String × (Extent → Checked Statement)) → Checked Statement
  | [] => do
    let (token, _) ← x.splitToken? src
    refuse src token "unknown statement"
  | (keyword, reader) :: readers => do
    match ← x.afterKeyword? src keyword with
    | some rest => reader rest
    | none => readWith x readers

/-- The range of all octets. -/
def whole : Extent := ⟨0, src.length⟩

/-- The range of a statement without the blanks around it and the semicolon at its end. -/
def body : Option Extent := do
  let x ← (whole src).trim? src
  let cs ← x.chars? src
  if cs.getLast? = some ';' then
    let stop ← Extent.minus? (← x.length?) 1
    (← x.before? stop).trim? src
  else return x

/-- Reads a statement. -/
def parse : Checked Statement := do
  let x ← body src
  if x.isEmpty then refuse src x "empty statement" else readWith src x (readers src s)

/-- Reads a command. -/
def raw : Checked (List String) := do
  let x ← (whole src).trim? src
  let cs ← x.chars? src
  match RawCommand.arguments 0 cs with
  | .error n =>
    let rest ← x.after? (size (cs.take n))
    refuse src rest "unbalanced quotes"
  | .ok [] => refuse src x "empty command"
  | .ok as => return as

end Readers

/-! ## What they give -/

open Extent

/-- A reading of a text comes through, to a value or to an error; the error is about an excerpt of the text. -/
structure Gives {α : Type} (w : List Char) (c : Checked α) (r : Parser.Read α) : Prop where
  run : c.run = some r
  blames : ∀ err, r = .error err → ∃ (a : Excerpt) (message : String), a.In ⟨0, w⟩ ∧ err = a.error message

variable {α β γ : Type} {w : List Char} {e a b : Excerpt}

namespace Gives

theorem pure (v : α) : Gives w (Pure.pure v) (Pure.pure v) := ⟨rfl, nofun⟩

/-- What is found on octets without fail can be used. -/
theorem lift {o : Option β} {v : β} {f : β → Checked α} {r : Parser.Read α} (h : o = some v) (hf : Gives w (f v) r) :
    Gives w (liftM o >>= f) r := by
  rw [h]
  exact ⟨hf.run, hf.blames⟩

theorem bind {c : Checked α} {r : Parser.Read α} {f : α → Checked β} {g : α → Parser.Read β} (h : Gives w c r)
    (hf : ∀ v, r = .ok v → Gives w (f v) (g v)) : Gives w (c >>= f) (r >>= g) := by
  cases r with
  | error err =>
    refine ⟨?_, fun err' herr => ?_⟩
    · show (ExceptT.run c).bind _ = _
      rw [h.run]
      rfl
    · cases herr
      exact h.blames err rfl
  | ok v =>
    refine ⟨?_, (hf v rfl).blames⟩
    show (ExceptT.run c).bind _ = _
    rw [h.run]
    exact (hf v rfl).run

theorem map {c : Checked α} {r : Parser.Read α} (h : Gives w c r) (f : α → β) : Gives w (do return f (← c)) (r.map f) := by
  have hbind := h.bind (f := fun v => Pure.pure (f v)) (g := fun v => Pure.pure (f v)) fun _ _ => .pure _
  cases r with
  | error err => exact hbind
  | ok v => exact hbind

theorem refuse (h : e.In ⟨0, w⟩) (message : String) :
    Gives w (Checked.refuse (encode w) (of w e) message : Checked α) (.error (e.error message)) := by
  refine .lift (error?_of h message) ⟨rfl, fun err herr => ?_⟩
  cases herr
  exact ⟨e, message, h, rfl⟩

theorem demand (h : e.In ⟨0, w⟩) (message : String) (v : Option α) :
    Gives w (Checked.demand (encode w) (of w e) message v) (Parser.demand e message v) := by
  cases v with
  | none => exact .refuse h message
  | some v => exact .pure v

/-- What was looked for on octets, and was found or not. -/
theorem found (h : e.In ⟨0, w⟩) (message : String) {v : Option α} {g : α → β} {f : β → Checked γ}
    {k : α → Parser.Read γ} (hf : ∀ x, v = some x → Gives w (f (g x)) (k x)) :
    Gives w (Checked.demand (encode w) (of w e) message (v.map g) >>= f) (Parser.demand e message v >>= k) := by
  cases v with
  | none =>
    have hrefused : Gives w (Checked.refuse (encode w) (of w e) message : Checked β) (.error (e.error message)) :=
      .refuse h _
    exact hrefused.bind (g := fun _ => .error (e.error message)) nofun
  | some x => exact hf x rfl

theorem check (h : e.In ⟨0, w⟩) (message : String) (condition : Bool) :
    Gives w (Checked.check (encode w) (of w e) message condition) (Parser.check e message condition) := by
  cases condition with
  | false => exact .refuse h message
  | true => exact .pure ()

theorem each {f : Extent → Checked α} {g : Excerpt → Parser.Read α} {es : List Excerpt}
    (h : ∀ a ∈ es, Gives w (f (of w a)) (g a)) : Gives w ((es.map (of w)).mapM f) (es.mapM g) := by
  induction es with
  | nil => exact .pure []
  | cons a es ih =>
    rw [List.map_cons, List.mapM_cons, List.mapM_cons]
    exact (h a List.mem_cons_self).bind fun _ _ => (ih fun b hb => h b (List.mem_cons_of_mem _ hb)).bind fun _ _ => .pure _

theorem option {f : Excerpt → Checked α} {g : Excerpt → Parser.Read α} {o : Option Excerpt}
    (h : ∀ a ∈ o, Gives w (f a) (g a)) : Gives w (o.mapM f) (o.mapM g) := by
  cases o with
  | none => exact .pure none
  | some a => exact (h a rfl).map some

end Gives

/-- A reading in front of a rest: the value and the rest, which lies in the text. -/
structure GivesRest (w : List Char) (c : Checked (α × Extent)) (r : Except ParseError (α × Excerpt)) : Prop where
  gives : Gives w c (r.map fun (v, rest) => (v, of w rest))
  rest : ∀ v rest, r = .ok (v, rest) → rest.In ⟨0, w⟩

theorem map_bind {ε : Type} (r : Except ε α) (g : α → Except ε β) (k : β → γ) :
    (r >>= g).map k = r >>= fun v => (g v).map k := by
  cases r <;> rfl

namespace GivesRest

theorem pure (v : α) (h : e.In ⟨0, w⟩) : GivesRest w (Pure.pure (v, of w e)) (Pure.pure (v, e)) := by
  refine ⟨.pure _, fun v rest heq => ?_⟩
  cases heq
  exact h

theorem lift {o : Option β} {v : β} {f : β → Checked (α × Extent)} {r : Except ParseError (α × Excerpt)} (h : o = some v)
    (hf : GivesRest w (f v) r) : GivesRest w (liftM o >>= f) r := ⟨.lift h hf.gives, hf.rest⟩

/-- What is read of the rest, in turn. -/
theorem bind {c : Checked (α × Extent)} {r : Except ParseError (α × Excerpt)} {f : α × Extent → Checked β}
    {g : α × Excerpt → Parser.Read β} (h : GivesRest w c r)
    (hf : ∀ v rest, rest.In ⟨0, w⟩ → Gives w (f (v, of w rest)) (g (v, rest))) : Gives w (c >>= f) (r >>= g) := by
  cases r with
  | error err => exact h.gives.bind (g := fun _ => .error err) nofun
  | ok x =>
    refine h.gives.bind (g := fun _ => g x) fun v hv => ?_
    cases hv
    exact hf x.1 x.2 (h.rest x.1 x.2 rfl)

end GivesRest

/-- What is read in front of something with a rest. -/
theorem Gives.then {c : Checked α} {r : Parser.Read α} {f : α → Checked (β × Extent)}
    {g : α → Except ParseError (β × Excerpt)} (h : Gives w c r) (hf : ∀ v, r = .ok v → GivesRest w (f v) (g v)) :
    GivesRest w (c >>= f) (r >>= g) where
  gives := by
    rw [map_bind]
    exact h.bind fun v hv => (hf v hv).gives
  rest v rest heq := by
    obtain ⟨x, hx, heq⟩ := except_bind_eq_ok.1 heq
    exact (hf x hx).rest v rest heq

theorem isEmpty_of (w : List Char) (e : Excerpt) : (of w e).isEmpty = e.isEmpty := by
  unfold Extent.isEmpty Excerpt.isEmpty of
  cases e.chars with
  | nil => simp [size]
  | cons c cs =>
    have hpos := Char.utf8Size_pos c
    simp only [size, List.isEmpty_cons, beq_eq_false_iff_ne]
    omega

/-! ### Names, literals and calls -/

variable (s : Settings)

theorem name_gives (h : e.In ⟨0, w⟩) : Gives w (name (encode w) s (of w e)) (Parser.name s e) := by
  have ht := (Excerpt.trim_in e).trans h
  exact .lift (trim?_of h) (.lift (chars?_of ht) ((Gives.check ht _ _).bind fun _ _ => (Gives.check ht _ _).bind fun _ _ =>
    .pure _))

theorem tableName_gives (h : e.In ⟨0, w⟩) : Gives w (tableName (encode w) s (of w e)) (Parser.tableName s e) := by
  have ht := (Excerpt.trim_in e).trans h
  refine .lift (trim?_of h) (.lift (chars?_of ht) ((Gives.demand ht _ _).bind fun parts _ => ?_))
  obtain ⟨tablespace, table⟩ := parts
  simp only []
  split
  · exact .pure _
  · exact (Gives.demand ht _ _).bind fun _ _ => (Gives.check ht _ _).bind fun _ _ => (Gives.check ht _ _).bind fun _ _ =>
      .pure _

theorem lastTableName_gives (h : e.In ⟨0, w⟩) : Gives w (lastTableName (encode w) s (of w e)) (Parser.lastTableName s e) := by
  obtain ⟨htoken, hrest⟩ := Excerpt.splitToken_in e
  refine .lift (splitToken?_of h) ?_
  simp only [isEmpty_of]
  exact (Gives.check h _ _).bind fun _ _ => (Gives.check (hrest.trans h) _ _).bind fun _ _ =>
    tableName_gives s (htoken.trans h)

theorem literal_gives (h : e.In ⟨0, w⟩) : Gives w (literal (encode w) (of w e)) (Parser.literal e) := by
  have ht := (Excerpt.trim_in e).trans h
  unfold Parser.literal
  refine .lift (trim?_of h) (.lift (chars?_of ht) ?_)
  simp only []
  cases Text.stripStart? [Excerpt.quote] e.trim.chars with
  | some body => exact (Gives.demand ht _ _).bind fun _ _ => (Gives.demand ht _ _).bind fun _ _ => .pure _
  | none => exact (Gives.check ht _ _).bind fun _ _ => (Gives.check ht _ _).bind fun _ _ => .pure _

theorem number_gives (h : e.In ⟨0, w⟩) (clause : String) :
    Gives w (number (encode w) (of w e) clause) (Parser.number e clause) := by
  have ht := (Excerpt.trim_in e).trans h
  exact .lift (trim?_of h) (.lift (chars?_of ht) ((Gives.check ht _ _).bind fun _ _ => .demand ht _ _))

theorem argument_gives (h : e.In ⟨0, w⟩) : Gives w (argument (encode w) s (of w e)) (Parser.argument s e) := by
  refine .lift (chars?_of h) ?_
  unfold Parser.argument
  split
  · exact (name_gives s h).map _
  · exact (literal_gives h).map _

theorem call?_gives (h : e.In ⟨0, w⟩) : Gives w (call? (encode w) s (of w e)) (Parser.call? s e) := by
  have ht := (Excerpt.trim_in e).trans h
  refine .lift (trim?_of h) (.lift (excerpt?_of ht) ?_)
  unfold Parser.call?
  simp only []
  cases hcall : Token.call? e.trim with
  | none => exact .pure _
  | some found =>
    obtain ⟨name, inner⟩ := found
    have hinner := Token.call?_in hcall
    have hin := hinner.trans ht
    have htrim := (Excerpt.trim_in inner).trans hin
    refine (Gives.demand ht _ _).bind fun f _ => ?_
    refine .lift (part?_of ht hinner) (.lift (trim?_of hin) ?_)
    simp only [isEmpty_of]
    split
    · exact (Gives.check ht _ _).bind fun _ _ => (argument_gives s htrim).bind fun _ _ => .pure _
    · exact (Gives.check htrim _ _).bind fun _ _ => .pure _

/-! ### Queries and deletions -/

theorem selectItem_gives (h : e.In ⟨0, w⟩) : Gives w (selectItem (encode w) s (of w e)) (Parser.selectItem s e) := by
  unfold selectItem
  rw [isEmpty_of]
  refine (Gives.check h _ _).bind fun _ _ => .lift (chars?_of h) ?_
  split
  · exact .pure _
  · split
    · exact .pure _
    · refine (call?_gives s h).bind fun c _ => ?_
      cases c with
      | some c => exact .pure _
      | none => exact (name_gives s h).map _

theorem selectItems_gives (h : e.In ⟨0, w⟩) : Gives w (selectItems (encode w) s (of w e)) (Parser.selectItems s e) :=
  .lift (splitTopLevel?_of h (by decide)) ((Gives.each fun _ ha =>
    selectItem_gives s ((Excerpt.splitTopLevel_in e _ ha).trans h)).bind fun _ _ =>
      (Gives.check h _ _).bind fun _ _ => .pure _)

theorem signIn?_of (h : e.In ⟨0, w⟩) {signs : List (String × Comparison)} (hsigns : ∀ sign ∈ signs, sign.1 ≠ "") :
    signIn? (encode w) (of w e) signs =
      some ((Parser.signIn? e signs).map fun (a, sign, c, b) => (of w a, sign, c, of w b)) := by
  induction signs with
  | nil => rfl
  | cons sign signs ih =>
    obtain ⟨hsign, hsigns⟩ := List.forall_mem_cons.1 hsigns
    unfold signIn? Parser.signIn?
    rw [cutAt?_of h hsign]
    cases e.cutAt? sign.1 with
    | some parts => rfl
    | none => exact ih hsigns

theorem signIn?_in {signs : List (String × Comparison)} {sign : String} {c : Comparison}
    (h : Parser.signIn? e signs = some (a, sign, c, b)) : a.In e ∧ b.In e := by
  induction signs with
  | nil => cases h
  | cons x signs ih =>
    unfold Parser.signIn? at h
    split at h
    · next hcut =>
      cases h
      exact Excerpt.cutAt?_in hcut
    · exact ih h

theorem condition_gives (h : e.In ⟨0, w⟩) : Gives w (condition (encode w) s (of w e)) (Parser.condition s e) := by
  refine .lift (signIn?_of h (by decide)) (.found h _ fun parts hparts => ?_)
  obtain ⟨before, sign, c, after⟩ := parts
  obtain ⟨hbefore, hafter⟩ := signIn?_in hparts
  have hvalue := (Excerpt.trim_in after).trans (hafter.trans h)
  refine (name_gives s (hbefore.trans h)).bind fun _ _ => .lift (trim?_of (hafter.trans h)) ?_
  rw [isEmpty_of]
  exact (Gives.check h _ _).bind fun _ _ => (literal_gives hvalue).bind fun _ _ => .pure _

theorem numberClause_gives (h : e.In ⟨0, w⟩) (keyword : String) :
    GivesRest w (numberClause (encode w) (of w e) keyword) (Parser.numberClause e keyword) := by
  refine .lift (afterKeyword?_of h keyword) ?_
  unfold Parser.numberClause
  cases hafter : e.afterKeyword? keyword with
  | none => exact .pure none h
  | some after =>
    have hin := (Excerpt.afterKeyword?_in hafter).trans h
    obtain ⟨htoken, hrest⟩ := Excerpt.splitToken_in after
    exact .lift (splitToken?_of hin) ((number_gives (htoken.trans hin) keyword).then fun _ _ => .pure _ (hrest.trans hin))

theorem whereClause_gives (h : e.In ⟨0, w⟩) : GivesRest w (whereClause (encode w) s (of w e)) (Parser.whereClause s e) := by
  refine .lift (afterKeyword?_of h _) ?_
  unfold Parser.whereClause
  cases hafter : e.afterKeyword? "WHERE" with
  | none => exact .pure [] h
  | some after =>
    have hin := (Excerpt.afterKeyword?_in hafter).trans h
    refine .lift (length?_of w after) (.lift (findKeyword?_of hin (by decide)) (.lift (findKeyword?_of hin (by decide)) ?_))
    simp only [getD_size_take, size_take_min]
    obtain ⟨stop, hstop⟩ : ∃ n, n = min ((after.findKeyword? "OFFSET").getD after.chars.length)
      ((after.findKeyword? "LIMIT").getD after.chars.length) := ⟨_, rfl⟩
    have hfront := (Excerpt.take_in after stop).trans hin
    have hclause := (Excerpt.trim_in _).trans hfront
    have hrest := (Excerpt.drop_in after stop).trans hin
    rw [← hstop]
    refine .lift (before?_take hin stop) (.lift (trim?_of hfront) ?_)
    simp only [isEmpty_of]
    refine (Gives.check h _ _).then fun _ _ => .lift (splitUnquoted?_of hclause (by decide)) ?_
    refine (Gives.each fun part hpart => ?_).then fun _ _ => .lift (after?_take hin stop) (.lift (trim?_of hrest) ?_)
    · have hpart := (Excerpt.splitUnquoted_in _ _ part hpart).trans hclause
      exact .lift (trim?_of hpart) (condition_gives s ((Excerpt.trim_in part).trans hpart))
    · exact .pure _ ((Excerpt.trim_in _).trans hrest)

theorem selection_gives (h : e.In ⟨0, w⟩) : Gives w (selection (encode w) s (of w e)) (Parser.selection s e) := by
  have ht := (Excerpt.trim_in e).trans h
  refine .lift (trim?_of h) ((whereClause_gives s ht).bind fun _ rest hrest => ?_)
  refine (numberClause_gives hrest "OFFSET").bind fun _ rest hrest => ?_
  refine (numberClause_gives hrest "LIMIT").bind fun _ rest hrest => ?_
  simp only [isEmpty_of]
  exact (Gives.check hrest _ _).bind fun _ _ => .pure _

theorem query_gives (h : e.In ⟨0, w⟩) : Gives w (query (encode w) s (of w e)) (Parser.query s e) := by
  refine .lift (findKeyword?_of h (by decide)) (.found h _ fun stop hstop => ?_)
  have hfront := (Excerpt.take_in e stop).trans h
  have hlist := (Excerpt.trim_in _).trans hfront
  have hbehind := (Excerpt.drop_in e (stop + "FROM".length)).trans h
  obtain ⟨htoken, hrest⟩ := Excerpt.splitToken_in (e.drop (stop + "FROM".length))
  have hkeyword := (Excerpt.drop_in e stop).trans h
  refine .lift (before?_take h stop) (.lift (trim?_of hfront) ?_)
  simp only [isEmpty_of]
  refine (Gives.check h _ _).bind fun _ _ => .lift (after?_found h hstop) (.lift (splitToken?_of hbehind)
    (.lift (after?_take h stop) ?_))
  simp only [isEmpty_of]
  refine (Gives.check hkeyword _ _).bind fun _ _ => (tableName_gives s (htoken.trans hbehind)).bind fun table _ => ?_
  refine (selectItems_gives s hlist).bind fun items _ => (selection_gives s (hrest.trans hbehind)).bind fun sel _ => ?_
  cases table.isDual
  · exact .pure _
  · exact (Gives.check hlist _ _).bind fun _ _ => (Gives.check (hrest.trans hbehind) _ _).bind fun _ _ => .pure _

theorem deletion_gives (h : e.In ⟨0, w⟩) : Gives w (deletion (encode w) s (of w e)) (Parser.deletion s e) := by
  refine .lift (afterKeyword?_of h _) (.found h _ fun rest hrest => ?_)
  have hin := (Excerpt.afterKeyword?_in hrest).trans h
  obtain ⟨htoken, hbehind⟩ := Excerpt.splitToken_in rest
  refine .lift (splitToken?_of hin) ?_
  simp only [isEmpty_of]
  exact (Gives.check h _ _).bind fun _ _ => (tableName_gives s (htoken.trans hin)).bind fun _ _ =>
    (Gives.check (htoken.trans hin) _ _).bind fun _ _ => (selection_gives s (hbehind.trans hin)).bind fun _ _ => .pure _

/-! ### Statements that write rows -/

theorem newValue_gives (h : e.In ⟨0, w⟩) : Gives w (newValue (encode w) s (of w e)) (Parser.newValue s e) := by
  unfold newValue
  rw [isEmpty_of]
  refine (Gives.check h _ _).bind fun _ _ => (call?_gives s h).bind fun c _ => ?_
  cases c with
  | some c => exact .pure _
  | none => exact (literal_gives h).bind fun _ _ => .pure _

theorem assignment_gives (h : e.In ⟨0, w⟩) : Gives w (assignment (encode w) s (of w e)) (Parser.assignment s e) := by
  refine .lift (cutAt?_of h (by decide)) (.found h _ fun parts hparts => ?_)
  obtain ⟨left, right⟩ := parts
  obtain ⟨hleft, hright⟩ := Excerpt.cutAt?_in hparts
  have hvalue := (Excerpt.trim_in right).trans (hright.trans h)
  refine (name_gives s (hleft.trans h)).bind fun column _ => .lift (trim?_of (hright.trans h)) (.lift (excerpt?_of hvalue) ?_)
  simp only []
  cases hsum : Token.sum? right.trim with
  | none => exact (newValue_gives s hvalue).bind fun _ _ => .pure _
  | some sum =>
    obtain ⟨again, op, operand⟩ := sum
    have hoperand := Token.sum?_in hsum
    exact (Gives.check hvalue _ _).bind fun _ _ => .lift (part?_of hvalue hoperand)
      ((newValue_gives s (hoperand.trans hvalue)).bind fun _ _ => .pure _)

theorem assignments_gives (h : e.In ⟨0, w⟩) : Gives w (assignments (encode w) s (of w e)) (Parser.assignments s e) := by
  unfold assignments
  rw [isEmpty_of]
  exact (Gives.check h _ _).bind fun _ _ => .lift (splitTopLevel?_of h (by decide))
    (.each fun _ ha => assignment_gives s ((Excerpt.splitTopLevel_in e _ ha).trans h))

theorem afterKeywords?_of (h : e.In ⟨0, w⟩) (keywords : List String) :
    afterKeywords? (encode w) (of w e) keywords = some ((e.afterKeywords? keywords).map (of w)) := by
  unfold afterKeywords?
  rw [trim?_of h]
  exact afterAll?_of ((Excerpt.trim_in e).trans h) keywords

theorem onDuplicate_gives (h : e.In ⟨0, w⟩) : Gives w (onDuplicate (encode w) s (of w e)) (Parser.onDuplicate s e) := by
  unfold onDuplicate Parser.onDuplicate
  rw [isEmpty_of]
  split
  · exact .pure _
  · refine .lift (afterKeywords?_of h _) (.found h _ fun clause hclause => ?_)
    have hin := (Excerpt.afterKeywords?_in hclause).trans h
    refine .lift (afterKeyword?_of hin _) (.lift (afterKeyword?_of hin _) ?_)
    cases hignore : clause.afterKeyword? "IGNORE" with
    | some after =>
      have hafter := (Excerpt.afterKeyword?_in hignore).trans hin
      simp only [Option.map_some, isEmpty_of]
      exact (Gives.check hafter _ _).bind fun _ _ => .pure _
    | none =>
      cases hupdate : clause.afterKeyword? "UPDATE" with
      | some after =>
        exact (assignments_gives s ((Excerpt.afterKeyword?_in hupdate).trans hin)).bind fun _ _ => .pure _
      | none => exact .refuse hin _

/-- What is read of a group in front and of what follows it. -/
theorem parens_bind (h : e.In ⟨0, w⟩) {f : Extent × Extent → Checked β} {g : Excerpt × Excerpt → Parser.Read β}
    (hf : ∀ a b, a.In ⟨0, w⟩ → b.In ⟨0, w⟩ → Gives w (f (of w a, of w b)) (g (a, b))) :
    Gives w (parens (encode w) (of w e) >>= f) (e.splitParens >>= g) := by
  have hrun := splitParens?_of h
  cases hsplit : e.splitParens with
  | error err =>
    rw [hsplit] at hrun
    have hparens : Gives w (parens (encode w) (of w e)) (.error err) := by
      refine ⟨hrun, fun err' herr => ?_⟩
      cases herr
      obtain ⟨message, rfl⟩ := Excerpt.splitParens_error hsplit
      exact ⟨e.trim, message, (Excerpt.trim_in e).trans h, rfl⟩
    exact hparens.bind (g := fun _ => .error err) nofun
  | ok parts =>
    rw [hsplit] at hrun
    have hparens : Gives w (parens (encode w) (of w e)) (.ok (of w parts.1, of w parts.2)) := ⟨hrun, nofun⟩
    obtain ⟨hinner, hrest⟩ := Excerpt.splitParens_in hsplit
    refine hparens.bind (g := fun _ => g parts) fun v hv => ?_
    cases hv
    exact hf _ _ (hinner.trans h) (hrest.trans h)

theorem names_gives (h : e.In ⟨0, w⟩) : Gives w (names (encode w) s (of w e)) ((e.splitTopLevel ',').mapM (Parser.name s)) :=
  .lift (splitTopLevel?_of h (by decide)) (.each fun _ ha => name_gives s ((Excerpt.splitTopLevel_in e _ ha).trans h))

theorem columnList_gives (h : e.In ⟨0, w⟩) :
    GivesRest w (columnList (encode w) s (of w e)) (Parser.columnList s e) := by
  refine .lift (chars?_of h) ?_
  unfold Parser.columnList
  split
  · refine ⟨?_, fun v rest heq => ?_⟩
    · rw [map_bind]
      refine parens_bind h fun inner rest hinner hrest => ?_
      exact ((names_gives s hinner).then fun _ _ => .pure _ hrest).gives
    · obtain ⟨parts, hparts, heq⟩ := except_bind_eq_ok.1 heq
      obtain ⟨found, -, heq⟩ := except_bind_eq_ok.1 heq
      cases heq
      exact (Excerpt.splitParens_in hparts).2.trans h
  · exact .pure [] h

theorem upsertion_gives (h : e.In ⟨0, w⟩) : Gives w (upsertion (encode w) s (of w e)) (Parser.upsertion s e) := by
  refine .lift (afterKeyword?_of h _) (.found h _ fun after hafter => ?_)
  have hin := (Excerpt.afterKeyword?_in hafter).trans h
  obtain ⟨htoken, hbehind⟩ := Excerpt.splitToken_in after
  have htoken := htoken.trans hin
  refine .lift (splitToken?_of hin) ?_
  simp only [isEmpty_of]
  refine (Gives.check h _ _).bind fun _ _ => (tableName_gives s htoken).bind fun table _ => ?_
  refine (Gives.check htoken _ _).bind fun _ _ => (columnList_gives s (hbehind.trans hin)).bind fun columns rest hrest => ?_
  refine .lift (afterKeyword?_of hrest _) ?_
  simp only []
  cases hselect : rest.afterKeyword? "SELECT" with
  | some source => exact (query_gives s ((Excerpt.afterKeyword?_in hselect).trans hrest)).bind fun _ _ => .pure _
  | none =>
    refine Gives.lift (afterKeyword?_of hrest _) (.found hrest _ fun values hvalues => ?_)
    have hvalues := (Excerpt.afterKeyword?_in hvalues).trans hrest
    refine (Gives.check htoken _ _).bind fun _ _ => parens_bind hvalues fun inner behind hinner hbehind => ?_
    refine .lift (splitTopLevel?_of hinner (by decide)) ?_
    refine (Gives.each fun _ ha => newValue_gives s ((Excerpt.splitTopLevel_in inner _ ha).trans hinner)).bind
      fun values _ => ?_
    exact (Gives.check hinner _ _).bind fun _ _ => (onDuplicate_gives s hbehind).bind fun _ _ => .pure _

/-! ### Definitions and statements of a session -/

theorem comment_gives (h : e.In ⟨0, w⟩) : Gives w (comment (encode w) s (of w e)) (Parser.comment s e) :=
  (literal_gives h).bind fun _ _ => (Gives.check h _ _).bind fun _ _ => (Gives.check h _ _).bind fun _ _ => .pure _

theorem size32_gives (h : e.In ⟨0, w⟩) (what : String) : Gives w (size32 (encode w) what (of w e)) (Parser.size32 what e) :=
  .lift (chars?_of h) (.demand h _ _)

theorem columnDef_gives (h : e.In ⟨0, w⟩) : Gives w (columnDef (encode w) s (of w e)) (Parser.columnDef s e) := by
  refine .lift (excerpt?_of h) ?_
  unfold Parser.columnDef
  refine (Gives.demand h _ _).bind fun shape hshape => ?_
  have hin := Token.column?_in (Parser.demand_eq_ok.1 hshape)
  have htype := hin.type.trans h
  refine .lift (part?_of h hin.name) ((name_gives s (hin.name.trans h)).bind fun _ _ => ?_)
  refine .lift (part?_of h hin.type) (.lift (chars?_of htype) ((Gives.demand htype _ _).bind fun _ _ => ?_))
  refine (Gives.option fun a ha => .lift (part?_of h (hin.length a ha)) (size32_gives ((hin.length a ha).trans h) _)).bind
    fun _ _ => ?_
  refine (Gives.option fun a ha => .lift (part?_of h (hin.scale a ha)) (size32_gives ((hin.scale a ha).trans h) _)).bind
    fun _ _ => ?_
  refine (Gives.option fun a ha => .lift (part?_of h (hin.comment a ha)) (comment_gives s ((hin.comment a ha).trans h))).bind
    fun _ _ => .pure _

theorem rowKey_gives (h : e.In ⟨0, w⟩) : Gives w (rowKey (encode w) s (of w e)) (Parser.rowKey s e) := by
  refine parens_bind h fun inner rest hinner hrest => ?_
  simp only [isEmpty_of]
  exact (Gives.check hrest _ _).bind fun _ _ => names_gives s hinner

theorem definitions_gives {body : Excerpt} (hbody : body.In ⟨0, w⟩) (key : Option (List String)) {es : List Excerpt}
    (h : ∀ a ∈ es, a.In ⟨0, w⟩) :
    Gives w (definitions (encode w) s (of w body) key (es.map (of w))) (Parser.definitions s body key es) := by
  induction es generalizing key with
  | nil => exact .pure _
  | cons a es ih =>
    obtain ⟨ha, hes⟩ := List.forall_mem_cons.1 h
    rw [List.map_cons, definitions, Parser.definitions, isEmpty_of]
    refine (Gives.check hbody _ _).bind fun _ _ => .lift (afterKeyword?_of ha _) ?_
    cases hkeys : a.afterKeyword? "ROWKEY" with
    | some keys =>
      have hin := (Excerpt.afterKeyword?_in hkeys).trans ha
      exact (Gives.check ha _ _).bind fun _ _ => (rowKey_gives s hin).bind fun _ _ => ih _ hes
    | none => exact (columnDef_gives s ha).bind fun _ _ => (ih key hes).bind fun _ _ => .pure _

theorem tableComment_gives (h : e.In ⟨0, w⟩) : Gives w (tableComment (encode w) s (of w e)) (Parser.tableComment s e) := by
  unfold tableComment Parser.tableComment
  rw [isEmpty_of]
  split
  · exact .pure _
  · exact .lift (afterKeyword?_of h _) (.found h _ fun after hafter =>
      (comment_gives s ((Excerpt.afterKeyword?_in hafter).trans h)).bind fun _ _ => .pure _)

theorem tableDef_gives (h : e.In ⟨0, w⟩) : Gives w (tableDef (encode w) s (of w e)) (Parser.tableDef s e) := by
  refine .lift (afterKeyword?_of h _) (.found h _ fun after hafter => ?_)
  have hin := (Excerpt.afterKeyword?_in hafter).trans h
  refine .lift (afterKeywords?_of hin _) ?_
  have hstart : ((after.afterKeywords? ["IF", "NOT", "EXISTS"]).getD after).In ⟨0, w⟩ := by
    cases hunless : after.afterKeywords? ["IF", "NOT", "EXISTS"] with
    | none => exact hin
    | some rest => exact (Excerpt.afterKeywords?_in hunless).trans hin
  have hgetD (o : Option Excerpt) : (o.map (of w)).getD (of w after) = of w (o.getD after) := by
    cases o <;> rfl
  simp only [hgetD, Option.isSome_map]
  obtain ⟨htoken, hbehind⟩ := Excerpt.splitToken_in ((after.afterKeywords? ["IF", "NOT", "EXISTS"]).getD after)
  have htoken := htoken.trans hstart
  refine .lift (splitToken?_of hstart) ?_
  simp only [isEmpty_of]
  refine (Gives.check h _ _).bind fun _ _ => (tableName_gives s htoken).bind fun table _ => ?_
  refine (Gives.check htoken _ _).bind fun _ _ => parens_bind (hbehind.trans hstart) fun body rest hbody hrest => ?_
  refine (tableComment_gives s hrest).bind fun note _ => ?_
  refine .lift (splitTopLevel?_of hbody (by decide)) ?_
  refine (definitions_gives s hbody none fun a ha => (Excerpt.splitTopLevel_in body a ha).trans hbody).bind fun x _ => ?_
  exact (Gives.demand hbody _ _).bind fun _ _ => .pure _

theorem dropping_gives (h : e.In ⟨0, w⟩) : Gives w (dropping (encode w) s (of w e)) (Parser.dropping s e) :=
  .lift (afterKeyword?_of h _) (.found h _ fun _ hafter =>
    (lastTableName_gives s ((Excerpt.afterKeyword?_in hafter).trans h)).bind fun _ _ => .pure _)

theorem showing_gives (h : e.In ⟨0, w⟩) : Gives w (showing (encode w) s (of w e)) (Parser.showing s e) := by
  refine .lift (afterKeyword?_of h _) (.lift (afterKeyword?_of h _) ?_)
  unfold Parser.showing
  cases hdatabases : e.afterKeyword? "DATABASES" with
  | some rest =>
    simp only [Option.map_some, isEmpty_of]
    exact (Gives.check ((Excerpt.afterKeyword?_in hdatabases).trans h) _ _).bind fun _ _ => .pure _
  | none =>
    cases htables : e.afterKeyword? "TABLES" with
    | some rest =>
      simp only [Option.map_some, Option.map_none, isEmpty_of]
      exact (Gives.check h _ _).bind fun _ _ => (name_gives s ((Excerpt.afterKeyword?_in htables).trans h)).bind fun _ _ =>
        .pure _
    | none => exact .refuse h _

theorem infoEnd_gives (h : e.In ⟨0, w⟩) : Gives w (infoEnd (encode w) (of w e)) (Parser.infoEnd e) := by
  refine .lift (splitToken?_of h) ?_
  simp only [isEmpty_of]
  exact .check ((Excerpt.splitToken_in e).1.trans h) _ _

theorem infoNode_gives (h : e.In ⟨0, w⟩) : Gives w (infoNode (encode w) (of w e)) (Parser.infoNode e) := by
  obtain ⟨htoken, hrest⟩ := Excerpt.splitToken_in e
  refine .lift (splitToken?_of h) (.lift (chars?_of (htoken.trans h)) ?_)
  unfold Parser.infoNode
  simp only []
  split
  · exact (Gives.demand (htoken.trans h) _ _).bind fun _ _ => (infoEnd_gives (hrest.trans h)).bind fun _ _ => .pure _
  · exact (infoEnd_gives h).bind fun _ _ => .pure _

theorem info_gives (h : e.In ⟨0, w⟩) : Gives w (info (encode w) (of w e)) (Parser.info e) := by
  have ht := (Excerpt.trim_in e).trans h
  obtain ⟨htoken, hrest⟩ := Excerpt.splitToken_in e.trim
  refine .lift (trim?_of h) (.lift (splitToken?_of ht) (.lift (chars?_of (htoken.trans ht)) ?_))
  unfold Parser.info
  simp only [isEmpty_of]
  split
  · exact (infoNode_gives (hrest.trans ht)).bind fun _ _ => .pure _
  · exact (infoNode_gives ht).bind fun _ _ => .pure _

theorem verbose_gives (h : e.In ⟨0, w⟩) : Gives w (verbose (encode w) (of w e)) (Parser.verbose e) := by
  refine .lift (chars?_of h) ?_
  unfold Parser.verbose
  show Gives w (if e.text = "ON" then _ else if e.text = "OFF" then _ else _) _
  split
  · exact .pure _
  · split
    · exact .pure _
    · exact .refuse h _

theorem delimiter_gives (h : e.In ⟨0, w⟩) : Gives w (delimiter (encode w) (of w e)) (Parser.delimiter e) := by
  refine (literal_gives h).bind fun l _ => ?_
  cases l.value.toList with
  | nil => exact .refuse h _
  | cons c cs =>
    cases cs with
    | nil => exact (Gives.check h _ _).bind fun _ _ => .pure _
    | cons d cs => exact .refuse h _

/-! ### Whole statements and commands -/

/-- Readers for ranges and readers for excerpts, in the same order and with the same keywords. -/
def Alike (w : List Char) :
    List (String × (Extent → Checked Statement)) → List (String × (Excerpt → Parser.Read Statement)) → Prop :=
  List.Forall₂ fun x y => x.1 = y.1 ∧ ∀ e : Excerpt, e.In ⟨0, w⟩ → Gives w (x.2 (of w e)) (y.2 e)

theorem readers_alike (w : List Char) : Alike w (readers (encode w) s) (Parser.readers s) := by
  refine .cons ⟨rfl, fun e h => (query_gives s h).map _⟩ (.cons ⟨rfl, fun e h => (deletion_gives s h).map _⟩
    (.cons ⟨rfl, fun e h => (upsertion_gives s h).map _⟩ (.cons ⟨rfl, fun e h => (tableDef_gives s h).map _⟩
    (.cons ⟨rfl, fun e h => (lastTableName_gives s h).map _⟩ (.cons ⟨rfl, fun e h => dropping_gives s h⟩
    (.cons ⟨rfl, fun e h => showing_gives s h⟩ (.cons ⟨rfl, fun e h => info_gives h⟩
    (.cons ⟨rfl, fun e h => verbose_gives h⟩ (.cons ⟨rfl, fun e h => delimiter_gives h⟩ .nil)))))))))

theorem readWith_gives (h : e.In ⟨0, w⟩) {xs : List (String × (Extent → Checked Statement))}
    {ys : List (String × (Excerpt → Parser.Read Statement))} (hall : Alike w xs ys) :
    Gives w (readWith (encode w) (of w e) xs) (Parser.readWith e ys) := by
  induction hall with
  | nil => exact .lift (splitToken?_of h) (.refuse ((Excerpt.splitToken_in e).1.trans h) _)
  | @cons x y xs ys hxy _ ih =>
    obtain ⟨hkeyword, hread⟩ := hxy
    unfold readWith Parser.readWith
    rw [hkeyword]
    refine .lift (afterKeyword?_of h _) ?_
    cases hafter : e.afterKeyword? y.1 with
    | some rest => exact hread rest ((Excerpt.afterKeyword?_in hafter).trans h)
    | none => exact ih

theorem whole_of (w : List Char) : whole (encode w) = of w ⟨0, w⟩ := by
  rw [of_eq (e := ⟨0, w⟩) [] [] (by rw [List.nil_append, List.append_nil]) rfl, whole, length_encode, size, Nat.zero_add]

/-- The semicolon at the end of a statement is one octet. -/
theorem minus?_getLast {cs : List Char} (h : cs.getLast? = some ';') :
    minus? (size cs) 1 = some (size (cs.take (cs.length - 1))) := by
  obtain ⟨front, hcs⟩ := List.getLast?_eq_some_iff.1 h
  have hsize : size cs = size front + 1 := by rw [hcs, size_append]; rfl
  have htake : cs.take (cs.length - 1) = front := by
    rw [hcs, List.length_append, List.length_singleton, Nat.add_sub_cancel, List.take_left]
  unfold minus?
  rw [hsize, htake, if_pos (by omega), Nat.add_sub_cancel]

theorem body_in (input : String) : (Parser.body input).In (Excerpt.ofText input) := by
  unfold Parser.body
  simp only []
  split
  · exact (Excerpt.trim_in _).trans ((Excerpt.take_in _ _).trans (Excerpt.trim_in _))
  · exact Excerpt.trim_in _

theorem body_of (input : String) : body (bytes input) = some (of input.toList (Parser.body input)) := by
  have hin : (Excerpt.ofText input).In ⟨0, input.toList⟩ := .refl _
  obtain ⟨t, htrim⟩ : ∃ t, t = (Excerpt.ofText input).trim := ⟨_, rfl⟩
  have ht : t.In ⟨0, input.toList⟩ := htrim ▸ (Excerpt.trim_in (Excerpt.ofText input)).trans hin
  have hstart : (whole (bytes input)).trim? (bytes input) = some (of input.toList t) := by
    rw [bytes, whole_of, htrim]
    exact trim?_of hin
  unfold body Parser.body
  rw [hstart, ← htrim]
  simp only [Option.bind_eq_bind, Option.bind_some, bytes, chars?_of ht, length?_of]
  split
  · next hlast =>
    rw [minus?_getLast hlast, Option.bind_some, before?_take ht, Option.bind_some, trim?_of ((Excerpt.take_in t _).trans ht)]
  · rfl

theorem parse_gives (input : String) : Gives input.toList (parse (bytes input) s) (Parser.parse s input) := by
  have hin : (Parser.body input).In ⟨0, input.toList⟩ := body_in input
  refine .lift (body_of input) ?_
  unfold Parser.parse
  rw [isEmpty_of]
  simp only []
  split
  · exact .refuse hin _
  · exact readWith_gives hin (readers_alike s input.toList)

theorem raw_gives (input : String) : Gives input.toList (raw (bytes input)) (RawCommand.parse input) := by
  have hin : (Excerpt.ofText input).In ⟨0, input.toList⟩ := .refl _
  obtain ⟨t, htrim⟩ : ∃ t, t = (Excerpt.ofText input).trim := ⟨_, rfl⟩
  have ht : t.In ⟨0, input.toList⟩ := htrim ▸ (Excerpt.trim_in (Excerpt.ofText input)).trans hin
  have hstart : (whole (bytes input)).trim? (bytes input) = some (of input.toList t) := by
    rw [bytes, whole_of, htrim]
    exact trim?_of hin
  unfold RawCommand.parse
  rw [← htrim]
  refine .lift hstart (.lift (chars?_of ht) ?_)
  simp only []
  cases RawCommand.arguments 0 t.chars with
  | error n => exact .lift (after?_take ht n) (.refuse ((Excerpt.drop_in t n).trans ht) _)
  | ok arguments =>
    cases arguments with
    | nil => exact .refuse ht _
    | cons a as => exact .pure _

/-- **Parsing never goes out of range, and its errors point into the statement.** Whatever is typed, and whatever the
settings: when a statement or a command is read octet by octet, no place lies outside of the text or inside of a character,
no counter falls below zero, and all searches come to an end; what is read, or the error, is what the parser gives. The place
of an error is no greater than the number of characters typed, and its fragment has at most forty characters, which stand at
that place. -/
theorem parsing_stays_inside (input : String) :
    (parse (bytes input) s).run = some (Parser.parse s input) ∧ (raw (bytes input)).run = some (RawCommand.parse input) ∧
      ∀ err, Parser.parse s input = .error err ∨ RawCommand.parse input = .error err →
        err.offset ≤ input.length ∧ err.fragment.length ≤ 40 ∧ err.fragment.toList <+: input.toList.drop err.offset := by
  refine ⟨(parse_gives s input).run, (raw_gives input).run, fun err herr => ?_⟩
  obtain ⟨a, message, ha, rfl⟩ : ∃ (a : Excerpt) (message : String), a.In (.ofText input) ∧ err = a.error message := by
    rcases herr with herr | herr
    · exact (parse_gives s input).blames err herr
    · exact (raw_gives input).blames err herr
  exact ha.points message

theorem parsing_stays_inside_accent :
    ∃ err, (parse (bytes "UPSERT INTO é.t (a) VALUES (1)") {}).run = some (.error err) ∧
    err = ⟨12, "é.t", "invalid table name"⟩ ∧ err.fragment.toList <+: "UPSERT INTO é.t (a) VALUES (1)".toList.drop err.offset := by
  have hparse : Parser.parse {} "UPSERT INTO é.t (a) VALUES (1)" = .error ⟨12, "é.t", "invalid table name"⟩ := by rfl
  obtain ⟨hrun, -, hpoints⟩ := parsing_stays_inside {} "UPSERT INTO é.t (a) VALUES (1)"
  exact ⟨_, hparse ▸ hrun, rfl, (hpoints _ (.inl hparse)).2.2⟩

end Checked
end SlotSql
