import SlotSql.Number.Integer
import SlotSql.Settings
import SlotSql.Statement.Token
/-!
# Names, literals and calls

Readers for the smallest parts of statements. A reader takes the whole excerpt it is given, less the
blanks on both sides, and says what is wrong with it and where.
-/
namespace SlotSql.Parser

/-- The result of reading a part of a statement. -/
abbrev Read (α : Type) : Type := Except ParseError α

/-- The value, or an error about the excerpt. -/
def demand {α : Type} (e : Excerpt) (message : String) : Option α → Read α
  | some a => .ok a
  | none => .error (e.error message)

/-- Accepts an excerpt that satisfies a condition. -/
def check (e : Excerpt) (message : String) (condition : Bool) : Read Unit :=
  if condition then .ok () else .error (e.error message)

/-- Accepts a name that is short enough. -/
def checkLength (s : Settings) (e : Excerpt) (name : List Char) : Read Unit :=
  check e ("name longer than " ++ toString s.maxNameLen ++ " characters")
    (Utf8.size name ≤ s.maxNameLen)

/-- A name. -/
def name (s : Settings) (e : Excerpt) : Read String := do
  let e := e.trim
  check e "invalid identifier" (Token.isName e.chars)
  checkLength s e e.chars
  return e.text

/-- A table's name. The pseudo table needs no tablespace and lies in that of the system. -/
def tableName (s : Settings) (e : Excerpt) : Read TableName := do
  let e := e.trim
  let (tablespace, table) ← demand e "invalid table name" (Token.tableParts? e.chars)
  if String.ofList table = dualTable then return ⟨s.systemPrefix, dualTable⟩
  let tablespace ← demand e "table name must be qualified as <db>.<table>" tablespace
  checkLength s e tablespace
  checkLength s e table
  return ⟨String.ofList tablespace, String.ofList table⟩

/-- A table's name that nothing follows. -/
def lastTableName (s : Settings) (e : Excerpt) : Read TableName := do
  let (token, rest) := e.splitToken
  check e "missing table name" !token.isEmpty
  check rest "unexpected text after table name" rest.isEmpty
  tableName s token

/-- The text between quotes with its doubled quotes made single, or none if a quote is not
doubled. -/
def undoubled? : List Char → Option (List Char)
  | [] => some []
  | c :: cs =>
    if c = Excerpt.quote then
      match cs with
      | [] => none
      | d :: cs => if d = Excerpt.quote then (undoubled? cs).map (c :: ·) else none
    else (undoubled? cs).map (c :: ·)

/-- A literal. -/
def literal (e : Excerpt) : Read Literal := do
  let e := e.trim
  match Text.stripStart? [Excerpt.quote] e.chars with
  | some body =>
    let inner ← demand e "unterminated string literal" (Text.stripEnd? [Excerpt.quote] body)
    let value ← demand e "unescaped quote in string literal" (undoubled? inner)
    return ⟨String.ofList value, true⟩
  | none =>
    check e "expected a literal" !e.isEmpty
    check e "invalid literal; quote values containing spaces" (Token.isBare e.chars)
    return ⟨e.text, false⟩

/-- The number of an OFFSET or LIMIT clause. -/
def number (e : Excerpt) (clause : String) : Read Nat := do
  let e := e.trim
  check e (clause ++ " expects a non-negative integer") (Token.isNumber e.chars)
  demand e (clause ++ " value out of range") (Number.nat64? e.text)

/-- The argument of a function. -/
def argument (s : Settings) (e : Excerpt) : Read Argument :=
  if Token.isName e.chars then (name s e).map .column else (literal e).map .literal

/-- A call, or none if the excerpt does not look like one. -/
def call? (s : Settings) (e : Excerpt) : Read (Option Call) := do
  let e := e.trim
  match Token.call? e with
  | none => return none
  | some (name, inner) =>
    let f ← demand e "unknown function" (TimeFunction.ofName? name)
    let inner := inner.trim
    if f.takesArgument then
      check e (f.name ++ "() requires one argument") !inner.isEmpty
      return some ⟨f, some (← argument s inner)⟩
    else
      check inner (f.name ++ "() takes no argument") inner.isEmpty
      return some ⟨f, none⟩

end SlotSql.Parser
