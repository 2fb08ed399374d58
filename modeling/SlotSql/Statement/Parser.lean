import SlotSql.Statement.Parser.Definition
import SlotSql.Statement.Parser.Upsertion
/-!
# Reading statements

A statement begins with a keyword, written in capitals; blanks around it and one semicolon at its
end do not count.
-/
namespace SlotSql.Parser

/-- What follows `DROP`. -/
def dropping (s : Settings) (e : Excerpt) : Read Statement := do
  return .drop (← lastTableName s (← demand e "expected TABLE" (e.afterKeyword? "TABLE")))

/-- The keywords that statements begin with, each with the reader for what follows it. -/
def readers (s : Settings) : List (String × (Excerpt → Read Statement)) :=
  [("SELECT", fun e => (query s e).map .select),
    ("DELETE", fun e => (deletion s e).map .delete),
    ("UPSERT", fun e => (upsertion s e).map .upsert),
    ("CREATE", fun e => (tableDef s e).map .create),
    ("DESC", fun e => (lastTableName s e).map .describe),
    ("DROP", dropping s),
    ("SHOW", showing s),
    ("INFO", info),
    ("VERBOSE", verbose),
    ("DELIMITER", delimiter)]

/-- The first reader whose keyword stands in front, applied to what follows. -/
def readWith (e : Excerpt) : List (String × (Excerpt → Read Statement)) → Read Statement
  | [] => .error (e.splitToken.1.error "unknown statement")
  | (keyword, reader) :: readers =>
    match e.afterKeyword? keyword with
    | some rest => reader rest
    | none => readWith e readers

/-- The excerpt of a statement without the blanks around it and the semicolon at its end. -/
def body (input : String) : Excerpt :=
  let e := (Excerpt.ofText input).trim
  if e.chars.getLast? = some ';' then (e.take (e.chars.length - 1)).trim else e

/-- Reads a statement. -/
def parse (s : Settings) (input : String) : Read Statement :=
  let e := body input
  if e.isEmpty then .error (e.error "empty statement") else readWith e (readers s)

end SlotSql.Parser
