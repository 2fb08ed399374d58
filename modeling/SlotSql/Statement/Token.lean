import SlotSql.Statement.Basic
import SlotSql.Statement.Excerpt
/-!
# Shapes of tokens

What the names, numbers, literals, calls, assignments and column definitions of statements look
like. A shape is a predicate on characters, or a reader that takes the whole text apart.
-/
namespace SlotSql.Token

/-- A character that a name can begin with. -/
def isNameStart (c : Char) : Bool := ('a' ≤ c && c ≤ 'z') || c == '_'

/-- A character that a name can go on with. -/
def isNameChar (c : Char) : Bool := isNameStart c || ('0' ≤ c && c ≤ '9')

/-- A capital ASCII letter. -/
def isCapital (c : Char) : Bool := 'A' ≤ c && c ≤ 'Z'

/-- A decimal ASCII digit. -/
def isDigit (c : Char) : Bool := '0' ≤ c && c ≤ '9'

/-- A name: lower-case letters, digits and low lines, without a digit in front. -/
def isName : List Char → Bool
  | [] => false
  | c :: cs => isNameStart c && cs.all isNameChar

/-- Tablespace, if any, and table of a table's name. -/
def tableParts? (cs : List Char) : Option (Option (List Char) × List Char) :=
  match Text.cut? ['.'] cs with
  | none => if isName cs then some (none, cs) else none
  | some (a, b) => if isName a && isName b then some (some a, b) else none

/-- A number: one or more digits. -/
def isNumber (cs : List Char) : Bool := !cs.isEmpty && cs.all isDigit

/-- The text `COUNT(*)`, with or without blanks around the star. -/
def isCount (cs : List Char) : Bool :=
  match (Text.stripStart? "COUNT(".toList cs).bind (Text.stripEnd? [')']) with
  | some inner => Text.trim inner == ['*']
  | none => false

/-- A literal without quotes: no blank and no single quote. -/
def isBare (cs : List Char) : Bool :=
  !cs.isEmpty && cs.all fun c => !Text.isBlank c && c != Excerpt.quote

/-- Name and argument text of a call: capital letters and a text between parentheses. -/
def call? (e : Excerpt) : Option (String × Excerpt) :=
  let (name, rest) := e.span isCapital
  match rest.chars with
  | '(' :: cs =>
    if name.isEmpty || cs.getLast? != some ')' then none
    else some (name.text, (rest.take cs.length).drop 1)
  | _ => none

/-- Column, sign and operand of a sum or difference. -/
def sum? (e : Excerpt) : Option (String × AssignOp × Excerpt) :=
  let (name, rest) := e.span isNameChar
  let (_, rest) := rest.span Text.isBlank
  let (_, operand) := (rest.drop 1).span Text.isBlank
  if !isName name.chars || operand.isEmpty then none
  else
    match rest.chars.head? with
    | some '+' => some (name.text, .add, operand)
    | some '-' => some (name.text, .sub, operand)
    | _ => none

/-- The parts of a column definition as they are written. -/
structure ColumnShape where
  name : Excerpt
  type : Excerpt
  length : Option Excerpt
  scale : Option Excerpt
  notNull : Bool
  comment : Option Excerpt

/-- What follows one or more blanks. -/
def afterBlanks? (e : Excerpt) : Option Excerpt :=
  let (blanks, rest) := e.span Text.isBlank
  if blanks.isEmpty then none else some rest

/-- What follows the given characters. -/
def after? (word : String) (e : Excerpt) : Option Excerpt :=
  if (Text.stripStart? word.toList e.chars).isSome then some (e.drop word.length) else none

/-- A number in front and what follows it. -/
def number? (e : Excerpt) : Option (Excerpt × Excerpt) :=
  let (digits, rest) := e.span isDigit
  if digits.isEmpty then none else some (digits, rest)

/-- What follows any blanks. -/
def skipBlanks (e : Excerpt) : Excerpt := (e.span Text.isBlank).2

/-- A group of one or two numbers, `(length)` or `(length, scale)`, and what follows it. The part
is none if there is no such group. -/
def size? (e : Excerpt) : Option (Excerpt × Option Excerpt × Excerpt) := do
  let (length, e) ← number? (skipBlanks (← after? "(" (skipBlanks e)))
  let e := skipBlanks e
  match after? ")" e with
  | some e => return (length, none, e)
  | none =>
    let (scale, e) ← number? (skipBlanks (← after? "," e))
    return (length, some scale, ← after? ")" (skipBlanks e))

/-- What follows the words `NOT NULL`. -/
def notNull? (e : Excerpt) : Option Excerpt := do
  after? "NULL" (← afterBlanks? (← after? "NOT" (← afterBlanks? e)))

/-- The rest of a text between quotes: single quotes stand in pairs up to the last character, which
closes it. -/
def closesQuote : List Char → Bool
  | [] => false
  | c :: cs =>
    if c = Excerpt.quote then
      match cs with
      | [] => true
      | d :: cs => d == Excerpt.quote && closesQuote cs
    else closesQuote cs

/-- The quoted text behind the word `COMMENT`, which nothing follows. -/
def comment? (e : Excerpt) : Option Excerpt := do
  let e ← afterBlanks? (← after? "COMMENT" (← afterBlanks? e))
  let body ← after? "'" e
  if closesQuote body.chars then some e else none

/-- The parts of a column definition. -/
def column? (e : Excerpt) : Option ColumnShape := do
  let (name, rest) := e.span isNameChar
  let (type, rest) := (← afterBlanks? rest).span fun c => isCapital c || isDigit c
  if !isName name.chars || !(type.chars.head?.any isCapital) then none
  else
    let (length, scale, rest) := match size? rest with
      | some (length, scale, rest) => (some length, scale, rest)
      | none => (none, none, rest)
    let (notNull, rest) := match notNull? rest with
      | some rest => (true, rest)
      | none => (false, rest)
    if rest.isEmpty then return ⟨name, type, length, scale, notNull, none⟩
    else return ⟨name, type, length, scale, notNull, some (← comment? rest)⟩

end SlotSql.Token
