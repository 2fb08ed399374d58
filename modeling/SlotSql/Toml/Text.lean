import SlotSql.Number.Integer
/-!
# Texts in TOML

A text stands between single or double quotes, one or three of them on each side. Escapes are read
between double quotes only. Three quotes allow for line ends, of which the first one does not count
if the text begins with it, and each of which becomes a line feed.
-/
namespace SlotSql.Toml

/-- Whether a character is a blank inside a line. -/
def isGap (c : Char) : Bool := c == ' ' || c == '\t'

/-- Whether a character can stand in a text as itself. -/
def isPlain (c : Char) : Bool := c == '\t' || (0x20 ≤ c.toNat && c.toNat != 0x7F)

/-- How a text is quoted. -/
structure Quoting where
  quote : Char
  /-- Whether there are three quotes on each side. -/
  triple : Bool
  deriving DecidableEq, Repr

/-- The double quote. -/
def doubleQuote : Char := '\x22'
/-- The single quote. -/
def singleQuote : Char := '\x27'

/-- Whether escapes are read. -/
def Quoting.escapes (q : Quoting) : Bool := q.quote == doubleQuote

/-- The character that an escape of one letter stands for. -/
def escaped? (c : Char) : Option Char :=
  if c = 'b' then some '\x08'
  else if c = 't' then some '\t'
  else if c = 'n' then some '\n'
  else if c = 'f' then some '\x0c'
  else if c = 'r' then some '\r'
  else if c = doubleQuote ∨ c = '\\' then some c
  else none

/-- What of an escape has been read. -/
inductive Escape where
  | none
  /-- The backslash. -/
  | begun
  /-- The digits of a code point but for so many, and their value. -/
  | code (left value : Nat)
  /-- The backslash and blanks, in front of a line end. -/
  | gap
  /-- The backslash and a line end; all blanks and line ends behind it do not count. -/
  | skipping
  deriving DecidableEq

/-- The character of a code point, if it has one. -/
def charOf? (n : Nat) : Option Char := if n.isValidChar then some (Char.ofNat n) else none

/-- Puts a character in front of the text that was read. -/
def withChar (c : Char) (x : Option (List Char × List Char)) : Option (List Char × List Char) :=
  x.map fun (cs, rest) => (c :: cs, rest)

/-- The text in front of three quotes, as far as it consists of more of them, if the characters begin
with three quotes, and the rest behind these. At most two quotes belong to the text. -/
def closing? (quote : Char) (cs : List Char) : Option (List Char × List Char) :=
  let run := (cs.takeWhile (· == quote)).length
  if run < 3 then none
  else
    let own := min (run - 3) 2
    some (List.replicate own quote, cs.drop (own + 3))

/-- The text up to the closing quotes, and the rest behind them. -/
def textBody (q : Quoting) : Escape → List Char → Option (List Char × List Char)
  | _, [] => none
  | .begun, c :: cs =>
    if c = 'u' then textBody q (.code 3 0) cs
    else if c = 'U' then textBody q (.code 7 0) cs
    else
      match escaped? c with
      | some d => withChar d (textBody q .none cs)
      | none =>
        if !q.triple then none
        else if isGap c then textBody q .gap cs
        else if c = '\r' ∧ cs.head? = some '\n' then textBody q .gap cs
        else if c = '\n' then textBody q .skipping cs
        else none
  | .code left value, c :: cs =>
    match Number.digit? 16 c with
    | none => none
    | some d =>
      let value := value * 16 + d
      match left with
      | n + 1 => textBody q (.code n value) cs
      | 0 => (charOf? value).bind fun d => withChar d (textBody q .none cs)
  | .gap, c :: cs =>
    if isGap c then textBody q .gap cs
    else if c = '\r' ∧ cs.head? = some '\n' then textBody q .gap cs
    else if c = '\n' then textBody q .skipping cs
    else none
  | e, c :: cs =>
    if e = .skipping ∧ (isGap c ∨ c = '\n' ∨ (c = '\r' ∧ cs.head? = some '\n')) then
      textBody q .skipping cs
    else if c = q.quote then
      if q.triple then
        match closing? q.quote (c :: cs) with
        | some found => some found
        | none => withChar c (textBody q .none cs)
      else some ([], cs)
    else if c = '\\' ∧ q.escapes then textBody q .begun cs
    else if isPlain c then withChar c (textBody q .none cs)
    else if q.triple ∧ c = '\n' then withChar c (textBody q .none cs)
    else if q.triple ∧ c = '\r' ∧ cs.head? = some '\n' then textBody q .none cs
    else none

/-- The rest behind a line end. -/
def afterLineEnd? : List Char → Option (List Char)
  | '\n' :: cs => some cs
  | '\r' :: '\n' :: cs => some cs
  | _ => none

/-- The text between quotes, one on each side, and the rest. -/
def line? (quote : Char) (cs : List Char) : Option (String × List Char) :=
  (textBody ⟨quote, false⟩ .none cs).map fun (t, rest) => (String.ofList t, rest)

/-- The text that begins behind a quote, and the rest. -/
def text? (quote : Char) (cs : List Char) : Option (String × List Char) :=
  match cs with
  | a :: b :: cs' =>
    if a = quote ∧ b = quote then
      (textBody ⟨quote, true⟩ .none ((afterLineEnd? cs').getD cs')).map fun (t, rest) =>
        (String.ofList t, rest)
    else line? quote cs
  | _ => line? quote cs

/-! ## Writing -/

/-- The number of quotes in the longest run of a text. -/
def longestRun (quote : Char) (cs : List Char) : Nat :=
  ((cs.splitBy fun a b => a == quote && b == quote).map fun r =>
    if r.head? = some quote then r.length else 0).foldl max 0

/-- A character between double quotes. Behind `run` quotes, one more is escaped if there would be
more than `most`. -/
def writtenChar (q : Quoting) (run : Nat) (c : Char) : List Char :=
  let most := if q.triple then 2 else 0
  if c = doubleQuote ∧ run < most then [c]
  else if c = doubleQuote ∨ c = '\\' then ['\\', c]
  else if c = '\t' then ['\\', 't']
  else if c = '\r' then ['\\', 'r']
  else if c = '\x08' then ['\\', 'b']
  else if c = '\x0c' then ['\\', 'f']
  else if c = '\n' then (if q.triple then [c] else ['\\', 'n'])
  else if isPlain c then [c]
  else
    ['\\', 'u', '0', '0', (Nat.digitChar (c.toNat / 16)).toUpper,
      (Nat.digitChar (c.toNat % 16)).toUpper]

/-- A text between double quotes, behind `run` quotes. -/
def writtenChars (q : Quoting) (run : Nat) : List Char → List Char
  | [] => []
  | c :: cs =>
    let image := writtenChar q run c
    image ++ writtenChars q (if image = [doubleQuote] then run + 1 else 0) cs

/-- A text with the given quotes. -/
def writtenWith (q : Quoting) (cs : List Char) : String :=
  let quotes := List.replicate (if q.triple then 3 else 1) q.quote
  let start := if q.triple ∧ '\n' ∈ cs then ['\n'] else []
  let body := if q.escapes then writtenChars q 0 cs else cs
  String.ofList (quotes ++ start ++ body ++ quotes)

/-- The quotes with which a text is written: double ones if it needs no escapes, else single ones if
it can stand between them, and three only where one does not do. -/
def quotingFor (cs : List Char) : Quoting :=
  let lines := '\n' ∈ cs
  let codes := cs.any fun c => !isPlain c && c != '\n'
  let backslash := '\\' ∈ cs
  let doubles := longestRun doubleQuote cs
  let singles := longestRun singleQuote cs
  if codes then ⟨doubleQuote, lines⟩
  else if ¬ backslash ∧ doubles = 0 ∧ ¬ lines then ⟨doubleQuote, false⟩
  else if singles = 0 ∧ ¬ lines then ⟨singleQuote, false⟩
  else if ¬ backslash ∧ doubles ≤ 2 then ⟨doubleQuote, true⟩
  else if singles ≤ 2 then ⟨singleQuote, true⟩
  else ⟨doubleQuote, lines⟩

/-- A text as a value. -/
def written (s : String) : String := writtenWith (quotingFor s.toList) s.toList

end SlotSql.Toml
