import SlotSql.Toml.Number
import SlotSql.Toml.Text
/-!
# Reading TOML

A document is a list of sections; a section is a header and the keys and values behind it, one in a
line. A value can go over several lines only inside an array or between three quotes.
-/
namespace SlotSql.Toml

/-- The number of arrays and tables in each other, or of parts of a key, that is too many. -/
def tooDeep : Nat := 80

/-- The characters behind blanks inside a line. -/
def skipGap (cs : List Char) : List Char := cs.dropWhile isGap

/-- Whether a character can stand in a comment. -/
def isCommentChar (c : Char) : Bool := c == '\t' || 0x20 ≤ c.toNat

/-- The characters behind a comment, if there is one. -/
def skipComment : List Char → List Char
  | '#' :: cs => cs.dropWhile isCommentChar
  | cs => cs

/-- The characters behind the rest of a line that holds nothing but a comment. -/
def lineEnd? (cs : List Char) : Option (List Char) :=
  match skipComment (skipGap cs) with
  | [] => some []
  | cs => afterLineEnd? cs

/-- The characters behind blanks, line ends and comments. -/
def skipLines? : (comment : Bool) → List Char → Option (List Char)
  | _, [] => some []
  | true, c :: cs =>
    if c = '\n' then skipLines? false cs
    else if c = '\r' ∧ cs.head? = some '\n' then skipLines? true cs
    else if isCommentChar c then skipLines? true cs
    else none
  | false, c :: cs =>
    if isGap c ∨ c = '\n' ∨ (c = '\r' ∧ cs.head? = some '\n') then skipLines? false cs
    else if c = '#' then skipLines? true cs
    else some (c :: cs)

/-- Whether a character can stand in a key without quotes. -/
def isKeyChar (c : Char) : Bool := c.isAlphanum || c == '-' || c == '_'

/-- One part of a key, and the rest. -/
def keyPart? (cs : List Char) : Option (String × List Char) :=
  match cs with
  | [] => none
  | c :: r =>
    if c = doubleQuote ∨ c = singleQuote then line? c r
    else
      let part := cs.takeWhile isKeyChar
      if part.isEmpty then none else some (String.ofList part, cs.dropWhile isKeyChar)

/-- A key of at most so many parts with points between them, and the rest behind it and blanks. -/
def key? : (most : Nat) → List Char → Option (List String × List Char)
  | 0, _ => none
  | n + 1, cs => do
    let (part, cs) ← keyPart? (skipGap cs)
    match skipGap cs with
    | '.' :: cs =>
      let (parts, cs) ← key? n cs
      return (part :: parts, cs)
    | cs => return ([part], cs)

/-- Values up to a closing bracket; `item?` reads one value. -/
def items? (item? : List Char → Option (Value × List Char)) :
    (fuel : Nat) → List Char → Option (List Value × List Char)
  | 0, _ => none
  | n + 1, cs => do
    match ← skipLines? false cs with
    | ']' :: cs => return ([], cs)
    | cs =>
      let (v, cs) ← item? cs
      match ← skipLines? false cs with
      | ']' :: cs => return ([v], cs)
      | ',' :: cs =>
        let (vs, cs) ← items? item? n cs
        return (v :: vs, cs)
      | _ => none

/-- A key and its value, and the rest; `value?` reads the value. -/
def pair? (value? : List Char → Option (Value × List Char)) (cs : List Char) :
    Option ((List String × Value) × List Char) := do
  let (path, cs) ← key? (tooDeep - 1) cs
  match cs with
  | '=' :: cs =>
    let (v, cs) ← value? (skipGap cs)
    return ((path, v), cs)
  | _ => none

/-- Keys and values with commas between them, at least one, up to a closing brace. -/
def pairs? (value? : List Char → Option (Value × List Char)) :
    (fuel : Nat) → List Char → Option (List (List String × Value) × List Char)
  | 0, _ => none
  | n + 1, cs => do
    let (p, cs) ← pair? value? cs
    match skipGap cs with
    | '\x7d' :: cs => return ([p], cs)
    | ',' :: cs =>
      let (ps, cs) ← pairs? value? n cs
      return (p :: ps, cs)
    | _ => none

/-- A truth value, and the rest. -/
def boolean? (cs : List Char) : Option (Value × List Char) :=
  (Text.stripStart? "true".toList cs).map (.boolean true, ·) <|>
    (Text.stripStart? "false".toList cs).map (.boolean false, ·)

/-- A value in which there are at most so many arrays and tables in each other, and the rest. -/
def value? : (depth : Nat) → List Char → Option (Value × List Char)
  | _, [] => none
  | depth, c :: cs =>
    if c = doubleQuote ∨ c = singleQuote then (text? c cs).map fun (s, rest) => (.text s, rest)
    else
      match depth with
      | n + 1 =>
        if c = '[' then
          (items? (value? n) (cs.length + 1) cs).map fun (vs, rest) => (.array false vs, rest)
        else if c = '\x7b' then
          match skipGap cs with
          | '\x7d' :: rest => some (.table .inline [], rest)
          | _ => do
            let (ps, rest) ← pairs? (value? n) (cs.length + 1) cs
            let t ← Entries.defineAll (.inline, []) ps
            return (.table .inline t.2, rest)
        else numeric? (c :: cs) <|> boolean? (c :: cs)
      | 0 => numeric? (c :: cs) <|> boolean? (c :: cs)

/-- A header, and the rest behind its line. -/
def header? (cs : List Char) : Option (SectionHeader × List Char) :=
  match cs with
  | '[' :: '[' :: cs => do
    let (path, cs) ← key? (tooDeep - 1) cs
    return (.item path, ← lineEnd? (← Text.stripStart? [']', ']'] cs))
  | '[' :: cs => do
    let (path, cs) ← key? (tooDeep - 1) cs
    return (.table path, ← lineEnd? (← Text.stripStart? [']'] cs))
  | _ => none

/-- The sections of a document behind the section `s`. -/
def sections? (s : Section) : (fuel : Nat) → List Char → Option (List Section)
  | 0, _ => none
  | n + 1, cs =>
    match skipLines? false cs with
    | none => none
    | some [] => some [s]
    | some ('[' :: cs) => do
      let (header, cs) ← header? ('[' :: cs)
      return s :: (← sections? ⟨header, []⟩ n cs)
    | some cs => do
      let (p, cs) ← pair? (value? (tooDeep - 1)) cs
      sections? { s with pairs := s.pairs ++ [p] } n (← lineEnd? cs)

/-- The mark that may stand in front of a document. -/
def byteOrderMark : Char := Char.ofNat 0xFEFF

/-- The table that a text writes. -/
def read? (s : String) : Option Value :=
  let cs := (Text.stripStart? [byteOrderMark] s.toList).getD s.toList
  (sections? ⟨.root, []⟩ (cs.length + 1) cs).bind Section.assemble

end SlotSql.Toml
