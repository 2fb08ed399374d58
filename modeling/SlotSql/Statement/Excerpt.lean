import SlotSql.Text.Blank
import SlotSql.Text.Pieces
import SlotSql.Text.Utf8
import SlotSql.Error
/-!
# Excerpts of a statement

An excerpt is a run of the characters of a statement together with its place, so that an error found
in any part of a statement names the place of that part. Every operation here narrows an excerpt.

Quotes are single quotes: text between two of them is quoted, and a doubled quote inside a literal
leaves and enters it again. Parentheses count outside quotes only.
-/
namespace SlotSql

/-- A statement that could not be read: where the fragment starts, in characters, the fragment,
and what is wrong with it. -/
structure ParseError where
  offset : Nat
  fragment : String
  message : String
  deriving DecidableEq, Repr

/-- The error as the engine reports it. -/
def ParseError.toEngine (e : ParseError) : EngineError := .parse e.offset e.fragment e.message

/-- A run of characters that starts at the given place of a statement. -/
structure Excerpt where
  start : Nat
  chars : List Char
  deriving DecidableEq, Repr

namespace Excerpt

/-- The single quote, which literals stand between. -/
def quote : Char := '\x27'

/-- A whole statement. -/
def ofText (s : String) : Excerpt := ⟨0, s.toList⟩

/-- The characters as a string. -/
def text (e : Excerpt) : String := String.ofList e.chars

/-- Whether there are no characters. -/
def isEmpty (e : Excerpt) : Bool := e.chars.isEmpty

/-- The first `n` characters. -/
def take (e : Excerpt) (n : Nat) : Excerpt := ⟨e.start, e.chars.take n⟩

/-- The characters behind the first `n`. -/
def drop (e : Excerpt) (n : Nat) : Excerpt := ⟨e.start + min n e.chars.length, e.chars.drop n⟩

/-- The longest beginning whose characters satisfy `p`, and the rest. -/
def span (e : Excerpt) (p : Char → Bool) : Excerpt × Excerpt :=
  let front := e.chars.takeWhile p
  (⟨e.start, front⟩, ⟨e.start + front.length, e.chars.dropWhile p⟩)

/-- Without blanks on both sides. An excerpt of blanks shrinks to its end. -/
def trim (e : Excerpt) : Excerpt :=
  let (blanks, rest) := e.span Text.isBlank
  ⟨e.start + blanks.chars.length, Text.trimEnd rest.chars⟩

/-- The greatest number of characters of an excerpt that an error shows. -/
def fragmentLength : Nat := 40

/-- The error that something is wrong with this excerpt. -/
def error (e : Excerpt) (message : String) : ParseError :=
  ⟨e.start, String.ofList (e.chars.take fragmentLength), message⟩

/-- How many characters take up the first `n` octets, if no character reaches beyond them. -/
def charCount? : Nat → List Char → Option Nat
  | 0, _ => some 0
  | _ + 1, [] => none
  | n + 1, c :: cs =>
    if c.utf8Size ≤ n + 1 then (charCount? (n + 1 - c.utf8Size) cs).map (· + 1) else none
termination_by n cs => (cs.length, n)

/-- The part between two places counted in octets. A place behind the end counts as the end, a
start behind the stop as the stop; no part starts or stops inside a character. -/
def slice? (e : Excerpt) (start stop : Nat) : Option Excerpt := do
  let stop := min stop (Utf8.size e.chars)
  let a ← charCount? (min start stop) e.chars
  let b ← charCount? stop e.chars
  return (e.take b).drop a

/-! ## Keywords -/

/-- Whether a word ends in front of the text: at its end, at an ASCII blank or at a parenthesis. -/
def wordEnds : List Char → Bool
  | [] => true
  | c :: _ => Text.isAsciiBlank c || c == '('

/-- The rest behind a word in front. -/
def afterWord? (word : String) (cs : List Char) : Option (List Char) :=
  (Text.stripStart? word.toList cs).filter wordEnds

/-- Whether the excerpt starts with a keyword. -/
def startsWith (e : Excerpt) (keyword : String) : Bool := (afterWord? keyword e.chars).isSome

/-- What follows a keyword in front. -/
def afterKeyword? (e : Excerpt) (keyword : String) : Option Excerpt :=
  if e.startsWith keyword then some (e.drop keyword.length).trim else none

/-- What follows a sequence of keywords in front. -/
def afterKeywords? (e : Excerpt) (keywords : List String) : Option Excerpt :=
  keywords.foldlM afterKeyword? e.trim

/-- Where a scan of a text stands: inside quotes or not, how deep in parentheses, and whether a
word can begin here. -/
structure Place where
  quoted : Bool := false
  depth : Nat := 0
  wordStart : Bool := true

/-- Outside quotes and parentheses. -/
def Place.isOpen (p : Place) : Bool := !p.quoted && p.depth == 0

/-- The place behind a character. -/
def Place.step (p : Place) (c : Char) : Place :=
  let q := { p with wordStart := Text.isAsciiBlank c }
  if c = quote then { q with quoted := !p.quoted }
  else if p.quoted then q
  else if c = '(' then { q with depth := p.depth + 1 }
  else if c = ')' then { q with depth := p.depth - 1 }
  else q

/-- Whether a character is a quote, or a parenthesis outside quotes. -/
def Place.isMark (p : Place) (c : Char) : Bool := c == quote || (!p.quoted && (c == '(' || c == ')'))

/-- How many characters stand in front of the first keyword outside quotes and parentheses. -/
def findKeywordFrom? (keyword : String) (p : Place) : List Char → Option Nat
  | [] => none
  | c :: cs =>
    if !p.isMark c && p.isOpen && p.wordStart && (afterWord? keyword (c :: cs)).isSome then some 0
    else (findKeywordFrom? keyword (p.step c) cs).map (· + 1)

/-- How many characters stand in front of a keyword outside quotes and parentheses. -/
def findKeyword? (e : Excerpt) (keyword : String) : Option Nat :=
  findKeywordFrom? keyword {} e.chars

/-! ## Splitting outside quotes -/

/-- The parts in front of and behind the first occurrence of `pattern` that begins outside
quotes. -/
def cutUnquoted? (pattern : List Char) (quoted : Bool) : List Char → Option (List Char × List Char)
  | [] => none
  | c :: cs =>
    if c = quote then (cutUnquoted? pattern (!quoted) cs).map fun (a, b) => (c :: a, b)
    else
      match if quoted then none else Text.stripStart? pattern (c :: cs) with
      | some rest => some ([], rest)
      | none => (cutUnquoted? pattern quoted cs).map fun (a, b) => (c :: a, b)

theorem eq_of_cutUnquoted? {pattern : List Char} {quoted : Bool} {cs a b : List Char}
    (h : cutUnquoted? pattern quoted cs = some (a, b)) : cs = a ++ pattern ++ b := by
  induction cs generalizing quoted a with
  | nil => simp [cutUnquoted?] at h
  | cons c cs ih =>
    rw [cutUnquoted?] at h
    split at h
    · simp only [Option.map_eq_some_iff, Prod.exists] at h
      obtain ⟨x, y, hxy, he⟩ := h
      cases he
      simp [ih hxy]
    · split at h
      · next r hr =>
        cases h
        split at hr
        · cases hr
        · simpa using Text.stripStart?_eq_some.1 hr
      · simp only [Option.map_eq_some_iff, Prod.exists] at h
        obtain ⟨x, y, hxy, he⟩ := h
        cases he
        simp [ih hxy]

/-- How many characters stand in front of `pattern` outside quotes. -/
def findUnquoted? (e : Excerpt) (pattern : String) : Option Nat :=
  (cutUnquoted? pattern.toList false e.chars).map fun (a, _) => a.length

/-- The parts of an excerpt in front of and behind `pattern` outside quotes. -/
def cutAt? (e : Excerpt) (pattern : String) : Option (Excerpt × Excerpt) :=
  (cutUnquoted? pattern.toList false e.chars).map fun (a, b) =>
    (⟨e.start, a⟩, ⟨e.start + a.length + pattern.length, b⟩)

/-- The parts between the occurrences of `pattern` outside quotes; an empty pattern occurs
nowhere. -/
def splitUnquoted (e : Excerpt) (pattern : String) : List Excerpt :=
  match _h : cutUnquoted? pattern.toList false e.chars with
  | none => [e]
  | some (a, b) =>
    if _hp : pattern = "" then [e]
    else ⟨e.start, a⟩ :: splitUnquoted ⟨e.start + a.length + pattern.length, b⟩ pattern
termination_by e.chars.length
decreasing_by
  have hl : 0 < pattern.toList.length := by
    rcases Nat.eq_zero_or_pos pattern.toList.length with h0 | h0
    · exact absurd (String.toList_injective (List.length_eq_zero_iff.1 h0)) _hp
    · exact h0
  simp only [eq_of_cutUnquoted? _h, List.length_append]
  omega

/-- The characters between the occurrences of `sep` outside quotes and parentheses. -/
def piecesAt (sep : Char) (p : Place) : List Char → List (List Char)
  | [] => [[]]
  | c :: cs =>
    if c == sep && !p.isMark c && p.isOpen then [] :: piecesAt sep (p.step c) cs
    else
      match piecesAt sep (p.step c) cs with
      | [] => [[c]]
      | piece :: rest => (c :: piece) :: rest

/-- Pieces with one character between each two, as trimmed excerpts that start at `start`. -/
def placed (start : Nat) : List (List Char) → List Excerpt
  | [] => []
  | piece :: rest => (Excerpt.mk start piece).trim :: placed (start + piece.length + 1) rest

/-- The parts between the occurrences of `sep` outside quotes and parentheses, trimmed. -/
def splitTopLevel (e : Excerpt) (sep : Char) : List Excerpt := placed e.start (piecesAt sep {} e.chars)

/-! ## Tokens and groups -/

/-- The first token, which ends at a blank or an opening parenthesis, and the rest, trimmed. -/
def splitToken (e : Excerpt) : Excerpt × Excerpt :=
  let (token, rest) := e.trim.span fun c => !(Text.isBlank c || c == '(')
  (token, rest.trim)

/-- How many characters stand in front of the parenthesis that closes the group we are in, `depth`
groups deep. -/
def closing? (quoted : Bool) (depth : Nat) : List Char → Option Nat
  | [] => none
  | c :: cs =>
    if c = quote then (closing? (!quoted) depth cs).map (· + 1)
    else if quoted then (closing? quoted depth cs).map (· + 1)
    else if c = '(' then (closing? quoted (depth + 1) cs).map (· + 1)
    else if c = ')' then
      if depth ≤ 1 then some 0 else (closing? quoted (depth - 1) cs).map (· + 1)
    else (closing? quoted depth cs).map (· + 1)

/-- What stands inside and behind the parentheses in front. -/
def splitParens (e : Excerpt) : Except ParseError (Excerpt × Excerpt) :=
  let t := e.trim
  if t.chars.head? = some '(' then
    match closing? false 0 t.chars with
    | some n => .ok (((t.take n).drop 1).trim, (t.drop (n + 1)).trim)
    | none => .error (t.error "unbalanced parentheses")
  else .error (t.error "expected '('")

end Excerpt
end SlotSql
