import SlotSql.Text.Blank
import SlotSql.Text.Pieces
/-!
# Scripts

A script holds statements that end with a delimiter, and is read as a whole or line by line. A
delimiter inside quotes ends nothing; between double quotes, but not between single ones, a
backslash takes the quote behind it for a character like any other.

Results:
* `join_pieces`: cutting a script loses nothing but the delimiters.
-/
namespace SlotSql.Script

/-- Puts a character in front of the first piece. -/
def pushed (c : Char) : List (List Char) → List (List Char)
  | [] => [[c]]
  | p :: ps => (c :: p) :: ps

/-- The texts between the delimiters outside quotes; `quote` is the quote that is open. -/
def pieces (delimiter : Char) : (quote : Option Char) → List Char → List (List Char)
  | _, [] => [[]]
  | some q, c :: cs =>
    if q = '\x22' ∧ c = '\\' then
      match cs with
      | [] => [[c]]
      | d :: cs => pushed c (pushed d (pieces delimiter (some q) cs))
    else pushed c (pieces delimiter (if c = q then none else some q) cs)
  | none, c :: cs =>
    if c = '\x27' ∨ c = '\x22' then pushed c (pieces delimiter (some c) cs)
    else if c = delimiter then [] :: pieces delimiter none cs
    else pushed c (pieces delimiter none cs)

theorem pushed_ne_nil {c : Char} {ps : List (List Char)} : pushed c ps ≠ [] := by
  cases ps <;> simp [pushed]

theorem join_pushed {c : Char} {sep : List Char} {ps : List (List Char)} (h : ps ≠ []) :
    Text.join sep (pushed c ps) = c :: Text.join sep ps := by
  match ps, h with
  | [p], _ => rfl
  | p :: q :: ps, _ => rfl

theorem pieces_ne_nil (delimiter : Char) (quote : Option Char) (cs : List Char) :
    pieces delimiter quote cs ≠ [] := by
  fun_cases pieces delimiter quote cs <;> simp [pushed_ne_nil]

theorem join_pieces (delimiter : Char) (quote : Option Char) (cs : List Char) :
    Text.join [delimiter] (pieces delimiter quote cs) = cs := by
  have join_nil_cons {ps : List (List Char)} (h : ps ≠ []) :
      Text.join [delimiter] ([] :: ps) = delimiter :: Text.join [delimiter] ps := by
    cases ps with
    | nil => exact absurd rfl h
    | cons p ps => rfl
  fun_induction pieces delimiter quote cs <;>
    simp_all [join_pushed, pieces_ne_nil, pushed_ne_nil, Text.join]

/-- The statements among pieces: without blanks around them, empty ones left out. -/
def statements (ps : List (List Char)) : List String :=
  ((ps.map Text.trim).filter fun p => !p.isEmpty).map String.ofList

/-- The statements of a text that end with the delimiter, and what is left behind the last one. -/
def split (delimiter : Char) (cs : List Char) : List String × List Char :=
  let ps := pieces delimiter none cs
  (statements ps.dropLast, ps.getLastD [])

/-- What a line does to the statement that is being typed. -/
inductive LineOutcome where
  /-- The statement goes on. -/
  | incomplete
  /-- The statement is discarded. -/
  | cancelled
  /-- The line is a command to the console. -/
  | command (text : String)
  /-- Statements are complete. -/
  | complete (statements : List String)
  deriving DecidableEq, Repr

/-- The text of a statement that is being typed. -/
structure Pending where
  text : List Char := []
  deriving DecidableEq, Repr

namespace Pending

/-- Whether nothing has been typed but blanks. -/
def isEmpty (p : Pending) : Bool := (Text.trim p.text).isEmpty

/-- The line that discards what has been typed. -/
def cancelLine : List Char := ['!']

/-- Takes in a line. -/
def feed (p : Pending) (delimiter : Char) (line : List Char) : LineOutcome × Pending :=
  let trimmed := Text.trim line
  if trimmed = cancelLine then (.cancelled, {})
  else if p.isEmpty ∧ trimmed.isEmpty then (.incomplete, p)
  else if p.isEmpty ∧ trimmed.head? = some '\\' then (.command (String.ofList trimmed), p)
  else
    let (found, rest) := split delimiter (p.text ++ line ++ ['\n'])
    (if found.isEmpty then .incomplete else .complete found, ⟨rest⟩)

/-- The statement that has been typed, if there is one. -/
def finish? (p : Pending) : Option String :=
  let trimmed := Text.trim p.text
  if trimmed.isEmpty then none else some (String.ofList trimmed)

end Pending
end SlotSql.Script
