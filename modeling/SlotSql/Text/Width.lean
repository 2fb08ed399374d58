import SlotSql.Text.Case
import SlotSql.Text.Unicode.DisplayTable
/-!
# Widths of texts on a terminal

A character takes two columns if it is wide, none if it only modifies others, else one. Three kinds
of sequences take fewer or more columns than their characters: a line end of two characters, an
emoji sequence, and the Arabic letters lam and alef in a row.

Results:
* `width_ascii`: a text of ASCII characters without line ends takes a column a character.
-/
namespace SlotSql.Text

open Unicode

/-- The characters that the width of a text depends on. -/
structure WidthTables where
  wide : Ranges
  zero : Ranges
  emoji : Ranges
  /-- Emoji that are drawn as pictures without being asked to. -/
  pictures : Ranges
  modifiers : Ranges
  modifierBases : Ranges

namespace WidthTables

/-- The tables of the Unicode properties. -/
def standard : WidthTables where
  wide := Ranges.ofLines wideRanges
  zero := Ranges.ofLines zeroRanges
  emoji := propertyRanges "emoji"
  pictures := propertyRanges "emojipresentation"
  modifiers := propertyRanges "emojimodifier"
  modifierBases := propertyRanges "emojimodifierbase"

/-- The width of a character on its own. -/
def charWidth (t : WidthTables) (c : Char) : Nat :=
  let n := c.toNat
  if n < 0x80 then 1 else if t.wide.contains n then 2 else if t.zero.contains n then 0 else 1

/-- The code point that joins emoji to one picture. -/
def joiner : Nat := 0x200D
/-- The code point that asks for a plain sign instead of a picture. -/
def textStyle : Nat := 0xFE0E
/-- The code point that asks for a picture instead of a plain sign. -/
def emojiStyle : Nat := 0xFE0F

/-- Whether a code point is one of the letters that flags are made of. -/
def isFlagLetter (n : Nat) : Bool := 0x1F1E6 ≤ n && n ≤ 0x1F1FF

/-- Whether a code point is in the block of enclosed ideographs, which are wide in any style. -/
def isEnclosed (n : Nat) : Bool := 0x1F200 ≤ n && n ≤ 0x1F2FF

/-- Whether a picture starts at a character in front of the characters `rest`, and if so, whether it
takes in the first of these. -/
def picture? (t : WidthTables) (c : Char) (rest : List Char) : Option Bool :=
  let n := c.toNat
  let plain := if t.pictures.contains n then some false else none
  if isFlagLetter n || !t.emoji.contains n then none
  else
    match rest with
    | [] => plain
    | d :: _ =>
      if d.toNat = emojiStyle || (t.modifiers.contains d.toNat && t.modifierBases.contains n) then
        some true
      else if d.toNat = textStyle then none
      else plain

/-- Whether a character is a letter of the group lam. -/
def isLam (n : Nat) : Bool :=
  n == 0x644 || (0x6B5 ≤ n && n ≤ 0x6B8) || n == 0x76A || n == 0x8A6 || n == 0x8C7

/-- Whether a character is a letter of the group alef. -/
def isAlef (n : Nat) : Bool :=
  n == 0x622 || n == 0x623 || n == 0x625 || n == 0x627 || (0x671 ≤ n && n ≤ 0x673) || n == 0x675 ||
    n == 0x773 || n == 0x774 || (0x870 ≤ n && n ≤ 0x882)

/-- What the width of a character depends on in the characters before it. -/
inductive Before where
  | start
  | carriageReturn
  /-- A whole picture. -/
  | picture
  /-- A whole picture and a joiner. -/
  | joined
  /-- A picture of which one character is left. -/
  | unfinished
  | lam
  deriving DecidableEq

/-- The columns that a character adds, in front of the characters `rest`, and what it is for the
next one. -/
def step (t : WidthTables) (before : Before) (c : Char) (rest : List Char) : Nat × Before :=
  let n := c.toNat
  if before = .unfinished then (0, .picture)
  else if before = .carriageReturn ∧ c = '\n' then (0, .start)
  else if before = .picture ∧ n = joiner then (0, .joined)
  else
    match t.picture? c rest with
    | some more => (if before = .joined then 0 else 2, if more then .unfinished else .picture)
    | none =>
      if c = '\r' then (1, .carriageReturn)
      else if isLam n then (1, .lam)
      else if before = .lam ∧ isAlef n then (0, .start)
      else if before = .lam ∧ t.charWidth c = 0 then (0, .lam)
      else
        match rest with
        | d :: _ =>
          if d.toNat = textStyle ∧ t.pictures.contains n = true ∧ isEnclosed n = false then
            (1, .start)
          else (t.charWidth c, .start)
        | [] => (t.charWidth c, .start)

/-- The width of a text behind a part that ends as given. -/
def widthFrom (t : WidthTables) (before : Before) : List Char → Nat
  | [] => 0
  | c :: cs =>
    let (n, before) := t.step before c cs
    n + t.widthFrom before cs

end WidthTables

/-- The number of columns that a text takes on a terminal. -/
def width (cs : List Char) : Nat :=
  if cs.all fun c => c.toNat < 0x80 && c != '\r' then cs.length
  else WidthTables.standard.widthFrom .start cs

theorem width_ascii {cs : List Char} (h : ∀ c ∈ cs, c.toNat < 0x80 ∧ c ≠ '\r') :
    width cs = cs.length := by
  have : (cs.all fun c => c.toNat < 0x80 && c != '\r') = true := by
    simpa [List.all_eq_true, Bool.and_eq_true] using h
  simp [width, this]

end SlotSql.Text
