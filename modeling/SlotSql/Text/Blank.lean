/-!
# Blank characters

White space here is the Unicode property `White_Space`, 25 characters. Statements, configuration
values and command arguments are all trimmed by it.

Results:
* `isBlank_of_isWhitespace`: every character that `Char.isWhitespace` accepts is blank.
* `trim_eq_of_not_blank`: trimming leaves a text alone that neither starts nor ends with a blank.
-/
namespace SlotSql.Text

/-- A character with the Unicode property `White_Space`. -/
def isBlank (c : Char) : Bool :=
  let n := c.toNat
  (0x9 ≤ n && n ≤ 0xD) || n == 0x20 || n == 0x85 || n == 0xA0 || n == 0x1680 ||
    (0x2000 ≤ n && n ≤ 0x200A) || n == 0x2028 || n == 0x2029 || n == 0x202F || n == 0x205F ||
    n == 0x3000

/-- ASCII white space: blank, tab, line feed, form feed and carriage return. -/
def isAsciiBlank (c : Char) : Bool :=
  let n := c.toNat
  n == 0x20 || n == 0x9 || n == 0xA || n == 0xC || n == 0xD

theorem isBlank_of_isWhitespace {c : Char} (h : c.isWhitespace = true) : isBlank c = true := by
  simp only [Char.isWhitespace, Bool.or_eq_true, decide_eq_true_eq] at h
  rcases h with ((h | h) | h) | h <;> subst h <;> decide

/-- Drops blanks in front. -/
def trimStart (cs : List Char) : List Char := cs.dropWhile isBlank

/-- Drops blanks at the end. -/
def trimEnd (cs : List Char) : List Char := (cs.reverse.dropWhile isBlank).reverse

/-- Drops blanks on both sides. -/
def trim (cs : List Char) : List Char := trimEnd (trimStart cs)

/-- The text without the blanks on both sides. -/
def trimmed (s : String) : String := String.ofList (trim s.toList)

theorem trimStart_of_not_blank {c : Char} {cs : List Char} (h : isBlank c = false) :
    trimStart (c :: cs) = c :: cs := by
  simp [trimStart, h]

theorem trimEnd_of_not_blank {c : Char} {cs : List Char} (h : isBlank c = false) :
    trimEnd (cs ++ [c]) = cs ++ [c] := by
  simp [trimEnd, h]

theorem trim_eq_of_not_blank {a b : Char} {cs : List Char} (ha : isBlank a = false)
    (hb : isBlank b = false) : trim (a :: cs ++ [b]) = a :: cs ++ [b] := by
  have h : trimStart (a :: cs ++ [b]) = a :: cs ++ [b] := trimStart_of_not_blank ha
  rw [trim, h, trimEnd_of_not_blank hb]

/-- The maximal runs of characters that are not blank. -/
def words (cs : List Char) : List (List Char) :=
  (cs.splitBy fun a b => isBlank a == isBlank b).filter fun w => w.any (!isBlank ·)

end SlotSql.Text
