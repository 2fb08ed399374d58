/-!
# Cutting texts

Texts are lists of characters here, so that every cut is a cut between characters.

Results:
* `join_split`: joining the pieces of a split with the separator gives the text back.
* `cut?_eq_some`: a cut at the first occurrence of a pattern loses nothing.
-/
namespace SlotSql.Text

/-- The pieces between the occurrences of `sep`; a text without `sep` is one piece. -/
def split (sep : Char) : List Char → List (List Char)
  | [] => [[]]
  | c :: cs =>
    if c = sep then [] :: split sep cs
    else
      match split sep cs with
      | [] => [[c]]
      | p :: ps => (c :: p) :: ps

/-- The pieces with `sep` between them. -/
def join (sep : List Char) : List (List Char) → List Char
  | [] => []
  | [p] => p
  | p :: q :: ps => p ++ sep ++ join sep (q :: ps)

theorem split_ne_nil (sep : Char) (cs : List Char) : split sep cs ≠ [] := by
  cases cs with
  | nil => simp [split]
  | cons c cs =>
    rw [split]
    by_cases h : c = sep
    · simp [h]
    · cases split sep cs <;> simp [h]

theorem join_split (sep : Char) (cs : List Char) : join [sep] (split sep cs) = cs := by
  induction cs with
  | nil => rfl
  | cons c cs ih =>
    rw [split]
    cases h : split sep cs with
    | nil => exact absurd h (split_ne_nil sep cs)
    | cons p ps =>
      rw [h] at ih
      by_cases hc : c = sep
      · subst hc; simp [join, ih]
      · simp only [hc, if_false]
        cases ps with
        | nil => simp_all [join]
        | cons q qs => simp_all [join]

/-- The rest after `start`, if the text starts with it. -/
def stripStart? : List Char → List Char → Option (List Char)
  | [], cs => some cs
  | _ :: _, [] => none
  | p :: ps, c :: cs => if p = c then stripStart? ps cs else none

theorem stripStart?_eq_some {ps cs r : List Char} : stripStart? ps cs = some r ↔ cs = ps ++ r := by
  induction ps generalizing cs with
  | nil => simp [stripStart?, eq_comm]
  | cons p ps ih =>
    cases cs with
    | nil => simp [stripStart?]
    | cons c cs =>
      by_cases h : p = c
      · simp [stripStart?, h, ih]
      · simp [stripStart?, h, Ne.symm h]

/-- The part in front of `stop`, if the text ends with it. -/
def stripEnd? (stop cs : List Char) : Option (List Char) :=
  (stripStart? stop.reverse cs.reverse).map List.reverse

/-- The parts in front of and behind the first occurrence of `pattern`. -/
def cut? (pattern : List Char) : List Char → Option (List Char × List Char)
  | [] => (stripStart? pattern []).map ([], ·)
  | c :: cs =>
    match stripStart? pattern (c :: cs) with
    | some r => some ([], r)
    | none => (cut? pattern cs).map fun (a, b) => (c :: a, b)

theorem cut?_eq_some {pattern cs a b : List Char} (h : cut? pattern cs = some (a, b)) :
    cs = a ++ pattern ++ b := by
  induction cs generalizing a with
  | nil =>
    simp only [cut?, Option.map_eq_some_iff] at h
    obtain ⟨r, hr, he⟩ := h
    cases he
    simpa using stripStart?_eq_some.1 hr
  | cons c cs ih =>
    rw [cut?] at h
    split at h
    · next r hr => cases h; simpa using stripStart?_eq_some.1 hr
    · simp only [Option.map_eq_some_iff, Prod.exists] at h
      obtain ⟨x, y, hxy, he⟩ := h
      cases he
      simp [ih hxy]

/-- The parts in front of and behind the last occurrence of the character `sep`. -/
def cutLast? (sep : Char) (cs : List Char) : Option (List Char × List Char) :=
  (cut? [sep] cs.reverse).map fun (a, b) => (b.reverse, a.reverse)

/-- The lines of a text. A line ends at a line feed, of which a carriage return in front is a
part; an empty rest after the last line feed is no line. -/
def lines (cs : List Char) : List (List Char) :=
  let ps := split '\n' cs
  let ended := ps.dropLast.map fun l => (stripEnd? ['\r'] l).getD l
  match ps.getLast? with
  | none | some [] => ended
  | some l => ended ++ [l]

/-- The texts joined with `sep` between them. -/
def joined (sep : String) (ss : List String) : String := sep.intercalate ss

end SlotSql.Text
