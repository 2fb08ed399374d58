/-!
# Sets of code points

A set of characters is a list of inclusive ranges. The tables of Unicode properties are texts in
which a range is written `lo-hi` or, for one code point, `lo`, in upper-case hexadecimal and with
blanks between the ranges; `Ranges.ofLines` reads them.
-/
namespace SlotSql.Unicode

/-- Inclusive ranges of code points. -/
abbrev Ranges := List (Nat × Nat)

namespace Ranges

/-- Membership of a code point. -/
def contains (rs : Ranges) (n : Nat) : Bool := rs.any fun r => r.1 ≤ n && n ≤ r.2

/-- The value of an upper-case hexadecimal digit; any other character counts as zero. -/
def hexValue (c : Char) : Nat :=
  if c.isDigit then c.toNat - 48 else if 'A' ≤ c ∧ c ≤ 'F' then c.toNat - 55 else 0

/-- The number that hexadecimal digits write. -/
def hexNumber (cs : List Char) : Nat := cs.foldl (fun n c => n * 16 + hexValue c) 0

/-- The range that a text writes. -/
def ofWord (w : List Char) : Nat × Nat :=
  let lo := w.takeWhile (· ≠ '-')
  match w.drop lo.length with
  | [] => (hexNumber lo, hexNumber lo)
  | _ :: hi => (hexNumber lo, hexNumber hi)

/-- The words of a text, in order: the part in front of the first blank and the words behind it. -/
def wordsOf : List Char → List (List Char)
  | [] => []
  | c :: cs =>
    if c = ' ' then [] :: wordsOf cs
    else
      match wordsOf cs with
      | [] => [[c]]
      | w :: ws => (c :: w) :: ws

/-- The ranges that the lines of a table write. -/
def ofLines (ls : List String) : Ranges :=
  ls.flatMap fun l => ((wordsOf l.toList).filter (!·.isEmpty)).map ofWord

end Ranges

/-- A set of code points under the names it goes by, in lower case and without separators. -/
structure NamedSet where
  names : List String
  lines : List String

/-- The code points of a named set. -/
def NamedSet.ranges (s : NamedSet) : Ranges := Ranges.ofLines s.lines

/-- The set of the given name in a table. -/
def named? (table : List NamedSet) (name : String) : Option NamedSet :=
  table.find? fun s => s.names.contains name

end SlotSql.Unicode
