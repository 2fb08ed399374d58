import SlotSql.Text.Unicode.CaseTable
import SlotSql.Text.Unicode.Property
/-!
# Letter case

ASCII case for keywords and command names, and the full lower-case form of a text, in which a
capital sigma at the end of a word becomes a final sigma.
-/
namespace SlotSql.Text

/-- The text with ASCII letters in upper case. -/
def asciiUpper (s : String) : String := String.ofList (s.toList.map Char.toUpper)

/-- The text with ASCII letters in lower case. -/
def asciiLower (s : String) : String := String.ofList (s.toList.map Char.toLower)

/-- Equality up to the case of ASCII letters. -/
def sameLetters (a b : List Char) : Bool := a.map Char.toUpper == b.map Char.toUpper

end SlotSql.Text

namespace SlotSql.Unicode

/-- A run of code points with images at the same distance: first, last, step, first image. -/
structure CaseRun where
  first : Nat
  last : Nat
  step : Nat
  image : Nat

/-- The run that a text `first-last/step:image` writes. -/
def CaseRun.ofWord (w : List Char) : CaseRun :=
  let (first, r) := (w.takeWhile (· ≠ '-'), (w.dropWhile (· ≠ '-')).drop 1)
  let (last, r) := (r.takeWhile (· ≠ '/'), (r.dropWhile (· ≠ '/')).drop 1)
  let (step, r) := (r.takeWhile (· ≠ ':'), (r.dropWhile (· ≠ ':')).drop 1)
  ⟨Ranges.hexNumber first, Ranges.hexNumber last, Ranges.hexNumber step, Ranges.hexNumber r⟩

/-- The runs of a table. -/
def CaseRun.ofLines (ls : List String) : List CaseRun :=
  ls.flatMap fun l => ((Ranges.wordsOf l.toList).filter (!·.isEmpty)).map CaseRun.ofWord

/-- The image of a code point in a run. -/
def CaseRun.image? (r : CaseRun) (n : Nat) : Option Nat :=
  if r.first ≤ n && n ≤ r.last && (n - r.first) % r.step == 0 then some (r.image + (n - r.first)) else none

/-- The image of a code point in a table, itself if it has none. -/
def caseImage (rs : List CaseRun) (n : Nat) : Nat := (rs.findSome? (·.image? n)).getD n

/-- The ranges of a binary property. -/
def propertyRanges (name : String) : Ranges := ((named? properties name).map NamedSet.ranges).getD []

/-- A capital sigma is final if a cased letter stands in front and none behind, characters that
case ignores left out. -/
def isFinalSigma (before after : List Char) : Bool :=
  let ignorable := propertyRanges "caseignorable"
  let cased := propertyRanges "cased"
  let sees (cs : List Char) : Bool :=
    match cs.dropWhile (fun c => ignorable.contains c.toNat) with
    | [] => false
    | c :: _ => cased.contains c.toNat
  sees before && !sees after

/-- The lower-case form of a text whose part `before`, reversed, is already done. -/
def lowerFrom (runs : List CaseRun) (before : List Char) : List Char → List Char
  | [] => []
  | c :: cs =>
    let image :=
      if c.toNat < 0x80 then [c.toLower]
      else if c.toNat = 0x130 then ['i', Char.ofNat 0x307]
      else if c.toNat = 0x3A3 then
        [Char.ofNat (if isFinalSigma before cs then 0x3C2 else 0x3C3)]
      else [Char.ofNat (caseImage runs c.toNat)]
    image ++ lowerFrom runs (c :: before) cs

/-- The lower-case form of a text. -/
def lower (s : String) : String :=
  String.ofList (lowerFrom (CaseRun.ofLines lowerRuns) [] s.toList)

end SlotSql.Unicode
