import SlotSql.Text.Unicode.Category
import SlotSql.Text.Unicode.Script
import SlotSql.Text.Unicode.ScriptExtensions
import SlotSql.Text.Case
/-!
# Character classes of regular expressions

A class is a set of code points built from ranges by union, intersection, difference, complement
and closure under simple case folding. Named classes come from the Unicode tables.
-/
namespace SlotSql.Regex

open Unicode

/-- A set of code points. -/
inductive CharClass where
  | ranges (rs : Ranges)
  | union (a b : CharClass)
  | inter (a b : CharClass)
  | compl (a : CharClass)
  /-- Everything that folds to the same character as a member; only ASCII letters fold if `ascii`. -/
  | folded (ascii : Bool) (a : CharClass)

/-- The table of simple case foldings. -/
def foldTable : List CaseRun := CaseRun.ofLines foldRuns

/-- The code points of a run whose image is `n`. -/
def preimage? (n : Nat) (r : CaseRun) : Option Nat :=
  if r.image ≤ n && n ≤ r.image + (r.last - r.first) && (n - r.image) % r.step == 0 then
    some (r.first + (n - r.image))
  else none

/-- The code points with the same simple case folding as `n`. -/
def orbit (ascii : Bool) (n : Nat) : List Nat :=
  if ascii then
    let c := Char.ofNat n
    if n < 128 then [n, c.toUpper.toNat, c.toLower.toNat] else [n]
  else
    let f := caseImage foldTable n
    n :: f :: foldTable.filterMap (preimage? f)

namespace CharClass

/-- Membership of a code point. -/
def contains : CharClass → Nat → Bool
  | ranges rs, n => rs.contains n
  | union a b, n => a.contains n || b.contains n
  | inter a b, n => a.contains n && b.contains n
  | compl a, n => !a.contains n
  | folded ascii a, n => (orbit ascii n).any a.contains

/-- The set difference. -/
def diff (a b : CharClass) : CharClass := inter a (compl b)

/-- The code points of exactly one of two sets. -/
def symDiff (a b : CharClass) : CharClass := union (diff a b) (diff b a)

/-- The complement, if asked for. -/
def negateIf (negated : Bool) (a : CharClass) : CharClass := if negated then compl a else a

/-- One code point. -/
def single (n : Nat) : CharClass := ranges [(n, n)]

/-- How many ranges a class is written with. -/
def breadth : CharClass → Nat
  | ranges rs => rs.length
  | union a b => a.breadth + b.breadth
  | inter a b => a.breadth + b.breadth
  | compl a => a.breadth + 1
  | folded _ a => 2 * a.breadth

/-- Whether a class of octets holds one that is not ASCII. -/
def holdsHighOctet (a : CharClass) : Bool := (List.range 128).any fun n => a.contains (n + 128)

end CharClass

/-- The code points of a general category or group of categories, by normalised name. -/
def category? (name : String) : Option Ranges :=
  let members (initials : List String) : Ranges :=
    (categories.filter fun s => initials.any fun i => s.names.any (·.startsWith i) &&
      (s.names.headD "").length == 2 && (s.names.headD "").startsWith i).flatMap NamedSet.ranges
  match name with
  | "any" => some [(0, 0x10FFFF)]
  | "ascii" => some [(0, 0x7F)]
  | "assigned" => some ((categories.filter fun s => !s.names.contains "cn").flatMap NamedSet.ranges)
  | "c" | "other" => some (members ["c"])
  | "l" | "letter" => some (members ["l"])
  | "lc" | "casedletter" => some (members ["lu", "ll", "lt"])
  | "m" | "mark" | "combiningmark" => some (members ["m"])
  | "n" | "number" => some (members ["n"])
  | "p" | "punctuation" | "punct" => some (members ["p"])
  | "s" | "symbol" => some (members ["s"])
  | "z" | "separator" => some (members ["z"])
  | "cs" | "surrogate" => some []
  | _ => (named? categories name).map NamedSet.ranges

/-- The code points of a script, by normalised name. -/
def script? (name : String) : Option Ranges := (named? scripts name).map NamedSet.ranges

/-- The code points of a script and those it shares, by normalised name. -/
def scriptExtension? (name : String) : Option Ranges :=
  match named? scriptExtensions name with
  | some s => some s.ranges
  | none => script? name

/-- A property name in lower case, without blanks, hyphens and underscores, and without `is` in
front. -/
def normalName (s : List Char) : String :=
  let cs := (s.filter fun c => c ≠ ' ' ∧ c ≠ '-' ∧ c ≠ '_').map Char.toLower
  match cs with
  | 'i' :: 's' :: r => if r = ['c'] then "isc" else String.ofList r
  | _ => String.ofList cs

/-- Names of properties whose values name classes; alone they name none. -/
def valuedNames : List String :=
  ["age", "generalcategory", "gc", "graphemeclusterbreak", "gcb", "script", "scriptextensions",
   "scx", "sentencebreak", "sb", "wordbreak", "wb"]

/-- The class `\p` of a name alone: a binary property, a category or a script. -/
def property? (name : List Char) : Option CharClass :=
  let n := normalName name
  let named := if n = "cf" ∨ n = "sc" ∨ n = "lc" then none else named? properties n
  match named with
  | some s => some (.ranges s.ranges)
  | none =>
    if valuedNames.contains n then none
    else (category? n <|> script? n).map .ranges

/-- The class `\p` of a property and a value. -/
def valuedProperty? (name value : List Char) : Option CharClass :=
  let v := normalName value
  match normalName name with
  | "gc" | "generalcategory" => (category? v).map .ranges
  | "sc" | "script" => (script? v).map .ranges
  | "scx" | "scriptextensions" => (scriptExtension? v).map .ranges
  | _ => none

/-- Decimal digits. -/
def digitClass (unicode : Bool) : CharClass :=
  .ranges (if unicode then (category? "nd").getD [] else [(48, 57)])

/-- White space. -/
def spaceClass (unicode : Bool) : CharClass :=
  .ranges (if unicode then propertyRanges "whitespace" else [(9, 13), (32, 32)])

/-- The characters of words. -/
def wordClass (unicode : Bool) : CharClass :=
  .ranges <|
    if unicode then
      propertyRanges "alphabetic" ++ (category? "m").getD [] ++ (category? "nd").getD [] ++
        (category? "pc").getD [] ++ propertyRanges "joincontrol"
    else [(48, 57), (65, 90), (95, 95), (97, 122)]

/-- The class that a name between `[:` and `:]` stands for. -/
def asciiClass? (name : String) : Option CharClass :=
  (match name with
  | "alnum" => some [(48, 57), (65, 90), (97, 122)]
  | "alpha" => some [(65, 90), (97, 122)]
  | "ascii" => some [(0, 127)]
  | "blank" => some [(9, 9), (32, 32)]
  | "cntrl" => some [(0, 31), (127, 127)]
  | "digit" => some [(48, 57)]
  | "graph" => some [(33, 126)]
  | "lower" => some [(97, 122)]
  | "print" => some [(32, 126)]
  | "punct" => some [(33, 47), (58, 64), (91, 96), (123, 126)]
  | "space" => some [(9, 13), (32, 32)]
  | "upper" => some [(65, 90)]
  | "word" => some [(48, 57), (65, 90), (95, 95), (97, 122)]
  | "xdigit" => some [(48, 57), (65, 70), (97, 102)]
  | _ => none).map .ranges

end SlotSql.Regex
