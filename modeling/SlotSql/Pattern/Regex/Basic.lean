import SlotSql.Pattern.Regex.Class
/-!
# Regular expressions

Expressions over characters and what they match. A set of positions of a text is a number whose bit
`i` stands for the position in front of character `i`; `ends` maps the positions where a match may
start to those where it may end, so that greedy and lazy repetition are the same. An expression
matches a text if some position is the end of a match from some position.
-/
namespace SlotSql.Regex

/-- A condition on a position. -/
inductive Look where
  | textStart
  | textEnd
  | lineStart (crlf : Bool)
  | lineEnd (crlf : Bool)
  | wordBoundary (unicode : Bool)
  | notWordBoundary (unicode : Bool)
  | wordStart (unicode : Bool)
  | wordEnd (unicode : Bool)
  | wordStartHalf (unicode : Bool)
  | wordEndHalf (unicode : Bool)

/-- A regular expression. -/
inductive Node where
  | empty
  | char (c : CharClass)
  | look (l : Look)
  | seq (a b : Node)
  | alt (a b : Node)
  | times (a : Node) (least : Nat) (most : Option Nat)
  | group (a : Node)

/-- Whether the condition holds between two characters, of which either may be missing. -/
def Look.holds (l : Look) (before after : Option Char) : Bool :=
  let isWord (unicode : Bool) (c : Option Char) : Bool :=
    c.any fun c => (wordClass unicode).contains c.toNat
  match l with
  | .textStart => before.isNone
  | .textEnd => after.isNone
  | .lineStart crlf =>
    match before with
    | none => true
    | some '\n' => true
    | some '\r' => crlf && after != some '\n'
    | some _ => false
  | .lineEnd crlf =>
    match after with
    | none => true
    | some '\r' => crlf
    | some '\n' => !(crlf && before == some '\r')
    | some _ => false
  | .wordBoundary u => isWord u before != isWord u after
  | .notWordBoundary u => isWord u before == isWord u after
  | .wordStart u => !isWord u before && isWord u after
  | .wordEnd u => isWord u before && !isWord u after
  | .wordStartHalf u => !isWord u before
  | .wordEndHalf u => !isWord u after

/-- The number whose bits are the given ones, lowest first. -/
def ofBits (bs : List Bool) : Nat := bs.foldr (fun b n => 2 * n + b.toNat) 0

/-- The positions of a text in front of a character of the class. -/
def charMask (c : CharClass) (text : List Char) : Nat := ofBits (text.map fun x => c.contains x.toNat)

/-- The conditions at the positions of a text, given the character in front of it. -/
def lookBits (l : Look) (before : Option Char) : List Char → List Bool
  | [] => [l.holds before none]
  | c :: cs => l.holds before (some c) :: lookBits l (some c) cs

/-- `n` applications of `f`, or fewer if one of them changes nothing. -/
def iterate (f : Nat → Nat) : Nat → Nat → Nat
  | 0, s => s
  | n + 1, s =>
    let t := f s
    if t = s then s else iterate f n t

/-- The positions that up to `n` applications of `f` reach. -/
def reach (f : Nat → Nat) (n s : Nat) : Nat := iterate (fun s => s ||| f s) n s

/-- The positions where a match of the expression may end that starts at one of `s`. -/
def Node.ends (text : List Char) : Node → Nat → Nat
  | empty, s => s
  | char c, s => (s &&& charMask c text) <<< 1
  | look l, s => s &&& ofBits (lookBits l none text)
  | seq a b, s => b.ends text (a.ends text s)
  | alt a b, s => a.ends text s ||| b.ends text s
  | times a least most, s =>
    let s := iterate (a.ends text) least s
    match most with
    | some m => reach (a.ends text) (m - least) s
    | none => reach (a.ends text) (text.length + 1) s
  | group a, s => a.ends text s

/-- Whether the expression matches somewhere in the text. -/
def Node.matches (e : Node) (text : List Char) : Bool :=
  e.ends text (Nat.pow 2 (text.length + 1) - 1) != 0

/-- How deep an expression nests; the parts of a sequence or of a choice nest one deep. -/
def Node.depth : (inSeq inAlt : Bool) → Node → Nat
  | _, _, empty => 0
  | _, _, char _ => 0
  | _, _, look _ => 0
  | inSeq, _, seq a b =>
    let d := max (a.depth false false) (b.depth true false)
    if inSeq then d else d + 1
  | _, inAlt, alt a b =>
    let d := max (a.depth false false) (b.depth false true)
    if inAlt then d else d + 1
  | _, _, times a _ _ => a.depth false false + 1
  | _, _, group a => a.depth false false + 1

/-- An estimate of the octets that a matching automaton for the expression takes. -/
def Node.weight : Node → Nat
  | empty => 32
  | char c => 32 + (if c.breadth = 1 then 0 else 40 * c.breadth)
  | look _ => 32
  | seq a b => a.weight + b.weight
  | alt a b => 40 + a.weight + b.weight
  | times a least most =>
    match most with
    | some m => a.weight * m + 72 * (m - least)
    | none => a.weight * max least 1 + 40
  | group a => a.weight + 64

/-- Whether the expression only matches the empty text. -/
def Node.isEmptyWidth : Node → Bool
  | empty => true
  | char _ => false
  | look _ => true
  | seq a b => a.isEmptyWidth && b.isEmptyWidth
  | alt a b => a.isEmptyWidth && b.isEmptyWidth
  | times a _ most => a.isEmptyWidth || most == some 0
  | group a => a.isEmptyWidth

/-- A repetition; more than one of the empty text is one. -/
def Node.repeated (a : Node) (least : Nat) (most : Option Nat) : Node :=
  if a.isEmptyWidth then times a (min least 1) (some (min (most.getD 1) 1))
  else times a least most

end SlotSql.Regex
