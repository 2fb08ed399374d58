import SlotSql.Number.Integer
import SlotSql.Pattern.Regex.Basic
import SlotSql.Text.Blank
/-!
# Reading regular expressions

The notation has literals, classes, groups, choices, counted repetitions, flags and assertions; it
has no look-around and no back references. Flags hold from where they stand to the end of their
group. Reading takes fuel for one step per character, computed from the text.
-/
namespace SlotSql.Regex

/-- Why a text is no regular expression. -/
inductive Fault where
  | classUnclosed
  | classEscape
  | classRange
  | countUnclosed
  | countMissing
  | countInvalid
  | escapeUnfinished
  | escapeUnknown
  | escapeHex
  | flagInvalid
  | groupName
  | groupUnclosed
  | groupUnopened
  | lookAround
  | nestTooDeep
  | repetitionMissing
  | backReference
  | unknownClass
  | notUtf8
  | tooLarge
  deriving DecidableEq, Repr

/-- The text of a fault. -/
def Fault.message : Fault → String
  | .classUnclosed => "regex parse error: unclosed character class"
  | .classEscape => "regex parse error: invalid escape sequence found in character class"
  | .classRange => "regex parse error: invalid character class range"
  | .countUnclosed => "regex parse error: unclosed counted repetition"
  | .countMissing => "regex parse error: repetition quantifier expects a valid decimal"
  | .countInvalid => "regex parse error: invalid repetition count range"
  | .escapeUnfinished => "regex parse error: incomplete escape sequence"
  | .escapeUnknown => "regex parse error: unrecognized escape sequence"
  | .escapeHex => "regex parse error: invalid hexadecimal escape"
  | .flagInvalid => "regex parse error: invalid flag"
  | .groupName => "regex parse error: invalid capture group name"
  | .groupUnclosed => "regex parse error: unclosed group"
  | .groupUnopened => "regex parse error: unopened group"
  | .lookAround => "regex parse error: look-around is not supported"
  | .nestTooDeep => "regex parse error: exceeded the maximum number of nested parentheses/brackets"
  | .repetitionMissing => "regex parse error: repetition operator missing expression"
  | .backReference => "regex parse error: backreferences are not supported"
  | .unknownClass => "regex parse error: Unicode property not found"
  | .notUtf8 => "regex parse error: pattern can match invalid UTF-8"
  | .tooLarge => "Compiled regex exceeds size limit of 10485760 bytes."

/-- The flags at a place of an expression. -/
structure Flags where
  caseless : Bool := false
  multiLine : Bool := false
  dotAll : Bool := false
  unicode : Bool := true
  crlf : Bool := false
  verbose : Bool := false

/-- Drops blanks and comments; a comment ends with its line. -/
def skipSpace : (inComment : Bool) → List Char → List Char
  | _, [] => []
  | true, c :: cs => skipSpace (c ≠ '\n') cs
  | false, c :: cs =>
    if Text.isBlank c then skipSpace false cs
    else if c = '#' then skipSpace true cs
    else c :: cs

/-- Drops blanks and comments in verbose mode. -/
def Flags.skip (f : Flags) (cs : List Char) : List Char := if f.verbose then skipSpace false cs else cs

/-! ## Escapes -/

/-- What an escape or a plain character stands for. -/
inductive Primitive where
  /-- A character; `octet` if it was written with two hexadecimal digits. -/
  | literal (n : Nat) (octet : Bool)
  | klass (c : CharClass)
  | look (l : Look)

/-- The value of a hexadecimal digit. -/
def hexDigit? (c : Char) : Option Nat :=
  if '0' ≤ c ∧ c ≤ '9' then some (c.toNat - 48)
  else if 'a' ≤ c ∧ c ≤ 'f' then some (c.toNat - 87)
  else if 'A' ≤ c ∧ c ≤ 'F' then some (c.toNat - 55)
  else none

/-- The number of hexadecimal digits, if they all are. -/
def hexNumber? (cs : List Char) : Option Nat :=
  (cs.mapM hexDigit?).map fun ds => ds.foldl (fun n d => n * 16 + d) 0

/-- A code point that is a character. -/
def scalar (n : Nat) : Except Fault Nat :=
  if n < 0xD800 ∨ (0xDFFF < n ∧ n ≤ 0x10FFFF) then .ok n else .error .escapeHex

/-- Hexadecimal digits of an escape, in braces or `count` of them. -/
def hexEscape (f : Flags) (count : Nat) (cs : List Char) : Except Fault (Primitive × List Char) := do
  match f.skip cs with
  | [] => throw .escapeUnfinished
  | '\x7b' :: r =>
    let body := r.takeWhile (· ≠ '\x7d')
    match r.drop body.length with
    | [] => throw .escapeUnfinished
    | _ :: rest =>
      let digits := if f.verbose then body.filter (!Text.isBlank ·) else body
      match hexNumber? digits with
      | none => throw .escapeHex
      | some n =>
        if digits.isEmpty then throw .escapeHex
        return (.literal (← scalar n) false, f.skip rest)
  | r =>
    let body := r.take count
    match hexNumber? body with
    | none => throw .escapeHex
    | some n =>
      if body.length < count then throw .escapeUnfinished
      return (.literal (← scalar n) (count == 2), f.skip (r.drop count))

/-- The class `\p` or, if negated, `\P`. -/
def propertyEscape (f : Flags) (negated : Bool) (cs : List Char) : Except Fault (Primitive × List Char) := do
  let finish (c? : Option CharClass) (negated : Bool) (rest : List Char) : Except Fault (Primitive × List Char) :=
    match c? with
    | none => throw .unknownClass
    | some c =>
      if !f.unicode then throw .unknownClass
      else
        let c := if f.caseless then .folded false c else c
        return (.klass (c.negateIf negated), rest)
  match f.skip cs with
  | [] => throw .escapeUnfinished
  | '\x7b' :: r =>
    let body := r.takeWhile (· ≠ '\x7d')
    match r.drop body.length with
    | [] => throw .escapeUnfinished
    | _ :: rest =>
      let cutAt (p : Char → Bool) := (body.takeWhile (!p ·), (body.dropWhile (!p ·)).drop 1)
      let (name, value) := cutAt (fun c => c = '=' || c = ':')
      if body.any (fun c => c = '=' || c = ':') then
        if name.getLast? = some '!' ∧ !name.contains ':' then
          finish (valuedProperty? name.dropLast value) (!negated) rest
        else if body.contains ':' then
          let (name, value) := cutAt (· = ':')
          finish (valuedProperty? name value) negated rest
        else finish (valuedProperty? name value) negated rest
      else finish (property? body) negated rest
  | '\\' :: _ => throw .escapeUnknown
  | c :: r => finish (property? [c]) negated (f.skip r)

/-- A class of digits, spaces or word characters. -/
def perlEscape (f : Flags) (c : CharClass) (negated : Bool) (r : List Char) : Except Fault (Primitive × List Char) :=
  let c := c.negateIf negated
  if !f.unicode && c.holdsHighOctet then throw .notUtf8 else return (.klass c, r)

/-- Characters with a meaning of their own, which a backslash takes away. -/
def isMeta (c : Char) : Bool :=
  ['\\', '.', '+', '*', '?', '(', ')', '|', '[', ']', '\x7b', '\x7d', '^', '$', '#', '&', '-', '~'].contains c

/-- The kind of word boundary in braces behind `\b`, if it is one and no counted repetition. -/
def boundaryKind (f : Flags) (r : List Char) : Except Fault (Look × List Char) :=
  let isName (c : Char) : Bool := c.isAlpha || c = '-'
  match f.skip r with
  | [] => throw .countUnclosed
  | c :: r' =>
    if !isName c then return (.wordBoundary f.unicode, '\x7b' :: r)
    else
      let cs := c :: r'
      let name := String.ofList (cs.takeWhile isName)
      match cs.dropWhile isName with
      | '\x7d' :: rest =>
        match name with
        | "start" => return (.wordStart f.unicode, rest)
        | "end" => return (.wordEnd f.unicode, rest)
        | "start-half" => return (.wordStartHalf f.unicode, rest)
        | "end-half" => return (.wordEndHalf f.unicode, rest)
        | _ => throw .escapeUnknown
      | _ => throw .escapeUnknown

/-- What follows a backslash. -/
def escape (f : Flags) : List Char → Except Fault (Primitive × List Char)
  | [] => throw .escapeUnfinished
  | c :: r =>
    let literal (n : Nat) : Except Fault (Primitive × List Char) := return (.literal n false, f.skip r)
    if c.isDigit then throw .backReference
    else if isMeta c then literal c.toNat
    else match c with
    | 'x' => hexEscape f 2 r
    | 'u' => hexEscape f 4 r
    | 'U' => hexEscape f 8 r
    | 'p' => propertyEscape f false r
    | 'P' => propertyEscape f true r
    | 'd' => perlEscape f (digitClass f.unicode) false (f.skip r)
    | 'D' => perlEscape f (digitClass f.unicode) true (f.skip r)
    | 's' => perlEscape f (spaceClass f.unicode) false (f.skip r)
    | 'S' => perlEscape f (spaceClass f.unicode) true (f.skip r)
    | 'w' => perlEscape f (wordClass f.unicode) false (f.skip r)
    | 'W' => perlEscape f (wordClass f.unicode) true (f.skip r)
    | 'a' => literal 7
    | 'f' => literal 12
    | 't' => literal 9
    | 'n' => literal 10
    | 'r' => literal 13
    | 'v' => literal 11
    | 'A' => return (.look .textStart, f.skip r)
    | 'z' => return (.look .textEnd, f.skip r)
    | 'B' => return (.look (.notWordBoundary f.unicode), f.skip r)
    | '<' => return (.look (.wordStart f.unicode), f.skip r)
    | '>' => return (.look (.wordEnd f.unicode), f.skip r)
    | 'b' => do
      match f.skip r with
      | '\x7b' :: r => let (l, r) ← boundaryKind f r; return (.look l, r)
      | r => return (.look (.wordBoundary f.unicode), r)
    | c => if c.toNat < 128 ∧ !c.isAlphanum then literal c.toNat else throw .escapeUnknown

/-! ## Classes in brackets -/

/-- An operator between the operands of a class. -/
inductive SetOp where
  | inter
  | diff
  | symDiff

/-- The set that an operator makes. -/
def SetOp.eval : SetOp → CharClass → CharClass → CharClass
  | .inter, a, b => .inter a b
  | .diff, a, b => .diff a b
  | .symDiff, a, b => .symDiff a b

/-- Closure under case folding, if the flags ask for it. -/
def Flags.fold (f : Flags) (c : CharClass) : CharClass := if f.caseless then .folded (!f.unicode) c else c

/-- A class with folding and complement done; without the Unicode flag it must stay in ASCII. -/
def finishClass (f : Flags) (negated : Bool) (c : CharClass) : Except Fault CharClass :=
  let c := (f.fold c).negateIf negated
  if !f.unicode && c.holdsHighOctet then throw .notUtf8 else return c

/-- One member of a class. -/
def classItem (f : Flags) : List Char → Except Fault (Primitive × List Char)
  | [] => throw .classUnclosed
  | '\\' :: r => escape f r
  | c :: r => return (.literal c.toNat false, f.skip r)

/-- A member that must be a single character. -/
def classLiteral (f : Flags) : Primitive → Except Fault Nat
  | .literal n octet =>
    if !f.unicode && 128 ≤ n && !octet then throw .unknownClass else return n
  | _ => throw .classRange

/-- A class name in `[:` and `:]`, if the text behind the bracket is one. -/
def namedClass? (f : Flags) : List Char → Option (Except Fault CharClass × List Char)
  | ':' :: r =>
    let (negated, r) := match r with
      | '^' :: r => (true, r)
      | r => (false, r)
    let name := r.takeWhile (· ≠ ':')
    match r.drop name.length with
    | ':' :: ']' :: rest =>
      (asciiClass? (String.ofList name)).map fun c => (finishClass f negated c, rest)
    | _ => none
  | _ => none

/-- A member or a range of members. -/
def classRange (f : Flags) (cs : List Char) : Except Fault (CharClass × List Char) := do
  let (a, r) ← classItem f cs
  let alone : Except Fault CharClass :=
    match a with
    | .klass c => .ok c
    | .look _ => .error .classEscape
    | .literal _ _ => (classLiteral f a).map CharClass.single
  match f.skip r with
  | [] => throw .classUnclosed
  | '-' :: r' =>
    match f.skip r' with
    | [] => throw .classUnclosed
    | ']' :: _ => return (← alone, '-' :: r')
    | '-' :: _ => return (← alone, '-' :: r')
    | r'' =>
      let (b, rest) ← classItem f r''
      let lo ← classLiteral f a
      let hi ← classLiteral f b
      if hi < lo then throw .classRange
      return (.ranges [(lo, hi)], rest)
  | r => return (← alone, r)

/-- The front of a class: a complement sign, then hyphens or one closing bracket as members. -/
def classFront (f : Flags) (cs : List Char) : Except Fault (Bool × List CharClass × List Char) := do
  let (negated, r) := match f.skip cs with
    | '^' :: r => (true, f.skip r)
    | r => (false, r)
  let dashes := r.takeWhile (· = '-')
  let r := f.skip (r.drop dashes.length)
  let members := dashes.map fun c => CharClass.single c.toNat
  match members, r with
  | _, [] => throw .classUnclosed
  | [], ']' :: r => if r.isEmpty then throw .classUnclosed else return (negated, [.single 93], r)
  | ms, r => return (negated, ms, r)

/-- The class that the members and the pending operation make. -/
def closeOperand (f : Flags) (pending : Option (SetOp × CharClass)) (members : List CharClass) : CharClass :=
  let c := members.foldl .union (.ranges [])
  match pending with
  | none => c
  | some (op, a) => op.eval (f.fold a) (f.fold c)

/-- The members of a class up to its closing bracket. -/
def classBody (f : Flags) : (fuel : Nat) → (negated : Bool) → Option (SetOp × CharClass) →
    List CharClass → List Char → Except Fault (CharClass × List Char)
  | 0, _, _, _, _ => throw .classUnclosed
  | fuel + 1, negated, pending, members, cs => do
    match f.skip cs with
    | [] => throw .classUnclosed
    | '[' :: r =>
      match namedClass? f r with
      | some (c, rest) => classBody f fuel negated pending (members ++ [← c]) rest
      | none =>
        let (inner, ms, r) ← classFront f r
        let (c, rest) ← classBody f fuel inner none ms r
        classBody f fuel negated pending (members ++ [c]) rest
    | ']' :: r => return (← finishClass f negated (closeOperand f pending members), r)
    | '&' :: '&' :: r =>
      classBody f fuel negated (some (.inter, closeOperand f pending members)) [] r
    | '-' :: '-' :: r =>
      classBody f fuel negated (some (.diff, closeOperand f pending members)) [] r
    | '~' :: '~' :: r =>
      classBody f fuel negated (some (.symDiff, closeOperand f pending members)) [] r
    | cs =>
      let (c, rest) ← classRange f cs
      classBody f fuel negated pending (members ++ [c]) rest

/-- A class, behind its opening bracket. -/
def bracketed (f : Flags) (cs : List Char) : Except Fault (CharClass × List Char) := do
  let (negated, ms, r) ← classFront f cs
  classBody f (cs.length + 1) negated none ms r

/-! ## Repetitions and groups -/

/-- A decimal number of a repetition, with blanks around it. -/
def count (f : Flags) (cs : List Char) : Option Nat × List Char :=
  let r := cs.dropWhile Text.isBlank
  let body := r.takeWhile fun c => c.isDigit || (f.verbose && Text.isBlank c)
  let digits := body.filter Char.isDigit
  let n := digits.foldl (fun n c => n * 10 + (c.toNat - 48)) 0
  (if digits.isEmpty then none else some n, (r.drop body.length).dropWhile Text.isBlank)

/-- A counted repetition, behind its opening brace: the least and the greatest count. -/
def counted (f : Flags) (cs : List Char) : Except Fault ((Nat × Option Nat) × List Char) := do
  let (least?, r) := count f (f.skip cs)
  let bounded (n : Nat) : Except Fault Nat := if n ≤ Number.max32 then .ok n else .error .countMissing
  let finish (least : Nat) (most : Option Nat) : List Char → Except Fault ((Nat × Option Nat) × List Char)
    | '\x7d' :: r =>
      let r := match f.skip r with
        | '?' :: r => r
        | r => r
      if most.any (· < least) then throw .countInvalid else return ((least, most), r)
    | _ => throw .countUnclosed
  match r with
  | [] => throw .countUnclosed
  | ',' :: r =>
    match f.skip r with
    | [] => throw .countUnclosed
    | '\x7d' :: r =>
      match least? with
      | none => throw .countMissing
      | some n => finish (← bounded n) none ('\x7d' :: r)
    | r =>
      match least?, count f r with
      | some n, (some m, r) => finish (← bounded n) (some (← bounded m)) r
      | _, _ => throw .countMissing
  | r =>
    match least? with
    | none => throw .countMissing
    | some n => finish (← bounded n) (some (← bounded n)) r

/-- The flags that letters and a minus sign set, up to a colon or a closing parenthesis; `seen`
holds the letters so far and `off` says whether a minus sign was one of them. -/
def flagLetters (f : Flags) (seen : List Char) (off : Bool) : List Char → Except Fault ((Flags × Bool) × List Char)
  | [] => throw .flagInvalid
  | c :: r =>
    if c = ':' ∨ c = ')' then
      if seen.head? = some '-' then throw .flagInvalid
      else if c = ')' ∧ seen.isEmpty then throw .repetitionMissing
      else return ((f, c == ':'), r)
    else if seen.contains c then throw .flagInvalid
    else
      let go (f : Flags) := flagLetters f (c :: seen) off r
      match c with
      | '-' => flagLetters f ('-' :: seen) true r
      | 'i' => go { f with caseless := !off }
      | 'm' => go { f with multiLine := !off }
      | 's' => go { f with dotAll := !off }
      | 'u' => go { f with unicode := !off }
      | 'R' => go { f with crlf := !off }
      | 'x' => go { f with verbose := !off }
      | 'U' => go f
      | _ => throw .flagInvalid

/-- The name of a group, up to the closing angle bracket. -/
def groupName (cs : List Char) : Except Fault ((List Char) × List Char) :=
  let name := cs.takeWhile (· ≠ '>')
  let alphabetic := Unicode.propertyRanges "alphabetic"
  let isLetter (c : Char) : Bool := alphabetic.contains c.toNat
  let numbers : Unicode.Ranges := (["nd", "nl", "no"].filterMap category?).flatten
  let isName (c : Char) : Bool :=
    c = '_' || c = '.' || c = '[' || c = ']' || isLetter c || numbers.contains c.toNat
  match name, cs.drop name.length with
  | c :: n, _ :: rest =>
    if (c = '_' || isLetter c) && n.all isName then return (name, rest) else throw .groupName
  | _, _ => throw .groupName

/-- What stands in a sequence: an expression, or flags that cannot be repeated. -/
abbrev Item := Option Node

/-- The expressions in sequence. -/
def sequence (items : List Item) : Node :=
  match (items.filterMap id).reverse with
  | [] => .empty
  | n :: ns => ns.foldl (fun r a => .seq a r) n

/-- The expressions as a choice, the last one first. -/
def choice (first : Node) (others : List Node) : Node := others.foldl (fun r a => .alt a r) first

/-- The expression of a primitive. -/
def primitive (f : Flags) : Primitive → Except Fault Node
  | .literal n octet =>
    if !f.unicode && octet && 128 ≤ n then throw .notUtf8
    else return .char (f.fold (.single n))
  | .klass c => return .char c
  | .look l => return .look l

/-- The class of the dot. -/
def dotClass (f : Flags) : CharClass :=
  if f.dotAll then .ranges [(0, 0x10FFFF)]
  else if f.crlf then .compl (.ranges [(10, 10), (13, 13)])
  else .compl (.single 10)

/-- What the text of a group holds and the rest: the flags at its end, the names seen, the
expression, and the rest from its closing parenthesis on. -/
structure Parsed where
  names : List (List Char)
  node : Node
  rest : List Char

/-- Reads to the end of a group. `items` holds the sequence so far, last first, and `branches` the
finished branches of the choice, last first. -/
def body : (fuel : Nat) → Flags → (names : List (List Char)) → (branches : List Node) →
    (items : List Item) → List Char → Except Fault Parsed
  | 0, _, _, _, _, _ => throw .groupUnclosed
  | fuel + 1, f, names, branches, items, cs => do
    let branch := sequence items.reverse
    let repeated (least : Nat) (most : Option Nat) (r : List Char) : Except Fault Parsed :=
      match items with
      | some a :: rest => body fuel f names branches (some (a.repeated least most) :: rest) r
      | _ => throw .repetitionMissing
    let lazyMark : List Char → List Char
      | '?' :: r => r
      | r => r
    match f.skip cs with
    | [] => return ⟨names, choice branch branches, []⟩
    | ')' :: r => return ⟨names, choice branch branches, ')' :: r⟩
    | '|' :: r => body fuel f names (branch :: branches) [] r
    | '[' :: r =>
      let (c, r) ← bracketed f r
      body fuel f names branches (some (.char c) :: items) r
    | '?' :: r => repeated 0 (some 1) (lazyMark (f.skip r))
    | '*' :: r => repeated 0 none (lazyMark (f.skip r))
    | '+' :: r => repeated 1 none (lazyMark (f.skip r))
    | '\x7b' :: r =>
      if (items.head?.bind id).isNone then throw .repetitionMissing
      let ((least, most), r) ← counted f r
      repeated least most r
    | '\\' :: r =>
      let (p, r) ← escape f r
      body fuel f names branches (some (← primitive f p) :: items) r
    | '.' :: r =>
      if !f.unicode then throw .notUtf8
      body fuel f names branches (some (.char (dotClass f)) :: items) r
    | '^' :: r =>
      body fuel f names branches
        (some (.look (if f.multiLine then .lineStart f.crlf else .textStart)) :: items) r
    | '$' :: r =>
      body fuel f names branches
        (some (.look (if f.multiLine then .lineEnd f.crlf else .textEnd)) :: items) r
    | '(' :: r =>
      let inner (g : Flags) (names : List (List Char)) (r : List Char) : Except Fault Parsed := do
        let p ← body fuel g names [] [] r
        match p.rest with
        | ')' :: rest => body fuel f p.names branches (some (.group p.node) :: items) rest
        | _ => throw .groupUnclosed
      let named (r : List Char) : Except Fault Parsed := do
        let (name, r) ← groupName r
        if names.contains name then throw .groupName
        inner f (name :: names) r
      match f.skip r with
      | '?' :: '=' :: _ => throw .lookAround
      | '?' :: '!' :: _ => throw .lookAround
      | '?' :: '<' :: '=' :: _ => throw .lookAround
      | '?' :: '<' :: '!' :: _ => throw .lookAround
      | '?' :: 'P' :: '<' :: r => named r
      | '?' :: '<' :: r => named r
      | '?' :: r =>
        let ((g, opens), r) ← flagLetters f [] false r
        if opens then inner g names r else body fuel g names branches (none :: items) r
      | r => inner f names r
    | c :: r => body fuel f names branches (some (.char (f.fold (.single c.toNat))) :: items) r

/-- The greatest depth of nesting. -/
def nestLimit : Nat := 250

/-- The greatest size of an automaton. -/
def sizeLimit : Nat := 10485760

/-- The expression that a text writes. -/
def parse (pattern : String) : Except Fault Node := do
  let cs := pattern.toList
  let p ← body (cs.length + 1) {} [] [] [] cs
  match p.rest with
  | [] =>
    if nestLimit < p.node.depth false false then throw .nestTooDeep
    if sizeLimit < p.node.weight then throw .tooLarge
    return p.node
  | _ => throw .groupUnopened

end SlotSql.Regex
