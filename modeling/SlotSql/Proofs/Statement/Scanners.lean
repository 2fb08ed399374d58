import SlotSql.Proofs.Statement.Octets
/-!
# Scanning octets

Keywords, separators and parentheses are looked for octet by octet, also inside of characters of several octets; the octets
of such a character are none of those looked for, so that a scan goes by whole characters all the same. What is found stands
at a place counted in octets, namely that of the place counted in characters.

Results:
* `loop_char`, `loop_ascii`, `loop_other`: what a loop over octets does at a character.
* `findKeyword?_of`, `findUnquoted?_of`, `splitUnquoted?_of`, `splitTopLevel?_of`, `splitToken?_of`, `splitParens?_of`: a scan
  of the range of an excerpt never fails, and finds what the scan of the excerpt finds.
-/
namespace SlotSql

/-- The octet of an ASCII character. -/
def Utf8.octet (c : Char) : UInt8 := UInt8.ofNat c.toNat

/-- The character that an octet is, if it is one. -/
def Utf8.charOf (b : UInt8) : Char := Char.ofNat b.toNat

namespace Extent

open Utf8

/-! ## Definitions -/

/-- Goes through `n` octets from the place `i` on, until a step ends the loop with a result. All of them must be there. -/
def loop {σ ρ : Type} (bs : Bytes) (step : Nat → UInt8 → σ → Option (ρ ⊕ σ)) : Nat → Nat → σ → Option (ρ ⊕ σ)
  | 0, _, state => some (.inr state)
  | n + 1, i, state => do
    match ← step i (← bs[i]?) state with
    | .inl result => some (.inl result)
    | .inr state => loop bs step n (i + 1) state

/-- Whether a word ends in front of a place: at the end, at an ASCII blank or at a parenthesis. -/
def wordEnd (bs : Bytes) (i : Nat) : Bool :=
  match bs[i]? with
  | none => true
  | some b => Text.isAsciiBlank (charOf b) || charOf b == '('

/-- Whether a word stands at a place. -/
def wordAt (bs : Bytes) (i : Nat) (word : Bytes) : Bool := word.isPrefixOf (bs.drop i) && wordEnd bs (i + word.length)

/-- What follows a keyword in front, or none if it is not there. -/
def afterKeyword? (src : Bytes) (x : Extent) (keyword : String) : Option (Option Extent) := do
  if wordAt (← x.octets? src) 0 (bytes keyword) then
    return some (← (← x.after? (bytes keyword).length).trim? src)
  else return none

/-- What follows a sequence of keywords in front, or none if they are not all there. -/
def afterAll? (src : Bytes) (x : Extent) : List String → Option (Option Extent)
  | [] => some (some x)
  | keyword :: keywords => do
    match ← x.afterKeyword? src keyword with
    | none => return none
    | some rest => afterAll? src rest keywords

/-- Where a scan stands: between quotes or not, and how deep in parentheses. -/
structure Nesting where
  quoted : Bool := false
  depth : Nat := 0

/-- Outside quotes and parentheses. -/
def Nesting.isOpen (s : Nesting) : Bool := !s.quoted && s.depth == 0

/-- What a quote changes, or a parenthesis outside quotes; none for anything else. -/
def Nesting.mark? (s : Nesting) (c : Char) : Option Nesting :=
  if c = Excerpt.quote then some { s with quoted := !s.quoted }
  else if s.quoted then none
  else if c = '(' then some { s with depth := s.depth + 1 }
  else if c = ')' then some { s with depth := s.depth - 1 }
  else none

/-- Whether a word can begin at a place: at the start, or behind an ASCII blank. -/
def boundary? (bs : Bytes) (i : Nat) : Option Bool :=
  if i = 0 then some true
  else do
    let b ← bs[← minus? i 1]?
    return Text.isAsciiBlank (charOf b)

/-- Looks for a keyword outside quotes and parentheses. -/
def keywordStep (bs word : Bytes) (i : Nat) (b : UInt8) (s : Nesting) : Option (Nat ⊕ Nesting) :=
  match s.mark? (charOf b) with
  | some s => some (.inr s)
  | none =>
    if !s.isOpen then some (.inr s)
    else do return if (← boundary? bs i) && wordAt bs i word then .inl i else .inr s

/-- Where a keyword stands outside quotes and parentheses, or none if it does not. -/
def findKeyword? (src : Bytes) (x : Extent) (keyword : String) : Option (Option Nat) := do
  let bs ← x.octets? src
  return (← loop bs (keywordStep bs (bytes keyword)) bs.length 0 {}).getLeft?

/-- Looks for a pattern outside quotes. -/
def patternStep (bs pattern : Bytes) (i : Nat) (b : UInt8) (quoted : Bool) : Option (Nat ⊕ Bool) :=
  if charOf b = Excerpt.quote then some (.inr !quoted)
  else if !quoted && pattern.isPrefixOf (bs.drop i) then some (.inl i)
  else some (.inr quoted)

/-- Where a pattern stands outside quotes, or none if it does not. -/
def findUnquoted? (src : Bytes) (x : Extent) (pattern : String) : Option (Option Nat) := do
  let bs ← x.octets? src
  return (← loop bs (patternStep bs (bytes pattern)) bs.length 0 false).getLeft?

/-- The parts in front of and behind a pattern outside quotes, or none if it does not stand there. -/
def cutAt? (src : Bytes) (x : Extent) (pattern : String) : Option (Option (Extent × Extent)) := do
  match ← x.findUnquoted? src pattern with
  | none => return none
  | some i => return some (← x.before? i, ← x.after? (i + (bytes pattern).length))

/-- The parts between the occurrences of a pattern outside quotes; the cuts must come to an end within the given number of
steps. -/
def splitWithin? (src : Bytes) (pattern : String) : Nat → Extent → Option (List Extent)
  | 0, _ => none
  | n + 1, x => do
    match ← x.cutAt? src pattern with
    | none => return [x]
    | some (a, b) => return a :: (← splitWithin? src pattern n b)

/-- The parts between the occurrences of a pattern outside quotes. -/
def splitUnquoted? (src : Bytes) (x : Extent) (pattern : String) : Option (List Extent) := do
  splitWithin? src pattern ((← x.length?) + 1) x

/-- A scan for separators: where it stands, where the part begins that it is in, and the parts in front of that one. -/
structure Parting where
  nesting : Nesting := {}
  start : Nat := 0
  parts : List Extent := []

/-- The parts up to a place, at which the last one ends. -/
def Parting.finish? (src : Bytes) (x : Extent) (stop : Nat) (s : Parting) : Option (List Extent) := do
  return s.parts ++ [← (← x.slice? s.start stop).trim? src]

/-- Ends a part at a separator outside quotes and parentheses. -/
def separatorStep (src : Bytes) (x : Extent) (sep : Char) (i : Nat) (b : UInt8) (s : Parting) : Option (Empty ⊕ Parting) :=
  match s.nesting.mark? (charOf b) with
  | some nesting => some (.inr { s with nesting })
  | none =>
    if charOf b = sep ∧ s.nesting.isOpen = true then do
      return .inr { s with start := i + 1, parts := ← s.finish? src x i }
    else some (.inr s)

/-- The parts between separators outside quotes and parentheses, trimmed. -/
def splitTopLevel? (src : Bytes) (x : Extent) (sep : Char) : Option (List Extent) := do
  let bs ← x.octets? src
  match ← loop bs (separatorStep src x sep) bs.length 0 {} with
  | .inl result => nomatch result
  | .inr s => s.finish? src x bs.length

/-- The first token and what follows it, both trimmed. -/
def splitToken? (src : Bytes) (x : Extent) : Option (Extent × Extent) := do
  let x ← x.trim? src
  let stop := size ((← x.chars? src).takeWhile fun c => !(Text.isBlank c || c == '('))
  return (← x.before? stop, ← (← x.after? stop).trim? src)

/-- Looks for the end of a group. There must be a group whenever one is closed. -/
def groupStep (i : Nat) (b : UInt8) (s : Nesting) : Option (Nat ⊕ Nesting) :=
  if charOf b = Excerpt.quote then some (.inr { s with quoted := !s.quoted })
  else if s.quoted then some (.inr s)
  else if charOf b = '(' then some (.inr { s with depth := s.depth + 1 })
  else if charOf b = ')' then do
    let depth ← minus? s.depth 1
    return if depth = 0 then .inl i else .inr { s with depth }
  else some (.inr s)

/-- What stands inside and behind the parentheses in front, or the error that there are none. -/
def splitParens? (src : Bytes) (x : Extent) : Option (Except ParseError (Extent × Extent)) := do
  let x ← x.trim? src
  let bs ← x.octets? src
  if bs.head? = some (octet '(') then
    match ← loop bs groupStep bs.length 0 {} with
    | .inl i => return .ok (← (← x.slice? 1 i).trim? src, ← (← x.after? (i + 1)).trim? src)
    | .inr _ => return .error (← x.error? src "unbalanced parentheses")
  else return .error (← x.error? src "expected '('")

end Extent

/-! ## Octets and characters -/

namespace Utf8

variable {b : UInt8} {c d : Char}

theorem toNat_charOf (b : UInt8) : (charOf b).toNat = b.toNat := by
  have hlt : b.toNat < 256 := b.toNat_lt
  have hvalid : b.toNat.isValidChar := .inl (by omega)
  unfold charOf Char.ofNat
  rw [dif_pos hvalid]
  rfl

theorem charOf_octet (h : c.toNat < 128) : charOf (octet c) = c := by
  rw [charOf, octet, toNat_ofNat (by omega), Char.ofNat_toNat]

/-- An octet of a longer character is no ASCII character. -/
theorem charOf_ne (hb : 128 ≤ b.toNat) (hd : d.toNat < 128) : charOf b ≠ d := by
  intro h
  rw [← h, toNat_charOf] at hd
  omega

theorem isAsciiBlank_of_le (h : 128 ≤ c.toNat) : Text.isAsciiBlank c = false := by
  simp only [Text.isAsciiBlank, Bool.or_eq_false_iff, beq_eq_false_iff_ne]
  omega

end Utf8

namespace Extent

open Utf8

variable {w pre cs : List Char} {c : Char} {e : Excerpt}

/-- A character may be counted at the end of what is in front of a place, or at the beginning of what is behind it. -/
theorem size_move (pre : List Char) (c : Char) (cs : List Char) : size (pre ++ [c]) + size cs = size pre + size (c :: cs) := by
  rw [size_append, size, size, size]
  omega

section Loop

variable {σ ρ : Type} {step : Nat → UInt8 → σ → Option (ρ ⊕ σ)} {s : σ}

/-- An octet of a character of a text. -/
theorem getElem?_encode (hw : w = pre ++ c :: cs) {j : Nat} (hj : j < c.utf8Size) :
    (encode w)[size pre + j]? = (String.utf8EncodeChar c)[j]? := by
  have hlen : (String.utf8EncodeChar c).length = c.utf8Size := String.length_utf8EncodeChar c
  rw [hw, encode_append, List.getElem?_append_right (by rw [length_encode]; omega), length_encode, Nat.add_sub_cancel_left,
    encode_cons, List.getElem?_append_left (by omega)]

/-- A loop that goes on unchanged for some octets. -/
theorem loop_skip {bs : Bytes} {i n k : Nat}
    (h : ∀ j, i ≤ j → j < i + k → ∃ b, bs[j]? = some b ∧ step j b s = some (.inr s)) :
    loop bs step (k + n) i s = loop bs step n (i + k) s := by
  induction k generalizing i with
  | zero => rw [Nat.zero_add, Nat.add_zero]
  | succ k ih =>
    obtain ⟨b, hb, hstep⟩ := h i (Nat.le_refl i) (by omega)
    have hrest := ih (i := i + 1) fun j hj hlt => h j (by omega) (by omega)
    rw [show k + 1 + n = (k + n) + 1 by omega, loop, hb]
    show (step i b s).bind _ = _
    rw [hstep]
    show loop bs step (k + n) (i + 1) s = _
    rw [hrest, show i + 1 + k = i + (k + 1) by omega]

/-- At a character, a loop makes one step if no step does anything about the other octets of the character. -/
theorem loop_char (hw : w = pre ++ c :: cs) {b : UInt8} {r : Bytes} (hc : String.utf8EncodeChar c = b :: r)
    (h : ∀ s j x, (encode w)[j]? = some x → x ∈ r → step j x s = some (.inr s)) :
    loop (encode w) step (size (c :: cs)) (size pre) s = (step (size pre) b s).bind fun
      | .inl result => some (.inl result)
      | .inr s => loop (encode w) step (size cs) (size (pre ++ [c])) s := by
  have hsize : c.utf8Size = r.length + 1 := by rw [← String.length_utf8EncodeChar, hc, List.length_cons]
  have hget {j : Nat} (hj : j < r.length + 1) : (encode w)[size pre + j]? = (b :: r)[j]? :=
    (getElem?_encode hw (by omega)).trans (by rw [hc])
  have hfirst : (encode w)[size pre]? = some b := hget (j := 0) (by omega)
  have hnext : size (pre ++ [c]) = size pre + 1 + r.length := by rw [size_append, size, size, hsize]; omega
  have hrest (s : σ) : loop (encode w) step (r.length + size cs) (size pre + 1) s =
      loop (encode w) step (size cs) (size (pre ++ [c])) s := by
    rw [hnext]
    refine loop_skip fun j hle hlt => ?_
    obtain ⟨k, rfl⟩ := Nat.exists_eq_add_of_le hle
    have hk : k < r.length := by omega
    have hat := hget (j := k + 1) (by omega)
    rw [List.getElem?_cons_succ, List.getElem?_eq_getElem hk, show size pre + (k + 1) = size pre + 1 + k by omega] at hat
    exact ⟨_, hat, h s _ _ hat (List.getElem_mem hk)⟩
  rw [size, hsize, show r.length + 1 + size cs = (r.length + size cs) + 1 by omega, loop, hfirst]
  show (step (size pre) b s).bind _ = _
  congr 1
  funext x
  cases x with
  | inl result => rfl
  | inr s => exact hrest s

/-- At an ASCII character, a loop makes one step. -/
theorem loop_ascii (hw : w = pre ++ c :: cs) (hc : c.toNat < 128) :
    loop (encode w) step (size (c :: cs)) (size pre) s = (step (size pre) (octet c) s).bind fun
      | .inl result => some (.inl result)
      | .inr s => loop (encode w) step (size cs) (size (pre ++ [c])) s :=
  loop_char hw (encodeChar_ascii hc) fun _ _ _ _ hx => absurd hx List.not_mem_nil

/-- At a longer character, a loop goes on unchanged if no step does anything about octets that are not ASCII. -/
theorem loop_other (hw : w = pre ++ c :: cs) (hc : 128 ≤ c.toNat)
    (h : ∀ s j b, (encode w)[j]? = some b → 128 ≤ b.toNat → step j b s = some (.inr s)) :
    loop (encode w) step (size (c :: cs)) (size pre) s = loop (encode w) step (size cs) (size (pre ++ [c])) s := by
  obtain ⟨b, r, hb, -, -⟩ := head_encodeChar c
  have hle {x : UInt8} (hx : x ∈ b :: r) : 128 ≤ x.toNat := le_of_mem_encodeChar hc (hb ▸ hx)
  have hfirst : (encode w)[size pre]? = some b := (getElem?_encode hw (Char.utf8Size_pos c)).trans (by rw [hb]; rfl)
  rw [loop_char hw hb fun s j x hj hx => h s j x hj (hle (List.mem_cons_of_mem _ hx)),
    h s _ b hfirst (hle List.mem_cons_self)]
  rfl

end Loop

/-! ## Words -/

/-- A word of ASCII characters. -/
def Plain (word : String) : Prop := word.toList ≠ [] ∧ ∀ c ∈ word.toList, c.toNat < 128

instance (word : String) : Decidable (Plain word) :=
  decidable_of_iff (word.toList.isEmpty = false ∧ word.toList.all (·.toNat < 128) = true) (by
    rw [Plain, List.isEmpty_eq_false_iff, List.all_eq_true]
    simp only [decide_eq_true_eq])

variable {word : String}

theorem isPrefixOf_encode (cs : List Char) : (bytes word).isPrefixOf (encode cs) = word.toList.isPrefixOf cs := by
  rw [Bool.eq_iff_iff, List.isPrefixOf_iff_prefix, List.isPrefixOf_iff_prefix]
  constructor
  · rintro ⟨r, hr⟩
    obtain ⟨es, rfl, -⟩ := encode_eq_append hr.symm
    exact List.prefix_append _ es
  · rintro ⟨es, rfl⟩
    rw [encode_append]
    exact List.prefix_append _ _

/-- A word ends where the octets of the end of a word stand. -/
theorem wordEnd_encode (hw : w = pre ++ cs) : wordEnd (encode w) (size pre) = Excerpt.wordEnds cs := by
  unfold wordEnd
  cases cs with
  | nil =>
    rw [hw, List.append_nil, List.getElem?_eq_none (by rw [length_encode])]
    rfl
  | cons c cs =>
    have hpos : 0 < c.utf8Size := Char.utf8Size_pos c
    have hget := getElem?_encode hw hpos
    rw [Nat.add_zero] at hget
    rw [hget]
    rcases Nat.lt_or_ge c.toNat 128 with hc | hc
    · rw [encodeChar_ascii hc]
      show (Text.isAsciiBlank (charOf (octet c)) || charOf (octet c) == '(') = _
      rw [charOf_octet hc]
      rfl
    · have hlen : 0 < (String.utf8EncodeChar c).length := by rwa [String.length_utf8EncodeChar]
      rw [List.getElem?_eq_getElem hlen]
      have hb := le_of_mem_encodeChar hc (List.getElem_mem hlen)
      have hparen : c ≠ '(' := by
        rintro rfl
        exact absurd hc (by decide)
      have hparen' := charOf_ne hb (show '('.toNat < 128 by decide)
      show (Text.isAsciiBlank (charOf _) || charOf _ == '(') = (Text.isAsciiBlank c || c == '(')
      rw [isAsciiBlank_of_le (by rw [toNat_charOf]; exact hb), isAsciiBlank_of_le hc, beq_false_of_ne hparen,
        beq_false_of_ne hparen']

theorem stripStart?_isSome (ps cs : List Char) : (Text.stripStart? ps cs).isSome = ps.isPrefixOf cs := by
  rw [Bool.eq_iff_iff, Option.isSome_iff_exists, List.isPrefixOf_iff_prefix]
  constructor
  · rintro ⟨r, hr⟩
    exact ⟨r, (Text.stripStart?_eq_some.1 hr).symm⟩
  · rintro ⟨r, hr⟩
    exact ⟨r, Text.stripStart?_eq_some.2 hr.symm⟩

/-- A word stands at a place counted in octets if it stands at that place counted in characters. -/
theorem wordAt_encode (hw : w = pre ++ cs) :
    wordAt (encode w) (size pre) (bytes word) = (Excerpt.afterWord? word cs).isSome := by
  have hdrop : (encode w).drop (size pre) = encode cs := by
    rw [hw, encode_append, ← length_encode pre, List.drop_left]
  unfold wordAt Excerpt.afterWord?
  rw [hdrop, isPrefixOf_encode, ← stripStart?_isSome]
  cases hstrip : Text.stripStart? word.toList cs with
  | none => rfl
  | some r =>
    have hcs := Text.stripStart?_eq_some.1 hstrip
    have hplace : size pre + (bytes word).length = size (pre ++ word.toList) := by
      rw [size_append]
      exact congrArg (size pre + ·) (length_encode word.toList)
    have hsplit : w = pre ++ word.toList ++ r := by rw [hw, hcs, List.append_assoc]
    rw [hplace, wordEnd_encode hsplit]
    simp only [Option.isSome_some, Bool.true_and]
    cases hend : Excerpt.wordEnds r <;> simp [hend]

/-! ## Keywords -/

theorem after?_take (h : e.In ⟨0, w⟩) (n : Nat) : (of w e).after? (size (e.chars.take n)) = some (of w (e.drop n)) := by
  have hrest := after?_of h (List.take_append_drop n e.chars).symm
  rwa [List.length_take] at hrest

theorem before?_take (h : e.In ⟨0, w⟩) (n : Nat) : (of w e).before? (size (e.chars.take n)) = some (of w (e.take n)) :=
  before?_of h (List.take_append_drop n e.chars).symm

theorem afterKeyword?_of (h : e.In ⟨0, w⟩) (keyword : String) :
    (of w e).afterKeyword? (encode w) keyword = some ((e.afterKeyword? keyword).map (of w)) := by
  have hfront : wordAt (encode e.chars) 0 (bytes keyword) = e.startsWith keyword :=
    wordAt_encode (List.nil_append e.chars).symm
  unfold afterKeyword? Excerpt.afterKeyword?
  rw [octets?_of h]
  simp only [Option.bind_eq_bind, Option.bind_some, hfront]
  split
  · next hs =>
    obtain ⟨cs, hcs⟩ := Option.isSome_iff_exists.1 hs
    have hchars := (Excerpt.afterWord?_eq_some.1 hcs).1
    have hlen : (bytes keyword).length = size (e.chars.take keyword.length) := by
      rw [hchars, ← String.length_toList, List.take_left]
      exact length_encode keyword.toList
    rw [hlen, after?_take h, Option.bind_some, trim?_of ((Excerpt.drop_in e _).trans h)]
    rfl
  · rfl

theorem afterAll?_of (h : e.In ⟨0, w⟩) (keywords : List String) :
    (of w e).afterAll? (encode w) keywords = some ((keywords.foldlM Excerpt.afterKeyword? e).map (of w)) := by
  induction keywords generalizing e with
  | nil => rfl
  | cons keyword keywords ih =>
    rw [afterAll?, afterKeyword?_of h, List.foldlM_cons]
    cases hk : e.afterKeyword? keyword with
    | none => rfl
    | some r => exact ih ((Excerpt.afterKeyword?_in hk).trans h)

/-- How a place is nested. -/
def nestingOf (p : Excerpt.Place) : Nesting := ⟨p.quoted, p.depth⟩

variable {p : Excerpt.Place} {b : UInt8}

theorem mark?_eq (p : Excerpt.Place) (c : Char) :
    (nestingOf p).mark? c = if p.isMark c = true then some (nestingOf (p.step c)) else none := by
  unfold Nesting.mark? Excerpt.Place.isMark Excerpt.Place.step nestingOf
  by_cases hquote : c = Excerpt.quote
  · simp [hquote]
  · simp only [if_neg hquote, beq_false_of_ne hquote, Bool.false_or]
    cases hq : p.quoted
    · by_cases hopen : c = '('
      · have heq : (c == '(') = true := beq_iff_eq.2 hopen
        simp only [if_pos hopen, heq]
        rfl
      · by_cases hclose : c = ')'
        · have heq : (c == ')') = true := beq_iff_eq.2 hclose
          simp only [if_neg hopen, if_pos hclose, beq_false_of_ne hopen, heq]
          rfl
        · simp only [if_neg hopen, if_neg hclose, beq_false_of_ne hopen, beq_false_of_ne hclose]
          rfl
    · rfl

theorem nestingOf_step (h : p.isMark c = false) : nestingOf (p.step c) = nestingOf p := by
  simp only [Excerpt.Place.isMark, Bool.or_eq_false_iff, beq_eq_false_iff_ne, Bool.and_eq_false_iff, Bool.not_eq_false'] at h
  unfold Excerpt.Place.step nestingOf
  rw [if_neg h.1]
  rcases h.2 with hq | ⟨hopen, hclose⟩
  · rw [if_pos hq]
  · rw [if_neg hopen, if_neg hclose]
    split <;> rfl

theorem mark?_other (hb : 128 ≤ b.toNat) (s : Nesting) : s.mark? (charOf b) = none := by
  unfold Nesting.mark?
  rw [if_neg (charOf_ne hb (by decide)), if_neg (charOf_ne hb (by decide)), if_neg (charOf_ne hb (by decide))]
  split <;> rfl

theorem isMark_other (hc : 128 ≤ c.toNat) (p : Excerpt.Place) : p.isMark c = false := by
  have hne {d : Char} (hd : d.toNat < 128) : (c == d) = false := by
    rw [beq_eq_false_iff_ne]
    rintro rfl
    omega
  unfold Excerpt.Place.isMark
  rw [hne (by decide), hne (by decide), hne (by decide)]
  simp

/-- No word of ASCII characters begins with an octet of a longer character. -/
theorem isPrefixOf_other (hword : Plain word) {bs : Bytes} {j : Nat} (hj : bs[j]? = some b) (hb : 128 ≤ b.toNat) :
    (bytes word).isPrefixOf (bs.drop j) = false := by
  obtain ⟨c, r, hc⟩ := List.exists_cons_of_ne_nil hword.1
  have hascii := hword.2 c (by rw [hc]; exact List.mem_cons_self)
  have hlt : j < bs.length := by
    rw [List.getElem?_eq_some_iff] at hj
    exact hj.1
  rw [List.getElem?_eq_getElem hlt, Option.some.injEq] at hj
  rw [bytes, hc, encode_cons, encodeChar_ascii hascii, List.drop_eq_getElem_cons hlt, hj]
  show (UInt8.ofNat c.toNat == b && _) = false
  rw [Bool.and_eq_false_iff, beq_eq_false_iff_ne]
  left
  rintro rfl
  rw [toNat_ofNat (by omega)] at hb
  omega

theorem stripStart?_other (hword : Plain word) (hc : 128 ≤ c.toNat) : Text.stripStart? word.toList (c :: cs) = none := by
  obtain ⟨d, r, hd⟩ := List.exists_cons_of_ne_nil hword.1
  have hascii := hword.2 d (by rw [hd]; exact List.mem_cons_self)
  rw [hd, Text.stripStart?, if_neg]
  rintro rfl
  omega

theorem boundary?_isSome {bs : Bytes} {j : Nat} (hj : bs[j]? = some b) : ∃ x, boundary? bs j = some x := by
  have hlt : j < bs.length := by
    rw [List.getElem?_eq_some_iff] at hj
    exact hj.1
  unfold boundary? minus?
  split
  · exact ⟨_, rfl⟩
  · next hne =>
    rw [if_pos (by omega)]
    simp only [Option.bind_eq_bind, Option.bind_some]
    rw [List.getElem?_eq_getElem (by omega)]
    exact ⟨_, rfl⟩

theorem boundary?_next (hw : w = pre ++ c :: cs) :
    boundary? (encode w) (size (pre ++ [c])) = some (Text.isAsciiBlank c) := by
  have hpos : 0 < c.utf8Size := Char.utf8Size_pos c
  have hnext : size (pre ++ [c]) = size pre + c.utf8Size := by rw [size_append, size, size, Nat.add_zero]
  have hlast := getElem?_encode hw (j := c.utf8Size - 1) (by omega)
  have hlen : c.utf8Size - 1 < (String.utf8EncodeChar c).length := by
    rw [String.length_utf8EncodeChar]
    omega
  rw [List.getElem?_eq_getElem hlen, show size pre + (c.utf8Size - 1) = size (pre ++ [c]) - 1 by omega] at hlast
  unfold boundary? minus?
  rw [if_neg (by omega), if_pos (by omega)]
  simp only [Option.bind_eq_bind, Option.bind_some]
  rw [hlast]
  show some (Text.isAsciiBlank (charOf _)) = _
  rcases Nat.lt_or_ge c.toNat 128 with hc | hc
  · simp only [encodeChar_ascii hc, List.getElem_singleton]
    exact congrArg some (congrArg Text.isAsciiBlank (charOf_octet hc))
  · have hb := le_of_mem_encodeChar hc (List.getElem_mem hlen)
    rw [isAsciiBlank_of_le (by rw [toNat_charOf]; exact hb), isAsciiBlank_of_le hc]

theorem keywordStep_other (hword : Plain word) {bs : Bytes} {j : Nat} (hj : bs[j]? = some b) (hb : 128 ≤ b.toNat)
    (s : Nesting) :
    keywordStep bs (bytes word) j b s = some (.inr s) := by
  obtain ⟨x, hx⟩ := boundary?_isSome hj
  unfold keywordStep wordAt
  rw [mark?_other hb, isPrefixOf_other hword hj hb, hx]
  simp

theorem keywordStep_ascii (hw : w = pre ++ c :: cs) (hc : c.toNat < 128)
    (hstart : boundary? (encode w) (size pre) = some p.wordStart) :
    keywordStep (encode w) (bytes word) (size pre) (octet c) (nestingOf p) = some
      (if (!p.isMark c && p.isOpen && p.wordStart && (Excerpt.afterWord? word (c :: cs)).isSome) = true then .inl (size pre)
      else .inr (nestingOf (p.step c))) := by
  have hopen : (nestingOf p).isOpen = p.isOpen := rfl
  unfold keywordStep
  rw [charOf_octet hc, mark?_eq, hopen]
  cases hmark : p.isMark c
  · cases ho : p.isOpen
    · simp [nestingOf_step hmark]
    · simp [hstart, wordAt_encode hw, nestingOf_step hmark]
  · simp

/-- A search for a keyword from some place on. -/
theorem findKeyword_loop (hword : Plain word) (cs pre : List Char) (hw : w = pre ++ cs) (p : Excerpt.Place)
    (hstart : boundary? (encode w) (size pre) = some p.wordStart) :
    (loop (encode w) (keywordStep (encode w) (bytes word)) (size cs) (size pre) (nestingOf p)).map Sum.getLeft? =
      some ((Excerpt.findKeywordFrom? word p cs).map fun n => size pre + size (cs.take n)) := by
  induction cs generalizing pre p with
  | nil => rfl
  | cons c cs ih =>
    have hrest := ih (pre ++ [c]) (by rw [hw, List.append_assoc]; rfl) (p.step c)
      (by rw [boundary?_next hw]; unfold Excerpt.Place.step; repeat' (first | rfl | split))
    have hmove : ((Excerpt.findKeywordFrom? word (p.step c) cs).map fun n => size (pre ++ [c]) + size (cs.take n)) =
        ((Excerpt.findKeywordFrom? word (p.step c) cs).map (· + 1)).map fun n => size pre + size ((c :: cs).take n) := by
      rw [Option.map_map]
      congr 1
      funext n
      exact size_move pre c (cs.take n)
    rw [hmove] at hrest
    rw [Excerpt.findKeywordFrom?]
    rcases Nat.lt_or_ge c.toNat 128 with hc | hc
    · rw [loop_ascii hw hc, keywordStep_ascii hw hc hstart, Option.bind_some]
      cases !p.isMark c && p.isOpen && p.wordStart && (Excerpt.afterWord? word (c :: cs)).isSome
      · exact hrest
      · rfl
    · rw [loop_other hw hc fun s j b hj hb => keywordStep_other hword hj hb s, ← nestingOf_step (isMark_other hc p), hrest,
        Excerpt.afterWord?, stripStart?_other hword hc, if_neg]
      simp

theorem findKeyword?_of (h : e.In ⟨0, w⟩) (hword : Plain word) :
    (of w e).findKeyword? (encode w) word = some ((e.findKeyword? word).map fun n => size (e.chars.take n)) := by
  have hloop := findKeyword_loop hword e.chars [] (List.nil_append e.chars).symm {} rfl
  simp only [size, Nat.zero_add] at hloop
  obtain ⟨r, hr, hfound⟩ := Option.map_eq_some_iff.1 hloop
  unfold findKeyword? Excerpt.findKeyword?
  rw [octets?_of h]
  simp only [Option.bind_eq_bind, Option.bind_some, length_encode]
  show Option.bind (loop _ _ _ 0 (nestingOf {})) _ = _
  rw [hr, Option.bind_some, hfound]
  rfl

/-- A keyword that is found stands there. -/
theorem exists_findKeyword? {n : Nat} (h : e.findKeyword? word = some n) : ∃ r, e.chars.drop n = word.toList ++ r := by
  have hfrom (cs : List Char) (p : Excerpt.Place) (n : Nat) (h : Excerpt.findKeywordFrom? word p cs = some n) :
      ∃ r, cs.drop n = word.toList ++ r := by
    induction cs generalizing p n with
    | nil => cases h
    | cons c cs ih =>
      rw [Excerpt.findKeywordFrom?] at h
      split at h
      · next hfound =>
        cases h
        obtain ⟨r, hr⟩ := Option.isSome_iff_exists.1 (Bool.and_eq_true_iff.1 hfound).2
        exact ⟨r, (Excerpt.afterWord?_eq_some.1 hr).1⟩
      · obtain ⟨k, hk, rfl⟩ := Option.map_eq_some_iff.1 h
        exact ih _ k hk
  exact hfrom _ _ n h

/-- What follows a keyword that is found. -/
theorem after?_found (h : e.In ⟨0, w⟩) {n : Nat} (hfound : e.findKeyword? word = some n) :
    (of w e).after? (size (e.chars.take n) + (bytes word).length) = some (of w (e.drop (n + word.length))) := by
  obtain ⟨r, hr⟩ := exists_findKeyword? hfound
  have hsize : size (e.chars.take n) + (bytes word).length = size (e.chars.take (n + word.length)) := by
    rw [List.take_add, hr, size_append, ← String.length_toList, List.take_left]
    exact congrArg (size _ + ·) (length_encode word.toList)
  rw [hsize, after?_take h]

theorem size_take_le (cs : List Char) {m n : Nat} (h : m ≤ n) : size (cs.take m) ≤ size (cs.take n) := by
  obtain ⟨k, rfl⟩ := Nat.exists_eq_add_of_le h
  rw [List.take_add, size_append]
  exact Nat.le_add_right _ _

/-- The first of two places, in octets and in characters. -/
theorem size_take_min (cs : List Char) (m n : Nat) : min (size (cs.take m)) (size (cs.take n)) = size (cs.take (min m n)) := by
  rcases Nat.le_total m n with h | h
  · rw [Nat.min_eq_left h, Nat.min_eq_left (size_take_le cs h)]
  · rw [Nat.min_eq_right h, Nat.min_eq_right (size_take_le cs h)]

/-- A place, or the end. -/
theorem getD_size_take (cs : List Char) (o : Option Nat) :
    (o.map fun n => size (cs.take n)).getD (size cs) = size (cs.take (o.getD cs.length)) := by
  cases o with
  | none => exact congrArg size List.take_length.symm
  | some n => rfl

/-! ## Patterns -/

/-- No text begins with an octet that continues a character. -/
theorem isPrefixOf_inside (hword : word ≠ "") {bs : Bytes} {j : Nat} (hj : bs[j]? = some b) (hb : within 0x80 0xBF b = true) :
    (bytes word).isPrefixOf (bs.drop j) = false := by
  obtain ⟨c, r, hc⟩ := List.exists_cons_of_ne_nil (mt String.toList_eq_nil_iff.1 hword)
  obtain ⟨x, s, hx, hfirst, -⟩ := head_encodeChar c
  obtain ⟨hlt, hget⟩ := List.getElem?_eq_some_iff.1 hj
  rw [bytes, hc, encode_cons, hx, List.drop_eq_getElem_cons hlt, hget]
  show (x == b && _) = false
  rw [Bool.and_eq_false_iff, beq_eq_false_iff_ne]
  left
  rintro rfl
  rw [hfirst] at hb
  cases hb

/-- The first octet of a character is that of an ASCII character if the character is that one. -/
theorem charOf_first {r : Bytes} {d : Char} (hc : String.utf8EncodeChar c = b :: r) (hd : d.toNat < 128) :
    charOf b = d ↔ c = d := by
  rcases Nat.lt_or_ge c.toNat 128 with hlt | hge
  · rw [encodeChar_ascii hlt] at hc
    rw [← (List.cons.inj hc).1]
    exact Eq.congr_left (charOf_octet hlt)
  · have hb : 128 ≤ b.toNat := le_of_mem_encodeChar hge (hc ▸ List.mem_cons_self)
    refine iff_of_false (charOf_ne hb hd) ?_
    rintro rfl
    omega

theorem patternStep_char (hw : w = pre ++ c :: cs) {r : Bytes} (hc : String.utf8EncodeChar c = b :: r) (quoted : Bool) :
    patternStep (encode w) (bytes word) (size pre) b quoted = some
      (if c = Excerpt.quote then .inr !quoted
      else if (!quoted && (Text.stripStart? word.toList (c :: cs)).isSome) = true then .inl (size pre)
      else .inr quoted) := by
  have hdrop : (encode w).drop (size pre) = encode (c :: cs) := by
    rw [hw, encode_append, ← length_encode pre, List.drop_left]
  unfold patternStep
  simp only [charOf_first hc (show Excerpt.quote.toNat < 128 by decide)]
  rw [hdrop, isPrefixOf_encode, ← stripStart?_isSome]
  split
  · rfl
  · split <;> rfl

theorem patternStep_inside (hword : word ≠ "") {bs : Bytes} {j : Nat} (hj : bs[j]? = some b) (hb : within 0x80 0xBF b = true)
    (quoted : Bool) : patternStep bs (bytes word) j b quoted = some (.inr quoted) := by
  unfold patternStep
  rw [if_neg (charOf_ne (within_iff.1 hb).1 (by decide)), isPrefixOf_inside hword hj hb, Bool.and_false]
  rfl

/-- A search for a pattern from some place on. -/
theorem findUnquoted_loop (hword : word ≠ "") (cs pre : List Char) (hw : w = pre ++ cs) (quoted : Bool) :
    (loop (encode w) (patternStep (encode w) (bytes word)) (size cs) (size pre) quoted).map Sum.getLeft? =
      some ((Excerpt.cutUnquoted? word.toList quoted cs).map fun (a, _) => size pre + size a) := by
  induction cs generalizing pre quoted with
  | nil => rfl
  | cons c cs ih =>
    obtain ⟨b, r, hb, -, hmore⟩ := head_encodeChar c
    have hrest (quoted : Bool) := ih (pre ++ [c]) (by rw [hw, List.append_assoc]; rfl) quoted
    have hmove (quoted : Bool) :
        ((Excerpt.cutUnquoted? word.toList quoted cs).map fun (a, _) => size (pre ++ [c]) + size a) =
        ((Excerpt.cutUnquoted? word.toList quoted cs).map fun (a, b) => (c :: a, b)).map fun (a, _) => size pre + size a := by
      rw [Option.map_map]
      congr 1
      funext ⟨a, b⟩
      exact size_move pre c a
    rw [Excerpt.cutUnquoted?, loop_char hw hb fun s j x hj hx => patternStep_inside hword hj (hmore x hx) s,
      patternStep_char hw hb]
    by_cases hquote : c = Excerpt.quote
    · rw [if_pos hquote, if_pos hquote, Option.bind_some]
      exact (hrest _).trans (congrArg some (hmove _))
    · rw [if_neg hquote, if_neg hquote, Option.bind_some]
      cases quoted
      · cases hstrip : Text.stripStart? word.toList (c :: cs) with
        | none => exact (hrest _).trans (congrArg some (hmove _))
        | some r => rfl
      · exact (hrest _).trans (congrArg some (hmove _))

theorem findUnquoted?_of (h : e.In ⟨0, w⟩) (hword : word ≠ "") : (of w e).findUnquoted? (encode w) word =
    some ((Excerpt.cutUnquoted? word.toList false e.chars).map fun (a, _) => size a) := by
  have hloop := findUnquoted_loop hword e.chars [] (List.nil_append e.chars).symm false
  simp only [size, Nat.zero_add] at hloop
  obtain ⟨r, hr, hfound⟩ := Option.map_eq_some_iff.1 hloop
  unfold findUnquoted?
  rw [octets?_of h]
  simp only [Option.bind_eq_bind, Option.bind_some, length_encode]
  rw [hr, Option.bind_some, hfound]
  rfl

theorem cutAt?_of (h : e.In ⟨0, w⟩) (hword : word ≠ "") : (of w e).cutAt? (encode w) word =
    some ((e.cutAt? word).map fun (a, b) => (of w a, of w b)) := by
  unfold cutAt? Excerpt.cutAt?
  rw [findUnquoted?_of h hword]
  cases hcut : Excerpt.cutUnquoted? word.toList false e.chars with
  | none => rfl
  | some parts =>
    obtain ⟨a, b⟩ := parts
    have hchars := Excerpt.eq_of_cutUnquoted? hcut
    have hlen : size a + (bytes word).length = size (a ++ word.toList) := by
      rw [size_append]
      exact congrArg (size a + ·) (length_encode word.toList)
    have hbefore := before?_of h (a := a) (b := word.toList ++ b) (by rw [hchars, List.append_assoc])
    have hafter := after?_of h hchars
    simp only [Option.map_some, Option.bind_eq_bind, Option.bind_some, hbefore, hlen, hafter]
    rw [List.length_append, ← Nat.add_assoc, String.length_toList]
    rfl

/-- The cuts come to an end as each leaves less of the text. -/
theorem splitWithin?_of (hword : word ≠ "") {n : Nat} (h : e.In ⟨0, w⟩) (hn : size e.chars < n) :
    splitWithin? (encode w) word n (of w e) = some ((e.splitUnquoted word).map (of w)) := by
  induction n generalizing e with
  | zero => exact absurd hn (Nat.not_lt_zero _)
  | succ n ih =>
    rw [splitWithin?, cutAt?_of h hword, Excerpt.splitUnquoted]
    split
    · next hcut =>
      rw [Excerpt.cutAt?, hcut]
      rfl
    · next a b hcut =>
      have hb : size b < n := by
        have hsize := congrArg size (Excerpt.eq_of_cutUnquoted? hcut)
        obtain ⟨c, r, hc⟩ := List.exists_cons_of_ne_nil (mt String.toList_eq_nil_iff.1 hword)
        have hpos := Char.utf8Size_pos c
        rw [size_append, size_append, hc, size] at hsize
        omega
      have hin := (Excerpt.cutUnquoted?_in hcut).2.trans h
      rw [Excerpt.cutAt?, hcut, dif_neg hword]
      simp only [Option.map_some, Option.bind_eq_bind, Option.bind_some, ih hin hb]
      rfl

theorem splitUnquoted?_of (h : e.In ⟨0, w⟩) (hword : word ≠ "") :
    (of w e).splitUnquoted? (encode w) word = some ((e.splitUnquoted word).map (of w)) := by
  unfold splitUnquoted?
  rw [length?_of]
  exact splitWithin?_of hword h (Nat.lt_succ_self _)

/-! ## Separators -/

/-- The part that a scan is in ends where the scan is. -/
theorem finish?_of (h : e.In ⟨0, w⟩) {done cur rest : List Char} (hchars : e.chars = done ++ cur ++ rest) (s : Nesting)
    (parts : List Extent) : Parting.finish? (encode w) (of w e) (size (done ++ cur)) ⟨s, size done, parts⟩ =
      some (parts ++ [of w (Excerpt.mk (e.start + done.length) cur).trim]) := by
  have hin : (Excerpt.mk (e.start + done.length) cur).In e := ⟨done, rest, hchars, rfl⟩
  unfold Parting.finish?
  rw [size_append, slice?_of h hchars]
  simp only [Option.bind_eq_bind, Option.bind_some, trim?_of (hin.trans h)]
  rfl

variable {sep : Char}

theorem separatorStep_other (hsep : sep.toNat < 128) {x : Extent} {src : Bytes} {j : Nat} (hb : 128 ≤ b.toNat) (s : Parting) :
    separatorStep src x sep j b s = some (.inr s) := by
  unfold separatorStep
  rw [mark?_other hb]
  exact if_neg fun h => charOf_ne hb hsep h.1

theorem separatorStep_ascii (h : e.In ⟨0, w⟩) {done cur : List Char} (hchars : e.chars = done ++ cur ++ c :: cs)
    (hc : c.toNat < 128) (p : Excerpt.Place) (parts : List Extent) :
    separatorStep (encode w) (of w e) sep (size (done ++ cur)) (octet c) ⟨nestingOf p, size done, parts⟩ = some (.inr
      (if (c == sep && !p.isMark c && p.isOpen) = true then ⟨nestingOf (p.step c), size (done ++ cur ++ [c]),
        parts ++ [of w (Excerpt.mk (e.start + done.length) cur).trim]⟩
      else ⟨nestingOf (p.step c), size done, parts⟩)) := by
  have hnext : size (done ++ cur ++ [c]) = size (done ++ cur) + 1 := by
    have hone : c.utf8Size = 1 := by
      rw [← String.length_utf8EncodeChar, encodeChar_ascii hc, List.length_singleton]
    rw [size_append, size, size, hone]
  have hopen : (nestingOf p).isOpen = p.isOpen := rfl
  unfold separatorStep
  rw [charOf_octet hc, mark?_eq, hnext]
  cases hmark : p.isMark c
  · rw [nestingOf_step hmark]
    by_cases hsep : c = sep
    · cases hp : p.isOpen
      · simp [hopen, hp]
      · simp [hsep, hopen, hp, finish?_of h hchars]
    · simp [hsep]
  · simp

/-- A scan for separators from some place on, in a part that has begun. -/
theorem splitTopLevel_loop (hsep : sep.toNat < 128) (h : e.In ⟨0, w⟩) (cs done cur : List Char)
    (hchars : e.chars = done ++ cur ++ cs) (p : Excerpt.Place) (parts : List Extent) {piece : List Char}
    {rest : List (List Char)} (hpieces : Excerpt.piecesAt sep p cs = piece :: rest) :
    (loop (encode e.chars) (separatorStep (encode w) (of w e) sep) (size cs) (size (done ++ cur))
      ⟨nestingOf p, size done, parts⟩).bind (Sum.elim Empty.elim (Parting.finish? (encode w) (of w e) (size e.chars))) =
      some (parts ++ (Excerpt.placed (e.start + done.length) ((cur ++ piece) :: rest)).map (of w)) := by
  induction cs generalizing done cur p parts piece rest with
  | nil =>
    cases hpieces
    have hall : size e.chars = size (done ++ cur) := by rw [hchars, List.append_nil]
    rw [hall, List.append_nil]
    exact finish?_of h hchars _ _
  | cons c cs ih =>
    obtain ⟨next, others, hnext⟩ := List.exists_cons_of_ne_nil (Excerpt.piecesAt_ne_nil sep (p.step c) cs)
    have hon := ih done (cur ++ [c]) (by rw [hchars]; simp) (p.step c) parts hnext
    rw [← List.append_assoc, List.append_assoc cur [c] next] at hon
    rw [Excerpt.piecesAt, hnext] at hpieces
    rcases Nat.lt_or_ge c.toNat 128 with hc | hc
    · rw [loop_ascii hchars hc, separatorStep_ascii h hchars hc, Option.bind_some]
      cases hcut : c == sep && !p.isMark c && p.isOpen
      · rw [hcut] at hpieces
        cases hpieces
        exact hon
      · rw [hcut] at hpieces
        cases hpieces
        have hnew := ih (done ++ cur ++ [c]) [] (by rw [hchars]; simp) (p.step c)
          (parts ++ [of w (Excerpt.mk (e.start + done.length) cur).trim]) hnext
        rw [List.append_nil] at hnew
        refine hnew.trans ?_
        rw [List.append_assoc, List.append_nil, List.length_append, List.length_append, List.length_singleton,
          ← Nat.add_assoc, ← Nat.add_assoc]
        rfl
    · have hne : (c == sep) = false := by
        rw [beq_eq_false_iff_ne]
        rintro rfl
        omega
      rw [hne] at hpieces
      cases hpieces
      rw [loop_other hchars hc fun s j b _ hb => separatorStep_other hsep hb s, ← nestingOf_step (isMark_other hc p)]
      exact hon

theorem splitTopLevel?_of (h : e.In ⟨0, w⟩) (hsep : sep.toNat < 128) :
    (of w e).splitTopLevel? (encode w) sep = some ((e.splitTopLevel sep).map (of w)) := by
  obtain ⟨piece, rest, hpieces⟩ := List.exists_cons_of_ne_nil (Excerpt.piecesAt_ne_nil sep {} e.chars)
  have hloop := splitTopLevel_loop hsep h e.chars [] [] (List.nil_append e.chars).symm {} [] hpieces
  unfold splitTopLevel? Excerpt.splitTopLevel
  rw [octets?_of h, hpieces]
  simp only [Option.bind_eq_bind, Option.bind_some, length_encode]
  refine Eq.trans ?_ hloop
  congr 1
  funext r
  cases r with
  | inl r => exact r.elim
  | inr s => rfl

/-! ## Tokens and groups -/

theorem splitToken?_of (h : e.In ⟨0, w⟩) :
    (of w e).splitToken? (encode w) = some (of w e.splitToken.1, of w e.splitToken.2) := by
  have ht := (Excerpt.trim_in e).trans h
  have hsplit := (List.takeWhile_append_dropWhile (p := fun c => !(Text.isBlank c || c == '(')) (l := e.trim.chars)).symm
  have hrest := ((Excerpt.span_snd_in e.trim fun c => !(Text.isBlank c || c == '(')).trans (Excerpt.trim_in e)).trans h
  unfold splitToken?
  rw [trim?_of h]
  simp only [Option.bind_eq_bind, Option.bind_some, chars?_of ht, before?_of ht hsplit, after?_of ht hsplit]
  show (trim? (encode w) (of w (e.trim.span _).2)).bind _ = _
  rw [trim?_of hrest]
  rfl

theorem groupStep_other {j : Nat} (hb : 128 ≤ b.toNat) (s : Nesting) : groupStep j b s = some (.inr s) := by
  unfold groupStep
  rw [if_neg (charOf_ne hb (by decide)), if_neg (charOf_ne hb (by decide)), if_neg (charOf_ne hb (by decide))]
  split <;> rfl

/-- A search for the end of a group from some place in it on; there is always a group left to close. -/
theorem group_loop (cs pre : List Char) (hw : w = pre ++ cs) (quoted : Bool) (depth : Nat) :
    (loop (encode w) groupStep (size cs) (size pre) ⟨quoted, depth + 1⟩).map Sum.getLeft? =
      some ((Excerpt.closing? quoted (depth + 1) cs).map fun n => size pre + size (cs.take n)) := by
  induction cs generalizing pre quoted depth with
  | nil => rfl
  | cons c cs ih =>
    have hrest (quoted : Bool) (depth : Nat) :
        (loop (encode w) groupStep (size cs) (size (pre ++ [c])) ⟨quoted, depth + 1⟩).map Sum.getLeft? =
          some (((Excerpt.closing? quoted (depth + 1) cs).map (· + 1)).map fun n => size pre + size ((c :: cs).take n)) := by
      rw [ih (pre ++ [c]) (by rw [hw, List.append_assoc]; rfl), Option.map_map]
      congr 2
      funext n
      exact size_move pre c (cs.take n)
    rw [Excerpt.closing?]
    rcases Nat.lt_or_ge c.toNat 128 with hc | hc
    · rw [loop_ascii hw hc, groupStep, charOf_octet hc]
      split
      · exact hrest _ _
      split
      · exact hrest _ _
      split
      · exact hrest _ _
      split
      · cases depth with
        | zero => rfl
        | succ depth => exact hrest _ depth
      · exact hrest _ _
    · have hne {d : Char} (hd : d.toNat < 128) : c ≠ d := by
        rintro rfl
        omega
      rw [loop_other hw hc fun s j b _ hb => groupStep_other hb s, if_neg (hne (by decide)), if_neg (hne (by decide)),
        if_neg (hne (by decide)), ite_self]
      exact hrest _ _

theorem head?_encode (hc : c.toNat < 128) (cs : List Char) : (encode cs).head? = some (octet c) ↔ cs.head? = some c := by
  cases cs with
  | nil => exact ⟨nofun, nofun⟩
  | cons d cs =>
    rw [encode_cons, List.head?_cons, Option.some.injEq]
    constructor
    · intro h
      obtain ⟨x, r, hx, -⟩ := head_encodeChar d
      rw [hx, List.cons_append, List.head?_cons, Option.some.injEq] at h
      rcases Nat.lt_or_ge d.toNat 128 with hd | hd
      · rw [encodeChar_ascii hd] at hx
        have hoctet : octet d = octet c := (List.cons.inj hx).1.trans h
        rw [← charOf_octet hd, hoctet, charOf_octet hc]
      · have hle := le_of_mem_encodeChar hd (b := x) (by rw [hx]; exact List.mem_cons_self)
        rw [h, octet, toNat_ofNat (by omega)] at hle
        omega
    · rintro rfl
      rw [encodeChar_ascii hc]
      rfl

/-- What stands inside and behind a group in front. -/
theorem group_parts (h : e.In ⟨0, w⟩) {inner rest : List Char} (hc : e.chars = ['('] ++ inner ++ ([')'] ++ rest)) :
    ((of w e).slice? 1 (1 + size inner)).bind (trim? (encode w)) =
        some (of w ((e.take (inner.length + 1)).drop 1).trim) ∧
      ((of w e).after? (1 + size inner + 1)).bind (trim? (encode w)) =
        some (of w (e.drop (inner.length + 1 + 1)).trim) := by
  have hinner : (e.take (inner.length + 1)).drop 1 = ⟨e.start + 1, inner⟩ := by
    simp [Excerpt.take, Excerpt.drop, hc]
  have hrest : e.drop (inner.length + 1 + 1) = ⟨e.start + (['('] ++ inner ++ [')']).length, rest⟩ := by
    simp [Excerpt.drop, hc]
  have hinnerIn := (Excerpt.drop_in (e.take (inner.length + 1)) 1).trans ((Excerpt.take_in e _).trans h)
  have hrestIn := (Excerpt.drop_in e (inner.length + 1 + 1)).trans h
  rw [hinner] at hinnerIn
  rw [hrest] at hrestIn
  constructor
  · have hslice : (of w e).slice? 1 (1 + size inner) = some (of w ⟨e.start + 1, inner⟩) := slice?_of h hc
    rw [hslice, hinner]
    exact trim?_of hinnerIn
  · have hafter := after?_of h (a := ['('] ++ inner ++ [')']) (b := rest) (by rw [hc, ← List.append_assoc])
    have hplace : size (['('] ++ inner ++ [')']) = 1 + size inner + 1 := by
      rw [size_append, size_append]
      rfl
    rw [hplace] at hafter
    rw [hafter, hrest]
    exact trim?_of hrestIn

theorem splitParens?_of (h : e.In ⟨0, w⟩) : (of w e).splitParens? (encode w) =
    some (e.splitParens.map fun (a, b) => (of w a, of w b)) := by
  obtain ⟨t, ht⟩ : ∃ t, t = e.trim := ⟨_, rfl⟩
  have hin : t.In ⟨0, w⟩ := ht ▸ (Excerpt.trim_in e).trans h
  unfold splitParens? Excerpt.splitParens
  rw [trim?_of h, ← ht]
  simp only [Option.bind_eq_bind, Option.bind_some, octets?_of hin, head?_encode (show '('.toNat < 128 by decide),
    length_encode, error?_of hin]
  split
  · next hhead =>
    obtain ⟨cs, hcs⟩ := List.head?_eq_some_iff.1 hhead
    have hgroup := group_loop cs ['('] (w := t.chars) hcs false 0
    have hfirst : loop (encode t.chars) groupStep (size t.chars) 0 {} =
        loop (encode t.chars) groupStep (size cs) (size ['(']) ⟨false, 0 + 1⟩ := by
      have hsplit : t.chars = [] ++ '(' :: cs := hcs
      exact hcs ▸ loop_ascii hsplit (by decide)
    have hopen : Excerpt.closing? false 0 t.chars = (Excerpt.closing? false (0 + 1) cs).map (· + 1) := by
      rw [hcs]
      exact Excerpt.closing?_open cs
    obtain ⟨r, hr, hfound⟩ := Option.map_eq_some_iff.1 hgroup
    rw [hfirst, hopen, hr, Option.bind_some]
    cases hclose : Excerpt.closing? false (0 + 1) cs with
    | none =>
      rw [hclose] at hfound
      cases r with
      | inl i => cases hfound
      | inr s => rfl
    | some n =>
      rw [hclose] at hfound
      cases r with
      | inr s => cases hfound
      | inl i =>
        obtain ⟨inner, rest, hparts, rfl, -⟩ := (Excerpt.closing?_eq_some (l := Excerpt.Level.ground)).1 hclose
        have hplace : i = 1 + size inner := by
          rw [hparts, Option.map_some, List.take_left] at hfound
          exact Option.some.inj hfound
        subst hplace
        have hgroup : t.chars = ['('] ++ inner ++ ([')'] ++ rest) := by rw [hcs, hparts]; rfl
        obtain ⟨hinner, hbehind⟩ := group_parts hin hgroup
        obtain ⟨a, ha, htrimmed⟩ := Option.bind_eq_some_iff.1 hinner
        obtain ⟨b, hb, htrimmed'⟩ := Option.bind_eq_some_iff.1 hbehind
        simp only [ha, htrimmed, hb, htrimmed', Option.bind_some]
        rfl
  · rfl

end Extent
end SlotSql
