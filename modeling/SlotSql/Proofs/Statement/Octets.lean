import SlotSql.Proofs.Statement.Inside
import SlotSql.Proofs.Text.Utf8
/-!
# Excerpts as ranges of octets

A statement comes as octets, and an excerpt of it as the range of octets from one place to another. Reading a range fails
unless it lies within the statement and no character is cut by either end of it, and counters must not go below zero. Here
the operations on excerpts are computed on octets, with every such failure as a case of its own (none). They never fail on
the range of an excerpt, and give the ranges of the excerpts that the operations on characters give.

Results:
* `Extent.octets?_of`, `Extent.chars?_of`: the range of an excerpt can be read, and holds what the excerpt does.
* `Extent.slice?_of`, `Extent.trim?_of`, `Extent.part?_of`: the parts of the range are the ranges of the parts.
* `Extent.error?_of`: an error about the range is the error about the excerpt.
-/
namespace SlotSql

/-- A range of octets: the place of the first one, and the place behind the last one. -/
structure Extent where
  start : Nat
  stop : Nat
  deriving DecidableEq, Repr

namespace Extent

/-- Whether there are no octets. -/
def isEmpty (x : Extent) : Bool := x.start == x.stop

/-- Whether a character begins or the text ends at a place. -/
def isBoundary (src : Bytes) (i : Nat) : Bool :=
  match src[i]? with
  | none => i == src.length
  | some b => !Utf8.within 0x80 0xBF b

/-- The octets of a range. The range must lie in the text and cut no character. -/
def octets? (src : Bytes) (x : Extent) : Option Bytes :=
  if x.start ≤ x.stop ∧ isBoundary src x.start = true ∧ isBoundary src x.stop = true then
    some ((src.drop x.start).take (x.stop - x.start))
  else none

/-- The characters of a range. -/
def chars? (src : Bytes) (x : Extent) : Option (List Char) := do
  let s ← Utf8.decode? (← x.octets? src)
  return s.toList

/-- A difference that must not be negative. -/
def minus? (a b : Nat) : Option Nat := if b ≤ a then some (a - b) else none

/-- The number of octets of a range. -/
def length? (x : Extent) : Option Nat := minus? x.stop x.start

/-- The range between two places of a range. Places behind its end count as the end. -/
def slice? (x : Extent) (start stop : Nat) : Option Extent := do
  let stop := min stop (← x.length?)
  return ⟨x.start + min start stop, x.start + stop⟩

/-- The range in front of a place of a range. -/
def before? (x : Extent) (place : Nat) : Option Extent := x.slice? 0 place

/-- The range from a place of a range on. -/
def after? (x : Extent) (place : Nat) : Option Extent := do x.slice? place (← x.length?)

/-- The range without the blanks on both sides. -/
def trim? (src : Bytes) (x : Extent) : Option Extent := do
  let cs ← x.chars? src
  let start ← minus? (Utf8.size cs) (Utf8.size (Text.trimStart cs))
  x.slice? start (max (Utf8.size (Text.trimEnd cs)) start)

/-- The characters of a range, with their place in the text counted in characters. -/
def excerpt? (src : Bytes) (x : Extent) : Option Excerpt := do
  let front ← chars? src ⟨0, x.start⟩
  return ⟨front.length, ← x.chars? src⟩

/-- The error that something is wrong with a range; its place is counted in characters. -/
def error? (src : Bytes) (x : Extent) (message : String) : Option ParseError := do
  return (← x.excerpt? src).error message

/-- The range of a part that was found in the characters of a range. -/
def part? (x : Extent) (whole part : Excerpt) : Option Extent := do
  let start := Utf8.size (whole.chars.take (← minus? part.start whole.start))
  x.slice? start (start + Utf8.size part.chars)

end Extent

namespace Utf8

variable {a b cs : List Char}

theorem encode_cons (c : Char) (cs : List Char) : encode (c :: cs) = String.utf8EncodeChar c ++ encode cs := rfl

theorem length_encode (cs : List Char) : (encode cs).length = size cs := by
  induction cs with
  | nil => rfl
  | cons c cs ih => rw [encode_cons, List.length_append, ih, String.length_utf8EncodeChar, size]

theorem size_append (a b : List Char) : size (a ++ b) = size a + size b := by
  rw [← length_encode, encode_append, List.length_append, length_encode, length_encode]

/-- The first octet of a character continues no other one, and the octets behind it do. -/
theorem head_encodeChar (c : Char) : ∃ b r, String.utf8EncodeChar c = b :: r ∧ within 0x80 0xBF b = false ∧
    ∀ x ∈ r, within 0x80 0xBF x = true := by
  have hv := char_valid c
  have hc : c.val.toNat = c.toNat := rfl
  have hfirst {n : Nat} (hn : n < 256) (h : n < 0x80 ∨ 0xC0 ≤ n) : within 0x80 0xBF (UInt8.ofNat n) = false := by
    rw [Bool.eq_false_iff, Ne, within_iff, toNat_ofNat hn]
    show ¬ (128 ≤ n ∧ n ≤ 191)
    omega
  have hmore (n : Nat) : within 0x80 0xBF (UInt8.ofNat (n % 0x40 + 0x80)) = true := by
    rw [within_iff, toNat_ofNat (by omega)]
    show 128 ≤ _ ∧ _ ≤ 191
    omega
  unfold String.utf8EncodeChar
  rw [hc]
  simp only []
  split
  · exact ⟨_, _, rfl, hfirst (by omega) (by omega), by simp⟩
  split
  · exact ⟨_, _, rfl, hfirst (by omega) (by omega), by simp only [List.forall_mem_cons, hmore, true_and]; exact List.forall_mem_nil _⟩
  split
  · exact ⟨_, _, rfl, hfirst (by omega) (by omega), by simp only [List.forall_mem_cons, hmore, true_and]; exact List.forall_mem_nil _⟩
  · exact ⟨_, _, rfl, hfirst (by omega) (by omega), by simp only [List.forall_mem_cons, hmore, true_and]; exact List.forall_mem_nil _⟩

end Utf8

namespace Extent

open Utf8

variable {w : List Char} {e : Excerpt}

/-- Between two parts of a text there is a boundary. -/
theorem isBoundary_size (a b : List Char) : isBoundary (encode (a ++ b)) (size a) = true := by
  unfold isBoundary
  rw [encode_append, List.getElem?_append_right (by rw [length_encode]), length_encode, Nat.sub_self]
  cases b with
  | nil =>
    show (size a == (encode a ++ encode []).length) = true
    rw [← encode_append, length_encode, List.append_nil, beq_self_eq_true]
  | cons c b =>
    obtain ⟨x, r, hx, hfirst, -⟩ := head_encodeChar c
    rw [encode_cons, hx]
    show (!within 0x80 0xBF x) = true
    rw [hfirst]
    rfl

/-- The range of an excerpt of a text. -/
def of (w : List Char) (e : Excerpt) : Extent :=
  ⟨size (w.take e.start), size (w.take e.start) + size e.chars⟩

/-- The range of an excerpt, from the parts of the text around it. -/
theorem of_eq (front back : List Char) (hw : w = front ++ e.chars ++ back) (hs : e.start = front.length) :
    of w e = ⟨size front, size front + size e.chars⟩ := by
  have htake : w.take e.start = front := by rw [hw, hs, List.append_assoc, List.take_left]
  rw [of, htake]

/-- The parts of a text around an excerpt of it. -/
theorem exists_around (h : e.In ⟨0, w⟩) : ∃ front back, w = front ++ e.chars ++ back ∧ e.start = front.length := by
  obtain ⟨front, back, hw, hs⟩ := h
  exact ⟨front, back, hw, by rw [hs]; exact Nat.zero_add _⟩

/-- The octets of the range of an excerpt are there, and are those of its characters. -/
theorem octets?_of (h : e.In ⟨0, w⟩) : (of w e).octets? (encode w) = some (encode e.chars) := by
  obtain ⟨front, back, hw, hs⟩ := exists_around h
  have hstart : isBoundary (encode w) (size front) = true := by
    rw [hw, List.append_assoc]
    exact isBoundary_size front _
  have hstop : isBoundary (encode w) (size front + size e.chars) = true := by
    rw [hw, ← size_append]
    exact isBoundary_size _ back
  have hoctets : ((encode w).drop (size front)).take (size front + size e.chars - size front) = encode e.chars := by
    rw [hw, List.append_assoc, encode_append, encode_append, ← length_encode front, List.drop_left, length_encode,
      Nat.add_sub_cancel_left, ← length_encode e.chars, List.take_left]
  rw [of_eq front back hw hs]
  show (if _ then _ else _) = _
  rw [if_pos ⟨Nat.le_add_right _ _, hstart, hstop⟩]
  exact congrArg some hoctets

theorem chars?_of (h : e.In ⟨0, w⟩) : (of w e).chars? (encode w) = some e.chars := by
  have hdecode := decode?_bytes (String.ofList e.chars)
  rw [bytes_ofList] at hdecode
  unfold chars?
  rw [octets?_of h]
  show (Utf8.decode? (encode e.chars)).bind _ = _
  rw [hdecode]
  exact congrArg some String.toList_ofList

theorem length?_of (w : List Char) (e : Excerpt) : (of w e).length? = some (size e.chars) := by
  have hle : (of w e).start ≤ (of w e).stop := Nat.le_add_right _ _
  unfold length? minus?
  rw [if_pos hle]
  exact congrArg some (Nat.add_sub_cancel_left _ _)

/-- A part of an excerpt, between the octets in front of it and those behind it. -/
theorem slice?_of (h : e.In ⟨0, w⟩) {a b c : List Char} (hc : e.chars = a ++ b ++ c) :
    (of w e).slice? (size a) (size a + size b) = some (of w ⟨e.start + a.length, b⟩) := by
  obtain ⟨front, back, hw, hs⟩ := exists_around h
  have hpart : of w ⟨e.start + a.length, b⟩ = ⟨size front + size a, size front + size a + size b⟩ := by
    have hw' : w = front ++ a ++ b ++ (c ++ back) := by rw [hw, hc]; simp only [List.append_assoc]
    rw [of_eq (e := ⟨e.start + a.length, b⟩) _ _ hw' (by rw [hs, List.length_append]), size_append]
  have hsize : size e.chars = size a + size b + size c := by rw [hc, size_append, size_append]
  unfold slice?
  rw [length?_of, hpart, of_eq front back hw hs, hsize]
  simp only [Option.bind_eq_bind, Option.bind_some, Option.pure_def, Option.some.injEq, Extent.mk.injEq]
  omega

/-- The part of an excerpt in front of a place. -/
theorem before?_of (h : e.In ⟨0, w⟩) {a b : List Char} (hc : e.chars = a ++ b) :
    (of w e).before? (size a) = some (of w ⟨e.start, a⟩) := by
  have hpart := slice?_of h (a := []) (b := a) (c := b) hc
  rwa [size, Nat.zero_add] at hpart

/-- The part of an excerpt from a place on. -/
theorem after?_of (h : e.In ⟨0, w⟩) {a b : List Char} (hc : e.chars = a ++ b) :
    (of w e).after? (size a) = some (of w ⟨e.start + a.length, b⟩) := by
  have hpart := slice?_of h (a := a) (b := b) (c := []) (by rw [hc, List.append_nil])
  unfold after?
  rw [length?_of, hc, size_append]
  exact hpart

/-- Behind blanks, only the end of a text is trimmed at its end. -/
theorem trimEnd_blanks_append {a : List Char} (ha : ∀ c ∈ a, Text.isBlank c = true) (b : List Char) :
    Text.trimEnd (a ++ b) = if Text.trimEnd b = [] then [] else a ++ Text.trimEnd b := by
  have hblank : a.reverse.dropWhile Text.isBlank = [] := by
    rw [List.dropWhile_eq_nil_iff]
    exact fun c hc => ha c (List.mem_reverse.1 hc)
  unfold Text.trimEnd
  rw [List.reverse_append, List.dropWhile_append, hblank]
  cases hb : b.reverse.dropWhile Text.isBlank with
  | nil => rfl
  | cons c r => simp

theorem trim?_of (h : e.In ⟨0, w⟩) : (of w e).trim? (encode w) = some (of w e.trim) := by
  obtain ⟨a, ha⟩ : ∃ a, a = e.chars.takeWhile Text.isBlank := ⟨_, rfl⟩
  obtain ⟨b, hb⟩ : ∃ b, b = Text.trimEnd (Text.trimStart e.chars) := ⟨_, rfl⟩
  have hblank : ∀ c ∈ a, Text.isBlank c = true := fun c hc => List.mem_takeWhile_imp (ha ▸ hc)
  have hsplit : e.chars = a ++ Text.trimStart e.chars := by
    rw [ha]
    exact List.takeWhile_append_dropWhile.symm
  obtain ⟨tail, htail⟩ : b <+: Text.trimStart e.chars := by
    rw [hb, ← List.reverse_suffix, Text.trimEnd, List.reverse_reverse]
    exact List.dropWhile_suffix _
  have hstart : minus? (size e.chars) (size (Text.trimStart e.chars)) = some (size a) := by
    have hsize : size e.chars = size a + size (Text.trimStart e.chars) := by
      rw [← size_append, ← hsplit]
    unfold minus?
    rw [hsize, if_pos (Nat.le_add_left _ _), Nat.add_sub_cancel]
  -- a text of blanks shrinks to its end
  have hstop : max (size (Text.trimEnd e.chars)) (size a) = size a + size b := by
    rw [hsplit, trimEnd_blanks_append hblank, ← hb]
    split
    · next hnil =>
      rw [hnil, size, Nat.zero_max, Nat.add_zero]
    · rw [size_append, Nat.max_eq_left (Nat.le_add_right _ _)]
  have htrim : e.trim = ⟨e.start + a.length, b⟩ := by rw [ha, hb]; rfl
  unfold trim?
  rw [chars?_of h, Option.bind_eq_bind, Option.bind_some, hstart, Option.bind_eq_bind, Option.bind_some, hstop, htrim]
  exact slice?_of h (c := tail) (by rw [List.append_assoc, htail]; exact hsplit)

theorem excerpt?_of (h : e.In ⟨0, w⟩) : (of w e).excerpt? (encode w) = some e := by
  obtain ⟨front, back, hw, hs⟩ := exists_around h
  have hfront : (Excerpt.mk 0 front).In ⟨0, w⟩ := Excerpt.prefix_in ⟨e.chars ++ back, by rw [hw, List.append_assoc]⟩
  have hof : of w ⟨0, front⟩ = ⟨0, (of w e).start⟩ := by
    rw [of_eq front back hw hs, of_eq (e := ⟨0, front⟩) [] (e.chars ++ back) (by rw [hw]; simp) rfl]
    exact congrArg (Extent.mk 0) (Nat.zero_add _)
  have hchars := chars?_of hfront
  rw [hof] at hchars
  unfold excerpt?
  rw [chars?_of h, hchars]
  show some (Excerpt.mk front.length e.chars) = _
  rw [← hs]

theorem error?_of (h : e.In ⟨0, w⟩) (message : String) :
    (of w e).error? (encode w) message = some (e.error message) := by
  unfold error?
  rw [excerpt?_of h]
  rfl

theorem part?_of (h : e.In ⟨0, w⟩) {part : Excerpt} (hpart : part.In e) : (of w e).part? e part = some (of w part) := by
  obtain ⟨front, back, hchars, hstart⟩ := hpart
  have hplace : minus? part.start e.start = some front.length := by
    unfold minus?
    rw [if_pos (by omega), hstart, Nat.add_sub_cancel_left]
  have htake : e.chars.take front.length = front := by rw [hchars, List.append_assoc, List.take_left]
  unfold part?
  simp only [Option.bind_eq_bind, hplace, Option.bind_some, htake, slice?_of h hchars, ← hstart]

end Extent
end SlotSql
