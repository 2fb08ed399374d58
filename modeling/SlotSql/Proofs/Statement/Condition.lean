import Mathlib.Data.List.Infix
import SlotSql.Proofs.Statement.Literal
import SlotSql.Statement.Parser.Query
/-!
# Conditions that are read back

A condition is taken apart at the first sign that occurs in it. Once it is read, no sign that is searched for
earlier occurs in the literal, and so none occurs when the condition is written with blanks around its sign.

Results:
* `condition_fits`, `condition_written`: conditions are read back.
* `conditions_weight`: the text that conditions are read from has as many characters as theirs, blanks apart.
* `conditions_fits`, `conditions_written`: conditions that are joined are read back just if no literal but the last
  reads like the word between them.
-/
namespace SlotSql

open Text Excerpt

/-! ## Cutting outside quotes -/

namespace Excerpt

variable {p u x y cs a b : List Char} {c : Char}

theorem cutUnquoted?_cons (hc : c ≠ quote) (h : stripStart? p (c :: cs) = none) :
    cutUnquoted? p false (c :: cs) = (cutUnquoted? p false cs).map (Prod.map (c :: ·) id) := by
  rw [cutUnquoted?, if_neg hc, if_neg Bool.false_ne_true, h]
  rfl

theorem cutUnquoted?_here (hc : c ≠ quote) (h : stripStart? p (c :: cs) = some b) :
    cutUnquoted? p false (c :: cs) = some ([], b) := by
  rw [cutUnquoted?, if_neg hc, if_neg Bool.false_ne_true, h]

/-- The cut is not behind a place where the pattern stands. -/
theorem cutUnquoted?_le (hp : ∃ d q, p = d :: q ∧ d ≠ quote) (hu : ∀ c ∈ u, c ≠ quote) (y : List Char) :
    ∃ x z, cutUnquoted? p false (u ++ (p ++ y)) = some (x, z) ∧ x <+: u := by
  induction u with
  | nil =>
    obtain ⟨d, q, rfl, hd⟩ := hp
    exact ⟨[], y, cutUnquoted?_here hd (stripStart?_eq_some.2 rfl), List.nil_prefix⟩
  | cons c u ih =>
    obtain ⟨hc, hrest⟩ := List.forall_mem_cons.1 hu
    obtain ⟨x, z, hcut, hx⟩ := ih hrest
    rw [List.cons_append]
    cases hs : stripStart? p (c :: (u ++ (p ++ y))) with
    | some b => exact ⟨[], b, cutUnquoted?_here hc hs, List.nil_prefix⟩
    | none =>
      refine ⟨c :: x, z, ?_, List.prefix_cons_inj c |>.2 hx⟩
      rw [cutUnquoted?_cons hc hs, hcut]
      rfl

/-- A text in which the pattern does not begin stands in front of the cut. -/
theorem cutUnquoted?_append (hx : ∀ c ∈ x, c ≠ quote)
    (h : ∀ u, u ≠ [] → u <:+ x → stripStart? p (u ++ y) = none) :
    cutUnquoted? p false (x ++ y) = (cutUnquoted? p false y).map (Prod.map (x ++ ·) id) := by
  induction x with
  | nil =>
    rw [List.nil_append]
    cases cutUnquoted? p false y <;> rfl
  | cons c x ih =>
    obtain ⟨hc, hrest⟩ := List.forall_mem_cons.1 hx
    have hcut := ih hrest fun u hu hs => h u hu (hs.trans (List.suffix_cons c x))
    have hstep : stripStart? p (c :: (x ++ y)) = none := h (c :: x) (by simp) List.suffix_rfl
    rw [List.cons_append, cutUnquoted?_cons hc hstep, hcut, Option.map_map]
    rfl

/-- A text without the first character of the pattern stands in front of the cut. -/
theorem cutUnquoted?_skip (hx : ∀ c ∈ x, c ≠ quote ∧ p.head? ≠ some c) (hp : p ≠ []) (y : List Char) :
    cutUnquoted? p false (x ++ y) = (cutUnquoted? p false y).map (Prod.map (x ++ ·) id) := by
  refine cutUnquoted?_append (fun c hc => (hx c hc).1) fun u hu hs => ?_
  obtain ⟨c, u, rfl⟩ := List.exists_cons_of_ne_nil hu
  obtain ⟨d, p, rfl⟩ := List.exists_cons_of_ne_nil hp
  have hd := (hx c (hs.subset List.mem_cons_self)).2
  have hne : d ≠ c := by simpa using hd
  simp [stripStart?, hne]

/-- A text between quotes stands in front of the cut. -/
theorem cutUnquoted?_quoted (v y : List Char) :
    cutUnquoted? p false (quote :: (Literal.doubled v ++ quote :: y)) =
      (cutUnquoted? p false y).map (Prod.map (quote :: (Literal.doubled v ++ [quote]) ++ ·) id) := by
  have hin : cutUnquoted? p true (Literal.doubled v ++ quote :: y) =
      (cutUnquoted? p false y).map (Prod.map (Literal.doubled v ++ [quote] ++ ·) id) := by
    induction v with
    | nil =>
      rw [show Literal.doubled [] = [] from rfl, List.nil_append, cutUnquoted?, if_pos rfl]
      rfl
    | cons d v ih =>
      rw [Literal.doubled_cons]
      by_cases hd : d = quote
      · subst hd
        rw [if_pos rfl, List.append_assoc, List.cons_append, cutUnquoted?, if_pos rfl, List.singleton_append,
          cutUnquoted?, if_pos rfl, Bool.not_true, Bool.not_false, ih, Option.map_map, Option.map_map]
        rfl
      · rw [if_neg hd, List.append_assoc, List.singleton_append, cutUnquoted?, if_neg hd, if_pos rfl]
        simp only [ih, Option.map_map]
        rfl
  rw [cutUnquoted?, if_pos rfl, Bool.not_false, hin, Option.map_map]
  rfl

theorem cutUnquoted?_none_suffix (hx : ∀ c ∈ x, c ≠ quote) (h : cutUnquoted? p false (x ++ y) = none) :
    cutUnquoted? p false y = none := by
  induction x with
  | nil => exact h
  | cons c x ih =>
    obtain ⟨hc, hrest⟩ := List.forall_mem_cons.1 hx
    cases hs : stripStart? p (c :: (x ++ y)) with
    | some b =>
      rw [List.cons_append, cutUnquoted?_here hc hs] at h
      cases h
    | none =>
      rw [List.cons_append, cutUnquoted?_cons hc hs, Option.map_eq_none_iff] at h
      exact ih hrest h

theorem cutUnquoted?_none_prefix {q : Bool} (h : cutUnquoted? p q (x ++ y) = none) :
    cutUnquoted? p q x = none := by
  induction x generalizing q with
  | nil => rfl
  | cons c x ih =>
    rw [List.cons_append, cutUnquoted?] at h
    rw [cutUnquoted?]
    split
    · next hc =>
      rw [if_pos hc, Option.map_eq_none_iff] at h
      rw [ih h]
      rfl
    · next hc =>
      rw [if_neg hc] at h
      cases hs : (if q = true then none else stripStart? p (c :: x)) with
      | some b =>
        -- what is found in the front is found in the whole
        have hq : q = false := by
          cases q
          · rfl
          · rw [if_pos rfl] at hs
            cases hs
        subst hq
        rw [if_neg Bool.false_ne_true] at hs h
        have hwhole : stripStart? p (c :: (x ++ y)) = some (b ++ y) := by
          rw [stripStart?_eq_some, ← List.cons_append, stripStart?_eq_some.1 hs, List.append_assoc]
        rw [hwhole] at h
        cases h
      | none =>
        have hrest : cutUnquoted? p q (x ++ y) = none := by
          split at h
          · cases h
          · exact Option.map_eq_none_iff.1 h
        simp only [ih hrest]
        rfl

/-- A pattern does not begin in a text if it neither fits into it nor goes on behind it. -/
theorem stripStart?_none (hp : ¬ p <+: u) (hy : ∀ a r, a ≠ [] → p = u ++ a → y ≠ a ++ r) :
    stripStart? p (u ++ y) = none := by
  cases hs : stripStart? p (u ++ y) with
  | none => rfl
  | some r =>
    exfalso
    rcases List.append_eq_append_iff.1 (stripStart?_eq_some.1 hs) with ⟨a, hpu, hya⟩ | ⟨c, hu, -⟩
    · cases a with
      | nil => exact hp ⟨[], by rw [hpu, List.append_nil, List.append_nil]⟩
      | cons d a => exact hy _ _ (by simp) hpu hya
    · exact hp ⟨c, hu.symm⟩

end Excerpt

/-! ## The signs of conditions -/

namespace Comparison

/-- The sign that a comparison is written with, with the blanks that belong to it. -/
def sign (d : Comparison) : String := if d.isLike || d == pattern then " " ++ d.text ++ " " else d.text

/-- The signs that a condition is searched for before that of a comparison. -/
def earlier (d : Comparison) : List (String × Comparison) := signs.takeWhile fun x => x.2 ≠ d

/-- What stands around the literal of a condition. -/
def around (d : Comparison) : List Char := ' ' :: (d.text.toList ++ [' '])

theorem sign_chars : ∀ d : Comparison, ∀ c ∈ d.sign.toList, c ≠ quote := by
  intro d
  have hnot : quote ∉ d.sign.toList := by cases d <;> decide
  exact fun c hc he => hnot (he ▸ hc)

theorem around_chars : ∀ d : Comparison, ∀ c ∈ around d, c ≠ quote ∧ isDelimiter c = false := by
  intro d
  have hall : ((around d).all fun c => c != quote && !isDelimiter c) = true := by cases d <;> decide
  intro c hc
  simpa using List.all_eq_true.1 hall c hc

/-- Every sign occurs in the list, with the signs that are searched for earlier in front of it. -/
theorem signs_eq : ∀ d : Comparison, d ≠ ignore → ∃ post, signs = d.earlier ++ (d.sign, d) :: post := by
  intro d hd
  refine ⟨signs.drop (d.earlier.length + 1), ?_⟩
  revert hd
  cases d <;> decide

/-- No earlier sign occurs in what stands around a comparison, and none that ends in a blank goes on behind it. -/
theorem earlier_clear : ∀ d : Comparison, ∀ x ∈ earlier d, ∀ u ∈ (around d).tails, u ≠ [] →
    ¬ x.1.toList <+: u ∧ ∀ a ∈ x.1.toList.tails, a ≠ [] → x.1.toList = u ++ a → a.getLast? = some ' ' := by
  intro d
  cases d <;> decide

/-- The sign stands between blanks that are not part of it. -/
theorem sign_around : ∀ d : Comparison, ∃ u v, around d = u ++ (d.sign.toList ++ v) ∧
    (∀ x ∈ u, isBlank x = true ∧ d.sign.toList.head? ≠ some x) ∧ ∀ x ∈ v, isBlank x = true := by
  intro d
  cases d <;> first
    | exact ⟨[' '], [' '], rfl, List.forall_mem_singleton.2 (by decide), List.forall_mem_singleton.2 (by decide)⟩
    | exact ⟨[], [], rfl, List.forall_mem_nil _, List.forall_mem_nil _⟩

theorem sign_head : ∀ d : Comparison, ∃ x r, d.sign.toList = x :: r ∧ x ≠ quote ∧ Token.isNameChar x = false := by
  intro d
  cases d <;> exact ⟨_, _, rfl, by decide, by decide⟩

/-- Signs are no names, and hold no quote, parenthesis or comma. -/
theorem mem_signs : ∀ x ∈ signs, x.2 ≠ ignore ∧ delimiters x.1.toList = [] ∧
    x.1.toList.head?.any (!Token.isNameChar ·) = true := by
  decide

end Comparison

/-! ## Conditions -/

/-- A condition that is read back: its column is a name, and no sign that is searched for earlier occurs in its
literal. -/
structure Condition.Fits (s : Settings) (c : Condition) : Prop where
  column : IsName s c.column
  value : c.value.Fits
  compares : c.comparison ≠ .ignore
  clear : ∀ x ∈ c.comparison.earlier, cutUnquoted? x.1.toList false c.value.text.toList = none

namespace Excerpt

variable {e b a : Excerpt} {p : String} {x y : List Char}

theorem cutAt?_eq_none : e.cutAt? p = none ↔ cutUnquoted? p.toList false e.chars = none := by
  simp [cutAt?]

theorem cutAt?_chars (h : e.cutAt? p = some (b, a)) :
    cutUnquoted? p.toList false e.chars = some (b.chars, a.chars) := by
  obtain ⟨⟨x, y⟩, hcut, he⟩ := Option.map_eq_some_iff.1 h
  cases he
  exact hcut

theorem cutAt?_written (h : cutUnquoted? p.toList false e.chars = some (x, y)) :
    ∃ b a, e.cutAt? p = some (b, a) ∧ b.chars = x ∧ a.chars = y := by
  rw [cutAt?, h]
  exact ⟨_, _, rfl, rfl, rfl⟩

/-- Text without delimiters has no quotes. -/
theorem ne_quote_of_delimiters (h : delimiters x = []) : ∀ c ∈ x, c ≠ quote := by
  rintro _ hc rfl
  exact absurd (delimiters_eq_nil.1 h quote hc) (by decide)

end Excerpt

/-- A name stands in front of the cut, unless the pattern begins with a character of a name. -/
theorem IsName.cut {s : Settings} {n : String} (h : IsName s n) {p : List Char}
    (hp : p.head?.any (!Token.isNameChar ·) = true) (y : List Char) :
    cutUnquoted? p false (n.toList ++ y) = (cutUnquoted? p false y).map (Prod.map (n.toList ++ ·) id) := by
  obtain ⟨c, r, rfl⟩ : ∃ c r, p = c :: r := by
    cases p with
    | nil => cases hp
    | cons c r => exact ⟨c, r, rfl⟩
  have hc : Token.isNameChar c = false := by simpa using hp
  refine cutUnquoted?_skip (fun d hd => ⟨ne_quote_of_delimiters h.delimiters d hd, ?_⟩) (by simp) y
  have hne : d ≠ c := ne_of_isNameChar (h.chars d hd) hc
  simpa using hne.symm

namespace Parser

variable {s : Settings} {e b a : Excerpt} {sign : String} {d : Comparison} {signs pre post : List (String × Comparison)}

theorem signIn?_eq_some (h : signIn? e signs = some (b, sign, d, a)) : ∃ pre post, signs = pre ++ (sign, d) :: post ∧
    (∀ x ∈ pre, e.cutAt? x.1 = none) ∧ e.cutAt? sign = some (b, a) := by
  induction signs with
  | nil => cases h
  | cons x signs ih =>
    obtain ⟨sign', d'⟩ := x
    rw [signIn?] at h
    split at h
    · next hcut =>
      cases h
      exact ⟨[], signs, rfl, by simp, hcut⟩
    · next hnone =>
      obtain ⟨pre, post, rfl, hpre, hcut⟩ := ih h
      exact ⟨_ :: pre, post, rfl, List.forall_mem_cons.2 ⟨hnone, hpre⟩, hcut⟩

theorem signIn?_written (hpre : ∀ x ∈ pre, e.cutAt? x.1 = none) (h : e.cutAt? sign = some (b, a)) :
    signIn? e (pre ++ (sign, d) :: post) = some (b, sign, d, a) := by
  induction pre with
  | nil => simp [signIn?, h]
  | cons x pre ih =>
    obtain ⟨hx, hrest⟩ := List.forall_mem_cons.1 hpre
    obtain ⟨sign', d'⟩ := x
    rw [List.cons_append, signIn?, hx]
    exact ih hrest

end Parser

namespace Condition

variable {s : Settings} {c : Condition}

theorem toList_text (c : Condition) :
    c.text.toList = c.column.toList ++ (c.comparison.around ++ c.value.text.toList) := by
  simp [text, Comparison.around]

theorem delimiters_text (hc : IsName s c.column) : delimiters c.text.toList = delimiters c.value.text.toList := by
  have haround : delimiters c.comparison.around = [] :=
    delimiters_eq_nil.2 fun x hx => (Comparison.around_chars c.comparison x hx).2
  rw [toList_text, delimiters_append, delimiters_append, hc.delimiters, haround]
  rfl

/-- No sign that is searched for earlier occurs in a condition. -/
theorem Fits.cut_earlier (h : c.Fits s) {x : String × Comparison} (hx : x ∈ c.comparison.earlier) :
    cutUnquoted? x.1.toList false c.text.toList = none := by
  have hsigns : x ∈ Comparison.signs := List.takeWhile_subset _ hx
  obtain ⟨-, hnone, hhead⟩ := Comparison.mem_signs x hsigns
  rw [toList_text, h.column.cut hhead, cutUnquoted?_append, h.clear x hx]
  · rfl
  · exact fun d hd => (Comparison.around_chars _ d hd).1
  · intro u hu hsuf
    obtain ⟨hpre, hrest⟩ := Comparison.earlier_clear _ x hx u ((List.mem_tails _ _).2 hsuf) hu
    refine stripStart?_none hpre fun a r ha he hv => ?_
    -- the rest of the sign ends in a blank, and so the literal is between quotes, of which a sign has none
    have hmem : a ∈ x.1.toList.tails := (List.mem_tails _ _).2 ⟨u, he.symm⟩
    have hblank : ' ' ∈ a := List.mem_of_getLast? (hrest a hmem ha he)
    cases hq : c.value.quoted with
    | false =>
      rw [Literal.toList_text_of_bare hq] at hv
      have hb := (isBare_chars (h.value hq)).2 ' ' (by rw [hv]; exact List.mem_append_left _ hblank)
      exact absurd hb.1 (by decide)
    | true =>
      obtain ⟨d, a, rfl⟩ := List.exists_cons_of_ne_nil ha
      rw [Literal.toList_text_of_quoted hq] at hv
      have hd : d = quote := (List.cons.inj hv).1.symm
      exact ne_quote_of_delimiters hnone d (by rw [he]; simp) hd

/-- A condition is cut at its sign. -/
theorem Fits.cut_sign (h : c.Fits s) : ∃ u v, cutUnquoted? c.comparison.sign.toList false c.text.toList = some (u, v) ∧
    Text.trim u = c.column.toList ∧ Text.trim v = c.value.text.toList := by
  obtain ⟨u, v, haround, hu, hv⟩ := Comparison.sign_around c.comparison
  obtain ⟨x, r, hsign, hx, hname⟩ := Comparison.sign_head c.comparison
  have hne : c.comparison.sign.toList ≠ [] := by rw [hsign]; simp
  have hskip : ∀ d ∈ u, d ≠ quote ∧ c.comparison.sign.toList.head? ≠ some d := fun d hd => by
    refine ⟨?_, (hu d hd).2⟩
    rintro rfl
    exact absurd (hu quote hd).1 (by decide)
  have hhere : cutUnquoted? c.comparison.sign.toList false (c.comparison.sign.toList ++ (v ++ c.value.text.toList)) =
      some ([], v ++ c.value.text.toList) := by
    rw [hsign]
    exact cutUnquoted?_here hx (stripStart?_eq_some.2 rfl)
  refine ⟨c.column.toList ++ u, v ++ c.value.text.toList, ?_, ?_, ?_⟩
  · rw [toList_text, haround, h.column.cut (by simp [hsign, hname]), List.append_assoc, cutUnquoted?_skip hskip hne,
      List.append_assoc, hhere]
    simp
  · rw [trim_append_blanks _ fun d hd => (hu d hd).1, h.column.solid.trim]
  · rw [trim_blanks_append _ hv, h.value.solid.trim]

end Condition

namespace Parser

variable {s : Settings} {e : Excerpt} {c : Condition}

theorem condition_fits (h : condition s e = .ok c) : c.Fits s ∧ delimiters c.text.toList = delimiters e.chars := by
  simp only [condition, except_bind_eq_ok, demand_eq_ok] at h
  obtain ⟨⟨b, sign, d, a⟩, hsign, column, hname, -, -, value, hvalue, hc⟩ := h
  cases hc
  obtain ⟨hb, hcolumn⟩ := name_eq_ok.1 hname
  obtain ⟨ha, hfits⟩ := literal_eq_ok.1 hvalue
  rw [chars_trim, trim_trim] at ha
  obtain ⟨pre, post, hsigns, hpre, hcut⟩ := signIn?_eq_some hsign
  have he := eq_of_cutUnquoted? (cutAt?_chars hcut)
  obtain ⟨hcompares, hdsign, -⟩ := Comparison.mem_signs (sign, d) (by rw [hsigns]; simp)
  have hfront : delimiters (b.chars ++ sign.toList) = [] := by
    rw [delimiters_append, hdsign, ← delimiters_trim, hb, hcolumn.delimiters]
    rfl
  refine ⟨⟨hcolumn, hfits, hcompares, fun x hx => ?_⟩, ?_⟩
  · have hmem : x ∈ pre := by
      rw [Comparison.earlier, hsigns, List.takeWhile_append, List.takeWhile_cons_of_neg (by simp)] at hx
      split at hx
      · simpa using hx
      · exact List.takeWhile_subset _ hx
    have hnone := cutAt?_eq_none.1 (hpre x hmem)
    rw [he] at hnone
    obtain ⟨u, v, hu, -, hsplit⟩ := exists_trim a.chars
    have htail := cutUnquoted?_none_suffix (ne_quote_of_delimiters hfront) hnone
    rw [hsplit, List.append_assoc] at htail
    have hq : ∀ c ∈ u, c ≠ quote := by
      rintro _ hc rfl
      exact absurd (hu quote hc) (by decide)
    have := cutUnquoted?_none_prefix (cutUnquoted?_none_suffix hq htail)
    rwa [ha] at this
  · rw [Condition.delimiters_text hcolumn, he, delimiters_append, hfront, ← ha, delimiters_trim]
    rfl

theorem condition_written (hc : c.Fits s) (h : e.chars = c.text.toList) : condition s e = .ok c := by
  obtain ⟨post, hsigns⟩ := Comparison.signs_eq _ hc.compares
  obtain ⟨u, v, hcut, hu, hv⟩ := hc.cut_sign
  rw [← h] at hcut
  obtain ⟨b, a, hcutAt, rfl, rfl⟩ := cutAt?_written hcut
  have hearlier : ∀ x ∈ c.comparison.earlier, e.cutAt? x.1 = none := fun x hx =>
    cutAt?_eq_none.2 (by rw [h]; exact hc.cut_earlier hx)
  simp only [condition, except_bind_eq_ok, demand_eq_ok, check_eq_ok, exists_const]
  refine ⟨_, by rw [hsigns]; exact signIn?_written hearlier hcutAt, c.column, name_eq_ok.2 ⟨hu, hc.column⟩,
    not_isEmpty (by rw [chars_trim, hv]; exact hc.value.solid.ne_nil), c.value,
    literal_eq_ok.2 ⟨by rw [chars_trim, trim_trim, hv], hc.value⟩, rfl⟩

end Parser
/-! ## Weights -/

/-- The number of characters that are not blank. -/
def weight (cs : List Char) : Nat := cs.countP (!isBlank ·)

section Weight

variable {s : Settings} {e : Excerpt} {c : Condition} {a b : List Char}

@[simp] theorem weight_append (a b : List Char) : weight (a ++ b) = weight a + weight b := List.countP_append

theorem weight_blanks (h : ∀ c ∈ a, isBlank c = true) : weight a = 0 :=
  List.countP_eq_zero.2 fun c hc => by simp [h c hc]

theorem weight_trim (cs : List Char) : weight (Text.trim cs) = weight cs := by
  obtain ⟨x, y, hx, hy, he⟩ := exists_trim cs
  conv_rhs => rw [he]
  rw [weight_append, weight_append, weight_blanks hx, weight_blanks hy, Nat.zero_add, Nat.add_zero]

theorem weight_le (h : a <+: b) : weight a ≤ weight b := h.sublist.countP_le

theorem weight_pos (h : Solid a) : 0 < weight a := by
  obtain ⟨c, r, rfl, hc⟩ := h.front
  exact List.countP_pos_iff.2 ⟨c, List.mem_cons_self, by simp [hc]⟩

theorem Condition.weight_text (c : Condition) : weight c.text.toList =
    weight c.column.toList + weight c.comparison.text.toList + weight c.value.text.toList := by
  have hblank : weight [' '] = 0 := by decide
  have haround : weight c.comparison.around = weight c.comparison.text.toList := by
    change weight ([' '] ++ (c.comparison.text.toList ++ [' '])) = _
    rw [weight_append, weight_append, hblank, Nat.zero_add, Nat.add_zero]
  rw [toList_text, weight_append, weight_append, haround, Nat.add_assoc]

/-- What a condition is read from weighs as much as its text. -/
theorem Parser.condition_weight (h : condition s e = .ok c) : weight c.text.toList = weight e.chars := by
  simp only [condition, except_bind_eq_ok, demand_eq_ok] at h
  obtain ⟨⟨b, sign, d, a⟩, hsign, column, hname, -, -, value, hvalue, hc⟩ := h
  cases hc
  obtain ⟨hb, -⟩ := name_eq_ok.1 hname
  obtain ⟨ha, -⟩ := literal_eq_ok.1 hvalue
  rw [chars_trim, trim_trim] at ha
  obtain ⟨pre, post, hsigns, -, hcut⟩ := signIn?_eq_some hsign
  have hsame : weight sign.toList = weight d.text.toList := by
    have hall : ∀ x ∈ Comparison.signs, weight x.1.toList = weight x.2.text.toList := by decide
    exact hall (sign, d) (by rw [hsigns]; simp)
  rw [Condition.weight_text, eq_of_cutUnquoted? (cutAt?_chars hcut), weight_append, weight_append, hsame,
    ← weight_trim b.chars, hb, ← weight_trim a.chars, ha]

end Weight

/-! ## Conditions that are joined -/

/-- The literal that reads like the word between conditions. -/
def Literal.andWord : Literal := ⟨"AND", false⟩

/-- Only that literal reads like the word, and only if something follows it. -/
theorem Literal.Fits.eq_andWord {l : Literal} (hl : l.Fits) {z r : List Char} (hz : AtBlank z)
    (h : l.text.toList ++ z = ['A', 'N', 'D', ' '] ++ r) : l = .andWord ∧ z ≠ [] := by
  cases hq : l.quoted with
  | true =>
    rw [Literal.toList_text_of_quoted hq] at h
    cases h
  | false =>
    have hb := (isBare_chars (hl hq)).2
    have hword : ∀ c ∈ l.value.toList, (c != ' ') = true := by
      intro c hc
      have hne : c ≠ ' ' := by
        rintro rfl
        exact absurd (hb ' ' hc).1 (by decide)
      simpa using hne
    rw [Literal.toList_text_of_bare hq] at h
    rcases List.append_eq_append_iff.1 h with ⟨a, ha, rfl⟩ | ⟨a, ha, -⟩
    · have hvalue : l.value.toList = "AND".toList := by
        cases a with
        | nil =>
          rw [List.append_nil] at ha
          exact absurd (hword ' ' (by rw [← ha]; decide)) (by decide)
        | cons c a =>
          have hc : c = ' ' := by
            rcases hz with hz | ⟨y, hz⟩
            · cases hz
            · exact (List.cons.inj hz).1
          have htake := congrArg (List.takeWhile (· != ' ')) ha
          rw [List.takeWhile_append_of_pos hword, hc] at htake
          simpa using htake.symm
      refine ⟨?_, fun hnil => ?_⟩
      · rw [show l = ⟨l.value, l.quoted⟩ from rfl, String.toList_injective hvalue, hq]
        rfl
      · rw [List.append_eq_nil_iff.1 hnil |>.1, hvalue] at ha
        exact absurd ha (by decide)
    · exact absurd (hword ' ' (by rw [ha]; simp)) (by decide)

/-- The word between conditions does not begin in what stands around a comparison, unless the literal is one. -/
theorem Comparison.conjunction_clear : ∀ d : Comparison, ∀ u ∈ (around d).tails, u ≠ [] →
    ¬ conjunction.toList <+: u ∧
      ∀ a ∈ conjunction.toList.tails, a ≠ [] → conjunction.toList = u ++ a → a = ['A', 'N', 'D', ' '] := by
  intro d
  cases d <;> decide

namespace Condition

variable {s : Settings} {c : Condition} {z : List Char}

theorem Fits.solid (h : c.Fits s) : Solid c.text.toList := by
  rw [toList_text, ← List.append_assoc]
  exact h.column.solid.around _ h.value.solid

/-- A condition stands in front of the cut, whatever follows it. -/
theorem Fits.cut_conjunction (h : c.Fits s) (hz : AtBlank z) (hand : z ≠ [] → c.value ≠ .andWord) :
    cutUnquoted? conjunction.toList false (c.text.toList ++ z) =
      (cutUnquoted? conjunction.toList false z).map (Prod.map (c.text.toList ++ ·) id) := by
  have hvalue : cutUnquoted? conjunction.toList false (c.value.text.toList ++ z) =
      (cutUnquoted? conjunction.toList false z).map (Prod.map (c.value.text.toList ++ ·) id) := by
    cases hq : c.value.quoted with
    | true =>
      rw [Literal.toList_text_of_quoted hq, ← cutUnquoted?_quoted]
      simp
    | false =>
      rw [Literal.toList_text_of_bare hq]
      refine cutUnquoted?_skip (fun d hd => ?_) (by decide) z
      obtain ⟨hblank, hquote⟩ := (isBare_chars (h.value hq)).2 d hd
      refine ⟨hquote, ?_⟩
      rintro ⟨⟩
      cases hblank
  rw [toList_text, List.append_assoc, h.column.cut (by decide), List.append_assoc, cutUnquoted?_append, hvalue]
  · cases cutUnquoted? conjunction.toList false z <;> simp [Prod.map]
  · exact fun d hd => (Comparison.around_chars _ d hd).1
  · intro u hu hsuf
    obtain ⟨hpre, hrest⟩ := Comparison.conjunction_clear _ u ((List.mem_tails _ _).2 hsuf) hu
    refine stripStart?_none hpre fun a r ha he hv => ?_
    rw [hrest a ((List.mem_tails _ _).2 ⟨u, he.symm⟩) ha he] at hv
    obtain ⟨heq, hne⟩ := h.value.eq_andWord hz hv
    exact hand hne heq

/-- A literal that reads like the word is cut off, if another condition follows. -/
theorem Fits.cut_andWord (h : c.Fits s) (hand : c.value = .andWord) (y : List Char) : ∃ x z,
    cutUnquoted? conjunction.toList false (c.text.toList ++ (conjunction.toList ++ y)) = some (x, z) ∧
      weight x < weight c.text.toList := by
  have htext : c.text.toList = (c.column.toList ++ ' ' :: c.comparison.text.toList) ++ " AND".toList := by
    rw [toList_text, hand, Comparison.around]
    simp [Literal.andWord, Literal.text]
  have hquote : ∀ d ∈ c.column.toList ++ ' ' :: c.comparison.text.toList, d ≠ quote := by
    refine ne_quote_of_delimiters ?_
    have hsign : delimiters c.comparison.text.toList = [] := by cases c.comparison <;> decide
    rw [delimiters_append, h.column.delimiters, delimiters_cons (by decide), hsign]
    rfl
  have hword : c.text.toList ++ (conjunction.toList ++ y) = (c.column.toList ++ ' ' :: c.comparison.text.toList) ++
      (conjunction.toList ++ ("AND ".toList ++ y)) := by
    rw [htext, List.append_assoc]
    rfl
  obtain ⟨x, z, hcut, hpre⟩ := cutUnquoted?_le (p := conjunction.toList) ⟨' ', _, rfl, by decide⟩ hquote ("AND ".toList ++ y)
  refine ⟨x, z, by rw [hword]; exact hcut, ?_⟩
  have hlast : 0 < weight " AND".toList := by decide
  rw [htext, weight_append]
  exact Nat.lt_of_le_of_lt (weight_le hpre) (Nat.lt_add_of_pos_right hlast)

end Condition

namespace Excerpt

variable {e b a : Excerpt} {p : String} {x y : List Char}

theorem splitUnquoted_none (h : cutUnquoted? p.toList false e.chars = none) : e.splitUnquoted p = [e] := by
  rw [splitUnquoted]
  split
  · rfl
  · next hsome => rw [h] at hsome; cases hsome

theorem splitUnquoted_some (hp : p ≠ "") (h : cutUnquoted? p.toList false e.chars = some (x, y)) :
    ∃ b a : Excerpt, e.splitUnquoted p = b :: a.splitUnquoted p ∧ b.chars = x ∧ a.chars = y := by
  rw [splitUnquoted]
  split
  · next hnone => rw [h] at hnone; cases hnone
  · next hsome =>
    rw [h] at hsome
    cases hsome
    rw [dif_neg hp]
    exact ⟨_, _, rfl, rfl, rfl⟩

theorem splitUnquoted_ne_nil (e : Excerpt) (p : String) : e.splitUnquoted p ≠ [] := by
  rw [splitUnquoted]
  split
  · simp
  · split <;> simp

/-- The parts joined with the pattern are the text. -/
theorem join_splitUnquoted (e : Excerpt) (p : String) : join p.toList ((e.splitUnquoted p).map chars) = e.chars := by
  fun_induction splitUnquoted e p with
  | case1 => rfl
  | case2 => rfl
  | case3 e a b h hp ih =>
    obtain ⟨q, qs, hqs⟩ := List.exists_cons_of_ne_nil (mt List.map_eq_nil_iff.1 (splitUnquoted_ne_nil _ p))
    rw [hqs] at ih
    rw [List.map_cons, hqs, join, ih]
    exact (eq_of_cutUnquoted? h).symm

end Excerpt
namespace Parser

variable {s : Settings} {e : Excerpt} {cs : List Condition}

theorem conditions_fits (h : (e.splitUnquoted conjunction).mapM (fun part => condition s part.trim) = .ok cs) :
    cs ≠ [] ∧ (∀ c ∈ cs, c.Fits s) ∧
      delimiters (join conjunction.toList (cs.map (·.text.toList))) = delimiters e.chars := by
  refine ⟨?_, fun c hc => ?_, ?_⟩
  · rintro rfl
    exact splitUnquoted_ne_nil e _ (List.forall₂_nil_right_iff.1 (mapM_eq_ok.1 h))
  · obtain ⟨part, -, hpart⟩ := mem_of_mapM h c hc
    exact (condition_fits hpart).1
  · rw [← join_splitUnquoted e conjunction]
    refine join_congr delimiters_append ?_
    rw [List.map_map, List.map_map, eq_comm, map_eq_map_iff]
    refine (mapM_eq_ok.1 h).imp fun part c hc => ?_
    simp only [Function.comp]
    rw [(condition_fits hc).2, chars_trim, delimiters_trim]

/-- What conditions are read from weighs as much as their text. -/
theorem conditions_weight (h : (e.splitUnquoted conjunction).mapM (fun part => condition s part.trim) = .ok cs) :
    weight (join conjunction.toList (cs.map (·.text.toList))) = weight e.chars := by
  rw [← join_splitUnquoted e conjunction]
  refine join_congr weight_append ?_
  rw [List.map_map, List.map_map, eq_comm, map_eq_map_iff]
  refine (mapM_eq_ok.1 h).imp fun part c hc => ?_
  simp only [Function.comp]
  rw [condition_weight hc, chars_trim, weight_trim]

/-- Conditions are found again between the words that join them just if no literal but the last is such a word. -/
theorem conditions_written (hne : cs ≠ []) (hfits : ∀ c ∈ cs, c.Fits s)
    (h : e.chars = join conjunction.toList (cs.map (·.text.toList))) :
    (e.splitUnquoted conjunction).mapM (fun part => condition s part.trim) = .ok cs ↔
      ∀ c ∈ cs.dropLast, c.value ≠ .andWord := by
  induction cs generalizing e with
  | nil => exact absurd rfl hne
  | cons c cs ih =>
    have hc := hfits c List.mem_cons_self
    have hread : ∀ x : Excerpt, x.chars = c.text.toList → condition s x.trim = .ok c := fun x hx =>
      condition_written hc (by rw [chars_trim, hx, hc.solid.trim])
    cases cs with
    | nil =>
      have hcut := hc.cut_conjunction (.inl rfl) fun hnil => absurd rfl hnil
      rw [List.append_nil] at hcut
      rw [splitUnquoted_none (by rw [h]; exact hcut), mapM_eq_ok]
      exact ⟨fun _ c hc => (by cases hc), fun _ => .cons (hread e h) .nil⟩
    | cons d cs =>
      have hrest := fun c hc => hfits c (List.mem_cons_of_mem _ hc)
      have he : e.chars =
          c.text.toList ++ (conjunction.toList ++ join conjunction.toList ((d :: cs).map (·.text.toList))) := by
        rw [h, ← List.append_assoc]
        rfl
      by_cases hand : c.value = .andWord
      · obtain ⟨x, z, hcut, hx⟩ := hc.cut_andWord hand (join conjunction.toList ((d :: cs).map (·.text.toList)))
        obtain ⟨b, a, hsplit, rfl, -⟩ := splitUnquoted_some (p := conjunction) (by decide) (by rw [he]; exact hcut)
        refine iff_of_false (fun hread => ?_) fun hall => hall c (by simp) hand
        rw [hsplit, mapM_eq_ok, List.forall₂_cons] at hread
        have hsame := condition_weight hread.1
        rw [chars_trim, weight_trim] at hsame
        exact absurd hsame (Nat.ne_of_gt hx)
      · have hcut := hc.cut_conjunction (z := conjunction.toList ++ join conjunction.toList ((d :: cs).map (·.text.toList)))
          (.inr ⟨_, rfl⟩) fun _ => hand
        have hhere : cutUnquoted? conjunction.toList false
            (conjunction.toList ++ join conjunction.toList ((d :: cs).map (·.text.toList))) = some ([], _) :=
          cutUnquoted?_here (by decide) (stripStart?_eq_some.2 rfl)
        rw [hhere] at hcut
        obtain ⟨b, a, hsplit, hb, ha⟩ := splitUnquoted_some (p := conjunction) (by decide) (by rw [he]; simpa using hcut)
        have htail := ih (by simp) hrest ha
        rw [mapM_eq_ok] at htail
        rw [hsplit, mapM_eq_ok, List.forall₂_cons, htail, List.dropLast_cons_cons, List.forall_mem_cons]
        exact and_congr_left' (iff_of_true (hread b hb) hand)

end Parser
end SlotSql
