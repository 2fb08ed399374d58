import Mathlib.Data.List.TakeWhile
import SlotSql.Proofs.Plan.Build
import SlotSql.Proofs.Text.Pieces
import SlotSql.Statement.Token
/-!
# What excerpts hold

Readers look at the characters of an excerpt; the place is for errors only. So every operation is described
by the characters of what it gives.

Results:
* `Solid`: texts that trimming leaves alone, and how they are put together.
* `afterWord?_isSome`: a keyword stands in front of a text just when it is the first word.
* `afterKeyword?_chars`, `splitToken_chars`: what keywords and tokens leave behind.
-/
namespace SlotSql

theorem except_map_eq_ok {ε α β : Type} {x : Except ε α} {f : α → β} {b : β} :
    x.map f = .ok b ↔ ∃ a, x = .ok a ∧ f a = b := by
  cases x <;> simp [Except.map]

namespace Text

variable {a b cs : List Char} {c : Char}

/-! ## Solid texts -/

/-- A text that begins and ends with characters that are not blank. -/
structure Solid (cs : List Char) : Prop where
  front : ∃ c r, cs = c :: r ∧ isBlank c = false
  back : ∃ r c, cs = r ++ [c] ∧ isBlank c = false

theorem Solid.trim (h : Solid cs) : trim cs = cs := by
  obtain ⟨c, r, hc, hb⟩ := h.front
  obtain ⟨r', c', hc', hb'⟩ := h.back
  have h1 : trimStart cs = cs := by rw [hc]; exact trimStart_of_not_blank hb
  rw [Text.trim, h1, hc']
  exact trimEnd_of_not_blank hb'

theorem Solid.ne_nil (h : Solid cs) : cs ≠ [] := by
  obtain ⟨c, r, rfl, -⟩ := h.front
  simp

theorem Solid.word (hne : cs ≠ []) (h : ∀ c ∈ cs, isBlank c = false) : Solid cs where
  front := by
    obtain ⟨c, r, rfl⟩ := List.exists_cons_of_ne_nil hne
    exact ⟨c, r, rfl, h c (by simp)⟩
  back := ⟨cs.dropLast, cs.getLast hne, (List.dropLast_append_getLast hne).symm,
    h _ (List.getLast_mem hne)⟩

theorem Solid.all (hne : cs ≠ []) (h : (cs.all fun c => !isBlank c) = true) : Solid cs :=
  .word hne fun c hc => by simpa using List.all_eq_true.1 h c hc

/-- What begins with a solid text and ends with one is solid. -/
theorem Solid.around (ha : Solid a) (m : List Char) (hb : Solid b) : Solid (a ++ m ++ b) where
  front := by
    obtain ⟨c, r, rfl, hc⟩ := ha.front
    exact ⟨c, r ++ m ++ b, by simp, hc⟩
  back := by
    obtain ⟨r, c, rfl, hc⟩ := hb.back
    exact ⟨a ++ m ++ r, c, by simp, hc⟩

theorem Solid.append (ha : Solid a) (hb : Solid b) : Solid (a ++ b) := by
  simpa using ha.around [] hb

theorem Solid.enclosed {x y : Char} (hx : isBlank x = false) (hy : isBlank y = false) :
    Solid (x :: (cs ++ [y])) where
  front := ⟨x, _, rfl, hx⟩
  back := ⟨x :: cs, y, by simp, hy⟩

theorem Solid.cons (hc : isBlank c = false) (h : Solid cs) : Solid (c :: cs) :=
  .append (a := [c]) (.word (by simp) (by simpa using hc)) h

theorem Solid.join {ps : List (List Char)} {sep : List Char} (hne : ps ≠ []) (h : ∀ p ∈ ps, Solid p) :
    Solid (join sep ps) := by
  induction ps with
  | nil => exact absurd rfl hne
  | cons p ps ih =>
    obtain ⟨hp, hrest⟩ := List.forall_mem_cons.1 h
    cases ps with
    | nil => exact hp
    | cons q ps => exact hp.around sep (ih (by simp) hrest)

theorem solid_trim (h : trim cs ≠ []) : Solid (trim cs) where
  front := by
    obtain ⟨c, r, hc⟩ := List.exists_cons_of_ne_nil h
    exact ⟨c, r, hc, head?_trim cs c (by rw [hc]; rfl)⟩
  back := by
    have hne : (trim cs).reverse ≠ [] := by simpa using h
    obtain ⟨c, r, hc⟩ := List.exists_cons_of_ne_nil hne
    refine ⟨r.reverse, c, ?_, head?_reverse_trim cs c (by rw [hc]; rfl)⟩
    rw [← List.reverse_cons, ← hc, List.reverse_reverse]

/-- Blanks at the end do not count. -/
theorem trim_append_blanks (cs : List Char) {bs : List Char} (hb : ∀ c ∈ bs, isBlank c = true) :
    trim (cs ++ bs) = trim cs := by
  have hend : ∀ xs : List Char, trimEnd (xs ++ bs) = trimEnd xs := by
    intro xs
    have hbs : bs.reverse.dropWhile isBlank = [] := by simpa using hb
    rw [trimEnd, List.reverse_append, List.dropWhile_append, hbs]
    rfl
  rw [trim, trimStart, List.dropWhile_append]
  split
  · next h =>
    have hcs : cs.dropWhile isBlank = [] := by simpa using h
    have hbs : bs.dropWhile isBlank = [] := by simpa using hb
    rw [hbs, trim, trimStart, hcs]
  · rw [hend]
    rfl

/-- Blanks in front do not count. -/
theorem trim_blanks_append (cs : List Char) {bs : List Char} (hb : ∀ c ∈ bs, isBlank c = true) :
    trim (bs ++ cs) = trim cs := by
  rw [trim, trimStart, List.dropWhile_append_of_pos hb]
  rfl

theorem trim_cons_blank (cs : List Char) : trim (' ' :: cs) = trim cs := by
  have hb : ∀ c ∈ [' '], isBlank c = true := List.all_eq_true.1 (by decide)
  exact trim_blanks_append cs hb

theorem Solid.blank_trim (ha : Solid a) : Text.trim (' ' :: a) = a := by
  rw [trim_cons_blank, ha.trim]

theorem trim_trimEnd (cs : List Char) : trim (trimEnd cs) = trim cs := by
  have hall : ∀ c ∈ (cs.reverse.takeWhile isBlank).reverse, isBlank c = true := by
    intro c hc
    exact List.mem_takeWhile_imp (List.mem_reverse.1 hc)
  rw [← trim_append_blanks (trimEnd cs) hall, trimEnd, ← List.reverse_append, List.takeWhile_append_dropWhile,
    List.reverse_reverse]

/-- Behind a solid text only the end is trimmed. -/
theorem Solid.trim_append (h : Solid a) (cs : List Char) : Text.trim (a ++ cs) = a ++ trimEnd cs := by
  obtain ⟨c, r, rfl, hc⟩ := h.front
  obtain ⟨r', c', hr, hc'⟩ := h.back
  have hrev : (c :: r).reverse.dropWhile isBlank = (c :: r).reverse := by rw [hr]; simp [hc']
  have hstart : trimStart (c :: r ++ cs) = c :: r ++ cs := trimStart_of_not_blank hc
  rw [Text.trim, hstart, trimEnd, trimEnd, List.reverse_append, List.dropWhile_append]
  split
  · next hcs =>
    have hcs : cs.reverse.dropWhile isBlank = [] := by simpa using hcs
    rw [hrev, hcs, List.reverse_reverse, List.reverse_nil, List.append_nil]
  · rw [List.reverse_append, List.reverse_reverse]

/-- The longest beginning of a text ends where the characters are others. -/
theorem span_append {p : Char → Bool} (ha : ∀ c ∈ a, p c = true) (hb : ∀ c ∈ b.head?, p c = false) :
    (a ++ b).takeWhile p = a ∧ (a ++ b).dropWhile p = b := by
  rw [List.takeWhile_append_of_pos ha, List.dropWhile_append_of_pos ha]
  cases b with
  | nil => exact ⟨List.append_nil a, rfl⟩
  | cons c b =>
    have hc : ¬ p c = true := by rw [hb c rfl]; exact Bool.false_ne_true
    rw [List.takeWhile_cons_of_neg hc, List.dropWhile_cons_of_neg hc, List.append_nil]
    exact ⟨rfl, rfl⟩

end Text

namespace Excerpt

open Text

variable {e r : Excerpt} {kw : String} {cs w : List Char} {c : Char}

@[simp] theorem chars_take (e : Excerpt) (n : Nat) : (e.take n).chars = e.chars.take n := rfl

@[simp] theorem chars_drop (e : Excerpt) (n : Nat) : (e.drop n).chars = e.chars.drop n := rfl

@[simp] theorem chars_trim (e : Excerpt) : e.trim.chars = Text.trim e.chars := rfl

@[simp] theorem chars_span_fst (e : Excerpt) (p : Char → Bool) : (e.span p).1.chars = e.chars.takeWhile p := rfl

@[simp] theorem chars_span_snd (e : Excerpt) (p : Char → Bool) : (e.span p).2.chars = e.chars.dropWhile p := rfl

theorem isEmpty_iff : e.isEmpty = true ↔ e.chars = [] := List.isEmpty_iff

theorem not_isEmpty (h : e.chars ≠ []) : (!e.isEmpty) = true := by simpa [isEmpty] using h

theorem text_eq_iff {n : String} : e.text = n ↔ e.chars = n.toList := by
  rw [text, ← String.toList_inj, String.toList_ofList]

/-! ## Words -/

/-- Whether a character ends a word. -/
def endsWord (c : Char) : Bool := isAsciiBlank c || c == '('

/-- The first word of a text. -/
def frontWord (cs : List Char) : List Char := cs.takeWhile fun c => !endsWord c

theorem wordEnds_cons : wordEnds (c :: cs) = endsWord c := rfl

theorem wordEnds_iff : wordEnds cs = true ↔ frontWord cs = [] := by
  cases cs with
  | nil => simp [wordEnds, frontWord]
  | cons c cs => cases h : endsWord c <;> simp [wordEnds_cons, frontWord, h]

theorem frontWord_append (hw : ∀ c ∈ w, endsWord c = false) (cs : List Char) :
    frontWord (w ++ cs) = w ++ frontWord cs :=
  List.takeWhile_append_of_pos fun c hc => by rw [hw c hc]; rfl

theorem afterWord?_eq_some : afterWord? kw cs = some w ↔ cs = kw.toList ++ w ∧ wordEnds w = true := by
  rw [afterWord?, Option.filter_eq_some_iff, stripStart?_eq_some]

/-- A keyword without blanks and parentheses stands in front of a text just when it is the first word. -/
theorem afterWord?_isSome (hkw : ∀ c ∈ kw.toList, endsWord c = false) :
    (afterWord? kw cs).isSome = true ↔ frontWord cs = kw.toList := by
  rw [Option.isSome_iff_exists]
  constructor
  · rintro ⟨r, hr⟩
    obtain ⟨rfl, hend⟩ := afterWord?_eq_some.1 hr
    rw [frontWord_append hkw, wordEnds_iff.1 hend, List.append_nil]
  · intro h
    refine ⟨cs.dropWhile fun c => !endsWord c, afterWord?_eq_some.2 ⟨?_, ?_⟩⟩
    · rw [← h, frontWord, List.takeWhile_append_dropWhile]
    · have hhead := List.head?_dropWhile_not (fun c => !endsWord c) cs
      cases hd : cs.dropWhile fun c => !endsWord c with
      | nil => rfl
      | cons c cs => rw [hd] at hhead; simpa [wordEnds_cons] using hhead

/-! ## Keywords -/

/-- A word of capital letters. -/
def IsKeyword (kw : String) : Prop := kw.toList ≠ [] ∧ ∀ c ∈ kw.toList, Token.isCapital c = true

instance (kw : String) : Decidable (IsKeyword kw) :=
  decidable_of_iff (kw.toList ≠ [] ∧ kw.toList.all Token.isCapital = true) (by rw [List.all_eq_true, IsKeyword])

theorem toNat_of_isCapital (h : Token.isCapital c = true) : 65 ≤ c.toNat ∧ c.toNat ≤ 90 := by
  simp only [Token.isCapital, Bool.and_eq_true, decide_eq_true_eq] at h
  exact ⟨h.1, h.2⟩

theorem endsWord_of_isCapital (h : Token.isCapital c = true) : endsWord c = false := by
  have hn := toNat_of_isCapital h
  have hp : c ≠ '(' := by
    rintro rfl
    exact absurd hn (by decide)
  simp only [endsWord, isAsciiBlank, Bool.or_eq_false_iff, beq_eq_false_iff_ne]
  refine ⟨?_, hp⟩
  omega

theorem IsKeyword.endsWord (h : IsKeyword kw) : ∀ c ∈ kw.toList, endsWord c = false :=
  fun c hc => endsWord_of_isCapital (h.2 c hc)

/-- A keyword in front is followed by the end of a word; what follows it is trimmed. -/
theorem afterKeyword?_chars (h : e.afterKeyword? kw = some r) :
    ∃ cs, e.chars = kw.toList ++ cs ∧ wordEnds cs = true ∧ r.chars = Text.trim cs := by
  rw [afterKeyword?] at h
  split at h
  · next hs =>
    obtain ⟨cs, hcs⟩ := Option.isSome_iff_exists.1 hs
    obtain ⟨he, hend⟩ := afterWord?_eq_some.1 hcs
    cases h
    refine ⟨cs, he, hend, ?_⟩
    rw [chars_trim, chars_drop, he, ← String.length_toList, List.drop_left]
  · cases h

theorem afterKeyword?_isSome (hkw : IsKeyword kw) :
    (e.afterKeyword? kw).isSome = true ↔ frontWord e.chars = kw.toList := by
  rw [← afterWord?_isSome hkw.endsWord, afterKeyword?, startsWith]
  split <;> simp_all

theorem afterKeyword?_eq_none (hkw : IsKeyword kw)
    (h : frontWord e.chars ≠ kw.toList) : e.afterKeyword? kw = none := by
  have hs := mt (afterKeyword?_isSome (e := e) hkw).1 h
  simpa using hs

/-- What follows a keyword that is written in front. -/
theorem afterKeyword?_written (hkw : IsKeyword kw) (h : e.chars = kw.toList ++ cs)
    (hend : wordEnds cs = true) : ∃ r, e.afterKeyword? kw = some r ∧ r.chars = Text.trim cs := by
  have hs : (e.afterKeyword? kw).isSome = true := by
    rw [afterKeyword?_isSome hkw, h, frontWord_append hkw.endsWord, wordEnds_iff.1 hend, List.append_nil]
  obtain ⟨r, hr⟩ := Option.isSome_iff_exists.1 hs
  obtain ⟨cs', h', -, hrc⟩ := afterKeyword?_chars hr
  rw [h] at h'
  exact ⟨r, hr, by rw [hrc, List.append_cancel_left h']⟩

/-- A keyword in front is no other. -/
theorem afterKeyword?_other {other : String} (hkw : IsKeyword kw) (hother : IsKeyword other) (hne : other ≠ kw)
    (h : e.chars = other.toList ++ cs) (hend : wordEnds cs = true) : e.afterKeyword? kw = none := by
  refine afterKeyword?_eq_none hkw ?_
  rw [h, frontWord_append hother.endsWord, wordEnds_iff.1 hend, List.append_nil]
  exact fun he => hne (String.toList_inj.1 he)

/-! ## Tokens -/

/-- Whether a character ends a token. -/
def endsToken (c : Char) : Bool := isBlank c || c == '('

theorem chars_token (e : Excerpt) : e.splitToken.1.chars = (Text.trim e.chars).takeWhile fun c => !endsToken c := by
  rw [splitToken, chars_span_fst, chars_trim]
  rfl

theorem chars_afterToken (e : Excerpt) :
    e.splitToken.2.chars = Text.trim ((Text.trim e.chars).dropWhile fun c => !endsToken c) := by
  rw [splitToken, chars_trim, chars_span_snd, chars_trim]
  rfl

/-- A token that is written in front, and what follows it. -/
theorem splitToken_chars (hw : ∀ c ∈ w, endsToken c = false) (hne : w ≠ [])
    (h : Text.trim e.chars = Text.trim (w ++ cs)) (hcs : ∀ c ∈ cs.head?, endsToken c = true) :
    e.splitToken.1.chars = w ∧ e.splitToken.2.chars = Text.trim cs := by
  have hsolid : Solid w := .word hne fun c hc => (Bool.or_eq_false_iff.1 (hw c hc)).1
  have hend : ∀ c ∈ (trimEnd cs).head?, endsToken c = true := by
    intro c hc
    have hpre : trimEnd cs <+: cs := by
      rw [← List.reverse_suffix, trimEnd, List.reverse_reverse]
      exact List.dropWhile_suffix _
    obtain ⟨r, hr⟩ := hpre
    apply hcs
    rw [← hr, List.head?_append, hc]
    rfl
  have hpos : ∀ c ∈ w, (!endsToken c) = true := fun c hc => by rw [hw c hc]; rfl
  rw [chars_token, chars_afterToken, h, hsolid.trim_append, List.takeWhile_append_of_pos hpos,
    List.dropWhile_append_of_pos hpos]
  cases ht : trimEnd cs with
  | nil => exact ⟨by simp, by rw [← trim_trimEnd cs, ht]; rfl⟩
  | cons c r =>
    rw [ht] at hend
    have hc := hend c rfl
    exact ⟨by simp [hc], by rw [← trim_trimEnd cs, ht, List.dropWhile_cons_of_neg (by simp [hc])]⟩

end Excerpt
end SlotSql
