import Mathlib.Data.List.SplitBy
import Mathlib.Data.List.TakeWhile
import SlotSql.Text.Blank
import SlotSql.Text.Pieces
/-!
# Pieces of texts

Words with blanks between them, and pieces that do not hold their separator, are found again in the text that they make
up.

Results:
* `words_cons`, `words_word`: words with single blanks between them are found again.
* `isBlank_toDigits`: no digit of a number is blank.
* `exists_trim`, `trim_eq_self`, `trim_trim`: what trimming takes away, and texts that it leaves alone.
* `split_eq_cons_iff`: the pieces of a text, in both directions.
* `cut?_pair`, `cut?_cons`, `cut?_eq_none`, `stripEnd?_eq_some`: cuts at a doubled character, at one character and at the end
  of a text.
* `pieces_aligned`: pieces with separators in front are determined by their number.
-/
namespace SlotSql.Text

/-! ## Words between blanks -/

theorem splitBy_word {w : List Char} (hw : w ≠ []) (h : ∀ c ∈ w, isBlank c = false) :
    (w.splitBy fun a b => isBlank a == isBlank b) = [w] := by
  refine List.splitBy_of_isChain hw ?_
  have hchain : ∀ (c : Char) (w : List Char), isBlank c = false → (∀ c ∈ w, isBlank c = false) →
      (c :: w).IsChain fun a b => (isBlank a == isBlank b) = true := by
    intro c w hc hw
    induction w generalizing c with
    | nil => exact .singleton c
    | cons d w ih =>
      have hd := hw d List.mem_cons_self
      exact .cons_cons (by rw [hc, hd]; rfl) (ih d hd fun e he => hw e (List.mem_cons_of_mem _ he))
  cases w with
  | nil => exact absurd rfl hw
  | cons c w => exact hchain c w (h c List.mem_cons_self) fun d hd => h d (List.mem_cons_of_mem _ hd)

theorem words_word {w : List Char} (hw : w ≠ []) (h : ∀ c ∈ w, isBlank c = false) :
    words w = [w] := by
  unfold words
  rw [splitBy_word hw h]
  obtain ⟨c, w, rfl⟩ := List.exists_cons_of_ne_nil hw
  simp [h c List.mem_cons_self]

/-- A word in front of a blank and more words is the first of the words. -/
theorem words_cons {w r : List Char} (hw : w ≠ []) (h : ∀ c ∈ w, isBlank c = false)
    (hr : ∀ c ∈ r.head?, isBlank c = false) : words (w ++ ' ' :: r) = w :: words r := by
  have hb : isBlank ' ' = true := by decide
  have hlast : ∀ x ∈ w.getLast?, (isBlank x == isBlank ' ') = false := fun x hx => by
    rw [h x (List.mem_of_getLast? hx), hb]; rfl
  have hrest : ((' ' :: r).splitBy fun a b => isBlank a == isBlank b) =
      [' '] :: r.splitBy fun a b => isBlank a == isBlank b := by
    refine List.splitBy_append (l := [' ']) fun x hx y hy => ?_
    have hx : ' ' = x := Option.some.inj hx
    rw [← hx, hb, hr y hy]
    rfl
  unfold words
  rw [List.splitBy_append_cons _ hlast, splitBy_word hw h, hrest, List.filter_append]
  obtain ⟨d, w, rfl⟩ := List.exists_cons_of_ne_nil hw
  simp [h d List.mem_cons_self, hb]

theorem isBlank_digitChar : ∀ d, d < 16 → isBlank (Nat.digitChar d) = false := by
  decide +kernel

theorem isBlank_toDigits {b : Nat} (hb : 1 < b) (hb' : b ≤ 16) (n : Nat) :
    ∀ c ∈ Nat.toDigits b n, isBlank c = false := by
  induction n using Nat.strongRecOn with
  | ind n ih =>
    intro c hc
    rw [Nat.toDigits_eq_if hb] at hc
    split at hc
    · rw [List.mem_singleton.1 hc]; exact isBlank_digitChar n (by omega)
    · next hn =>
      rcases List.mem_append.1 hc with hc | hc
      · exact ih (n / b) (Nat.div_lt_self (by omega) hb) c hc
      · rw [List.mem_singleton.1 hc]
        exact isBlank_digitChar _ (Nat.lt_of_lt_of_le (Nat.mod_lt _ (by omega)) hb')

/-! ## Trimming -/

variable {cs : List Char}

theorem dropWhile_blank_eq_self (h : ∀ c ∈ cs.head?, isBlank c = false) : cs.dropWhile isBlank = cs := by
  cases cs with
  | nil => rfl
  | cons c cs => rw [List.dropWhile_cons_of_neg (by rw [h c rfl]; exact Bool.false_ne_true)]

theorem trim_eq_self (h : ∀ c ∈ cs, isBlank c = false) : trim cs = cs := by
  have h1 : trimStart cs = cs := dropWhile_blank_eq_self fun c hc => h c (List.mem_of_head? hc)
  rw [trim, h1, trimEnd, dropWhile_blank_eq_self, List.reverse_reverse]
  intro c hc
  exact h c (List.mem_reverse.1 (List.mem_of_head? hc))

theorem head?_dropWhile_blank (cs : List Char) : ∀ c ∈ (cs.dropWhile isBlank).head?, isBlank c = false := by
  intro c hc
  have := List.head?_dropWhile_not isBlank cs
  rw [hc] at this
  exact this

/-- What has been trimmed does not begin with a blank. -/
theorem head?_trim (cs : List Char) : ∀ c ∈ (trim cs).head?, isBlank c = false := by
  intro c hc
  refine head?_dropWhile_blank cs c ?_
  have hpre : trim cs <+: trimStart cs := by
    rw [trim, trimEnd, ← List.reverse_suffix, List.reverse_reverse]
    exact List.dropWhile_suffix _
  obtain ⟨r, hr⟩ := hpre
  show c ∈ (trimStart cs).head?
  rw [← hr, List.head?_append, hc]
  rfl

/-- What has been trimmed does not end with a blank. -/
theorem head?_reverse_trim (cs : List Char) : ∀ c ∈ (trim cs).reverse.head?, isBlank c = false := by
  rw [trim, trimEnd, List.reverse_reverse]
  exact head?_dropWhile_blank _

/-- What is left of a text by trimming stands between blanks. -/
theorem exists_trim (cs : List Char) : ∃ x y, (∀ c ∈ x, isBlank c = true) ∧ (∀ c ∈ y, isBlank c = true) ∧
    cs = x ++ trim cs ++ y := by
  have hall : ∀ l : List Char, ∀ c ∈ l.takeWhile isBlank, isBlank c = true := fun l c hc =>
    List.mem_takeWhile_imp hc
  refine ⟨cs.takeWhile isBlank, ((trimStart cs).reverse.takeWhile isBlank).reverse, hall _, ?_, ?_⟩
  · intro c hc
    exact hall _ c (List.mem_reverse.1 hc)
  · rw [trim, trimEnd, List.append_assoc, ← List.reverse_append, List.takeWhile_append_dropWhile,
      List.reverse_reverse, trimStart, List.takeWhile_append_dropWhile]

/-- Trimming adds no character. -/
theorem mem_of_mem_trim {c : Char} (h : c ∈ trim cs) : c ∈ cs := by
  obtain ⟨x, y, -, -, he⟩ := exists_trim cs
  rw [he]
  exact List.mem_append_left _ (List.mem_append_right _ h)

/-- It takes blanks away. -/
theorem mem_trim_of_mem {c : Char} (h : c ∈ cs) (hc : isBlank c = false) : c ∈ trim cs := by
  obtain ⟨x, y, hx, hy, he⟩ := exists_trim cs
  rw [he, List.mem_append, List.mem_append] at h
  rcases h with (h | h) | h
  · exact absurd (hx c h) (by simp [hc])
  · exact h
  · exact absurd (hy c h) (by simp [hc])

/-- What has been trimmed stays as it is. -/
theorem trim_trim (cs : List Char) : trim (trim cs) = trim cs := by
  have h1 : trimStart (trim cs) = trim cs := dropWhile_blank_eq_self (head?_trim cs)
  have h2 : trim (trim cs) = ((trimStart (trim cs)).reverse.dropWhile isBlank).reverse := rfl
  rw [h2, h1, dropWhile_blank_eq_self (head?_reverse_trim cs), List.reverse_reverse]

theorem trimmed_trimmed (s : String) : trimmed (trimmed s) = trimmed s := by
  unfold trimmed
  rw [String.toList_ofList, trim_trim]

variable {sep : Char} {p r : List Char} {ps : List (List Char)}

/-! ## Pieces between separators -/

theorem split_of_notMem (h : sep ∉ p) : split sep p = [p] := by
  induction p with
  | nil => rfl
  | cons c p ih =>
    rw [List.mem_cons, not_or] at h
    rw [split, if_neg (Ne.symm h.1), ih h.2]

theorem split_append_cons (h : sep ∉ p) (r : List Char) : split sep (p ++ sep :: r) = p :: split sep r := by
  induction p with
  | nil => rw [List.nil_append, split, if_pos rfl]
  | cons c p ih =>
    rw [List.mem_cons, not_or] at h
    rw [List.cons_append, split, if_neg (Ne.symm h.1), ih h.2]

theorem split_joined (hp : sep ∉ p) (h : ∀ q ∈ ps, sep ∉ q) :
    split sep (p ++ ps.flatMap (sep :: ·)) = p :: ps := by
  induction ps generalizing p with
  | nil => rw [List.flatMap_nil, List.append_nil, split_of_notMem hp]
  | cons q ps ih =>
    rw [List.flatMap_cons, List.cons_append, split_append_cons hp,
      ih (h q List.mem_cons_self) fun q' hq => h q' (List.mem_cons_of_mem _ hq)]

theorem notMem_of_mem_split {q : List Char} (h : q ∈ split sep cs) : sep ∉ q := by
  induction cs generalizing q with
  | nil => rw [split, List.mem_singleton] at h; subst h; exact List.not_mem_nil
  | cons c cs ih =>
    rw [split] at h
    split at h
    · rcases List.mem_cons.1 h with rfl | h
      · exact List.not_mem_nil
      · exact ih h
    · next hc =>
      cases hs : split sep cs with
      | nil => exact absurd hs (split_ne_nil sep cs)
      | cons p ps =>
        rw [hs] at h ih
        rcases List.mem_cons.1 h with rfl | h
        · rw [List.mem_cons, not_or]
          exact ⟨fun he => hc he.symm, ih List.mem_cons_self⟩
        · exact ih (List.mem_cons_of_mem _ h)

theorem join_cons (p : List Char) (ps : List (List Char)) :
    join [sep] (p :: ps) = p ++ ps.flatMap (sep :: ·) := by
  induction ps generalizing p with
  | nil => rw [join, List.flatMap_nil, List.append_nil]
  | cons q ps ih =>
    rw [join, ih, List.flatMap_cons, List.append_assoc]
    rfl

/-- The pieces of a text are those without the separator that make it up. -/
theorem split_eq_cons_iff : split sep cs = p :: ps ↔
    cs = p ++ ps.flatMap (sep :: ·) ∧ sep ∉ p ∧ ∀ q ∈ ps, sep ∉ q := by
  constructor
  · intro h
    refine ⟨?_, notMem_of_mem_split (h ▸ List.mem_cons_self),
      fun q hq => notMem_of_mem_split (h ▸ List.mem_cons_of_mem _ hq)⟩
    rw [← join_cons, ← h, join_split]
  · rintro ⟨rfl, hp, h⟩
    exact split_joined hp h

/-! ## Cuts -/

/-- A cut at a doubled character that is not in front of it. -/
theorem cut?_pair {a : Char} (h : a ∉ p) (r : List Char) : cut? [a, a] (p ++ a :: a :: r) = some (p, r) := by
  induction p with
  | nil => simp [cut?, stripStart?]
  | cons c p ih =>
    rw [List.mem_cons, not_or] at h
    have hne : stripStart? [a, a] (c :: (p ++ a :: a :: r)) = none := by
      rw [stripStart?, if_neg h.1]
    rw [List.cons_append, cut?, hne, ih h.2]
    rfl

/-- A cut at a character that is not in front of it. -/
theorem cut?_cons {a : Char} (h : a ∉ p) (r : List Char) : cut? [a] (p ++ a :: r) = some (p, r) := by
  induction p with
  | nil => simp [cut?, stripStart?]
  | cons c p ih =>
    rw [List.mem_cons, not_or] at h
    have hne : stripStart? [a] (c :: (p ++ a :: r)) = none := by
      rw [stripStart?, if_neg h.1]
    rw [List.cons_append, cut?, hne, ih h.2]
    rfl

/-- There is no cut at a character that does not occur. -/
theorem cut?_eq_none {a : Char} (h : a ∉ p) : cut? [a] p = none := by
  induction p with
  | nil => rfl
  | cons c p ih =>
    rw [List.mem_cons, not_or] at h
    have hne : stripStart? [a] (c :: p) = none := by
      rw [stripStart?, if_neg h.1]
    rw [cut?, hne, ih h.2]
    rfl

theorem stripEnd?_eq_some {stop : List Char} : stripEnd? stop cs = some r ↔ cs = r ++ stop := by
  unfold stripEnd?
  rw [Option.map_eq_some_iff]
  constructor
  · rintro ⟨x, hx, rfl⟩
    rw [stripStart?_eq_some] at hx
    rw [← List.reverse_reverse cs, hx, List.reverse_append, List.reverse_reverse]
  · rintro rfl
    exact ⟨r.reverse, stripStart?_eq_some.2 (by rw [List.reverse_append]), List.reverse_reverse r⟩

/-! ## Pieces behind separators -/

section Aligned

variable {α : Type} [DecidableEq α] {a : α}

theorem count_flatMap_cons (xs : List (List α)) :
    (xs.flatMap (a :: ·)).count a = xs.length + xs.flatten.count a := by
  induction xs with
  | nil => rfl
  | cons x xs ih =>
    rw [List.flatMap_cons, List.cons_append, List.count_cons_self, List.count_append, ih,
      List.length_cons, List.flatten_cons, List.count_append]
    omega

omit [DecidableEq α] in
/-- Two texts without a separator are equal if they are alike up to the next one. -/
theorem eq_of_append_cons {x y r s : List α} (hx : a ∉ x) (hy : a ∉ y) (h : x ++ a :: r = y ++ a :: s) :
    x = y ∧ r = s := by
  induction x generalizing y with
  | nil =>
    cases y with
    | nil => exact ⟨rfl, List.tail_eq_of_cons_eq h⟩
    | cons b y =>
      rw [List.nil_append, List.cons_append] at h
      injection h with h1 _
      exact absurd (h1 ▸ List.mem_cons_self) hy
  | cons c x ih =>
    rw [List.mem_cons, not_or] at hx
    cases y with
    | nil =>
      rw [List.nil_append, List.cons_append] at h
      injection h with h1 _
      exact absurd h1.symm hx.1
    | cons b y =>
      rw [List.mem_cons, not_or] at hy
      rw [List.cons_append, List.cons_append] at h
      injection h with h1 h2
      obtain ⟨h3, h4⟩ := ih hx.2 hy.2 h2
      exact ⟨by rw [h1, h3], h4⟩

/-- Pieces with a separator in front of each are determined by the text and by their number, if the
pieces of one side do not hold the separator. -/
theorem pieces_aligned {xs ys : List (List α)} (hl : xs.length = ys.length) (hy : ∀ y ∈ ys, a ∉ y)
    (h : xs.flatMap (a :: ·) = ys.flatMap (a :: ·)) : xs = ys := by
  -- There are no more separators than pieces, so the others do not hold one either.
  have hx : ∀ x ∈ xs, a ∉ x := by
    have hzero : ys.flatten.count a = 0 := by
      refine List.count_eq_zero.2 fun hmem => ?_
      obtain ⟨y, hy', ha⟩ := List.mem_flatten.1 hmem
      exact hy y hy' ha
    have hc := congrArg (List.count a) h
    rw [count_flatMap_cons, count_flatMap_cons, hzero] at hc
    have hnone : xs.flatten.count a = 0 := by omega
    exact fun x hx hax => List.count_eq_zero.1 hnone (List.mem_flatten_of_mem hx hax)
  induction xs generalizing ys with
  | nil => exact (List.length_eq_zero_iff.1 hl.symm).symm
  | cons x xs ih =>
    cases ys with
    | nil => cases hl
    | cons y ys =>
      have hxx := hx x List.mem_cons_self
      have hyy := hy y List.mem_cons_self
      simp only [List.length_cons, Nat.add_right_cancel_iff] at hl
      simp only [List.flatMap_cons, List.cons_append, List.cons.injEq, true_and] at h
      have hone : x = y ∧ xs.flatMap (a :: ·) = ys.flatMap (a :: ·) := by
        cases xs with
        | nil =>
          have hys : ys = [] := List.length_eq_zero_iff.1 hl.symm
          subst hys
          simpa using h
        | cons x' xs =>
          cases ys with
          | nil => cases hl
          | cons y' ys =>
            simp only [List.flatMap_cons, List.cons_append] at h ⊢
            obtain ⟨h1, h2⟩ := eq_of_append_cons hxx hyy h
            exact ⟨h1, by rw [h2]⟩
      rw [hone.1, ih hl (fun y' hm => hy y' (List.mem_cons_of_mem _ hm)) hone.2
        fun x' hm => hx x' (List.mem_cons_of_mem _ hm)]

end Aligned

end SlotSql.Text
