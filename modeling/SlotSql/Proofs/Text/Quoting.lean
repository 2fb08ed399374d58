import SlotSql.Proofs.Statement.Excerpt
/-!
# Where quotes are open

A text is read from its front, and every character stands outside quotes, between them, or behind a backslash that takes
its meaning away. Which quotes know such a backslash depends on the reader.

Results:
* `after_append`, `avoids_append`: a text is read in parts.
* `after_trim`: blanks around a text do not open or close quotes.
-/
namespace SlotSql.Text

/-- Where a character stands. -/
inductive QuotePlace where
  | outside
  | inside (quote : Char)
  /-- Behind a backslash between quotes. -/
  | escaping (quote : Char)
  deriving DecidableEq, Repr

namespace QuotePlace

/-- The place where a quote is open, or none. -/
def ofQuote : Option Char → QuotePlace
  | none => outside
  | some q => inside q

/-- The place behind a character; `escapes` are the quotes between which a backslash has a meaning. -/
def step (escapes : Char → Bool) : QuotePlace → Char → QuotePlace
  | outside, c => if c = '\x27' ∨ c = '\x22' then inside c else outside
  | inside q, c => if c = q then outside else if c = '\\' ∧ escapes q = true then escaping q else inside q
  | escaping q, _ => inside q

/-- The place behind a text. -/
def after (escapes : Char → Bool) (p : QuotePlace) (cs : List Char) : QuotePlace := cs.foldl (step escapes) p

/-- Whether a character does not stand outside quotes in a text. -/
def Avoids (escapes : Char → Bool) (bad : Char) : QuotePlace → List Char → Prop
  | _, [] => True
  | p, c :: cs => (p = outside → c ≠ bad) ∧ Avoids escapes bad (p.step escapes c) cs

variable {escapes : Char → Bool} {p : QuotePlace} {a b cs : List Char} {c q bad : Char}

theorem inside_ne_outside : inside q ≠ outside := by simp

theorem escaping_ne_outside : escaping q ≠ outside := by simp

theorem after_cons : p.after escapes (c :: cs) = (p.step escapes c).after escapes cs := rfl

theorem after_append : p.after escapes (a ++ b) = (p.after escapes a).after escapes b := List.foldl_append ..

theorem avoids_append :
    Avoids escapes bad p (a ++ b) ↔ Avoids escapes bad p a ∧ Avoids escapes bad (p.after escapes a) b := by
  induction a generalizing p with
  | nil => simp [Avoids, after]
  | cons c a ih => simp [Avoids, ih, and_assoc, after_cons]

/-! ## Steps -/

theorem step_opening (h : c = '\x27' ∨ c = '\x22') : outside.step escapes c = inside c := if_pos h

theorem step_plain (h : ¬ (c = '\x27' ∨ c = '\x22')) : outside.step escapes c = outside := if_neg h

theorem step_closing : (inside c).step escapes c = outside := if_pos rfl

theorem step_escape (h : c ≠ q) (hc : c = '\\' ∧ escapes q = true) : (inside q).step escapes c = escaping q := by
  rw [step, if_neg h, if_pos hc]

theorem step_inside (h : c ≠ q) (hc : ¬ (c = '\\' ∧ escapes q = true)) : (inside q).step escapes c = inside q := by
  rw [step, if_neg h, if_neg hc]

theorem step_escaping : (escaping q).step escapes c = inside q := rfl

/-! ## Blanks around a text -/

/-- Whether a place stands between quotes, if not outside of them. -/
def Quoted : QuotePlace → Prop
  | outside => True
  | inside q | escaping q => q = '\x27' ∨ q = '\x22'

theorem Quoted.step (h : p.Quoted) (c : Char) : (p.step escapes c).Quoted := by
  cases p with
  | outside =>
    by_cases hc : c = '\x27' ∨ c = '\x22'
    · rw [step_opening hc]; exact hc
    · rw [step_plain hc]; trivial
  | inside q =>
    rw [QuotePlace.step]
    split
    · trivial
    · split <;> exact h
  | escaping q => exact h

theorem Quoted.after (h : p.Quoted) (cs : List Char) : (p.after escapes cs).Quoted := by
  induction cs generalizing p with
  | nil => exact h
  | cons c cs ih => exact ih (h.step c)

theorem not_quote_of_isBlank (hc : isBlank c = true) : ¬ (c = '\x27' ∨ c = '\x22') := by
  rintro (rfl | rfl) <;> exact absurd hc (by decide)

/-- A blank does not close quotes. -/
theorem step_blank (h : p.Quoted) (hc : isBlank c = true) : p.step escapes c = outside ↔ p = outside := by
  cases p with
  | outside => simp [step_plain (not_quote_of_isBlank hc)]
  | inside q =>
    have hne : c ≠ q := fun he => not_quote_of_isBlank hc (he ▸ h)
    rw [QuotePlace.step, if_neg hne]
    split <;> simp
  | escaping q => simp [QuotePlace.step]

theorem after_blanks (h : p.Quoted) (hcs : ∀ c ∈ cs, isBlank c = true) :
    p.after escapes cs = outside ↔ p = outside := by
  induction cs generalizing p with
  | nil => rfl
  | cons c cs ih =>
    obtain ⟨hc, hcs⟩ := List.forall_mem_cons.1 hcs
    rw [after_cons, ih (h.step c) hcs, step_blank h hc]

/-- Blanks around a text do not open or close quotes. -/
theorem after_trim (cs : List Char) :
    outside.after escapes (trim cs) = outside ↔ outside.after escapes cs = outside := by
  obtain ⟨x, y, hx, hy, hcs⟩ := exists_trim cs
  have hfront : outside.after escapes x = outside := (after_blanks (p := outside) trivial hx).2 rfl
  have hquoted : (outside.after escapes (trim cs)).Quoted := Quoted.after (p := outside) trivial _
  conv_rhs => rw [hcs, after_append, after_append, hfront, after_blanks hquoted hy]

end QuotePlace
end SlotSql.Text
