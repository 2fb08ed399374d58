import SlotSql.Proofs.Statement.Excerpt
import SlotSql.Proofs.Statement.Rendering
/-!
# Quotes and parentheses

The searches for keywords, commas and closing parentheses all keep count of quotes and parentheses, and see
only quotes, parentheses and commas: what else stands in a text makes no difference to what is outside. So a
text may be written with other blanks, and its parts are found again.

Results:
* `avoids_delimiters`, `run_delimiters`: only delimiters matter.
* `pieces_piecesAt`, `piecesAt_join`: pieces between commas, taken apart and put together.
* `closing?_eq_some`: where the parenthesis stands that closes a group.
* `Passes`, `findKeyword_next`: a search passes over words and stops at the keyword.
-/
namespace SlotSql.Excerpt

open Text

/-- Where a text stands: inside quotes or not, and how many parentheses deep. -/
structure Level where
  quoted : Bool
  depth : Nat
  deriving DecidableEq

namespace Level

/-- Outside quotes and parentheses. -/
def ground : Level := ⟨false, 0⟩

/-- The level behind a character. -/
def step (l : Level) (c : Char) : Level :=
  if c = quote then ⟨!l.quoted, l.depth⟩
  else if l.quoted then l
  else if c = '(' then ⟨false, l.depth + 1⟩
  else if c = ')' then ⟨false, l.depth - 1⟩
  else l

/-- The level behind a text. -/
def run (l : Level) (cs : List Char) : Level := cs.foldl step l

/-- A character does not stand outside quotes and parentheses. -/
def Avoids (bad : Char) : Level → List Char → Prop
  | _, [] => True
  | l, c :: cs => (l = ground → c ≠ bad) ∧ Avoids bad (l.step c) cs

/-- Texts that commas outside quotes and parentheses stand between. -/
def Pieces : Level → List (List Char) → Prop
  | _, [] => False
  | l, [p] => Avoids ',' l p
  | l, p :: q :: ps => Avoids ',' l p ∧ l.run p = ground ∧ Pieces ground (q :: ps)

end Level

/-- A character that the searches outside quotes and parentheses look at. -/
def isDelimiter (c : Char) : Bool := c == quote || c == '(' || c == ')' || c == ','

/-- The quotes, parentheses and commas of a text. -/
def delimiters (cs : List Char) : List Char := cs.filter isDelimiter

@[simp] theorem delimiters_append (a b : List Char) : delimiters (a ++ b) = delimiters a ++ delimiters b :=
  List.filter_append ..

theorem delimiters_eq_nil {cs : List Char} : delimiters cs = [] ↔ ∀ c ∈ cs, isDelimiter c = false := by
  simp [delimiters]

theorem delimiters_cons {c : Char} (hc : isDelimiter c = false) (cs : List Char) : delimiters (c :: cs) = delimiters cs :=
  List.filter_cons_of_neg (by simp [hc])

theorem delimiters_blanks {cs : List Char} (h : ∀ c ∈ cs, isBlank c = true) : delimiters cs = [] := by
  refine delimiters_eq_nil.2 fun c hc => ?_
  cases hd : isDelimiter c with
  | false => rfl
  | true =>
    have hblank := h c hc
    simp only [isDelimiter, Bool.or_eq_true, beq_iff_eq] at hd
    rcases hd with ((rfl | rfl) | rfl) | rfl <;> exact absurd hblank (by decide)

theorem delimiters_trim (cs : List Char) : delimiters (Text.trim cs) = delimiters cs := by
  obtain ⟨x, y, hx, hy, he⟩ := exists_trim cs
  have h := congrArg delimiters he
  rw [delimiters_append, delimiters_append, delimiters_blanks hx, delimiters_blanks hy, List.nil_append,
    List.append_nil] at h
  exact h.symm

namespace Level

variable {l : Level} {bad c : Char} {a b cs : List Char}

@[simp] theorem run_nil (l : Level) : l.run [] = l := rfl

@[simp] theorem run_cons (l : Level) (c : Char) (cs : List Char) : l.run (c :: cs) = (l.step c).run cs := rfl

@[simp] theorem run_append (l : Level) (a b : List Char) : l.run (a ++ b) = (l.run a).run b :=
  List.foldl_append ..

theorem avoids_append : Avoids bad l (a ++ b) ↔ Avoids bad l a ∧ Avoids bad (l.run a) b := by
  induction a generalizing l with
  | nil => simp [Avoids]
  | cons c a ih => simp [Avoids, ih, and_assoc]

theorem step_of_not (h : isDelimiter c = false) : l.step c = l := by
  simp only [isDelimiter, Bool.or_eq_false_iff, beq_eq_false_iff_ne] at h
  simp [step, h]

theorem run_delimiters (l : Level) (cs : List Char) : l.run (delimiters cs) = l.run cs := by
  induction cs generalizing l with
  | nil => rfl
  | cons c cs ih =>
    cases h : isDelimiter c with
    | true => simp [delimiters, h, ← ih (l.step c)]
    | false => simp [delimiters, h, step_of_not, ← ih l]

theorem avoids_delimiters (hb : isDelimiter bad = true) : Avoids bad l (delimiters cs) ↔ Avoids bad l cs := by
  induction cs generalizing l with
  | nil => rfl
  | cons c cs ih =>
    cases h : isDelimiter c with
    | true =>
      rw [delimiters, List.filter_cons_of_pos h]
      exact and_congr_right fun _ => ih
    | false =>
      have hne : c ≠ bad := by
        rintro rfl
        rw [hb] at h
        cases h
      rw [delimiters, List.filter_cons_of_neg (by simp [h]), Avoids, step_of_not h]
      exact ⟨fun hcs => ⟨fun _ => hne, ih.1 hcs⟩, fun hcs => ih.2 hcs.2⟩

theorem run_plain (h : delimiters cs = []) (l : Level) : l.run cs = l := by
  rw [← run_delimiters, h]
  rfl

/-- Texts with the same delimiters lead to the same level. -/
theorem run_congr (h : delimiters a = delimiters b) : l.run a = l.run b := by
  rw [← run_delimiters, h, run_delimiters]

theorem avoids_congr (hb : isDelimiter bad = true) (h : delimiters a = delimiters b) :
    Avoids bad l a ↔ Avoids bad l b := by
  rw [← avoids_delimiters hb, h, avoids_delimiters hb]

theorem pieces_congr {ps qs : List (List Char)} (h : ps.map delimiters = qs.map delimiters) :
    Pieces l ps ↔ Pieces l qs := by
  induction ps generalizing l qs with
  | nil => cases qs with
    | nil => rfl
    | cons q qs => cases h
  | cons p ps ih =>
    cases qs with
    | nil => cases h
    | cons q qs =>
      obtain ⟨hpq, hrest⟩ := List.cons.inj h
      cases ps with
      | nil => cases qs with
        | nil => exact avoids_congr (by decide) hpq
        | cons q' qs => cases hrest
      | cons p' ps => cases qs with
        | nil => cases hrest
        | cons q' qs =>
          rw [Pieces, Pieces, avoids_congr (by decide) hpq, run_congr hpq, ih hrest]

/-- Commas do not change the level. -/
theorem run_commas (h : ∀ c ∈ delimiters cs, c = ',') (l : Level) : l.run cs = l := by
  rw [← run_delimiters]
  generalize delimiters cs = ds at h
  induction ds with
  | nil => rfl
  | cons c ds ih =>
    obtain ⟨rfl, hrest⟩ := List.forall_mem_cons.1 h
    have hstep : l.step ',' = l := by simp [step, quote]
    rw [run_cons, hstep, ih hrest]

theorem avoids_commas (h : ∀ c ∈ delimiters cs, c = ',') (l : Level) : Avoids ')' l cs := by
  rw [← avoids_delimiters (by decide)]
  generalize delimiters cs = ds at h
  induction ds generalizing l with
  | nil => trivial
  | cons c ds ih =>
    obtain ⟨rfl, hrest⟩ := List.forall_mem_cons.1 h
    exact ⟨fun _ => by decide, ih _ hrest⟩

/-- Texts that close what they open, without commas outside, can stand between commas. -/
theorem pieces_of_closed {ps : List (List Char)} (hne : ps ≠ [])
    (h : ∀ p ∈ ps, Avoids ',' ground p ∧ ground.run p = ground) : Pieces ground ps := by
  induction ps with
  | nil => exact absurd rfl hne
  | cons p ps ih =>
    obtain ⟨⟨hp, hrun⟩, hrest⟩ := List.forall_mem_cons.1 h
    cases ps with
    | nil => exact hp
    | cons q ps => exact ⟨hp, hrun, ih (by simp) hrest⟩

end Level

/-! ## Splitting at commas -/

/-- The level of a place. -/
def Place.level (p : Place) : Level := ⟨p.quoted, p.depth⟩

section Place

open Level

variable {p q : Place} {kw : String} {c : Char} {cs w : List Char}

@[simp] theorem level_step (p : Place) (c : Char) : (p.step c).level = p.level.step c := by
  unfold Place.step Level.step Place.level
  split
  · rfl
  · cases p.quoted
    · simp only [Bool.false_eq_true, if_false]
      split
      · rfl
      · split <;> rfl
    · rfl

theorem quoted_step (p : Place) (c : Char) : (p.step c).quoted = if c = quote then !p.quoted else p.quoted := by
  unfold Place.step
  by_cases hq : c = quote
  · simp [hq]
  · cases hp : p.quoted with
    | true => simp [hq]
    | false =>
      rw [if_neg hq, if_neg hq, if_neg Bool.false_ne_true]
      split
      · rfl
      · split <;> rfl

theorem wordStart_step (p : Place) (c : Char) : (p.step c).wordStart = isAsciiBlank c := by
  unfold Place.step
  split
  · rfl
  · split
    · rfl
    · split
      · rfl
      · split <;> rfl

theorem isOpen_iff : p.isOpen = true ↔ p.level = ground := by
  simp [Place.isOpen, Place.level, ground]

theorem atComma_iff : (c == ',' && !p.isMark c && p.isOpen) = true ↔ p.level = ground ∧ c = ',' := by
  rw [Bool.and_eq_true, isOpen_iff, and_comm]
  refine and_congr_right fun _ => ?_
  simp only [Bool.and_eq_true, beq_iff_eq]
  refine and_iff_left_of_imp ?_
  rintro rfl
  simp [Place.isMark, quote]

theorem piecesAt_ne_nil (sep : Char) (p : Place) (cs : List Char) : piecesAt sep p cs ≠ [] := by
  cases cs with
  | nil => simp [piecesAt]
  | cons c cs =>
    rw [piecesAt]
    split
    · simp
    · split <;> simp

/-- A character that is not such a comma belongs to the first piece. -/
theorem piecesAt_cons (cs : List Char) (h : ¬ (p.level = ground ∧ c = ',')) : ∃ a ps, piecesAt ',' (p.step c) cs = a :: ps ∧
    piecesAt ',' p (c :: cs) = (c :: a) :: ps := by
  obtain ⟨a, ps, hps⟩ := List.exists_cons_of_ne_nil (piecesAt_ne_nil ',' (p.step c) cs)
  refine ⟨a, ps, hps, ?_⟩
  rw [piecesAt, if_neg (mt atComma_iff.1 h), hps]

/-- The pieces stand between commas outside quotes and parentheses, and joined they are the text. -/
theorem pieces_piecesAt (p : Place) (cs : List Char) :
    Pieces p.level (piecesAt ',' p cs) ∧ join [','] (piecesAt ',' p cs) = cs := by
  induction cs generalizing p with
  | nil => exact ⟨trivial, rfl⟩
  | cons c cs ih =>
    obtain ⟨hp, hj⟩ := ih (p.step c)
    by_cases h : p.level = ground ∧ c = ','
    · obtain ⟨a, ps, hps⟩ := List.exists_cons_of_ne_nil (piecesAt_ne_nil ',' (p.step c) cs)
      have hsplit : piecesAt ',' p (c :: cs) = [] :: a :: ps := by
        rw [piecesAt, if_pos (atComma_iff.2 h), hps]
      have hstep : ground.step ',' = ground := rfl
      obtain ⟨hl, rfl⟩ := h
      rw [level_step, hl, hstep, hps] at hp
      rw [hps] at hj
      rw [hsplit]
      refine ⟨⟨trivial, hl, hp⟩, ?_⟩
      rw [join, hj]
      rfl
    · obtain ⟨a, ps, hps, he⟩ := piecesAt_cons cs h
      rw [level_step, hps] at hp
      rw [hps] at hj
      rw [he]
      have hc : p.level = ground → c ≠ ',' := fun hl hc => h ⟨hl, hc⟩
      cases ps with
      | nil => exact ⟨⟨hc, hp⟩, congrArg (c :: ·) hj⟩
      | cons q qs =>
        refine ⟨⟨⟨hc, hp.1⟩, hp.2.1, hp.2.2⟩, ?_⟩
        rw [← hj, join, join]
        rfl

/-- Text without such a comma goes to the first piece. -/
theorem piecesAt_append {a : List Char} (h : Avoids ',' p.level a) (cs : List Char) :
    ∃ q : Place, q.level = p.level.run a ∧ ∃ b bs, piecesAt ',' q cs = b :: bs ∧
      piecesAt ',' p (a ++ cs) = (a ++ b) :: bs := by
  induction a generalizing p with
  | nil =>
    obtain ⟨b, bs, hb⟩ := List.exists_cons_of_ne_nil (piecesAt_ne_nil ',' p cs)
    exact ⟨p, rfl, b, bs, hb, hb⟩
  | cons c a ih =>
    obtain ⟨q, hq, b, bs, hb, he⟩ := ih (p := p.step c) (by rw [level_step]; exact h.2)
    obtain ⟨x, xs, hx, hx'⟩ := piecesAt_cons (a ++ cs) fun hc => h.1 hc.1 hc.2
    rw [he] at hx
    cases hx
    exact ⟨q, by rw [hq, level_step]; rfl, b, bs, hb, hx'⟩

/-- Pieces that are joined with commas are found again. -/
theorem piecesAt_join {ps : List (List Char)} (h : Pieces p.level ps) : piecesAt ',' p (join [','] ps) = ps := by
  induction ps generalizing p with
  | nil => exact h.elim
  | cons a ps ih =>
    cases ps with
    | nil =>
      obtain ⟨q, -, b, bs, hb, he⟩ := piecesAt_append h []
      cases hb
      simpa [join] using he
    | cons b ps =>
      obtain ⟨ha, hrun, hrest⟩ := h
      obtain ⟨q, hq, x, xs, hx, he⟩ := piecesAt_append ha (',' :: join [','] (b :: ps))
      have hcomma : (q.step ',').level = ground := by
        rw [level_step, hq, hrun]
        rfl
      rw [piecesAt, if_pos (atComma_iff.2 ⟨hq.trans hrun, rfl⟩), ih (by rw [hcomma]; exact hrest)] at hx
      cases hx
      simpa [join] using he

end Place

/-! ## Lists -/

section Lists

open Level

variable {e : Excerpt} {ε β : Type} {f : Excerpt → Except ε β} {bs : List β} {text : β → List Char}

theorem join_comma (p : List Char) (ps : List (List Char)) :
    join comma.toList (p :: ps) = join [','] (p :: ps.map (' ' :: ·)) := by
  induction ps generalizing p with
  | nil => rfl
  | cons q ps ih =>
    rw [join, ih q, List.map_cons, join]
    cases ps <;> simp [join, toList_comma]

theorem delimiters_join_comma (ps : List (List Char)) :
    delimiters (join comma.toList ps) = delimiters (join [','] ps) := by
  induction ps with
  | nil => rfl
  | cons p ps ih =>
    cases ps with
    | nil => rfl
    | cons q ps =>
      rw [join, join, delimiters_append, delimiters_append, ih, delimiters_append, delimiters_append]
      rfl

/-- What is counted piece by piece is counted of the pieces that are joined. -/
theorem join_congr {α : Type} {f : List Char → α} {op : α → α → α} (hf : ∀ a b, f (a ++ b) = op (f a) (f b)) {sep : List Char}
    {ps qs : List (List Char)} (h : ps.map f = qs.map f) : f (join sep ps) = f (join sep qs) := by
  induction ps generalizing qs with
  | nil =>
    rw [List.map_nil, eq_comm, List.map_eq_nil_iff] at h
    rw [h]
  | cons p ps ih =>
    cases qs with
    | nil => cases h
    | cons q qs =>
      obtain ⟨hpq, hrest⟩ := List.cons.inj h
      have hj := ih hrest
      cases ps <;> cases qs <;> first | cases hrest | skip
      · exact hpq
      · rw [join, join, hf, hf, hf, hf, hpq, hj]

theorem chars_placed (start : Nat) (ps : List (List Char)) : (placed start ps).map chars = ps.map Text.trim := by
  induction ps generalizing start with
  | nil => rfl
  | cons p ps ih => rw [placed, List.map_cons, List.map_cons, ih, chars_trim]

theorem chars_splitTopLevel (e : Excerpt) (sep : Char) :
    (e.splitTopLevel sep).map chars = (piecesAt sep {} e.chars).map Text.trim := chars_placed ..

theorem map_eq_map_iff {α γ : Type} {g : α → γ} {k : β → γ} {as : List α} {bs : List β} :
    as.map g = bs.map k ↔ as.Forall₂ (fun a b => g a = k b) bs := by
  rw [← List.forall₂_eq_eq_eq, List.forall₂_map_left_iff, List.forall₂_map_right_iff]

/-- Whatever is read from a list was read from one of its parts. -/
theorem mem_of_mapM {α : Type} {g : α → Except ε β} {as : List α} (h : as.mapM g = .ok bs) :
    ∀ b ∈ bs, ∃ a ∈ as, g a = .ok b := by
  have hall := mapM_eq_ok.1 h
  clear h
  induction hall with
  | nil => exact fun _ hb => by cases hb
  | cons hab _ ih =>
    intro b hb
    rcases List.mem_cons.1 hb with rfl | hb
    · exact ⟨_, List.mem_cons_self, hab⟩
    · obtain ⟨a, ha, hr⟩ := ih b hb
      exact ⟨a, List.mem_cons_of_mem _ ha, hr⟩

/-- Parts of a list that were read one by one can be written with the commas of the list. -/
theorem delimiters_of_mapM (text : β → List Char) (h : (e.splitTopLevel ',').mapM f = .ok bs)
    (hf : ∀ x b, f x = .ok b → delimiters (text b) = delimiters x.chars) :
    Pieces ground (bs.map text) ∧ delimiters (join comma.toList (bs.map text)) = delimiters e.chars := by
  obtain ⟨hp, hj⟩ := pieces_piecesAt {} e.chars
  have hall := mapM_eq_ok.1 h
  have hsame : (bs.map text).map delimiters = (piecesAt ',' {} e.chars).map delimiters := by
    have hb : ((e.splitTopLevel ',').map chars).map delimiters = (bs.map text).map delimiters := by
      rw [List.map_map, List.map_map, map_eq_map_iff]
      exact hall.imp fun x b hx => (hf x b hx).symm
    rw [← hb, chars_splitTopLevel, List.map_map]
    exact List.map_congr_left fun p _ => delimiters_trim p
  refine ⟨(pieces_congr hsame).2 hp, ?_⟩
  rw [delimiters_join_comma, join_congr delimiters_append hsame, hj]

theorem forall₂_of_map {α γ : Type} {g : α → γ} {k : β → γ} {R : α → β → Prop} {as : List α} {bs : List β}
    (h : as.map g = bs.map k) (hr : ∀ a, ∀ b ∈ bs, g a = k b → R a b) : as.Forall₂ R bs := by
  induction as generalizing bs with
  | nil =>
    rw [List.map_nil, eq_comm, List.map_eq_nil_iff] at h
    rw [h]
    exact .nil
  | cons a as ih =>
    cases bs with
    | nil => cases h
    | cons b bs =>
      obtain ⟨hab, hrest⟩ := List.cons.inj h
      exact .cons (hr a b List.mem_cons_self hab) (ih hrest fun a b hb => hr a b (List.mem_cons_of_mem _ hb))

/-- The parts of a list that is written are found again. -/
theorem splitTopLevel_written {ps : List (List Char)} (hp : Pieces ground ps) (h : e.chars = join comma.toList ps)
    (hs : ∀ p ∈ ps, Text.trim p = p) : (e.splitTopLevel ',').map chars = ps := by
  rw [chars_splitTopLevel, h]
  cases ps with
  | nil => exact hp.elim
  | cons p ps =>
    have hblank : Pieces (Place.level {}) (p :: ps.map (' ' :: ·)) := by
      refine (pieces_congr ?_).1 hp
      simp only [List.map_cons, List.map_map]
      rfl
    rw [join_comma, piecesAt_join hblank, List.map_cons, List.map_map, hs p List.mem_cons_self]
    congr 1
    conv_rhs => rw [← List.map_id ps]
    exact List.map_congr_left fun q hq => (trim_cons_blank q).trans (hs q (List.mem_cons_of_mem _ hq))

/-- The parts of a list that is written are read again. -/
theorem mapM_written (hp : Pieces ground (bs.map text)) (h : e.chars = join comma.toList (bs.map text))
    (hs : ∀ b ∈ bs, Text.trim (text b) = text b) (hf : ∀ b ∈ bs, ∀ x : Excerpt, x.chars = text b → f x = .ok b) :
    (e.splitTopLevel ',').mapM f = .ok bs := by
  have htrim : ∀ p ∈ bs.map text, Text.trim p = p := fun p hp => by
    obtain ⟨b, hb, rfl⟩ := List.mem_map.1 hp
    exact hs b hb
  exact mapM_eq_ok.2 (forall₂_of_map (splitTopLevel_written hp h htrim) fun x b hb hx => hf b hb x hx)

end Lists
/-! ## Groups -/

section Groups

open Level

variable {e r i : Excerpt} {l : Level} {inner cs : List Char} {n : Nat}

/-- The parenthesis that closes a group is the first that stands outside quotes and inner groups. -/
theorem closing?_eq_some : closing? l.quoted (l.depth + 1) cs = some n ↔
    ∃ a b, cs = a ++ ')' :: b ∧ n = a.length ∧ Avoids ')' l a ∧ l.run a = ground := by
  induction cs generalizing l n with
  | nil => simp [closing?]
  | cons c cs ih =>
    -- either the group ends here, or the search goes on one level further
    have hgo (hc : l = ground → c ≠ ')') (h : closing? l.quoted (l.depth + 1) (c :: cs) =
        (closing? (l.step c).quoted ((l.step c).depth + 1) cs).map (· + 1)) :
        closing? l.quoted (l.depth + 1) (c :: cs) = some n ↔
          ∃ a b, c :: cs = a ++ ')' :: b ∧ n = a.length ∧ Avoids ')' l a ∧ l.run a = ground := by
      rw [h, Option.map_eq_some_iff]
      constructor
      · rintro ⟨m, hm, rfl⟩
        obtain ⟨a, b, rfl, rfl, ha, hr⟩ := ih.1 hm
        exact ⟨c :: a, b, rfl, rfl, ⟨hc, ha⟩, hr⟩
      · rintro ⟨a, b, he, rfl, ha, hr⟩
        cases a with
        | nil =>
          cases he
          exact absurd rfl (hc hr)
        | cons d a =>
          cases he
          exact ⟨a.length, ih.2 ⟨a, b, rfl, rfl, ha.2, hr⟩, rfl⟩
    obtain ⟨q, d⟩ := l
    by_cases hquote : c = quote
    · subst hquote
      exact hgo (fun _ => by decide) (by simp [closing?, Level.step])
    · cases q with
      | true =>
        refine hgo (fun h => ?_) (by simp [closing?, Level.step, hquote])
        cases h
      | false =>
        by_cases hopen : c = '('
        · subst hopen
          exact hgo (fun _ => by decide) (by simp [closing?, Level.step, quote])
        · by_cases hclose : c = ')'
          · subst hclose
            cases d with
            | succ d =>
              refine hgo (fun h => ?_) (by simp [closing?, Level.step, quote])
              cases h
            | zero =>
              have hzero : closing? false (0 + 1) (')' :: cs) = some 0 := by simp [closing?, quote]
              rw [hzero, Option.some.injEq]
              constructor
              · rintro rfl
                exact ⟨[], cs, rfl, rfl, trivial, rfl⟩
              · rintro ⟨a, b, he, rfl, ha, -⟩
                cases a with
                | nil => rfl
                | cons x a =>
                  cases he
                  exact absurd rfl (ha.1 rfl)
          · exact hgo (fun _ => hclose) (by simp [closing?, Level.step, hquote, hopen, hclose])

theorem closing?_open (cs : List Char) : closing? false 0 ('(' :: cs) =
    (closing? ground.quoted (ground.depth + 1) cs).map (· + 1) := by
  simp [closing?, quote, ground]

/-- What stands between the parentheses in front, and behind them. -/
theorem splitParens_chars (h : e.splitParens = .ok (i, r)) : ∃ inner cs, Text.trim e.chars = '(' :: (inner ++ ')' :: cs) ∧
    Avoids ')' ground inner ∧ ground.run inner = ground ∧ i.chars = Text.trim inner ∧ r.chars = Text.trim cs := by
  rw [splitParens] at h
  split at h
  · next hhead =>
    split at h
    · next n hn =>
      cases h
      obtain ⟨cs, hcs⟩ := List.head?_eq_some_iff.1 hhead
      rw [hcs, closing?_open] at hn
      obtain ⟨m, hm, rfl⟩ := Option.map_eq_some_iff.1 hn
      obtain ⟨a, b, rfl, rfl, ha, hr⟩ := closing?_eq_some.1 hm
      rw [chars_trim] at hcs
      exact ⟨a, b, hcs, ha, hr, by simp [hcs], by simp [hcs]⟩
    · cases h
  · cases h

/-- A group that is written in front is found. -/
theorem splitParens_written (h : e.chars = '(' :: (inner ++ ')' :: cs)) (ha : Avoids ')' ground inner)
    (hr : ground.run inner = ground) :
    ∃ i r, e.splitParens = .ok (i, r) ∧ i.chars = Text.trim inner ∧ r.chars = Text.trim cs := by
  have htrim : Text.trim e.chars = '(' :: (inner ++ ')' :: trimEnd cs) := by
    have hsolid : Solid ('(' :: (inner ++ [')'])) := .enclosed (by decide) (by decide)
    have := hsolid.trim_append cs
    rw [h]
    simpa using this
  have hclosing : closing? false 0 e.trim.chars = some (inner.length + 1) := by
    have hin : closing? ground.quoted (ground.depth + 1) (inner ++ ')' :: trimEnd cs) = some inner.length :=
      closing?_eq_some.2 ⟨inner, trimEnd cs, rfl, rfl, ha, hr⟩
    rw [chars_trim, htrim, closing?_open, hin]
    rfl
  refine ⟨((e.trim.take (inner.length + 1)).drop 1).trim, (e.trim.drop (inner.length + 1 + 1)).trim, ?_, ?_, ?_⟩
  · have hhead : e.trim.chars.head? = some '(' := by
      rw [chars_trim, htrim]
      rfl
    rw [splitParens, if_pos hhead, hclosing]
  · simp [htrim]
  · simp [htrim, trim_trimEnd]

end Groups
/-! ## Searching for keywords -/

theorem isAsciiBlank_of_isBlank {c : Char} (h : isBlank c = false) : isAsciiBlank c = false := by
  simp only [isBlank, Bool.or_eq_false_iff, Bool.and_eq_false_iff, decide_eq_false_iff_not,
    beq_eq_false_iff_ne] at h
  simp only [isAsciiBlank, Bool.or_eq_false_iff, beq_eq_false_iff_ne]
  omega

section Search

open Level

variable {p : Place} {kw : String} {cs w : List Char} {n : Nat}

/-- The place behind a text. -/
def Place.run (p : Place) (cs : List Char) : Place := cs.foldl Place.step p

@[simp] theorem level_run (p : Place) (cs : List Char) : (p.run cs).level = p.level.run cs := by
  induction cs generalizing p with
  | nil => rfl
  | cons c cs ih => rw [run_cons, ← level_step, ← ih]; rfl

/-- A keyword is found outside quotes and parentheses. -/
theorem level_of_findKeyword (h : findKeywordFrom? kw p cs = some n) : p.level.run (cs.take n) = ground := by
  induction cs generalizing p n with
  | nil => cases h
  | cons c cs ih =>
    rw [findKeywordFrom?] at h
    split at h
    · next hc =>
      cases h
      simp only [Bool.and_eq_true] at hc
      exact isOpen_iff.1 hc.1.1.2
    · obtain ⟨m, hm, rfl⟩ := Option.map_eq_some_iff.1 h
      rw [List.take_succ_cons, run_cons, ← level_step]
      exact ih hm

/-- No blank stands outside quotes. -/
def Unbroken : Bool → List Char → Prop
  | _, [] => True
  | q, c :: cs => (q = false → isAsciiBlank c = false) ∧ Unbroken (if c = quote then !q else q) cs

/-- A search passes over a text without blanks outside quotes, if its first word is not the keyword. -/
theorem findKeyword_unbroken (hkw : IsKeyword kw) (hw : Unbroken p.quoted w)
    (h : p.isOpen = true → p.wordStart = true → frontWord (w ++ cs) ≠ kw.toList) :
    findKeywordFrom? kw p (w ++ cs) = (findKeywordFrom? kw (p.run w) cs).map (· + w.length) := by
  induction w generalizing p with
  | nil => simp [Place.run]
  | cons c w ih =>
    have hnext : findKeywordFrom? kw (p.step c) (w ++ cs) =
        (findKeywordFrom? kw ((p.step c).run w) cs).map (· + w.length) := by
      refine ih (by rw [quoted_step]; exact hw.2) fun ho hs => ?_
      -- a blank that begins a word stands inside quotes, where nothing is open
      exfalso
      rw [wordStart_step] at hs
      cases hq : p.quoted with
      | false => rw [hw.1 hq] at hs; cases hs
      | true =>
        have hc : c ≠ quote := by
          rintro rfl
          exact absurd hs (by decide)
        rw [Place.isOpen, quoted_step, if_neg hc, hq] at ho
        cases ho
    have hpass : findKeywordFrom? kw p (c :: (w ++ cs)) =
        (findKeywordFrom? kw (p.step c) (w ++ cs)).map (· + 1) := by
      rw [findKeywordFrom?, if_neg]
      simp only [Bool.and_eq_true, not_and]
      intro ho hword
      exact h ho.1.2 ho.2 ((afterWord?_isSome hkw.endsWord).1 hword)
    rw [List.cons_append, hpass, hnext, Option.map_map]
    rfl

/-- A search passes over a blank. -/
theorem findKeyword_blank (hkw : IsKeyword kw) (p : Place) (cs : List Char) :
    findKeywordFrom? kw p (' ' :: cs) = (findKeywordFrom? kw (p.step ' ') cs).map (· + 1) := by
  rw [findKeywordFrom?, if_neg]
  simp only [Bool.and_eq_true, not_and]
  intro _ hword
  exact hkw.1 ((afterWord?_isSome hkw.endsWord).1 hword).symm

/-- A search stops at the keyword. -/
theorem findKeyword_here (hkw : IsKeyword kw) (ho : p.isOpen = true) (hs : p.wordStart = true)
    (h : frontWord cs = kw.toList) : findKeywordFrom? kw p cs = some 0 := by
  obtain ⟨c, r, hc⟩ := List.exists_cons_of_ne_nil hkw.1
  have hcap : Token.isCapital c = true := hkw.2 c (by rw [hc]; exact List.mem_cons_self)
  cases cs with
  | nil => rw [hc] at h; cases h
  | cons d cs =>
    have hd : d = c := by
      rw [hc, frontWord, List.takeWhile_cons] at h
      split at h
      · cases h; rfl
      · cases h
    have hmark : p.isMark d = false := by
      have hn := toNat_of_isCapital hcap
      rw [← hd] at hn
      have hq : d ≠ quote := by rintro rfl; exact absurd hn (by decide)
      have ho : d ≠ '(' := by rintro rfl; exact absurd hn (by decide)
      have hc : d ≠ ')' := by rintro rfl; exact absurd hn (by decide)
      simp [Place.isMark, hq, ho, hc]
    have hword := (afterWord?_isSome hkw.endsWord).2 h
    rw [findKeywordFrom?, if_pos]
    simp [hmark, ho, hs, hword]

/-- The end of a text or of a word in it. -/
def AtBlank (cs : List Char) : Prop := cs = [] ∨ ∃ r, cs = ' ' :: r

/-- A search from a place passes over a text, whatever follows it behind a blank. -/
def Passes (kw : String) (p : Place) (w : List Char) : Prop :=
  ∀ cs, AtBlank cs → findKeywordFrom? kw p (w ++ cs) = (findKeywordFrom? kw (p.run w) cs).map (· + w.length)

theorem frontWord_atBlank (h : AtBlank cs) (w : List Char) : frontWord (w ++ cs) = frontWord w := by
  have hcs : frontWord cs = [] := by
    rcases h with rfl | ⟨r, rfl⟩
    · rfl
    · rfl
  induction w with
  | nil => exact hcs
  | cons c w ih =>
    rw [List.cons_append, frontWord, frontWord, List.takeWhile_cons, List.takeWhile_cons]
    split
    · rw [← frontWord, ih, frontWord]
    · rfl

/-- A search passes over a word that is not the keyword. -/
theorem Passes.word (hkw : IsKeyword kw) (hw : Unbroken p.quoted w)
    (h : p.isOpen = true → p.wordStart = true → frontWord w ≠ kw.toList) : Passes kw p w := by
  intro cs hcs
  apply findKeyword_unbroken hkw hw
  intro ho hs
  rw [frontWord_atBlank hcs]
  exact h ho hs

/-- A search passes over two texts with a blank between them. -/
theorem Passes.append {a b : List Char} (hkw : IsKeyword kw) (ha : Passes kw p a)
    (hb : Passes kw ((p.run a).step ' ') b) : Passes kw p (a ++ ' ' :: b) := by
  intro cs hcs
  rw [List.append_assoc, List.cons_append, ha _ (.inr ⟨_, rfl⟩), findKeyword_blank hkw, hb cs hcs]
  have hrun : p.run (a ++ ' ' :: b) = ((p.run a).step ' ').run b := by
    simp [Place.run]
  rw [hrun, Option.map_map, Option.map_map, List.length_append, List.length_cons]
  congr 1
  funext n
  simp only [Function.comp]
  omega

theorem wordStart_blank (p : Place) : (p.step ' ').wordStart = true := by
  rw [wordStart_step]
  decide

theorem level_blank (p : Place) : (p.step ' ').level = p.level := by
  rw [level_step]
  exact step_of_not (by decide)

/-- A search stops at the keyword behind a blank. -/
theorem findKeyword_next (hkw : IsKeyword kw) (hp : p.level = ground) (h : frontWord cs = kw.toList) :
    findKeywordFrom? kw p (' ' :: cs) = some 1 := by
  have ho : (p.step ' ').isOpen = true := isOpen_iff.2 (by rw [level_blank, hp])
  rw [findKeyword_blank hkw, findKeyword_here hkw ho (wordStart_blank p) h]
  rfl

end Search
end SlotSql.Excerpt
