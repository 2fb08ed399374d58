import SlotSql.Proofs.Statement.Clause
import SlotSql.Proofs.Statement.Definition
/-!
# Table definitions that are read back

A column definition is taken apart from the front: name, type, size, `NOT NULL`, comment. When it is written, each part
stands where the reader of that part looks for it, and what is left out is not found there. Comments are quoted, so a
definition closes whatever it opens, and the parts of a table definition are found again between their commas.

Results:
* `column?_written`: the parts of a column definition are found again.
* `columnDef_fits`, `columnDef_written`: column definitions are read back.
* `tableDef_fits`, `tableDef_written`: so are table definitions; the row key comes to stand behind the columns.
-/
namespace SlotSql

open Text Excerpt

variable {s : Settings}

theorem Text.Solid.head {a : List Char} (ha : Solid a) (cs : List Char) : ∀ c ∈ (a ++ cs).head?, isBlank c = false := by
  obtain ⟨c, r, rfl, hc⟩ := ha.front
  rintro _ ⟨⟩
  exact hc

/-! ## Texts that close what they open -/

namespace Excerpt.Level

variable {l : Level} {bad : Char} {a b cs : List Char} {ps : List (List Char)}

/-- Commas inside quotes or parentheses are hidden. -/
theorem avoids_hidden (hb : isDelimiter bad = true) (h : ∀ c ∈ delimiters cs, c = ',') (hl : l ≠ ground) : Avoids bad l cs := by
  rw [← avoids_delimiters hb]
  generalize delimiters cs = ds at h
  induction ds with
  | nil => trivial
  | cons c ds ih =>
    obtain ⟨rfl, hrest⟩ := List.forall_mem_cons.1 h
    have hstep : l.step ',' = l := by simp [step, quote]
    exact ⟨fun he => absurd he hl, by rw [hstep]; exact ih hrest⟩

/-- A text that closes what it opens, and of which no comma and no closing parenthesis stands outside. -/
structure Closed (cs : List Char) : Prop where
  noComma : Avoids ',' ground cs
  noClose : Avoids ')' ground cs
  level : ground.run cs = ground

namespace Closed

theorem append (ha : Closed a) (hb : Closed b) : Closed (a ++ b) where
  noComma := avoids_append.2 ⟨ha.noComma, by rw [ha.level]; exact hb.noComma⟩
  noClose := avoids_append.2 ⟨ha.noClose, by rw [ha.level]; exact hb.noClose⟩
  level := by rw [run_append, ha.level, hb.level]

theorem plain (h : delimiters cs = []) : Closed cs where
  noComma := (avoids_delimiters (by decide)).1 (by rw [h]; trivial)
  noClose := (avoids_delimiters (by decide)).1 (by rw [h]; trivial)
  level := run_plain h _

theorem group (h : ∀ c ∈ delimiters cs, c = ',') : Closed ('(' :: (cs ++ [')'])) := by
  have hrun : (ground.step '(').run cs = ⟨false, 1⟩ := run_commas h _
  have havoids (bad : Char) (hb : isDelimiter bad = true) (hopen : '(' ≠ bad) :
      Avoids bad ground ('(' :: (cs ++ [')'])) := by
    refine ⟨fun _ => hopen, avoids_append.2 ⟨avoids_hidden hb h (by decide), ?_⟩⟩
    rw [hrun]
    exact ⟨fun hl => (by cases hl), trivial⟩
  refine ⟨havoids ',' (by decide) (by decide), havoids ')' (by decide) (by decide), ?_⟩
  rw [run_cons, run_append, hrun]
  rfl

theorem between (v : List Char) : Closed (quote :: (Literal.doubled v ++ [quote])) := by
  have hin (bad : Char) (hb : quote ≠ bad) : Avoids bad ⟨true, 0⟩ (Literal.doubled v ++ [quote]) ∧
      run ⟨true, 0⟩ (Literal.doubled v ++ [quote]) = ground := by
    induction v with
    | nil => exact ⟨⟨fun hl => (by cases hl), trivial⟩, rfl⟩
    | cons c v ih =>
      rw [Literal.doubled_cons, List.append_assoc, avoids_append, run_append]
      by_cases hc : c = quote
      · rw [if_pos hc, hc]
        exact ⟨⟨⟨fun hl => (by cases hl), fun _ => hb, trivial⟩, ih.1⟩, ih.2⟩
      · have hsame : run ⟨true, 0⟩ [c] = ⟨true, 0⟩ := by simp [step, hc]
        rw [if_neg hc, hsame]
        exact ⟨⟨⟨fun hl => (by cases hl), trivial⟩, ih.1⟩, ih.2⟩
  obtain ⟨hcomma, hlevel⟩ := hin ',' (by decide)
  exact ⟨⟨fun _ => by decide, hcomma⟩, ⟨fun _ => by decide, (hin ')' (by decide)).1⟩, hlevel⟩

/-- Parts that close what they open can stand in a list between parentheses. -/
theorem list (h : ∀ p ∈ ps, Closed p) :
    Avoids ')' ground (join SlotSql.comma.toList ps) ∧ ground.run (join SlotSql.comma.toList ps) = ground := by
  induction ps with
  | nil => exact ⟨trivial, rfl⟩
  | cons p ps ih =>
    obtain ⟨hp, hrest⟩ := List.forall_mem_cons.1 h
    cases ps with
    | nil => exact ⟨hp.noClose, hp.level⟩
    | cons q ps =>
      obtain ⟨hclose, hlevel⟩ := ih hrest
      rw [join, List.append_assoc, avoids_append, avoids_append, run_append, run_append, hp.level]
      exact ⟨⟨hp.noClose, ⟨fun _ => by decide, fun _ => by decide, trivial⟩, hclose⟩, hlevel⟩

end Closed

end Excerpt.Level

/-! ## Readers that take a part off the front -/

namespace Token

variable {e : Excerpt} {word : String} {cs v : List Char} {n : Nat}

theorem after?_written (word : String) (h : e.chars = word.toList ++ cs) : ∃ r, after? word e = some r ∧ r.chars = cs := by
  have hs : (stripStart? word.toList e.chars).isSome = true := by rw [stripStart?_eq_some.2 h]; rfl
  refine ⟨e.drop word.length, by rw [after?, if_pos hs], ?_⟩
  rw [chars_drop, h, ← String.length_toList, List.drop_left]

theorem after?_eq_none (h : ∀ cs, e.chars ≠ word.toList ++ cs) : after? word e = none := by
  rw [after?, if_neg]
  intro hs
  obtain ⟨r, hr⟩ := Option.isSome_iff_exists.1 hs
  exact h r (stripStart?_eq_some.1 hr)

/-- A text does not begin with a word if they begin with different characters. -/
theorem after?_none_of_head {a b : Char} {r : List Char} (hword : word.toList.head? = some a) (h : e.chars = b :: r)
    (hne : b ≠ a) : after? word e = none := by
  refine after?_eq_none fun cs he => ?_
  obtain ⟨w, hw⟩ := List.head?_eq_some_iff.1 hword
  rw [h, hw] at he
  exact hne (List.cons.inj he).1

theorem afterBlanks?_written (h : e.chars = ' ' :: cs) (hcs : ∀ c ∈ cs.head?, isBlank c = false) :
    ∃ r, afterBlanks? e = some r ∧ r.chars = cs := by
  obtain ⟨-, hrest⟩ := span_append (a := [' ']) (p := isBlank) (List.forall_mem_singleton.2 (by decide)) hcs
  refine ⟨(e.span isBlank).2, ?_, by rw [chars_span_snd, h]; exact hrest⟩
  have hne : (e.span isBlank).1.isEmpty = false := by
    rw [Excerpt.isEmpty, chars_span_fst, h]
    rfl
  rw [afterBlanks?]
  simp only [hne]
  rfl

theorem afterBlanks?_nil (h : e.chars = []) : afterBlanks? e = none := by
  have hempty : (e.span isBlank).1.isEmpty = true := by
    rw [Excerpt.isEmpty, chars_span_fst, h]
    rfl
  rw [afterBlanks?]
  simp only [hempty]
  rfl

theorem number?_written (h : e.chars = (toString n).toList ++ cs) (hcs : ∀ c ∈ cs.head?, isDigit c = false) :
    ∃ d r, number? e = some (d, r) ∧ d.chars = (toString n).toList ∧ r.chars = cs := by
  obtain ⟨hfront, hrest⟩ := span_append (isDigit_toString n) hcs
  have hdigits : (e.span isDigit).1.chars = (toString n).toList := by rw [chars_span_fst, h, hfront]
  refine ⟨(e.span isDigit).1, (e.span isDigit).2, ?_, hdigits, by rw [chars_span_snd, h, hrest]⟩
  have hne : (e.span isDigit).1.isEmpty = false := by
    rw [Excerpt.isEmpty, hdigits]
    simp
  rw [number?]
  simp only [hne]
  rfl

theorem skipBlanks_here {c : Char} (h : e.chars = c :: cs) (hc : isBlank c = false) : (skipBlanks e).chars = c :: cs := by
  rw [skipBlanks, chars_span_snd, h, List.dropWhile_cons_of_neg (by rw [hc]; exact Bool.false_ne_true)]

theorem skipBlanks_blank (h : e.chars = ' ' :: cs) (hcs : ∀ c ∈ cs.head?, isBlank c = false) : (skipBlanks e).chars = cs := by
  obtain ⟨-, hrest⟩ := span_append (a := [' ']) (p := isBlank) (List.forall_mem_singleton.2 (by decide)) hcs
  rw [skipBlanks, chars_span_snd, h]
  exact hrest

theorem closesQuote_cons {c : Char} (h : c ≠ quote) (cs : List Char) : closesQuote (c :: cs) = closesQuote cs := by
  cases cs <;> simp [closesQuote, h]

theorem closesQuote_doubled (v : List Char) : closesQuote (Literal.doubled v ++ [quote]) = true := by
  induction v with
  | nil => rfl
  | cons c v ih =>
    rw [Literal.doubled_cons, List.append_assoc]
    by_cases hc : c = quote
    · rw [if_pos hc, hc]
      simpa [closesQuote] using ih
    · rw [if_neg hc, List.singleton_append, closesQuote_cons hc, ih]

theorem number?_spaced (cs : List Char) (hcs : ∀ c ∈ cs.head?, isDigit c = false)
    (h : e.chars = (toString n).toList ++ cs ∨ e.chars = ' ' :: ((toString n).toList ++ cs)) :
    ∃ d r, number? (skipBlanks e) = some (d, r) ∧ d.chars = (toString n).toList ∧ r.chars = cs := by
  refine number?_written ?_ hcs
  have hhead := (solid_toString n).head cs
  rcases h with h | h
  · obtain ⟨c, r, hc, hb⟩ := (solid_toString n).front
    rw [hc, List.cons_append] at h ⊢
    exact skipBlanks_here h hb
  · exact skipBlanks_blank h hhead

/-- A size is read back. -/
theorem size?_written {m : Option Nat} (h : e.chars = (sizeText (some n) m).toList ++ cs) : ∃ l k r,
    size? e = some (l, k, r) ∧ l.chars = (toString n).toList ∧
      k.map chars = m.map (fun m => (toString m).toList) ∧ r.chars = cs := by
  have hopen (d : Char) (rest : List Char) (he : e.chars = '(' :: ((toString n).toList ++ d :: rest))
      (hd : isDigit d = false) : ∃ e₁ l e₂, after? "(" (skipBlanks e) = some e₁ ∧
        number? (skipBlanks e₁) = some (l, e₂) ∧ l.chars = (toString n).toList ∧ e₂.chars = d :: rest := by
    obtain ⟨e₁, h1, hc1⟩ := after?_written "(" (skipBlanks_here he (by decide))
    obtain ⟨l, e₂, h2, hl, hc2⟩ := number?_spaced (d :: rest) (by rintro _ ⟨⟩; exact hd) (.inl hc1)
    exact ⟨e₁, l, e₂, h1, h2, hl, hc2⟩
  cases m with
  | none =>
    obtain ⟨e₁, l, e₂, h1, h2, hl, hc2⟩ := hopen ')' cs (by rw [h]; simp [sizeText]) (by decide)
    obtain ⟨r, h3, hr⟩ := after?_written ")" (skipBlanks_here hc2 (by decide))
    refine ⟨l, none, r, ?_, hl, rfl, hr⟩
    simp only [size?, h1, h2, h3, Option.bind_eq_bind, Option.bind_some]
    rfl
  | some m =>
    obtain ⟨e₁, l, e₂, h1, h2, hl, hc2⟩ := hopen ',' (' ' :: ((toString m).toList ++ ')' :: cs))
      (by rw [h]; simp [sizeText]) (by decide)
    have hskip := skipBlanks_here hc2 (by decide)
    have hnone : after? ")" (skipBlanks e₂) = none := after?_none_of_head rfl hskip (by decide)
    obtain ⟨e₃, h3, hc3⟩ := after?_written "," hskip
    obtain ⟨k, e₄, h4, hk, hc4⟩ := number?_spaced (')' :: cs) (by rintro _ ⟨⟩; decide) (.inr hc3)
    obtain ⟨r, h5, hr⟩ := after?_written ")" (skipBlanks_here hc4 (by decide))
    refine ⟨l, some k, r, ?_, hl, by rw [Option.map_some, hk]; rfl, hr⟩
    simp only [size?, h1, h2, hnone, h3, h4, h5, Option.bind_eq_bind, Option.bind_some]
    rfl

/-- No size is found in front of what can follow a type. -/
theorem size?_eq_none (h : e.chars = [] ∨ ∃ c r, e.chars = ' ' :: c :: r ∧ isBlank c = false ∧ c ≠ '(') : size? e = none := by
  have hnone : after? "(" (skipBlanks e) = none := by
    rcases h with h | ⟨c, r, h, hc, hne⟩
    · refine after?_eq_none fun cs he => ?_
      rw [skipBlanks, chars_span_snd, h] at he
      cases he
    · exact after?_none_of_head rfl (skipBlanks_blank h (by rintro _ ⟨⟩; exact hc)) hne
  simp only [size?, hnone]
  rfl

/-- A word behind a blank. -/
theorem word_written {r : List Char} (hword : IsKeyword word) (h : e.chars = ' ' :: (word.toList ++ r)) :
    ∃ x, (afterBlanks? e).bind (after? word) = some x ∧ x.chars = r := by
  obtain ⟨e₁, h1, hc1⟩ := afterBlanks?_written h (hword.solid.head r)
  obtain ⟨x, hx, hc⟩ := after?_written word hc1
  exact ⟨x, by rw [h1]; exact hx, hc⟩

theorem notNull?_written (h : e.chars = " NOT NULL".toList ++ cs) : ∃ r, notNull? e = some r ∧ r.chars = cs := by
  obtain ⟨e₁, h1, hc1⟩ := word_written (r := ' ' :: ("NULL".toList ++ cs)) (show IsKeyword "NOT" by decide) h
  obtain ⟨r, h2, hr⟩ := word_written (show IsKeyword "NULL" by decide) hc1
  refine ⟨r, ?_, hr⟩
  simp only [Option.bind_eq_some_iff] at h1 h2
  obtain ⟨x₁, hx1, h1⟩ := h1
  obtain ⟨x₂, hx2, h2⟩ := h2
  simp only [notNull?, hx1, h1, hx2, h2, Option.bind_eq_bind, Option.bind_some]

theorem notNull?_eq_none (h : e.chars = [] ∨ ∃ r, e.chars = " COMMENT ".toList ++ r) : notNull? e = none := by
  rcases h with h | ⟨r, h⟩
  · simp only [notNull?, afterBlanks?_nil h]
    rfl
  · obtain ⟨e₁, h1, hc1⟩ := afterBlanks?_written (show e.chars = ' ' :: ("COMMENT ".toList ++ r) from h) (by rintro _ ⟨⟩; decide)
    have hnone : after? "NOT" e₁ = none := after?_none_of_head (r := "OMMENT ".toList ++ r) rfl hc1 (by decide)
    simp only [notNull?, h1, hnone, Option.bind_eq_bind, Option.bind_some]
    rfl

theorem comment?_written {l : Literal} (hl : l.quoted = true) (h : e.chars = " COMMENT ".toList ++ l.text.toList) :
    ∃ r, comment? e = some r ∧ r.chars = l.text.toList := by
  have htext := Literal.toList_text_of_quoted hl
  obtain ⟨e₁, h1, hc1⟩ := word_written (r := ' ' :: l.text.toList) (show IsKeyword "COMMENT" by decide) h
  obtain ⟨e₂, h2, hc2⟩ := afterBlanks?_written hc1 (by rw [htext]; rintro _ ⟨⟩; decide)
  obtain ⟨body, h3, hc3⟩ := after?_written "'" (hc2.trans htext)
  have hclose : closesQuote body.chars = true := by
    rw [hc3]
    exact closesQuote_doubled _
  obtain ⟨x, hx, h1⟩ := Option.bind_eq_some_iff.1 h1
  refine ⟨e₂, ?_, hc2⟩
  simp only [comment?, hx, h1, h2, h3, hclose, Option.bind_eq_bind, Option.bind_some, if_true]

end Token

/-! ## Column definitions -/

/-- A column definition that is read back. -/
structure ColumnDef.Fits (s : Settings) (c : ColumnDef) : Prop where
  name : IsName s c.name
  length : ∀ n ∈ c.length, n ≤ Number.max32
  scale : ∀ n ∈ c.scale, n ≤ Number.max32
  sized : c.length = none → c.scale = none
  comment : ∀ t ∈ c.comment, t.length ≤ s.maxCommentLen

namespace ColumnDef

variable {c : ColumnDef}

/-- What follows the type and the size of a column. -/
def noteChars (c : ColumnDef) : List Char :=
  (if c.notNull then " NOT NULL".toList else []) ++ (commentText c.comment).toList

theorem toList_text (c : ColumnDef) : c.text.toList =
    c.name.toList ++ ' ' :: (c.type.name.toList ++ ((sizeText c.length c.scale).toList ++ c.noteChars)) := by
  have hnull : (if c.notNull = true then " NOT NULL" else "").toList = if c.notNull then " NOT NULL".toList else [] := by
    split <;> rfl
  change (c.name ++ " " ++ c.type.name ++ sizeText c.length c.scale ++ (if c.notNull = true then " NOT NULL" else "") ++
    commentText c.comment).toList = _
  simp only [String.toList_append, hnull, noteChars, List.append_assoc]
  rfl

end ColumnDef

theorem toList_noSize (m : Option Nat) : (sizeText none m).toList = [] := by cases m <;> rfl

/-- A size is a group, and only a comma stands in it. -/
theorem toList_sizeText (n : Nat) (m : Option Nat) : ∃ inner, (sizeText (some n) m).toList = '(' :: (inner ++ [')']) ∧
    ∀ c ∈ delimiters inner, c = ',' := by
  have hdigits (n : Nat) : delimiters (toString n).toList = [] :=
    delimiters_eq_nil.2 fun c hc => isDelimiter_of_isNameChar (isNameChar_of_isDigit (isDigit_toString n c hc))
  cases m with
  | none =>
    refine ⟨(toString n).toList, by simp [sizeText], ?_⟩
    rw [hdigits]
    exact fun c hc => by cases hc
  | some m =>
    have hcomma : delimiters ", ".toList = [','] := by decide
    refine ⟨(toString n).toList ++ (", ".toList ++ (toString m).toList), by simp [sizeText], ?_⟩
    rw [delimiters_append, delimiters_append, hdigits, hdigits, hcomma]
    simp

theorem toList_comment (t : String) : (commentText (some t)).toList = " COMMENT ".toList ++ (Literal.mk t true).text.toList := by
  change (" COMMENT " ++ (Literal.mk t true).text).toList = _
  rw [String.toList_append]

/-- What follows the size of a column begins with a capital letter behind a blank. -/
theorem ColumnDef.noteChars_cases (c : ColumnDef) :
    c.noteChars = [] ∨ ∃ d r, c.noteChars = ' ' :: d :: r ∧ isBlank d = false ∧ d ≠ '(' := by
  unfold noteChars
  cases c.notNull with
  | true => exact .inr ⟨'N', _, rfl, by decide, by decide⟩
  | false =>
    cases c.comment with
    | none => exact .inl rfl
    | some t =>
      rw [toList_comment]
      exact .inr ⟨'C', _, rfl, by decide, by decide⟩

theorem ValueType.name_chars (t : ValueType) : (∀ c ∈ t.name.toList, (Token.isCapital c || Token.isDigit c) = true) ∧
    t.name.toList.head?.any Token.isCapital = true := by
  cases t <;> exact ⟨List.all_eq_true.1 (by decide), by decide⟩

theorem ValueType.solid_name (t : ValueType) : Solid t.name.toList := .all (by cases t <;> decide) (by cases t <;> decide)

theorem ValueType.ofName?_name (t : ValueType) : ofName? t.name = some t := by cases t <;> decide

namespace Token

variable {e : Excerpt} {c : ColumnDef}

/-- What a column definition was written from. -/
structure ColumnShape.Of (c : ColumnDef) (shape : ColumnShape) : Prop where
  name : shape.name.chars = c.name.toList
  type : shape.type.chars = c.type.name.toList
  length : shape.length.map chars = c.length.map fun n => (toString n).toList
  scale : shape.scale.map chars = c.scale.map fun n => (toString n).toList
  notNull : shape.notNull = c.notNull
  comment : shape.comment.map chars = c.comment.map fun t => (Literal.mk t true).text.toList

/-- What follows the type of a column is no part of its name. -/
theorem behind_type (c : ColumnDef) : ∀ d ∈ ((sizeText c.length c.scale).toList ++ c.noteChars).head?,
    (isCapital d || isDigit d) = false := by
  intro d hd
  cases hl : c.length with
  | none =>
    rw [hl, toList_noSize, List.nil_append] at hd
    rcases c.noteChars_cases with hn | ⟨x, r, hn, -, -⟩
    · rw [hn] at hd
      cases hd
    · rw [hn] at hd
      cases hd
      decide
  | some n =>
    obtain ⟨inner, hr, -⟩ := toList_sizeText n c.scale
    rw [hl, hr] at hd
    cases hd
    decide

/-- The words `NOT NULL` are found just if they were written. -/
theorem notNull?_cases (h : e.chars = c.noteChars) :
    (c.notNull = true ∧ ∃ r, notNull? e = some r ∧ r.chars = (commentText c.comment).toList) ∨
      c.notNull = false ∧ notNull? e = none ∧ e.chars = (commentText c.comment).toList := by
  unfold ColumnDef.noteChars at h
  cases hn : c.notNull with
  | true =>
    rw [hn, if_pos rfl] at h
    exact .inl ⟨rfl, notNull?_written h⟩
  | false =>
    rw [hn, if_neg Bool.false_ne_true, List.nil_append] at h
    refine .inr ⟨rfl, notNull?_eq_none ?_, h⟩
    cases hc : c.comment with
    | none => exact .inl (by rw [h, hc]; rfl)
    | some t => exact .inr ⟨_, by rw [h, hc, toList_comment]⟩

/-- The parts of a column definition are found again. -/
theorem column?_written {s : Settings} (hc : c.Fits s) (h : e.chars = c.text.toList) :
    ∃ shape, column? e = some shape ∧ shape.Of c := by
  rw [ColumnDef.toList_text] at h
  obtain ⟨htype, hcapital⟩ := c.type.name_chars
  have hcapitals : Solid c.type.name.toList := c.type.solid_name
  obtain ⟨hfront, hbehind⟩ := span_append hc.name.chars (p := isNameChar)
    (b := ' ' :: (c.type.name.toList ++ ((sizeText c.length c.scale).toList ++ c.noteChars))) (by rintro _ ⟨⟩; decide)
  have hname : (e.span isNameChar).1.chars = c.name.toList := by rw [chars_span_fst, h, hfront]
  have hrest : (e.span isNameChar).2.chars =
      ' ' :: (c.type.name.toList ++ ((sizeText c.length c.scale).toList ++ c.noteChars)) := by rw [chars_span_snd, h, hbehind]
  obtain ⟨e₁, h1, hc1⟩ := afterBlanks?_written hrest (hcapitals.head _)
  obtain ⟨hfront', hbehind'⟩ := span_append htype (behind_type c)
  generalize hx : e₁.span (fun c => isCapital c || isDigit c) = x at *
  obtain ⟨type, rest⟩ := x
  have htypeChars : type.chars = c.type.name.toList := by
    rw [← hfront', ← hc1, ← chars_span_fst, hx]
  have hrestChars : rest.chars = (sizeText c.length c.scale).toList ++ c.noteChars := by
    rw [← hbehind', ← hc1, ← chars_span_snd, hx]
  -- behind the size and the words `NOT NULL` there is a comment or nothing
  have hend (length scale : Option Excerpt) (notNull : Bool) (last : Excerpt) (hlast : last.chars = (commentText c.comment).toList)
      (hlength : length.map chars = c.length.map fun n => (toString n).toList)
      (hscale : scale.map chars = c.scale.map fun n => (toString n).toList) (hnull : notNull = c.notNull) :
      ∃ shape, (if last.isEmpty = true then pure ⟨(e.span isNameChar).1, type, length, scale, notNull, none⟩ else do
        return ⟨(e.span isNameChar).1, type, length, scale, notNull, some (← comment? last)⟩ : Option ColumnShape) =
          some shape ∧ shape.Of c := by
    cases hcomment : c.comment with
    | none =>
      rw [hcomment] at hlast
      rw [if_pos (Excerpt.isEmpty_iff.2 hlast)]
      exact ⟨_, rfl, hname, htypeChars, hlength, hscale, hnull, by rw [hcomment]; rfl⟩
    | some t =>
      rw [hcomment, toList_comment] at hlast
      obtain ⟨note, hnote, hchars⟩ := comment?_written rfl hlast
      have hne : ¬ last.isEmpty = true := by
        rw [Excerpt.isEmpty_iff, hlast]
        exact List.cons_ne_nil _ _
      rw [if_neg hne, hnote]
      exact ⟨_, rfl, hname, htypeChars, hlength, hscale, hnull, by rw [hcomment]; simp [hchars]⟩
  have hcheck : (!isName (e.span isNameChar).1.chars || !(type.chars.head?.any isCapital)) = false := by
    rw [hname, hc.name.1, htypeChars, hcapital]
    rfl
  unfold column?
  simp only [h1, hx, hcheck, Option.bind_eq_bind, Option.bind_some, Bool.false_eq_true, if_false]
  cases hl : c.length with
  | none =>
    have hbehind : rest.chars = c.noteChars := by rw [hrestChars, hl, toList_noSize, List.nil_append]
    have hsize : size? rest = none := size?_eq_none (by rw [hbehind]; exact c.noteChars_cases)
    have hlength : (none : Option Excerpt).map chars = c.length.map fun n => (toString n).toList := by rw [hl]; rfl
    have hscale : (none : Option Excerpt).map chars = c.scale.map fun n => (toString n).toList := by
      rw [hc.sized hl]
      rfl
    simp only [hsize]
    rcases notNull?_cases hbehind with ⟨hn, last, hnull, hlast⟩ | ⟨hn, hnull, hlast⟩
    · simp only [hnull]
      exact hend none none true last hlast hlength hscale hn.symm
    · simp only [hnull]
      exact hend none none false rest hlast hlength hscale hn.symm
  | some n =>
    rw [hl] at hrestChars
    obtain ⟨l, k, behind, hsize, hlen, hk, hbehind⟩ := size?_written hrestChars
    have hlength : (some l).map chars = c.length.map fun n => (toString n).toList := by
      rw [hl, Option.map_some, hlen]
      rfl
    simp only [hsize]
    rcases notNull?_cases hbehind with ⟨hn, last, hnull, hlast⟩ | ⟨hn, hnull, hlast⟩
    · simp only [hnull]
      exact hend (some l) k true last hlast hlength hk hn.symm
    · simp only [hnull]
      exact hend (some l) k false behind hlast hlength hk hn.symm

/-- A scale stands behind a length. -/
theorem column?_sized {shape : ColumnShape} (h : column? e = some shape) (hl : shape.length = none) : shape.scale = none := by
  unfold column? at h
  obtain ⟨e₁, -, h⟩ := Option.bind_eq_some_iff.1 h
  -- whatever follows the size, the shape keeps it
  have hend {name type rest : Excerpt} {length scale : Option Excerpt} {notNull : Bool}
      (h : (if rest.isEmpty = true then pure ⟨name, type, length, scale, notNull, none⟩ else do
        return ⟨name, type, length, scale, notNull, some (← comment? rest)⟩ : Option ColumnShape) = some shape) :
      shape.length = length ∧ shape.scale = scale := by
    split at h
    · cases h
      exact ⟨rfl, rfl⟩
    · obtain ⟨note, -, h⟩ := Option.bind_eq_some_iff.1 h
      cases h
      exact ⟨rfl, rfl⟩
  dsimp only at h
  split at h
  · cases h
  · cases hsize : size? (e₁.span fun c => isCapital c || isDigit c).2 with
    | none =>
      simp only [hsize] at h
      exact (hend h).2
    | some sized =>
      simp only [hsize] at h
      rw [(hend h).1] at hl
      cases hl

end Token

namespace Parser

variable {e : Excerpt} {c : ColumnDef} {t : String} {n : Nat}

theorem comment_fits (h : comment s e = .ok t) : t.length ≤ s.maxCommentLen := by
  simp only [comment, except_bind_eq_ok, check_eq_ok, exists_const] at h
  obtain ⟨l, -, -, hlen, h⟩ := h
  cases h
  simpa using hlen

theorem comment_written (ht : t.length ≤ s.maxCommentLen) (h : e.chars = (Literal.mk t true).text.toList) :
    comment s e = .ok t := by
  simp only [comment, except_bind_eq_ok, check_eq_ok, exists_const]
  exact ⟨⟨t, true⟩, literal_written (fun hq => absurd hq (by simp)) h, rfl, by simpa using ht, rfl⟩

theorem size32_written (what : String) (hn : n ≤ Number.max32) (h : e.chars = (toString n).toList) :
    size32 what e = .ok n := by
  rw [size32, demand_eq_ok, text_eq_iff.2 h]
  exact Number.natural?_toString hn

theorem mapM_option_eq_none {α : Type} {f : Excerpt → Read α} {o : Option Excerpt} (h : o.mapM f = .ok none) : o = none := by
  cases o with
  | none => rfl
  | some x =>
    obtain ⟨b, -, h⟩ := except_map_eq_ok.1 (show (f x).map some = .ok none from h)
    cases h

/-- A part that can be missing is read back. -/
theorem mapM_option_written {α : Type} {f : Excerpt → Read α} {o : Option Excerpt} {r : Option α} {g : α → List Char}
    (h : o.map chars = r.map g) (hf : ∀ a ∈ r, ∀ x : Excerpt, x.chars = g a → f x = .ok a) : o.mapM f = .ok r := by
  cases o with
  | none =>
    cases r with
    | none => rfl
    | some a => cases h
  | some x =>
    cases r with
    | none => cases h
    | some a =>
      have hx := hf a rfl x (Option.some.inj h)
      show (f x).map some = _
      rw [hx]
      rfl

theorem columnDef_fits (h : columnDef s e = .ok c) : c.Fits s := by
  simp only [columnDef, except_bind_eq_ok, demand_eq_ok] at h
  obtain ⟨shape, hshape, n, hn, t, -, length, hlength, scale, hscale, note, hnote, h⟩ := h
  cases h
  refine ⟨(name_eq_ok.1 hn).2, fun k hk => ?_, fun k hk => ?_, fun hnone => ?_, fun t ht => ?_⟩
  · obtain ⟨x, -, hx⟩ := mapM_option_eq_ok hlength k hk
    exact size32_le hx
  · obtain ⟨x, -, hx⟩ := mapM_option_eq_ok hscale k hk
    exact size32_le hx
  · have hlen : length = none := hnone
    rw [hlen] at hlength
    rw [Token.column?_sized hshape (mapM_option_eq_none hlength)] at hscale
    cases hscale
    rfl
  · obtain ⟨x, -, hx⟩ := mapM_option_eq_ok hnote t ht
    exact comment_fits hx

theorem columnDef_written (hc : c.Fits s) (h : e.chars = c.text.toList) : columnDef s e = .ok c := by
  obtain ⟨shape, hshape, hof⟩ := Token.column?_written hc h
  have htype : ValueType.ofName? shape.type.text = some c.type := by
    rw [text_eq_iff.2 hof.type, ValueType.ofName?_name]
  simp only [columnDef, except_bind_eq_ok, demand_eq_ok]
  refine ⟨shape, hshape, c.name, name_written hc.name hof.name, c.type, htype, c.length,
    mapM_option_written hof.length fun n hn x hx => size32_written _ (hc.length n hn) hx, c.scale,
    mapM_option_written hof.scale fun n hn x hx => size32_written _ (hc.scale n hn) hx, c.comment,
    mapM_option_written hof.comment fun t ht x hx => comment_written (hc.comment t ht) hx, ?_⟩
  rw [hof.notNull]
  rfl

end Parser

/-! ## The parts of a table definition -/

namespace ValueType

theorem delimiters_name (t : ValueType) : delimiters t.name.toList = [] := by cases t <;> decide

end ValueType

theorem closed_comment (note : Option String) : Level.Closed (commentText note).toList := by
  cases note with
  | none => exact .plain rfl
  | some t =>
    rw [toList_comment, Literal.toList_text_of_quoted rfl]
    exact .append (.plain (by decide)) (.between _)

theorem trailing_comment (note : Option String) : Trailing (commentText note).toList := by
  cases note with
  | none => exact .inl rfl
  | some t =>
    have hword : Solid "COMMENT".toList := IsKeyword.solid (by decide)
    rw [toList_comment, Literal.toList_text_of_quoted rfl]
    exact .inr ⟨_, rfl, hword.around [' '] (.enclosed (by decide) (by decide))⟩

namespace ColumnDef

variable {c : ColumnDef}

theorem trailing_noteChars (c : ColumnDef) : Trailing c.noteChars := by
  refine .append ?_ (trailing_comment c.comment)
  split
  · exact .inr ⟨"NOT NULL".toList, rfl, ⟨_, _, rfl, by decide⟩, ⟨"NOT NUL".toList, 'L', rfl, by decide⟩⟩
  · exact .inl rfl

theorem Fits.solid (h : c.Fits s) : Solid c.text.toList := by
  have hsize : Solid (c.type.name.toList ++ (sizeText c.length c.scale).toList) := by
    cases c.length with
    | none =>
      rw [toList_noSize, List.append_nil]
      exact c.type.solid_name
    | some n =>
      obtain ⟨inner, hr, -⟩ := toList_sizeText n c.scale
      rw [hr]
      exact c.type.solid_name.append (.enclosed (by decide) (by decide))
  rw [toList_text, ← List.append_assoc]
  exact h.name.solid.trailing (.inr ⟨_, rfl, hsize.trailing c.trailing_noteChars⟩)

theorem Fits.closed (h : c.Fits s) : Level.Closed c.text.toList := by
  have hsize : Level.Closed (sizeText c.length c.scale).toList := by
    cases c.length with
    | none =>
      rw [toList_noSize]
      exact .plain rfl
    | some n =>
      obtain ⟨inner, hr, hcommas⟩ := toList_sizeText n c.scale
      rw [hr]
      exact .group hcommas
  have hnotes : Level.Closed c.noteChars := by
    refine .append (.plain ?_) (closed_comment c.comment)
    split <;> decide
  have hblank : Level.Closed [' '] := .plain rfl
  rw [toList_text]
  exact .append (.plain h.name.delimiters) (hblank.append (.append (.plain c.type.delimiters_name) (hsize.append hnotes)))

end ColumnDef

/-- The row key as it is written. -/
def keyChars (ns : List String) : List Char := "ROWKEY".toList ++ '(' :: (nameChars ns ++ [')'])

theorem solid_keyChars (ns : List String) : Solid (keyChars ns) :=
  .append (IsKeyword.solid (by decide)) (.enclosed (by decide) (by decide))

theorem closed_keyChars {ns : List String} (h : ∀ n ∈ ns, IsName s n) : Level.Closed (keyChars ns) :=
  .append (.plain (by decide)) (.group (delimiters_nameChars h))

namespace Parser

variable {e body : Excerpt} {cs : List ColumnDef} {ns : List String} {key key' : Option (List String)} {parts : List Excerpt}

theorem rowKey_fits (h : rowKey s e = .ok ns) : ns ≠ [] ∧ ∀ n ∈ ns, IsName s n := by
  simp only [rowKey, except_bind_eq_ok, Prod.exists] at h
  obtain ⟨inner, rest, -, -, -, hnames⟩ := h
  exact names_fits hnames

theorem rowKey_written (hns : ∀ n ∈ ns, IsName s n) (hne : ns ≠ []) (h : e.chars = '(' :: (nameChars ns ++ [')'])) :
    rowKey s e = .ok ns := by
  have hcommas := delimiters_nameChars hns
  obtain ⟨inner, rest, hsplit, hinner, hrest⟩ :=
    splitParens_written h (Level.avoids_commas hcommas _) (Level.run_commas hcommas _)
  rw [(solid_nameChars hns hne).trim] at hinner
  simp only [rowKey, except_bind_eq_ok, check_eq_ok, exists_const, Prod.exists]
  exact ⟨inner, rest, hsplit, Excerpt.isEmpty_iff.2 hrest, names_written hns hne hinner⟩

theorem definitions_key_fits (h : definitions s body key parts = .ok (cs, key')) :
    key' = key ∨ ∃ ns, key' = some ns ∧ ns ≠ [] ∧ ∀ n ∈ ns, IsName s n := by
  induction parts generalizing key cs with
  | nil =>
    cases h
    exact .inl rfl
  | cons part parts ih =>
    rw [definitions] at h
    obtain ⟨-, h⟩ := check_bind_eq_ok h
    split at h
    · obtain ⟨-, h⟩ := check_bind_eq_ok h
      obtain ⟨names, hnames, h⟩ := except_bind_eq_ok.1 h
      rcases ih h with rfl | hkey
      · exact .inr ⟨names, rfl, rowKey_fits hnames⟩
      · exact .inr hkey
    · obtain ⟨c, -, h⟩ := except_bind_eq_ok.1 h
      obtain ⟨⟨rest, key₁⟩, hrest, h⟩ := except_bind_eq_ok.1 h
      cases h
      exact ih hrest

/-- Columns with the row key behind them are read back. -/
theorem definitions_written (hcs : ∀ c ∈ cs, c.Fits s) (hns : ∀ n ∈ ns, IsName s n) (hne : ns ≠ [])
    (h : parts.map chars = cs.map (·.text.toList) ++ [keyChars ns]) :
    definitions s body none parts = .ok (cs, some ns) := by
  induction cs generalizing parts with
  | nil =>
    obtain ⟨part, rest, rfl, hpart, hrest⟩ := List.map_eq_cons_iff.1 h
    obtain rfl := List.map_eq_nil_iff.1 hrest
    obtain ⟨keys, hkeys, hchars⟩ := afterKeyword?_written (show IsKeyword "ROWKEY" by decide) hpart rfl
    have hgroup : Solid ('(' :: (nameChars ns ++ [')'])) := .enclosed (by decide) (by decide)
    rw [hgroup.trim] at hchars
    have hsome : part.isEmpty = false := by
      rw [Excerpt.isEmpty, hpart]
      rfl
    rw [definitions, hsome, hkeys]
    simp only [except_bind_eq_ok, check_eq_ok, exists_const]
    exact ⟨rfl, rfl, ns, rowKey_written hns hne hchars, rfl⟩
  | cons c cs ih =>
    obtain ⟨hc, hrest⟩ := List.forall_mem_cons.1 hcs
    obtain ⟨part, parts, rfl, (hpart : part.chars = c.text.toList), hparts⟩ := List.map_eq_cons_iff.1 h
    have hkey : part.afterKeyword? "ROWKEY" = none := by
      refine afterKeyword?_eq_none (by decide) ?_
      rw [hpart, ColumnDef.toList_text]
      exact hc.name.frontWord_ne (by decide) _
    rw [definitions, hkey]
    simp only [except_bind_eq_ok, check_eq_ok, exists_const, Prod.exists]
    exact ⟨not_isEmpty (by rw [hpart]; exact hc.solid.ne_nil), c, columnDef_written hc hpart, cs, some ns, ih hrest hparts, rfl⟩

theorem tableComment_fits {note : Option String} (h : tableComment s e = .ok note) : ∀ t ∈ note, t.length ≤ s.maxCommentLen := by
  rw [tableComment] at h
  split at h
  · cases h
    exact fun t ht => by cases ht
  · simp only [except_bind_eq_ok] at h
    obtain ⟨x, -, t, ht, h⟩ := h
    cases h
    rintro _ ⟨⟩
    exact comment_fits ht

theorem tableComment_written {note : Option String} (hnote : ∀ t ∈ note, t.length ≤ s.maxCommentLen)
    (h : e.chars = Text.trim (commentText note).toList) : tableComment s e = .ok note := by
  rw [(trailing_comment note).trim] at h
  cases note with
  | none =>
    rw [tableComment, if_pos (Excerpt.isEmpty_iff.2 h)]
    rfl
  | some t =>
    have hquoted : Solid (Literal.mk t true).text.toList := Literal.Fits.solid fun hq => nomatch hq
    have he : e.chars = "COMMENT".toList ++ ' ' :: (Literal.mk t true).text.toList := by
      rw [h, toList_comment]
      rfl
    obtain ⟨x, hx, hchars⟩ := afterKeyword?_written (by decide) he (wordEnds_blank _)
    rw [hquoted.blank_trim] at hchars
    have hne : ¬ e.isEmpty = true := by
      rw [Excerpt.isEmpty_iff, he]
      exact List.cons_ne_nil _ _
    rw [tableComment, if_neg hne]
    simp only [except_bind_eq_ok, demand_eq_ok]
    exact ⟨x, hx, t, comment_written (hnote t rfl) hchars, rfl⟩

end Parser

/-! ## Table definitions -/

/-- A table definition that is read back. -/
structure TableDef.Fits (s : Settings) (t : TableDef) : Prop where
  table : t.table.Fits s
  proper : t.table.isDual = false
  columns : ∀ c ∈ t.columns, c.Fits s
  key : ∀ n ∈ t.rowKey, IsName s n
  keyed : t.rowKey ≠ []
  comment : ∀ note ∈ t.comment, note.length ≤ s.maxCommentLen

namespace TableDef

variable {t : TableDef}

/-- The columns and the row key as they are written. -/
def partChars (t : TableDef) : List (List Char) := t.columns.map (·.text.toList) ++ [keyChars t.rowKey]

/-- What follows the words that say what to do if there is such a table. -/
def tableChars (t : TableDef) : List Char :=
  t.table.written.toList ++ ' ' :: '(' :: (join comma.toList t.partChars ++ ')' :: (commentText t.comment).toList)

theorem toList_text (t : TableDef) : t.text.toList =
    "TABLE".toList ++ ' ' :: keywordChars (if t.ifNotExists then ["IF", "NOT", "EXISTS"] else []) t.tableChars := by
  have hwords : (if t.ifNotExists then "IF NOT EXISTS " else "").toList =
      keywordChars (if t.ifNotExists then ["IF", "NOT", "EXISTS"] else []) [] := by
    split <;> decide
  have hparts : (joinText comma (t.columns.map ColumnDef.text ++ ["ROWKEY(" ++ joinText comma t.rowKey ++ ")"])).toList =
      join comma.toList t.partChars := by
    have hkey : ("ROWKEY(" ++ joinText comma t.rowKey ++ ")").toList = keyChars t.rowKey := by
      rw [String.toList_append, String.toList_append, toList_joinText]
      rfl
    rw [toList_joinText, List.map_append, List.map_map, List.map_singleton, hkey]
    rfl
  rw [keywordChars_append, ← hwords]
  change ("TABLE " ++ (if t.ifNotExists then "IF NOT EXISTS " else "") ++ t.table.written ++ " (" ++
    joinText comma (t.columns.map ColumnDef.text ++ ["ROWKEY(" ++ joinText comma t.rowKey ++ ")"]) ++ ")" ++
      commentText t.comment).toList = _
  rw [String.toList_append, String.toList_append, String.toList_append, String.toList_append, String.toList_append,
    String.toList_append, hparts, tableChars]
  simp only [List.append_assoc]
  rfl

theorem Fits.closed_parts (h : t.Fits s) : ∀ p ∈ t.partChars, Level.Closed p ∧ Solid p := by
  intro p hp
  rcases List.mem_append.1 hp with hp | hp
  · obtain ⟨c, hc, rfl⟩ := List.mem_map.1 hp
    exact ⟨(h.columns c hc).closed, (h.columns c hc).solid⟩
  · obtain rfl := List.mem_singleton.1 hp
    exact ⟨closed_keyChars h.key, solid_keyChars _⟩

theorem partChars_ne_nil (t : TableDef) : t.partChars ≠ [] := by simp [partChars]

/-- The body and the comment behind the table's name. -/
theorem trailing_body (t : TableDef) :
    Trailing (' ' :: '(' :: (join comma.toList t.partChars ++ ')' :: (commentText t.comment).toList)) := by
  have hgroup : Solid ('(' :: (join comma.toList t.partChars ++ [')'])) := .enclosed (by decide) (by decide)
  have hwhole := hgroup.trailing (trailing_comment t.comment)
  exact .inr ⟨_, rfl, by simpa using hwhole⟩

theorem Fits.solid_tableChars (h : t.Fits s) : Solid t.tableChars := h.table.solid.trailing t.trailing_body

theorem Fits.solid (h : t.Fits s) : Solid t.text.toList := by
  have hword : Solid "TABLE".toList := IsKeyword.solid (by decide)
  have hrest : Solid (keywordChars (if t.ifNotExists then ["IF", "NOT", "EXISTS"] else []) t.tableChars) :=
    solid_keywordChars (by split <;> decide) h.solid_tableChars
  rw [toList_text]
  exact hword.trailing (.inr ⟨_, rfl, hrest⟩)

end TableDef

namespace Parser

variable {e : Excerpt} {t : TableDef}

theorem tableDef_fits (h : tableDef s e = .ok t) : t.Fits s := by
  simp only [tableDef, except_bind_eq_ok, demand_eq_ok, check_eq_ok, exists_const, Prod.exists] at h
  obtain ⟨rest, -, -, table, htable, hdual, body, last, -, note, hnote, columns, key, hdefs, key', hkey, h⟩ := h
  cases h
  subst hkey
  have hcolumns : ∀ c ∈ columns, c.Fits s := fun c hc => by
    obtain ⟨part, -, hpart⟩ := (definitions_eq_ok hdefs).2 c hc
    exact columnDef_fits hpart
  rcases definitions_key_fits hdefs with hnone | ⟨ns, hns, hne, hall⟩
  · cases hnone
  · cases hns
    exact ⟨tableName_fits htable, by simpa using hdual, hcolumns, hall, hne, tableComment_fits hnote⟩

/-- The words in front of the table's name are found just if they were written. -/
theorem unless_written {rest : Excerpt} (ht : t.Fits s)
    (h : rest.chars = keywordChars (if t.ifNotExists then ["IF", "NOT", "EXISTS"] else []) t.tableChars) :
    (rest.afterKeywords? ["IF", "NOT", "EXISTS"]).isSome = t.ifNotExists ∧
      ((rest.afterKeywords? ["IF", "NOT", "EXISTS"]).getD rest).chars = t.tableChars := by
  cases hi : t.ifNotExists with
  | true =>
    rw [hi, if_pos rfl] at h
    obtain ⟨x, hx, hchars⟩ := afterKeywords?_written (by decide) ht.solid_tableChars h
    rw [hx]
    exact ⟨rfl, hchars⟩
  | false =>
    rw [hi, if_neg Bool.false_ne_true] at h
    have hnone : rest.afterKeywords? ["IF", "NOT", "EXISTS"] = none := by
      have hif : rest.trim.afterKeyword? "IF" = none := by
        refine afterKeyword?_eq_none (by decide) ?_
        rw [chars_trim, h, keywordChars, List.foldr_nil, ht.solid_tableChars.trim]
        exact ht.table.frontWord_ne (by decide) _
      rw [afterKeywords?, List.foldlM_cons, hif]
      rfl
    rw [hnone]
    exact ⟨rfl, h⟩

theorem tableDef_written (ht : t.Fits s) (h : e.chars = t.text.toList) : tableDef s e = .ok t := by
  rw [TableDef.toList_text] at h
  have hsolid : Solid (keywordChars (if t.ifNotExists then ["IF", "NOT", "EXISTS"] else []) t.tableChars) :=
    solid_keywordChars (by split <;> decide) ht.solid_tableChars
  obtain ⟨rest, hrest, hchars⟩ := afterKeyword?_written (by decide) h (wordEnds_blank _)
  rw [hsolid.blank_trim] at hchars
  obtain ⟨hunless, hstart⟩ := unless_written ht hchars
  obtain ⟨htoken, hbehind⟩ := splitToken_table ht.table t.trailing_body (by rw [hstart]; exact ht.solid_tableChars.trim)
  rw [t.trailing_body.trim] at hbehind
  obtain ⟨hclose, hlevel⟩ := Level.Closed.list fun p hp => (ht.closed_parts p hp).1
  obtain ⟨body, last, hsplit, hbody, hlast⟩ := splitParens_written hbehind hclose hlevel
  have hlist : Solid (join comma.toList t.partChars) := .join t.partChars_ne_nil fun p hp => (ht.closed_parts p hp).2
  rw [hlist.trim] at hbody
  have hpieces : Level.Pieces .ground t.partChars := Level.pieces_of_closed t.partChars_ne_nil fun p hp =>
    ⟨(ht.closed_parts p hp).1.noComma, (ht.closed_parts p hp).1.level⟩
  have hparts : (body.splitTopLevel ',').map chars = t.partChars :=
    splitTopLevel_written hpieces hbody fun p hp => (ht.closed_parts p hp).2.trim
  simp only [tableDef, except_bind_eq_ok, demand_eq_ok, check_eq_ok, exists_const, Prod.exists]
  refine ⟨rest, hrest, not_isEmpty (by rw [htoken]; exact ht.table.ne_nil), t.table, tableName_written ht.table htoken,
    by simp [ht.proper], body, last, hsplit, t.comment, tableComment_written ht.comment hlast, t.columns, some t.rowKey,
    definitions_written ht.columns ht.key ht.keyed hparts, t.rowKey, rfl, ?_⟩
  rw [hunless]
  rfl

end Parser
end SlotSql
