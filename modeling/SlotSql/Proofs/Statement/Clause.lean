import SlotSql.Proofs.Statement.Condition
/-!
# Clauses that are read back

The end of a statement that selects rows is cut where a keyword stands between blanks outside quotes and
parentheses. When such an end is written, a literal without quotes comes to stand between blanks, and is taken for a
keyword if it reads like one. Other literals are passed over. Where such a word was taken for a keyword, the
conditions in front of it weigh too little to be those that were written.

Results:
* `Tight`, `Skips`: texts that a search for a keyword passes over.
* `Selection.Plain`: no literal reads like a keyword of the place where it comes to stand.
* `numberClause_written`, `whereClause_written`, `whereClause_plain`: clauses are read back.
* `selection_fits`, `selection_written`: the end of a statement is read back just if it is plain.
-/
namespace SlotSql

open Text Excerpt

/-! ## Texts behind a blank -/

namespace Text

variable {a b : List Char}

/-- Nothing, or a solid text behind a blank. -/
def Trailing (cs : List Char) : Prop := cs = [] ∨ ∃ b, cs = ' ' :: b ∧ Solid b

theorem Solid.trailing (ha : Solid a) (hb : Trailing b) : Solid (a ++ b) := by
  rcases hb with rfl | ⟨b, rfl, hb⟩
  · rwa [List.append_nil]
  · simpa using ha.around [' '] hb

theorem Trailing.append (ha : Trailing a) (hb : Trailing b) : Trailing (a ++ b) := by
  rcases ha with rfl | ⟨a, rfl, ha⟩
  · exact hb
  · exact .inr ⟨a ++ b, rfl, ha.trailing hb⟩

theorem Trailing.atBlank (ha : Trailing a) : AtBlank a := by
  rcases ha with rfl | ⟨a, rfl, -⟩
  · exact .inl rfl
  · exact .inr ⟨a, rfl⟩

theorem Trailing.endsToken (ha : Trailing a) : ∀ c ∈ a.head?, endsToken c = true := by
  rcases ha with rfl | ⟨a, rfl, -⟩
  · exact fun c hc => by cases hc
  · intro c hc
    cases hc
    decide

theorem Trailing.trim (ha : Trailing a) : Text.trim a = a.drop 1 := by
  rcases ha with rfl | ⟨a, rfl, ha⟩
  · rfl
  · rw [trim_cons_blank, ha.trim]
    rfl

end Text

theorem Excerpt.wordEnds_blank (cs : List Char) : wordEnds (' ' :: cs) = true := rfl

theorem Excerpt.IsKeyword.solid {kw : String} (h : IsKeyword kw) : Solid kw.toList :=
  .word h.1 fun c hc => Call.isBlank_of_isCapital (h.2 c hc)

/-- Keywords with blanks behind them. -/
def Excerpt.keywordChars (kws : List String) (cs : List Char) : List Char :=
  kws.foldr (fun kw cs => kw.toList ++ ' ' :: cs) cs

theorem Excerpt.keywordChars_append (kws : List String) (cs : List Char) :
    keywordChars kws cs = keywordChars kws [] ++ cs := by
  induction kws with
  | nil => rfl
  | cons kw kws ih =>
    have hcons (cs : List Char) : keywordChars (kw :: kws) cs = kw.toList ++ ' ' :: keywordChars kws cs := rfl
    rw [hcons, hcons, ih, List.append_assoc]
    rfl

theorem Excerpt.solid_keywordChars {kws : List String} {cs : List Char} (hkws : ∀ kw ∈ kws, IsKeyword kw) (hcs : Solid cs) :
    Solid (keywordChars kws cs) := by
  induction kws with
  | nil => exact hcs
  | cons kw kws ih =>
    obtain ⟨hkw, hrest⟩ := List.forall_mem_cons.1 hkws
    exact hkw.solid.trailing (.inr ⟨_, rfl, ih hrest⟩)

/-- What follows a sequence of keywords that is written in front. -/
theorem Excerpt.foldlM_afterKeyword? {e : Excerpt} {kws : List String} {cs : List Char}
    (hkws : ∀ kw ∈ kws, IsKeyword kw) (hcs : Solid cs) (h : e.chars = keywordChars kws cs) :
    ∃ r, kws.foldlM afterKeyword? e = some r ∧ r.chars = cs := by
  induction kws generalizing e with
  | nil => exact ⟨e, rfl, h⟩
  | cons kw kws ih =>
    obtain ⟨hkw, hrest⟩ := List.forall_mem_cons.1 hkws
    obtain ⟨r, hr, hchars⟩ := afterKeyword?_written hkw h (wordEnds_blank _)
    obtain ⟨r', hr', hchars'⟩ := ih hrest (hchars.trans (solid_keywordChars hrest hcs).blank_trim)
    exact ⟨r', by rw [List.foldlM_cons, hr]; exact hr', hchars'⟩

theorem Excerpt.afterKeywords?_written {e : Excerpt} {kws : List String} {cs : List Char}
    (hkws : ∀ kw ∈ kws, IsKeyword kw) (hcs : Solid cs) (h : e.chars = keywordChars kws cs) :
    ∃ r, e.afterKeywords? kws = some r ∧ r.chars = cs :=
  foldlM_afterKeyword? hkws hcs (by rw [chars_trim, h, (solid_keywordChars hkws hcs).trim])

/-- The table behind a keyword, and what stands behind it. -/
theorem Excerpt.splitToken_table {s : Settings} {e : Excerpt} {t : TableName} {cs : List Char} (ht : t.Fits s)
    (hcs : Trailing cs) (h : Text.trim e.chars = t.written.toList ++ cs) :
    e.splitToken.1.chars = t.written.toList ∧ e.splitToken.2.chars = Text.trim cs :=
  splitToken_chars ht.endsToken ht.ne_nil (by rw [← h, trim_trim]) hcs.endsToken

/-! ## Texts that a search passes over -/

namespace Excerpt

variable {p : Place} {kw : String} {q : Bool} {a b cs w : List Char}

/-- Whether a quote is open behind a text. -/
def behind (q : Bool) (cs : List Char) : Bool := cs.foldl (fun q c => if c = quote then !q else q) q

theorem behind_append : behind q (a ++ b) = behind (behind q a) b := List.foldl_append ..

theorem quoted_run (l : Level) (cs : List Char) : (l.run cs).quoted = behind l.quoted cs := by
  induction cs generalizing l with
  | nil => rfl
  | cons c cs ih =>
    have hplace := quoted_step ⟨l.quoted, l.depth, true⟩ c
    have hlevel := congrArg Level.quoted (level_step ⟨l.quoted, l.depth, true⟩ c)
    rw [Level.run_cons, ih, show (l.step c).quoted = _ from hlevel.symm.trans hplace]
    rfl

/-- No blank stands outside quotes in a text, and its quotes are closed. -/
structure Tight (cs : List Char) : Prop where
  unbroken : Unbroken false cs
  closed : behind false cs = false

theorem unbroken_append : Unbroken q (a ++ b) ↔ Unbroken q a ∧ Unbroken (behind q a) b := by
  induction a generalizing q with
  | nil => simp [Unbroken, behind]
  | cons c a ih =>
    rw [List.cons_append, Unbroken, Unbroken, ih, and_assoc]
    rfl

namespace Tight

theorem append (ha : Tight a) (hb : Tight b) : Tight (a ++ b) where
  unbroken := unbroken_append.2 ⟨ha.unbroken, by rw [ha.closed]; exact hb.unbroken⟩
  closed := by rw [behind_append, ha.closed, hb.closed]

theorem plain (h : ∀ c ∈ cs, isBlank c = false ∧ c ≠ quote) : Tight cs := by
  induction cs with
  | nil => exact ⟨trivial, rfl⟩
  | cons c cs ih =>
    obtain ⟨⟨hc, hq⟩, hrest⟩ := List.forall_mem_cons.1 h
    refine Tight.append (a := [c]) ⟨⟨fun _ => isAsciiBlank_of_isBlank hc, trivial⟩, ?_⟩ (ih hrest)
    simp [behind, hq]

theorem all (h : (cs.all fun c => !isBlank c && c != quote) = true) : Tight cs :=
  .plain fun c hc => by simpa using List.all_eq_true.1 h c hc

theorem between (v : List Char) : Tight (quote :: (Literal.doubled v ++ [quote])) := by
  have hin : Unbroken true (Literal.doubled v ++ [quote]) ∧ behind true (Literal.doubled v ++ [quote]) = false := by
    induction v with
    | nil => exact ⟨⟨fun h => (by cases h), trivial⟩, rfl⟩
    | cons c v ih =>
      rw [Literal.doubled_cons, List.append_assoc, unbroken_append, behind_append]
      by_cases hc : c = quote
      · rw [if_pos hc, hc]
        exact ⟨⟨⟨fun h => (by cases h), fun _ => by decide, trivial⟩, ih.1⟩, ih.2⟩
      · have hsame : behind true [c] = true := by simp [behind, hc]
        rw [if_neg hc, hsame]
        exact ⟨⟨⟨fun h => (by cases h), trivial⟩, ih.1⟩, ih.2⟩
  exact ⟨⟨fun _ => by decide, hin.1⟩, hin.2⟩

end Tight

theorem IsKeyword.tight (h : IsKeyword kw) : Tight kw.toList :=
  .plain fun c hc => by
    refine ⟨Call.isBlank_of_isCapital (h.2 c hc), ?_⟩
    rintro rfl
    exact absurd (h.2 quote hc) (by decide)

theorem Tight.run (h : Tight w) {l : Level} (hl : l.quoted = false) : (l.run w).quoted = false := by
  rw [quoted_run, hl, h.closed]

/-- A search passes over a text that it comes to at a level. -/
def Skips (kw : String) (l : Level) (w : List Char) : Prop := ∀ p : Place, p.level = l → Passes kw p w

namespace Skips

variable {l : Level}

/-- A word can read like the keyword where the search does not look. -/
theorem word (hkw : IsKeyword kw) (hw : Tight w) (hl : l.quoted = false)
    (h : l = Level.ground → frontWord w ≠ kw.toList) : Skips kw l w := by
  rintro p rfl
  exact .word hkw (by rw [show p.quoted = false from hl]; exact hw.unbroken) fun ho _ => h (isOpen_iff.1 ho)

theorem append (hkw : IsKeyword kw) (ha : Skips kw l a) (hb : Skips kw (l.run a) b) : Skips kw l (a ++ ' ' :: b) := by
  rintro p rfl
  exact (ha p rfl).append hkw (hb _ (by rw [level_blank, level_run]))

/-- A search passes over the text to the place behind it. -/
theorem find (h : Skips kw .ground w) (hcs : AtBlank cs) : ∃ q : Place, q.level = Level.ground.run w ∧
    findKeywordFrom? kw {} (w ++ cs) = (findKeywordFrom? kw q cs).map (· + w.length) :=
  ⟨_, level_run _ _, h {} rfl cs hcs⟩

/-- A search finds nothing in front of a text that it passes over. -/
theorem le_find (hkw : IsKeyword kw) (h : Skips kw .ground w) (cs : List Char) :
    w.length + 1 ≤ (findKeywordFrom? kw {} (w ++ ' ' :: cs)).getD (w ++ ' ' :: cs).length := by
  obtain ⟨q, -, hq⟩ := h.find (.inr ⟨cs, rfl⟩)
  rw [hq, findKeyword_blank hkw]
  cases findKeywordFrom? kw (q.step ' ') cs with
  | none => simp
  | some n =>
    simp only [Option.map_some, Option.getD_some]
    omega

/-- A search stops behind a text that it passes over, if the keyword stands there. -/
theorem find_here (hkw : IsKeyword kw) (h : Skips kw .ground w) (hw : Level.ground.run w = Level.ground)
    (hcs : frontWord cs = kw.toList) : findKeywordFrom? kw {} (w ++ ' ' :: cs) = some (w.length + 1) := by
  obtain ⟨q, hl, hq⟩ := h.find (.inr ⟨cs, rfl⟩)
  rw [hq, findKeyword_next hkw (hl.trans hw) hcs, Option.map_some, Nat.add_comm]

/-- A search finds nothing in a text that it passes over. -/
theorem find_none (h : Skips kw .ground w) : findKeywordFrom? kw {} w = none := by
  obtain ⟨q, -, hq⟩ := h.find (.inl rfl)
  rw [List.append_nil] at hq
  rw [hq]
  rfl

end Skips

/-- A search does not go beyond a keyword that stands behind a blank, outside quotes and parentheses. -/
theorem findKeyword_le (hkw : IsKeyword kw) (ha : p.level.run a = .ground) (hb : frontWord b = kw.toList) :
    ∃ n ≤ a.length + 1, findKeywordFrom? kw p (a ++ ' ' :: b) = some n := by
  induction a generalizing p with
  | nil => exact ⟨1, Nat.le_refl 1, findKeyword_next hkw ha hb⟩
  | cons c a ih =>
    obtain ⟨n, hn, hfound⟩ := ih (p := p.step c) (by rw [level_step]; exact ha)
    rw [List.cons_append, findKeywordFrom?]
    split
    · exact ⟨0, Nat.zero_le _, rfl⟩
    · exact ⟨n + 1, Nat.succ_le_succ hn, by rw [hfound]; rfl⟩

/-- A text begins with the first character of its first word. -/
theorem head_of_frontWord {c : Char} {r : List Char} (h : frontWord w = c :: r) : ∃ t, w = c :: t := by
  have hpre : frontWord w <+: w := List.takeWhile_prefix _
  rw [h] at hpre
  obtain ⟨t, ht⟩ := hpre
  exact ⟨r ++ t, ht.symm⟩

/-- A keyword in front begins with a capital letter. -/
theorem isCapital_of_frontWord (hkw : IsKeyword kw) (h : frontWord w = kw.toList) :
    ∃ c r, w = c :: r ∧ Token.isCapital c = true := by
  obtain ⟨c, r, hc⟩ := List.exists_cons_of_ne_nil hkw.1
  obtain ⟨t, ht⟩ := head_of_frontWord (h.trans hc)
  exact ⟨c, t, ht, hkw.2 c (by rw [hc]; exact List.mem_cons_self)⟩

/-- A text without capital letters does not begin with a keyword, whatever follows it. -/
theorem frontWord_ne_keyword (hkw : IsKeyword kw) (hw : w ≠ []) (hlow : ∀ c ∈ w, Token.isCapital c = false)
    (cs : List Char) : frontWord (w ++ cs) ≠ kw.toList := by
  intro hf
  obtain ⟨c, r, hc, hcap⟩ := isCapital_of_frontWord hkw hf
  obtain ⟨d, w, rfl⟩ := List.exists_cons_of_ne_nil hw
  have hd := hlow d List.mem_cons_self
  rw [(List.cons.inj hc).1, hcap] at hd
  cases hd

end Excerpt

theorem not_isCapital_of_isNameChar {c : Char} (h : Token.isNameChar c = true) : Token.isCapital c = false := by
  cases hc : Token.isCapital c with
  | false => rfl
  | true =>
    have hn := toNat_of_isNameChar h
    have := toNat_of_isCapital hc
    omega

namespace IsName

variable {s : Settings} {n kw : String}

theorem tight (h : IsName s n) : Tight n.toList :=
  .plain fun c hc => ⟨isBlank_of_isNameChar (h.chars c hc), ne_quote_of_delimiters h.delimiters c hc⟩

theorem frontWord_ne (h : IsName s n) (hkw : IsKeyword kw) (cs : List Char) : frontWord (n.toList ++ cs) ≠ kw.toList :=
  frontWord_ne_keyword hkw h.ne_nil (fun c hc => not_isCapital_of_isNameChar (h.chars c hc)) cs

end IsName

theorem TableName.Fits.frontWord_ne {s : Settings} {t : TableName} {kw : String} (h : t.Fits s) (hkw : IsKeyword kw)
    (cs : List Char) : frontWord (t.written.toList ++ cs) ≠ kw.toList := by
  refine frontWord_ne_keyword hkw h.ne_nil (fun c hc => ?_) cs
  rcases h.chars c hc with hn | rfl
  · exact not_isCapital_of_isNameChar hn
  · decide

theorem Literal.Fits.tight {l : Literal} (h : l.Fits) : Tight l.text.toList := by
  cases hq : l.quoted with
  | true =>
    rw [Literal.toList_text_of_quoted hq]
    exact .between _
  | false =>
    rw [Literal.toList_text_of_bare hq]
    exact .plain (isBare_chars (h hq)).2

/-! ## Numbers behind keywords -/

section Numbers

variable {kw : String}

theorem toList_clauseText (kw : String) (n : Nat) :
    (clauseText kw (some n)).toList = ' ' :: (kw.toList ++ ' ' :: (toString n).toList) := by
  simp [clauseText]

theorem trailing_clauseText (hkw : IsKeyword kw) (o : Option Nat) : Trailing (clauseText kw o).toList := by
  cases o with
  | none => exact .inl rfl
  | some n => exact .inr ⟨_, toList_clauseText kw n, by simpa using hkw.solid.around [' '] (solid_toString n)⟩

end Numbers

namespace Parser

variable {e r : Excerpt} {kw : String} {o : Option Nat} {cs : List Char}

theorem numberClause_fits (h : numberClause e kw = .ok (o, r)) :
    (∀ n ∈ o, n ≤ Number.max64) ∧ (IsKeyword kw → e.chars = [] → o = none ∧ r = e) := by
  rw [numberClause] at h
  split at h
  · cases h
    exact ⟨fun n hn => (by cases hn), fun _ _ => ⟨rfl, rfl⟩⟩
  · next after hafter =>
    obtain ⟨n, hn, h⟩ := except_bind_eq_ok.1 h
    cases h
    refine ⟨fun k hk => ?_, fun hkw he => ?_⟩
    · cases hk
      exact number_le hn
    · obtain ⟨cs, hcs, -⟩ := afterKeyword?_chars hafter
      rw [he] at hcs
      exact absurd (List.append_eq_nil_iff.1 hcs.symm).1 hkw.1

theorem numberClause_written (hkw : IsKeyword kw) (ho : ∀ n ∈ o, n ≤ Number.max64) (hcs : Trailing cs)
    (hfront : frontWord (cs.drop 1) ≠ kw.toList) (h : e.chars = Text.trim ((clauseText kw o).toList ++ cs)) :
    ∃ r, numberClause e kw = .ok (o, r) ∧ r.chars = Text.trim cs := by
  cases o with
  | none =>
    have he : e.chars = Text.trim cs := h
    have hnone : e.afterKeyword? kw = none := afterKeyword?_eq_none hkw (by rw [he, hcs.trim]; exact hfront)
    exact ⟨e, by rw [numberClause, hnone], he⟩
  | some n =>
    have hn := solid_toString n
    have hsolid : Solid (kw.toList ++ ' ' :: (toString n).toList) := by simpa using hkw.solid.around [' '] hn
    have he : e.chars = kw.toList ++ ' ' :: ((toString n).toList ++ cs) := by
      rw [h, toList_clauseText, List.cons_append, (hsolid.trailing hcs).blank_trim, List.append_assoc]
      rfl
    obtain ⟨after, hafter, hchars⟩ := afterKeyword?_written hkw he (wordEnds_blank _)
    have hdigits : ∀ c ∈ (toString n).toList, endsToken c = false := by
      intro c hc
      have hc := isNameChar_of_isDigit (isDigit_toString n c hc)
      have hp : c ≠ '(' := ne_of_isNameChar hc (by decide)
      simp [endsToken, isBlank_of_isNameChar hc, hp]
    obtain ⟨htoken, hrest⟩ := splitToken_chars (e := after) hdigits (toString_ne_nil n)
      (by rw [hchars, trim_trim, trim_cons_blank]) hcs.endsToken
    refine ⟨after.splitToken.2, ?_, hrest⟩
    rw [numberClause, hafter]
    simp only [except_bind_eq_ok]
    exact ⟨n, number_written (ho n rfl) kw htoken, rfl⟩

end Parser
/-! ## Ends of statements -/

/-- The words that end the conditions of a statement. -/
def endWords : List String := ["OFFSET", "LIMIT"]

theorem mem_endWords : ∀ kw ∈ endWords, IsKeyword kw ∧ frontWord "AND".toList ≠ kw.toList := by decide

namespace Comparison

theorem tight_text (d : Comparison) : Tight d.text.toList := .all (by cases d <;> decide)

theorem frontWord_text (d : Comparison) : ∀ kw ∈ endWords, frontWord d.text.toList ≠ kw.toList := by
  cases d <;> decide

end Comparison

namespace Selection

/-- The conditions of a statement as they are written. -/
def conditionChars (sel : Selection) : List Char := join conjunction.toList (sel.conditions.map (·.text.toList))

/-- The numbers of a statement as they are written. -/
def numberChars (sel : Selection) : List Char :=
  (clauseText "OFFSET" sel.offset).toList ++ (clauseText "LIMIT" sel.limit).toList

/-- An end of a statement that is read back: its numbers have 64 bits, and parentheses in its conditions are closed
where a number follows. -/
structure Fits (s : Settings) (sel : Selection) : Prop where
  conditions : ∀ c ∈ sel.conditions, c.Fits s
  closed : sel.offset ≠ none ∨ sel.limit ≠ none → Level.ground.run sel.conditionChars = .ground
  offset : ∀ n ∈ sel.offset, n ≤ Number.max64
  limit : ∀ n ∈ sel.limit, n ≤ Number.max64

/-- No literal that stands outside parentheses reads like a word that ends the conditions. -/
def Unended : Level → List Condition → Prop
  | _, [] => True
  | l, c :: cs => (l = .ground → ∀ kw ∈ endWords, frontWord c.value.text.toList ≠ kw.toList) ∧
      Unended (l.run c.value.text.toList) cs

/-- No literal reads like a word that can stand in its place: the word between conditions, where another condition
follows, or a word that ends the conditions. -/
structure Plain (sel : Selection) : Prop where
  joined : ∀ c ∈ sel.conditions.dropLast, c.value ≠ .andWord
  ended : Unended .ground sel.conditions

instance Unended.decidable : ∀ l cs, Decidable (Unended l cs)
  | _, [] => .isTrue trivial
  | l, c :: cs =>
    have := Unended.decidable (l.run c.value.text.toList) cs
    inferInstanceAs (Decidable (_ ∧ _))

instance (sel : Selection) : Decidable sel.Plain :=
  decidable_of_iff (_ ∧ _) ⟨fun h => ⟨h.1, h.2⟩, fun h => ⟨h.joined, h.ended⟩⟩

variable {s : Settings} {sel : Selection} {kw : String}

theorem toList_text (sel : Selection) : sel.text.toList =
    (if sel.conditions = [] then [] else ' ' :: ("WHERE".toList ++ ' ' :: sel.conditionChars)) ++ sel.numberChars := by
  rw [text, String.toList_append, String.toList_append]
  congr 1
  split
  · rfl
  · simp only [String.toList_append, toList_joinText, List.map_map]
    rfl

theorem trailing_numberChars (sel : Selection) : Trailing sel.numberChars :=
  (trailing_clauseText (by decide) sel.offset).append (trailing_clauseText (by decide) sel.limit)

/-- There are no numbers, or the first stands behind a keyword. -/
theorem numberChars_cases (sel : Selection) : sel.offset = none ∧ sel.limit = none ∧ sel.numberChars = [] ∨
    (sel.offset ≠ none ∨ sel.limit ≠ none) ∧
      ∃ kw ∈ endWords, ∃ cs, sel.numberChars = ' ' :: cs ∧ frontWord cs = kw.toList := by
  have hfront : ∀ kw ∈ endWords, ∀ cs, frontWord (kw.toList ++ ' ' :: cs) = kw.toList := by
    intro kw hkw cs
    rw [frontWord_append (mem_endWords kw hkw).1.endsWord]
    simp [frontWord, endsWord, isAsciiBlank]
  unfold numberChars
  cases sel.offset with
  | some n =>
    refine .inr ⟨.inl (by simp), "OFFSET", by decide, "OFFSET".toList ++ ' ' :: ((toString n).toList ++ (clauseText "LIMIT" sel.limit).toList),
      ?_, hfront _ (by decide) _⟩
    rw [toList_clauseText, List.cons_append, List.append_assoc]
    rfl
  | none =>
    cases sel.limit with
    | none => exact .inl ⟨rfl, rfl, rfl⟩
    | some n => exact .inr ⟨.inr (by simp), "LIMIT", by decide, _, toList_clauseText "LIMIT" n, hfront _ (by decide) _⟩

theorem Fits.solid_conditionChars (h : sel.Fits s) (hne : sel.conditions ≠ []) : Solid sel.conditionChars := by
  refine .join (by simpa using hne) fun p hp => ?_
  obtain ⟨c, hc, rfl⟩ := List.mem_map.1 hp
  exact (h.conditions c hc).solid

theorem Fits.trailing_text (h : sel.Fits s) : Trailing sel.text.toList := by
  rw [toList_text]
  refine Trailing.append ?_ sel.trailing_numberChars
  split
  · exact .inl rfl
  · next hne =>
    have hwhere : Solid "WHERE".toList := IsKeyword.solid (by decide)
    exact .inr ⟨_, rfl, by simpa using hwhere.around [' '] (h.solid_conditionChars hne)⟩

end Selection

namespace Condition

variable {s : Settings} {c : Condition} {kw : String} {l : Level}

/-- A condition leads to the level that its literal leads to. -/
theorem Fits.run (h : c.Fits s) (l : Level) : l.run c.text.toList = l.run c.value.text.toList :=
  Level.run_congr (delimiters_text h.column)

theorem Fits.tight (h : c.Fits s) (hl : l.quoted = false) : (l.run c.text.toList).quoted = false := by
  rw [h.run]
  exact h.value.tight.run hl

theorem Fits.skips (h : c.Fits s) (hkw : kw ∈ endWords) (hl : l.quoted = false)
    (hfront : l = .ground → frontWord c.value.text.toList ≠ kw.toList) : Skips kw l c.text.toList := by
  obtain ⟨hkey, -⟩ := mem_endWords kw hkw
  have hsign : delimiters c.comparison.text.toList = [] := by cases c.comparison <;> decide
  have hname : Skips kw l c.column.toList :=
    .word hkey h.column.tight hl fun _ => by simpa using h.column.frontWord_ne hkey []
  have hcomparison : Skips kw l c.comparison.text.toList :=
    .word hkey c.comparison.tight_text hl fun _ => c.comparison.frontWord_text kw hkw
  have hvalue : Skips kw l c.value.text.toList := .word hkey h.value.tight hl hfront
  rw [toList_text]
  simpa [Comparison.around] using
    hname.append hkey (by
      rw [Level.run_plain h.column.delimiters]
      exact hcomparison.append hkey (by rw [Level.run_plain hsign]; exact hvalue))

end Condition

/-- The searches for the words that end the conditions pass over them. -/
theorem Selection.Unended.skips {s : Settings} {kw : String} {cs : List Condition} {l : Level} (h : Unended l cs)
    (hfits : ∀ c ∈ cs, c.Fits s) (hkw : kw ∈ endWords) (hne : cs ≠ []) (hl : l.quoted = false) :
    Skips kw l (join conjunction.toList (cs.map (·.text.toList))) := by
  obtain ⟨hkey, hand⟩ := mem_endWords kw hkw
  induction cs generalizing l with
  | nil => exact absurd rfl hne
  | cons c cs ih =>
    obtain ⟨hc, hrest⟩ := List.forall_mem_cons.1 hfits
    obtain ⟨hfront, hunended⟩ := h
    have hskips := hc.skips hkw hl fun hground => hfront hground kw hkw
    cases cs with
    | nil => exact hskips
    | cons d cs =>
      have hquoted := hc.tight hl
      rw [← hc.run] at hunended
      have hword : Skips kw (l.run c.text.toList) "AND".toList := .word hkey (IsKeyword.tight (by decide)) hquoted fun _ => hand
      have hplain : (l.run c.text.toList).run "AND".toList = l.run c.text.toList := Level.run_plain (by decide) _
      have hlist := hskips.append hkey (hword.append hkey (by rw [hplain]; exact ih hunended hrest (by simp) hquoted))
      simpa [join, conjunction] using hlist

/-- Otherwise such a word stands behind a blank, outside quotes and parentheses. -/
theorem Selection.exists_of_not_unended {s : Settings} {cs : List Condition} {l : Level} (h : ¬ Unended l cs)
    (hfits : ∀ c ∈ cs, c.Fits s) : ∃ kw ∈ endWords, ∃ a b, join conjunction.toList (cs.map (·.text.toList)) = a ++ ' ' :: b ∧
      l.run a = .ground ∧ frontWord b = kw.toList := by
  induction cs generalizing l with
  | nil => exact absurd trivial h
  | cons c cs ih =>
    obtain ⟨hc, hrest⟩ := List.forall_mem_cons.1 hfits
    have hjoin : ∃ z, AtBlank z ∧ join conjunction.toList ((c :: cs).map (·.text.toList)) = c.text.toList ++ z ∧
        (cs ≠ [] → z = conjunction.toList ++ join conjunction.toList (cs.map (·.text.toList))) := by
      cases cs with
      | nil => exact ⟨[], .inl rfl, (List.append_nil _).symm, fun hne => absurd rfl hne⟩
      | cons d cs => exact ⟨_, .inr ⟨_, rfl⟩, List.append_assoc .., fun _ => rfl⟩
    obtain ⟨z, hz, hchars, htail⟩ := hjoin
    rw [hchars]
    by_cases hfront : l = .ground → ∀ kw ∈ endWords, frontWord c.value.text.toList ≠ kw.toList
    · have hne : cs ≠ [] := by
        rintro rfl
        exact h ⟨hfront, trivial⟩
      obtain ⟨kw, hkw, a, b, hab, hrun, hword⟩ := ih (fun hunended => h ⟨hfront, hunended⟩) hrest
      refine ⟨kw, hkw, c.text.toList ++ (conjunction.toList ++ a), b, by rw [htail hne, hab]; simp, ?_, hword⟩
      have hplain : delimiters conjunction.toList = [] := by decide
      rw [Level.run_append, hc.run, Level.run_append, Level.run_plain hplain, hrun]
    · simp only [Classical.not_imp, not_forall, ne_eq, not_not] at hfront
      obtain ⟨rfl, kw, hkw, hword⟩ := hfront
      have hsign : delimiters (c.column.toList ++ ' ' :: c.comparison.text.toList) = [] := by
        have hcomparison : delimiters c.comparison.text.toList = [] := by cases c.comparison <;> decide
        rw [delimiters_append, hc.column.delimiters, delimiters_cons (by decide), hcomparison]
        rfl
      refine ⟨kw, hkw, c.column.toList ++ ' ' :: c.comparison.text.toList, c.value.text.toList ++ z, ?_,
        Level.run_plain hsign _, (frontWord_atBlank hz _).trans hword⟩
      rw [Condition.toList_text, Comparison.around]
      simp

namespace Parser

variable {s : Settings} {e r : Excerpt} {sel : Selection} {cs : List Condition}

/-- The conditions stop in front of the first word that ends them. -/
def stop (e : Excerpt) : Nat :=
  min ((e.findKeyword? "OFFSET").getD e.chars.length) ((e.findKeyword? "LIMIT").getD e.chars.length)

theorem stop_eq (e : Excerpt) : min ((e.findKeyword? "OFFSET").getD e.chars.length)
    ((e.findKeyword? "LIMIT").getD e.chars.length) = stop e := rfl

theorem stop_written (h : sel.Fits s) (hp : Selection.Unended .ground sel.conditions) (hne : sel.conditions ≠ [])
    (he : e.chars = sel.conditionChars ++ sel.numberChars) :
    Text.trim (e.chars.take (stop e)) = sel.conditionChars ∧
      Text.trim (e.chars.drop (stop e)) = Text.trim sel.numberChars := by
  have hskips : ∀ kw ∈ endWords, Skips kw .ground sel.conditionChars := fun kw hkw =>
    hp.skips h.conditions hkw hne rfl
  have hoffset := hskips "OFFSET" (by decide)
  have hlimit := hskips "LIMIT" (by decide)
  have hsolid := h.solid_conditionChars hne
  unfold stop findKeyword?
  rcases sel.numberChars_cases with ⟨-, -, hnone⟩ | ⟨hsome, kw, hkw, cs, hcs, hfront⟩
  · rw [hnone, List.append_nil] at he
    rw [hnone, he, hoffset.find_none, hlimit.find_none]
    simp [hsolid.trim]
  · have hground := h.closed hsome
    rw [hcs] at he
    have hstop : min ((findKeywordFrom? "OFFSET" {} e.chars).getD e.chars.length)
        ((findKeywordFrom? "LIMIT" {} e.chars).getD e.chars.length) = sel.conditionChars.length + 1 := by
      have ho := hoffset.le_find (by decide) cs
      have hl := hlimit.le_find (by decide) cs
      rw [← he] at ho hl
      have hone : (findKeywordFrom? kw {} e.chars).getD e.chars.length = sel.conditionChars.length + 1 := by
        rw [he, (hskips kw hkw).find_here (mem_endWords kw hkw).1 hground hfront]
        rfl
      simp only [endWords, List.mem_cons, List.not_mem_nil, or_false] at hkw
      rcases hkw with rfl | rfl <;> omega
    rw [hstop, he, hcs, List.take_length_add_append, List.drop_length_add_append, trim_cons_blank]
    exact ⟨(trim_append_blanks _ (by simp [isBlank])).trans hsolid.trim, rfl⟩

theorem eq_some_of_getD_lt {o : Option Nat} {n : Nat} (h : o.getD n < n) : o = some (o.getD n) := by
  cases o with
  | none => exact absurd h (Nat.lt_irrefl n)
  | some k => rfl

theorem whereClause_fits (h : whereClause s e = .ok (cs, r)) : (cs = [] ∧ r = e) ∨
    cs ≠ [] ∧ (∀ c ∈ cs, c.Fits s) ∧
      (r.chars ≠ [] → Level.ground.run (join conjunction.toList (cs.map (·.text.toList))) = .ground) := by
  rw [whereClause] at h
  split at h
  · cases h
    exact .inl ⟨rfl, rfl⟩
  · next after hafter =>
    simp only [except_bind_eq_ok, stop_eq] at h
    obtain ⟨-, -, conds, hconds, h⟩ := h
    cases h
    obtain ⟨hne, hfits, hdelims⟩ := conditions_fits hconds
    refine .inr ⟨hne, hfits, fun hrest => ?_⟩
    have hlt : stop after < after.chars.length := by
      by_contra hge
      refine hrest ?_
      rw [chars_trim, chars_drop, List.drop_of_length_le (Nat.le_of_not_lt hge)]
      rfl
    obtain ⟨kw, hkw⟩ : ∃ kw, after.findKeyword? kw = some (stop after) := by
      unfold stop at hlt ⊢
      rcases Nat.le_total ((after.findKeyword? "OFFSET").getD after.chars.length)
        ((after.findKeyword? "LIMIT").getD after.chars.length) with hle | hle
      · rw [Nat.min_eq_left hle] at hlt ⊢
        exact ⟨"OFFSET", eq_some_of_getD_lt hlt⟩
      · rw [Nat.min_eq_right hle] at hlt ⊢
        exact ⟨"LIMIT", eq_some_of_getD_lt hlt⟩
    rw [Level.run_congr hdelims, chars_trim, Level.run_congr (delimiters_trim _)]
    exact level_of_findKeyword hkw

/-- What follows the keyword, if there are conditions. -/
theorem where_written (h : sel.Fits s) (hne : sel.conditions ≠ []) (he : e.chars = Text.trim sel.text.toList) :
    ∃ after, e.afterKeyword? "WHERE" = some after ∧ after.chars = sel.conditionChars ++ sel.numberChars := by
  have hsolid := h.solid_conditionChars hne
  have hword : Solid "WHERE".toList := IsKeyword.solid (by decide)
  have hfront : Solid ("WHERE".toList ++ ' ' :: sel.conditionChars) := by simpa using hword.around [' '] hsolid
  rw [Selection.toList_text, if_neg hne, List.cons_append, (hfront.trailing sel.trailing_numberChars).blank_trim,
    List.append_assoc] at he
  obtain ⟨after, hafter, hchars⟩ := afterKeyword?_written (by decide) he (wordEnds_blank _)
  rw [List.cons_append, (hsolid.trailing sel.trailing_numberChars).blank_trim] at hchars
  exact ⟨after, hafter, hchars⟩

theorem whereClause_written (h : sel.Fits s) (hp : sel.Plain) (he : e.chars = Text.trim sel.text.toList) :
    ∃ r, whereClause s e = .ok (sel.conditions, r) ∧ r.chars = Text.trim sel.numberChars := by
  by_cases hne : sel.conditions = []
  · rw [Selection.toList_text, if_pos hne, List.nil_append] at he
    have hwhere : ∀ kw ∈ endWords, kw.toList ≠ "WHERE".toList := by decide
    have hnone : e.afterKeyword? "WHERE" = none := by
      refine afterKeyword?_eq_none (by decide) ?_
      rw [he, sel.trailing_numberChars.trim]
      rcases sel.numberChars_cases with ⟨-, -, hcs⟩ | ⟨-, kw, hkw, cs, hcs, hfront⟩
      · rw [hcs]
        decide
      · rw [hcs, List.drop_one, List.tail_cons, hfront]
        exact hwhere kw hkw
    exact ⟨e, by rw [whereClause, hnone, hne], he⟩
  · obtain ⟨after, hafter, hchars⟩ := where_written h hne he
    obtain ⟨htake, hdrop⟩ := stop_written h hp.ended hne hchars
    refine ⟨(after.drop (stop after)).trim, ?_, hdrop⟩
    rw [whereClause, hafter]
    simp only [except_bind_eq_ok, check_eq_ok, exists_const, stop_eq]
    have hclause : Text.trim (after.chars.take (stop after)) ≠ [] := by
      rw [htake]
      exact (h.solid_conditionChars hne).ne_nil
    exact ⟨not_isEmpty hclause, sel.conditions, (conditions_written hne h.conditions htake).2 hp.joined, rfl⟩

/-- Conditions that were cut off too early weigh less than those that were written. -/
theorem unended_of_read (h : sel.Fits s) (hchars : e.chars = sel.conditionChars ++ sel.numberChars)
    (hread : weight sel.conditionChars = weight (e.chars.take (stop e))) : Selection.Unended .ground sel.conditions := by
  by_contra hended
  obtain ⟨kw, hkw, a, b, hab, hrun, hword⟩ := Selection.exists_of_not_unended hended h.conditions
  have hkey := (mem_endWords kw hkw).1
  have hcut : e.chars = a ++ ' ' :: (b ++ sel.numberChars) := by
    rw [hchars, Selection.conditionChars, hab]
    simp
  obtain ⟨n, hn, hfound⟩ := findKeyword_le (p := {}) hkey hrun
    ((frontWord_atBlank sel.trailing_numberChars.atBlank b).trans hword)
  rw [← hcut] at hfound
  have hstop : stop e ≤ a.length + 1 := by
    have hone : (e.findKeyword? kw).getD e.chars.length = n := by
      rw [findKeyword?, hfound]
      rfl
    simp only [endWords, List.mem_cons, List.not_mem_nil, or_false] at hkw
    unfold stop
    rcases hkw with rfl | rfl <;> omega
  have htake : e.chars.take (stop e) <+: a ++ [' '] := by
    have hlong : a ++ [' '] <+: e.chars := ⟨b ++ sel.numberChars, by rw [hcut]; simp⟩
    exact List.prefix_of_prefix_length_le (List.take_prefix _ _) hlong (by simp; omega)
  obtain ⟨c, r, rfl, hcapital⟩ := isCapital_of_frontWord hkey hword
  have hpos : 0 < weight (c :: r) :=
    List.countP_pos_iff.2 ⟨c, List.mem_cons_self, by simp [Call.isBlank_of_isCapital hcapital]⟩
  have hle := weight_le htake
  have hblank : weight [' '] = 0 := by decide
  have hwhole : weight sel.conditionChars = weight a + weight (c :: r) := by
    rw [Selection.conditionChars, hab, List.append_cons, weight_append, weight_append, hblank, Nat.add_zero]
  rw [weight_append, hblank] at hle
  omega

theorem whereClause_plain (h : sel.Fits s) (he : e.chars = Text.trim sel.text.toList)
    (hread : whereClause s e = .ok (sel.conditions, r)) : sel.Plain := by
  by_cases hne : sel.conditions = []
  · refine ⟨?_, ?_⟩
    · rw [hne]
      exact fun c hc => by cases hc
    · rw [hne]
      trivial
  · obtain ⟨after, hafter, hchars⟩ := where_written h hne he
    rw [whereClause, hafter] at hread
    simp only [except_bind_eq_ok, stop_eq] at hread
    obtain ⟨-, -, conds, hconds, hread⟩ := hread
    obtain rfl : conds = sel.conditions := congrArg Prod.fst (Except.ok.inj hread)
    have hended : Selection.Unended .ground sel.conditions := by
      refine unended_of_read h hchars ?_
      rw [← weight_trim (after.chars.take _)]
      exact conditions_weight hconds
    exact ⟨(conditions_written hne h.conditions (stop_written h hended hne hchars).1).1 hconds, hended⟩

theorem selection_fits (h : selection s e = .ok sel) : sel.Fits s := by
  simp only [selection, except_bind_eq_ok, check_eq_ok, exists_const, Prod.exists] at h
  obtain ⟨conds, r, hwhere, offset, r₁, hoffset, limit, r₂, hlimit, -, h⟩ := h
  cases h
  obtain ⟨ho, ho'⟩ := numberClause_fits hoffset
  obtain ⟨hl, hl'⟩ := numberClause_fits hlimit
  rcases whereClause_fits hwhere with ⟨rfl, -⟩ | ⟨-, hfits, hclosed⟩
  · exact ⟨fun c hc => (by cases hc), fun _ => rfl, ho, hl⟩
  · refine ⟨hfits, fun hsome => hclosed fun hnil => ?_, ho, hl⟩
    obtain ⟨rfl, rfl⟩ := ho' (by decide) hnil
    obtain ⟨rfl, -⟩ := hl' (by decide) hnil
    simp at hsome

/-- The end of a statement is read back just if no literal reads like a keyword. -/
theorem selection_written (h : sel.Fits s) (he : e.chars = Text.trim sel.text.toList) :
    selection s e = .ok sel ↔ sel.Plain := by
  have htrim : e.trim.chars = Text.trim sel.text.toList := by rw [chars_trim, he, trim_trim]
  simp only [selection, except_bind_eq_ok, check_eq_ok, exists_const, Prod.exists]
  constructor
  · rintro ⟨conds, r, hwhere, offset, r₁, -, limit, r₂, -, -, hread⟩
    cases hread
    exact whereClause_plain h htrim hwhere
  · intro hp
    obtain ⟨r, hwhere, hr⟩ := whereClause_written h hp htrim
    have hlimits := trailing_clauseText (show IsKeyword "LIMIT" by decide) sel.limit
    have hfront : frontWord ((clauseText "LIMIT" sel.limit).toList.drop 1) ≠ "OFFSET".toList := by
      cases sel.limit with
      | none => decide
      | some n =>
        rw [toList_clauseText, List.drop_one, List.tail_cons, frontWord_append (IsKeyword.endsWord (by decide))]
        have hne : 'L' ≠ 'O' := by decide
        exact fun he => hne (List.cons.inj he).1
    obtain ⟨r₁, hoffset, hr₁⟩ := numberClause_written (by decide) h.offset hlimits hfront hr
    obtain ⟨r₂, hlimit, hr₂⟩ := numberClause_written (o := sel.limit) (e := r₁) (show IsKeyword "LIMIT" by decide) h.limit
      (.inl rfl) (by decide) (by rw [hr₁, List.append_nil])
    exact ⟨_, _, hwhere, _, _, hoffset, _, _, hlimit, isEmpty_iff.2 hr₂, rfl⟩

end Parser
end SlotSql
