import SlotSql.Proofs.Statement.Nesting
import SlotSql.Proofs.Text.Integer
import SlotSql.Statement.Parser.Basic
/-!
# Names, literals and calls that are read back

For every reader there is a condition on what it gives, such as that a name is not too long, and whatever
fulfils the condition is read back from the way in which it is written.

Results:
* `name_eq_ok`, `literal_eq_ok`: names and literals are read just from their texts.
* `tableName_written`, `number_written`, `call?_written`: tables, numbers and calls are read back.
-/
namespace SlotSql

open Text Excerpt

variable {s : Settings} {e : Excerpt} {cs : List Char}

/-! ## Checks -/

namespace Parser

@[simp] theorem check_eq_ok {m : String} {c : Bool} {u : Unit} : check e m c = .ok u ↔ c = true := by
  cases c <;> simp [check]

@[simp] theorem demand_eq_ok {α : Type} {m : String} {o : Option α} {a : α} :
    demand e m o = .ok a ↔ o = some a := by
  cases o <;> simp [demand]

@[simp] theorem checkLength_eq_ok {n : List Char} {u : Unit} :
    checkLength s e n = .ok u ↔ Utf8.size n ≤ s.maxNameLen := by
  simp [checkLength]

end Parser

/-! ## Names -/

/-- A text that is a name and not too long. -/
def IsName (s : Settings) (n : String) : Prop :=
  Token.isName n.toList = true ∧ Utf8.size n.toList ≤ s.maxNameLen

theorem toNat_of_isNameChar {c : Char} (h : Token.isNameChar c = true) :
    (97 ≤ c.toNat ∧ c.toNat ≤ 122) ∨ c.toNat = 95 ∨ (48 ≤ c.toNat ∧ c.toNat ≤ 57) := by
  simp only [Token.isNameChar, Token.isNameStart, Bool.or_eq_true, Bool.and_eq_true, decide_eq_true_eq,
    beq_iff_eq] at h
  rcases h with (h | rfl) | h
  · exact .inl ⟨h.1, h.2⟩
  · exact .inr (.inl rfl)
  · exact .inr (.inr ⟨h.1, h.2⟩)

theorem isName_chars (h : Token.isName cs = true) : cs ≠ [] ∧ ∀ c ∈ cs, Token.isNameChar c = true := by
  cases cs with
  | nil => cases h
  | cons c cs =>
    simp only [Token.isName, Bool.and_eq_true, List.all_eq_true] at h
    refine ⟨by simp, fun d hd => ?_⟩
    rcases List.mem_cons.1 hd with rfl | hd
    · simp [Token.isNameChar, h.1]
    · exact h.2 d hd

theorem ne_of_isNameChar {c d : Char} (h : Token.isNameChar c = true) (hd : Token.isNameChar d = false) : c ≠ d := by
  rintro rfl
  rw [h] at hd
  cases hd

theorem isBlank_of_isNameChar {c : Char} (h : Token.isNameChar c = true) : isBlank c = false := by
  have hn := toNat_of_isNameChar h
  simp only [isBlank, Bool.or_eq_false_iff, Bool.and_eq_false_iff, decide_eq_false_iff_not, beq_eq_false_iff_ne]
  omega

theorem isDelimiter_of_isNameChar {c : Char} (h : Token.isNameChar c = true) : isDelimiter c = false := by
  simp only [isDelimiter, Bool.or_eq_false_iff, beq_eq_false_iff_ne]
  exact ⟨⟨⟨ne_of_isNameChar h (by decide), ne_of_isNameChar h (by decide)⟩, ne_of_isNameChar h (by decide)⟩,
    ne_of_isNameChar h (by decide)⟩

namespace IsName

variable {n : String}

theorem chars (h : IsName s n) : ∀ c ∈ n.toList, Token.isNameChar c = true := (isName_chars h.1).2

theorem ne_nil (h : IsName s n) : n.toList ≠ [] := (isName_chars h.1).1

theorem solid (h : IsName s n) : Solid n.toList :=
  .word h.ne_nil fun c hc => isBlank_of_isNameChar (h.chars c hc)

theorem delimiters (h : IsName s n) : delimiters n.toList = [] :=
  delimiters_eq_nil.2 fun c hc => isDelimiter_of_isNameChar (h.chars c hc)

end IsName

namespace Parser

theorem name_eq_ok {n : String} : name s e = .ok n ↔ Text.trim e.chars = n.toList ∧ IsName s n := by
  simp only [name, except_bind_eq_ok, check_eq_ok, checkLength_eq_ok, exists_const, chars_trim]
  constructor
  · intro ⟨hn, hl, ht⟩
    have hchars : Text.trim e.chars = n.toList := text_eq_iff.1 (Except.ok.inj ht)
    rw [hchars] at hn hl
    exact ⟨hchars, hn, hl⟩
  · intro ⟨hc, hn, hl⟩
    rw [hc]
    exact ⟨hn, hl, congrArg _ (text_eq_iff.2 hc)⟩

theorem name_written {n : String} (hn : IsName s n) (h : e.chars = n.toList) : name s e = .ok n :=
  name_eq_ok.2 ⟨by rw [h, hn.solid.trim], hn⟩

end Parser

/-! ## Lists of names -/

section Names

variable {ns : List String}

/-- Names with commas between each two. -/
def nameChars (ns : List String) : List Char := join comma.toList (ns.map String.toList)

theorem delimiters_nameChars (hns : ∀ n ∈ ns, IsName s n) : ∀ c ∈ delimiters (nameChars ns), c = ',' := by
  unfold nameChars
  induction ns with
  | nil => exact fun c hc => by cases hc
  | cons n ns ih =>
    obtain ⟨hn, hrest⟩ := List.forall_mem_cons.1 hns
    cases ns with
    | nil =>
      intro c hc
      rw [List.map_cons, List.map_nil, join, hn.delimiters] at hc
      cases hc
    | cons m ns =>
      intro c hc
      rw [List.map_cons, List.map_cons, join, delimiters_append, delimiters_append, hn.delimiters, List.nil_append] at hc
      rcases List.mem_append.1 hc with hc | hc
      · exact List.mem_singleton.1 hc
      · exact ih hrest c hc

theorem solid_nameChars (hns : ∀ n ∈ ns, IsName s n) (hne : ns ≠ []) : Solid (nameChars ns) := by
  refine .join (by simpa using hne) fun p hp => ?_
  obtain ⟨n, hn, rfl⟩ := List.mem_map.1 hp
  exact (hns n hn).solid

namespace Parser

theorem names_fits (h : (e.splitTopLevel ',').mapM (name s) = .ok ns) : ns ≠ [] ∧ ∀ n ∈ ns, IsName s n := by
  refine ⟨?_, fun n hn => ?_⟩
  · rintro rfl
    have hnil : (e.splitTopLevel ',').map chars = [] := by rw [List.forall₂_nil_right_iff.1 (mapM_eq_ok.1 h)]; rfl
    rw [chars_splitTopLevel, List.map_eq_nil_iff] at hnil
    exact piecesAt_ne_nil _ _ _ hnil
  · obtain ⟨x, -, hx⟩ := mem_of_mapM h n hn
    exact (name_eq_ok.1 hx).2

theorem names_written (hns : ∀ n ∈ ns, IsName s n) (hne : ns ≠ []) (h : e.chars = nameChars ns) :
    (e.splitTopLevel ',').mapM (name s) = .ok ns := by
  refine mapM_written (Level.pieces_of_closed (by simpa using hne) fun p hp => ?_) h (fun n hn => (hns n hn).solid.trim)
    fun n hn x hx => name_written (hns n hn) hx
  obtain ⟨n, hn, rfl⟩ := List.mem_map.1 hp
  have hnone : ∀ c ∈ delimiters n.toList, c = ',' := by
    rw [(hns n hn).delimiters]
    exact fun c hc => by cases hc
  refine ⟨?_, Level.run_commas hnone _⟩
  rw [← Level.avoids_delimiters (by decide), (hns n hn).delimiters]
  trivial

end Parser

end Names

/-! ## Tables -/

/-- A name that a table can have: the pseudo table's, or two names that are not too long. -/
def TableName.Fits (s : Settings) (t : TableName) : Prop :=
  t = ⟨s.systemPrefix, dualTable⟩ ∨ t.table ≠ dualTable ∧ IsName s t.tablespace ∧ IsName s t.table

namespace Parser

theorem tableName_fits {t : TableName} (h : tableName s e = .ok t) : t.Fits s := by
  simp only [tableName, except_bind_eq_ok, demand_eq_ok] at h
  obtain ⟨⟨ts, tn⟩, hparts, h⟩ := h
  dsimp only at h
  split at h
  · cases h
    exact .inl rfl
  · next hdual =>
    simp only [except_bind_eq_ok, demand_eq_ok, checkLength_eq_ok, exists_const] at h
    obtain ⟨ts, rfl, hl, hl', h⟩ := h
    cases h
    have hnames : Token.isName ts = true ∧ Token.isName tn = true := by
      rw [Token.tableParts?] at hparts
      split at hparts
      · split at hparts <;> cases hparts
      · split at hparts
        · next hn =>
          cases hparts
          simpa using hn
        · cases hparts
    refine .inr ⟨hdual, ⟨?_, ?_⟩, ⟨?_, ?_⟩⟩
    · rw [String.toList_ofList]; exact hnames.1
    · rw [String.toList_ofList]; exact hl
    · rw [String.toList_ofList]; exact hnames.2
    · rw [String.toList_ofList]; exact hl'

end Parser

namespace TableName

variable {t : TableName}

theorem written_of_dual (h : t.table = dualTable) : t.written = dualTable :=
  if_pos (by simp [isDual, h])

theorem toList_written (h : t.table ≠ dualTable) : t.written.toList = t.tablespace.toList ++ '.' :: t.table.toList := by
  have hd : t.isDual = false := by simpa [isDual] using h
  simp [written, hd, text]

/-- The characters of a table's name: those of names, and the point. -/
theorem Fits.chars (h : t.Fits s) : ∀ c ∈ t.written.toList, Token.isNameChar c = true ∨ c = '.' := by
  rcases h with rfl | ⟨hdual, hts, htn⟩
  · have hall : ∀ c ∈ dualTable.toList, Token.isNameChar c = true := List.all_eq_true.1 (by decide)
    rw [written_of_dual rfl]
    exact fun c hc => .inl (hall c hc)
  · rw [toList_written hdual]
    intro c hc
    rcases List.mem_append.1 hc with hc | hc
    · exact .inl (hts.chars c hc)
    · rcases List.mem_cons.1 hc with rfl | hc
      · exact .inr rfl
      · exact .inl (htn.chars c hc)

theorem Fits.ne_nil (h : t.Fits s) : t.written.toList ≠ [] := by
  rcases h with rfl | ⟨hdual, -, -⟩
  · rw [written_of_dual rfl]
    decide
  · rw [toList_written hdual]
    simp

theorem Fits.isBlank (h : t.Fits s) : ∀ c ∈ t.written.toList, isBlank c = false := by
  intro c hc
  rcases h.chars c hc with hn | rfl
  · exact isBlank_of_isNameChar hn
  · decide

theorem Fits.endsToken (h : t.Fits s) : ∀ c ∈ t.written.toList, endsToken c = false := by
  intro c hc
  have hp : c ≠ '(' := by
    rcases h.chars c hc with hn | rfl
    · exact ne_of_isNameChar hn (by decide)
    · decide
  simp [Excerpt.endsToken, h.isBlank c hc, hp]

theorem Fits.solid (h : t.Fits s) : Solid t.written.toList := .word h.ne_nil h.isBlank

end TableName

namespace Parser

theorem tableName_written {t : TableName} (ht : t.Fits s) (h : e.chars = t.written.toList) :
    tableName s e = .ok t := by
  have htrim : e.trim.chars = t.written.toList := by rw [chars_trim, h, ht.solid.trim]
  have hparts : ∃ ts, Token.tableParts? t.written.toList = some (ts, t.table.toList) ∧
      (t.table ≠ dualTable → ts = some t.tablespace.toList) := by
    rcases ht with rfl | ⟨hdual, hts, htn⟩
    · refine ⟨none, ?_, fun hne => absurd rfl hne⟩
      rw [TableName.written_of_dual rfl]
      exact (by decide : Token.tableParts? dualTable.toList = some (none, dualTable.toList))
    · have hpoint : '.' ∉ t.tablespace.toList := by
        intro hm
        exact absurd (hts.chars '.' hm) (by decide)
      refine ⟨some t.tablespace.toList, ?_, fun _ => rfl⟩
      rw [Token.tableParts?, TableName.toList_written hdual, cut?_cons hpoint]
      simp [hts.1, htn.1]
  obtain ⟨ts, hp, hq⟩ := hparts
  simp only [tableName, except_bind_eq_ok, demand_eq_ok, htrim]
  refine ⟨_, hp, ?_⟩
  dsimp only
  rw [String.ofList_toList]
  rcases ht with rfl | ⟨hdual, hts, htn⟩
  · rw [if_pos rfl]
    rfl
  · rw [if_neg hdual, hq hdual]
    simp only [except_bind_eq_ok, demand_eq_ok, checkLength_eq_ok, exists_const]
    refine ⟨_, rfl, hts.2, htn.2, ?_⟩
    rw [String.ofList_toList]
    rfl

end Parser

/-! ## Literals -/

/-- A literal without quotes has neither blanks nor quotes. -/
def Literal.Fits (l : Literal) : Prop := l.quoted = false → Token.isBare l.value.toList = true

theorem isBare_chars (h : Token.isBare cs = true) :
    cs ≠ [] ∧ ∀ c ∈ cs, isBlank c = false ∧ c ≠ quote := by
  simpa [Token.isBare] using h

namespace Literal

variable {l : Literal}

theorem toList_text_of_quoted (h : l.quoted = true) :
    l.text.toList = quote :: (doubled l.value.toList ++ [quote]) := by
  simp [text, h, quote]

theorem toList_text_of_bare (h : l.quoted = false) : l.text.toList = l.value.toList := by
  simp [text, h]

theorem Fits.solid (h : l.Fits) : Solid l.text.toList := by
  cases hq : l.quoted with
  | true =>
    rw [toList_text_of_quoted hq]
    exact .enclosed (by decide) (by decide)
  | false =>
    rw [toList_text_of_bare hq]
    have hb := isBare_chars (h hq)
    exact .word hb.1 fun c hc => (hb.2 c hc).1

theorem doubled_cons (c : Char) (cs : List Char) :
    doubled (c :: cs) = (if c = quote then [c, c] else [c]) ++ doubled cs := rfl

end Literal

namespace Parser

theorem undoubled?_cons {c : Char} (h : c ≠ quote) : undoubled? (c :: cs) = (undoubled? cs).map (c :: ·) := by
  cases cs <;> simp [undoubled?, h]

theorem undoubled?_eq_some {vs : List Char} : undoubled? cs = some vs ↔ cs = Literal.doubled vs := by
  constructor
  · intro h
    induction cs using undoubled?.induct generalizing vs with
    | case1 => cases h; rfl
    | case2 => simp [undoubled?] at h
    | case3 cs ih =>
      simp only [undoubled?, if_true, Option.map_eq_some_iff] at h
      obtain ⟨ws, hws, rfl⟩ := h
      simp [Literal.doubled_cons, ih hws]
    | case4 d cs hd => simp [undoubled?, hd] at h
    | case5 c cs hc ih =>
      rw [undoubled?_cons hc, Option.map_eq_some_iff] at h
      obtain ⟨ws, hws, rfl⟩ := h
      simp [Literal.doubled_cons, hc, ih hws]
  · rintro rfl
    induction vs with
    | nil => rfl
    | cons v vs ih =>
      by_cases hv : v = quote
      · simp [Literal.doubled_cons, hv, undoubled?, ih]
      · rw [Literal.doubled_cons, if_neg hv, List.singleton_append, undoubled?_cons hv, ih]
        rfl

/-- A literal is read from its text, and from nothing else. -/
theorem literal_eq_ok {l : Literal} : literal e = .ok l ↔ Text.trim e.chars = l.text.toList ∧ l.Fits := by
  simp only [literal, chars_trim]
  split
  · next body hbody =>
    have hb := stripStart?_eq_some.1 hbody
    simp only [except_bind_eq_ok, demand_eq_ok, undoubled?_eq_some]
    constructor
    · rintro ⟨inner, hinner, value, rfl, hl⟩
      cases hl
      refine ⟨?_, fun h => nomatch h⟩
      rw [hb, stripEnd?_eq_some.1 hinner, Literal.toList_text_of_quoted rfl, String.toList_ofList]
      rfl
    · rintro ⟨ht, hfits⟩
      cases hq : l.quoted with
      | false =>
        rw [Literal.toList_text_of_bare hq, hb] at ht
        have hne := (isBare_chars (hfits hq)).2 quote (by rw [← ht]; exact List.mem_cons_self)
        exact absurd rfl hne.2
      | true =>
        rw [Literal.toList_text_of_quoted hq, hb] at ht
        have hbody : body = Literal.doubled l.value.toList ++ [quote] := (List.cons.inj ht).2
        refine ⟨_, stripEnd?_eq_some.2 hbody, _, rfl, ?_⟩
        rw [String.ofList_toList, ← hq]
        rfl
  · next hnone =>
    simp only [except_bind_eq_ok, check_eq_ok, exists_const]
    constructor
    · rintro ⟨-, hbare, hl⟩
      cases hl
      refine ⟨?_, fun _ => ?_⟩
      · rw [Literal.toList_text_of_bare rfl, Excerpt.text, String.toList_ofList, chars_trim]
      · rw [Excerpt.text, String.toList_ofList]
        exact hbare
    · rintro ⟨ht, hfits⟩
      cases hq : l.quoted with
      | true =>
        rw [Literal.toList_text_of_quoted hq] at ht
        rw [ht] at hnone
        simp [stripStart?] at hnone
      | false =>
        rw [Literal.toList_text_of_bare hq] at ht
        have hbare := hfits hq
        refine ⟨?_, by rw [ht]; exact hbare, ?_⟩
        · have hne := (isBare_chars hbare).1
          rw [← ht] at hne
          simpa [Excerpt.isEmpty] using hne
        · rw [text_eq_iff.2 (show e.trim.chars = l.value.toList from ht), ← hq]
          rfl

theorem literal_written {l : Literal} (hl : l.Fits) (h : e.chars = l.text.toList) : literal e = .ok l :=
  literal_eq_ok.2 ⟨by rw [h, hl.solid.trim], hl⟩

end Parser

/-! ## Numbers -/

theorem isDigit_toString (n : Nat) : ∀ c ∈ (toString n).toList, Token.isDigit c = true := by
  intro c hc
  have hd : c.isDigit = true := by
    refine Nat.isDigit_of_mem_toDigits (b := 10) (by omega) (by omega) (n := n) ?_
    exact (Nat.toList_repr (n := n)) ▸ hc
  simp only [Char.isDigit, Bool.and_eq_true, decide_eq_true_eq] at hd
  simp only [Token.isDigit, Bool.and_eq_true, decide_eq_true_eq]
  exact ⟨hd.1, hd.2⟩

theorem toString_ne_nil (n : Nat) : (toString n).toList ≠ [] := by
  have h : (toString n).toList = Nat.toDigits 10 n := Nat.toList_repr
  rw [h]
  exact Nat.toDigits_ne_nil

theorem isNameChar_of_isDigit {c : Char} (h : Token.isDigit c = true) : Token.isNameChar c = true := by
  simp only [Token.isDigit] at h
  simp [Token.isNameChar, h]

theorem solid_toString (n : Nat) : Solid (toString n).toList :=
  .word (toString_ne_nil n) fun c hc => isBlank_of_isNameChar (isNameChar_of_isDigit (isDigit_toString n c hc))

theorem isNumber_toString (n : Nat) : Token.isNumber (toString n).toList = true := by
  have hne : (toString n).toList.isEmpty = false := by simp
  simpa [Token.isNumber, hne] using isDigit_toString n

theorem natural?_le {hi n : Nat} {t : String} (h : Number.natural? hi t = some n) : n ≤ hi := by
  rw [Number.natural?, Option.filter_eq_some_iff] at h
  exact of_decide_eq_true h.2

namespace Parser

theorem number_le {clause : String} {n : Nat} (h : number e clause = .ok n) : n ≤ Number.max64 := by
  simp only [number, except_bind_eq_ok, check_eq_ok, demand_eq_ok, exists_const] at h
  exact natural?_le h.2

theorem number_written {n : Nat} (hn : n ≤ Number.max64) (clause : String) (h : e.chars = (toString n).toList) :
    number e clause = .ok n := by
  have htrim : e.trim.chars = (toString n).toList := by rw [chars_trim, h, (solid_toString n).trim]
  simp only [number, except_bind_eq_ok, check_eq_ok, demand_eq_ok, exists_const, htrim]
  refine ⟨isNumber_toString n, ?_⟩
  rw [text_eq_iff.2 htrim]
  exact Number.nat64?_toString hn

end Parser

/-! ## Calls -/

/-- A column's name is one, and a literal is not taken for one. -/
def Argument.Fits (s : Settings) : Argument → Prop
  | .column c => IsName s c
  | .literal l => l.Fits ∧ Token.isName l.text.toList = false

theorem Argument.Fits.solid {a : Argument} (h : a.Fits s) : Solid a.text.toList := by
  cases a with
  | column c => exact IsName.solid h
  | literal l => exact h.1.solid

namespace Parser

theorem argument_fits {a : Argument} (h : argument s e = .ok a) (he : Text.trim e.chars = e.chars) :
    a.Fits s ∧ e.chars = a.text.toList := by
  rw [argument] at h
  split at h
  · obtain ⟨n, hn, rfl⟩ := except_map_eq_ok.1 h
    obtain ⟨hc, hn⟩ := name_eq_ok.1 hn
    exact ⟨hn, he ▸ hc⟩
  · next hname =>
    obtain ⟨l, hl, rfl⟩ := except_map_eq_ok.1 h
    obtain ⟨hc, hl⟩ := literal_eq_ok.1 hl
    rw [he] at hc
    exact ⟨⟨hl, by rw [← hc]; simpa using hname⟩, hc⟩

theorem argument_written {a : Argument} (ha : a.Fits s) (h : e.chars = a.text.toList) : argument s e = .ok a := by
  rw [argument, h]
  cases a with
  | column c =>
    have hname : Token.isName (Argument.column c).text.toList = true := ha.1
    rw [if_pos hname, name_written ha h]
    rfl
  | literal l =>
    rw [if_neg (by simp [Argument.text, ha.2]), literal_written ha.1 h]
    rfl

end Parser

/-- The text between the parentheses of a call. -/
def Call.inner (c : Call) : List Char := ((c.argument.map Argument.text).getD "").toList

/-- A call has an argument just when its function takes one. -/
structure Call.Fits (s : Settings) (c : Call) : Prop where
  takes : c.argument.isSome = c.function.takesArgument
  argument : ∀ a ∈ c.argument, a.Fits s

/-- A word of capital letters with a text in parentheses. -/
def IsCall (cs : List Char) : Prop :=
  ∃ n inner, n ≠ [] ∧ (∀ c ∈ n, Token.isCapital c = true) ∧ cs = n ++ '(' :: (inner ++ [')'])

namespace Call

variable {c : Call}

theorem toList_text (c : Call) : c.text.toList = c.function.name.toList ++ '(' :: (c.inner ++ [')']) := by
  simp [text, inner]

theorem isCapital_name : ∀ (f : TimeFunction), f.name.toList ≠ [] ∧ ∀ c ∈ f.name.toList, Token.isCapital c = true := by
  intro f
  refine ⟨?_, List.all_eq_true.1 ?_⟩ <;> cases f <;> decide

theorem isCall_text (c : Call) : IsCall c.text.toList :=
  ⟨_, _, (isCapital_name c.function).1, (isCapital_name c.function).2, c.toList_text⟩

theorem Fits.trim_inner (h : c.Fits s) : Text.trim c.inner = c.inner := by
  unfold inner
  cases ha : c.argument with
  | none => rfl
  | some a => exact (h.argument a ha).solid.trim

theorem isBlank_of_isCapital {x : Char} (h : Token.isCapital x = true) : isBlank x = false := by
  have hn := toNat_of_isCapital h
  simp only [isBlank, Bool.or_eq_false_iff, Bool.and_eq_false_iff, decide_eq_false_iff_not, beq_eq_false_iff_ne]
  omega

end Call

theorem IsCall.solid (h : IsCall cs) : Solid cs := by
  obtain ⟨n, inner, hne, hcap, rfl⟩ := h
  have hn : Solid n := .word hne fun c hc => Call.isBlank_of_isCapital (hcap c hc)
  have hclose : ∀ c ∈ [')'], isBlank c = false := by
    intro c hc
    rw [List.mem_singleton.1 hc]
    decide
  have := hn.around ('(' :: inner) (b := [')']) (.word (by simp) hclose)
  simpa using this

namespace Parser

theorem token_call?_eq_some {n : String} {inner : Excerpt} (h : Token.call? e = some (n, inner)) :
    n.toList ≠ [] ∧ (∀ c ∈ n.toList, Token.isCapital c = true) ∧
      e.chars = n.toList ++ '(' :: (inner.chars ++ [')']) := by
  cases hs : e.span Token.isCapital with
  | mk name rest =>
    have hname : name.chars = e.chars.takeWhile Token.isCapital := (congrArg (fun x => x.1.chars) hs).symm
    have hrest : rest.chars = e.chars.dropWhile Token.isCapital := (congrArg (fun x => x.2.chars) hs).symm
    rw [Token.call?, hs] at h
    dsimp only at h
    split at h
    · next cs hcs =>
      split at h
      · cases h
      · next hc =>
        simp only [Bool.or_eq_true, not_or, bne_iff_ne, ne_eq, not_not] at hc
        obtain ⟨hne, hlast⟩ := hc
        cases h
        have hback : cs.dropLast ++ [')'] = cs := List.dropLast_append_getLast? _ hlast
        have hinner : ((rest.take cs.length).drop 1).chars = cs.dropLast := by
          rw [chars_drop, chars_take, hcs, List.dropLast_eq_take]
          cases cs with
          | nil => rfl
          | cons c cs => simp
        rw [hinner, hback, Excerpt.text, String.toList_ofList, ← hcs, hname, hrest]
        refine ⟨?_, fun c hc => List.mem_takeWhile_imp hc, (List.takeWhile_append_dropWhile ..).symm⟩
        intro hnil
        exact hne (isEmpty_iff.2 (hname.trans hnil))
    · cases h

theorem token_call?_written {n inner : List Char} (hne : n ≠ []) (hn : ∀ c ∈ n, Token.isCapital c = true)
    (h : e.chars = n ++ '(' :: (inner ++ [')'])) :
    ∃ i, Token.call? e = some (String.ofList n, i) ∧ i.chars = inner := by
  have hp : Token.isCapital '(' = false := by decide
  have hfront : (e.span Token.isCapital).1.chars = n := by
    rw [chars_span_fst, h, List.takeWhile_append_of_pos hn, List.takeWhile_cons_of_neg (by simp [hp]), List.append_nil]
  have hrest : (e.span Token.isCapital).2.chars = '(' :: (inner ++ [')']) := by
    rw [chars_span_snd, h, List.dropWhile_append_of_pos hn, List.dropWhile_cons_of_neg (by simp [hp])]
  have hempty : (e.span Token.isCapital).1.isEmpty = false := by
    rw [Excerpt.isEmpty, hfront]
    simpa using hne
  refine ⟨((e.span Token.isCapital).2.take (inner ++ [')']).length).drop 1, ?_, ?_⟩
  · rw [Token.call?]
    simp only [hrest, hempty, Excerpt.text, hfront]
    simp
  · rw [chars_drop, chars_take, hrest]
    simp

theorem token_call?_isSome : (Token.call? e).isSome = true ↔ IsCall e.chars := by
  rw [Option.isSome_iff_exists]
  constructor
  · rintro ⟨⟨n, i⟩, h⟩
    obtain ⟨hne, hn, he⟩ := token_call?_eq_some h
    exact ⟨_, _, hne, hn, he⟩
  · rintro ⟨n, i, hne, hn, he⟩
    obtain ⟨i, hi, -⟩ := token_call?_written hne hn he
    exact ⟨_, hi⟩

theorem ofName?_eq_some : ∀ {n : String} {f : TimeFunction}, TimeFunction.ofName? n = some f → n = f.name := by
  intro n f h
  have := List.find?_some h
  exact (beq_iff_eq.1 this).symm

theorem ofName?_name (f : TimeFunction) : TimeFunction.ofName? f.name = some f := by
  cases f <;> decide

theorem call?_fits {c : Call} (h : call? s e = .ok (some c)) : c.Fits s ∧
    ∃ inner, Text.trim e.chars = c.function.name.toList ++ '(' :: (inner ++ [')']) ∧ Text.trim inner = c.inner := by
  rw [call?] at h
  split at h
  · cases h
  · next n inner hcall =>
    obtain ⟨-, -, he⟩ := token_call?_eq_some hcall
    simp only [except_bind_eq_ok, demand_eq_ok] at h
    obtain ⟨f, hf, h⟩ := h
    have hn := ofName?_eq_some hf
    rw [chars_trim, hn] at he
    split at h
    · next htakes =>
      simp only [except_bind_eq_ok, check_eq_ok, exists_const] at h
      obtain ⟨-, a, ha, h⟩ := h
      cases h
      obtain ⟨hfits, hchars⟩ := argument_fits ha (by rw [chars_trim, trim_trim])
      refine ⟨⟨htakes.symm, ?_⟩, inner.chars, he, hchars⟩
      intro a' ha'
      cases ha'
      exact hfits
    · next htakes =>
      simp only [except_bind_eq_ok, check_eq_ok, exists_const] at h
      obtain ⟨hempty, h⟩ := h
      cases h
      refine ⟨⟨(Bool.not_eq_true _ ▸ htakes).symm, fun a ha => nomatch ha⟩, inner.chars, he, ?_⟩
      exact isEmpty_iff.1 hempty

theorem call?_eq_none (h : ¬ IsCall (Text.trim e.chars)) : call? s e = .ok none := by
  have hnone : Token.call? e.trim = none := by
    have := mt token_call?_isSome.1 (show ¬ IsCall e.trim.chars from h)
    simpa using this
  rw [call?, hnone]
  rfl

theorem not_isCall (h : call? s e = .ok none) : ¬ IsCall (Text.trim e.chars) := by
  intro hc
  obtain ⟨⟨n, i⟩, hi⟩ := Option.isSome_iff_exists.1 (token_call?_isSome.2 (show IsCall e.trim.chars from hc))
  rw [call?, hi] at h
  simp only [except_bind_eq_ok, demand_eq_ok] at h
  obtain ⟨f, -, h⟩ := h
  split at h
  · simp only [except_bind_eq_ok] at h
    obtain ⟨-, -, a, -, h⟩ := h
    cases h
  · simp only [except_bind_eq_ok] at h
    obtain ⟨-, -, h⟩ := h
    cases h

theorem call?_written {c : Call} (hc : c.Fits s) (h : e.chars = c.text.toList) : call? s e = .ok (some c) := by
  have htrim : e.trim.chars = c.function.name.toList ++ '(' :: (c.inner ++ [')']) := by
    rw [chars_trim, h, (Call.isCall_text c).solid.trim, Call.toList_text]
  obtain ⟨hne, hcap⟩ := Call.isCapital_name c.function
  obtain ⟨i, hi, hinner⟩ := token_call?_written hne hcap htrim
  have hitrim : i.trim.chars = c.inner := by rw [chars_trim, hinner, hc.trim_inner]
  rw [call?, hi]
  simp only [except_bind_eq_ok, demand_eq_ok]
  rw [String.ofList_toList]
  refine ⟨_, ofName?_name _, ?_⟩
  have htakes := hc.takes
  cases ha : c.argument with
  | none =>
    rw [ha] at htakes
    rw [← htakes, if_neg (by simp)]
    simp only [except_bind_eq_ok, check_eq_ok, exists_const]
    refine ⟨isEmpty_iff.2 ?_, ?_⟩
    · rw [hitrim, Call.inner, ha]
      rfl
    · rw [← ha]
      rfl
  | some a =>
    rw [ha] at htakes
    have hfits := hc.argument a ha
    have hachars : i.trim.chars = a.text.toList := by rw [hitrim, Call.inner, ha]; rfl
    rw [← htakes, if_pos (by rfl)]
    simp only [except_bind_eq_ok, check_eq_ok, exists_const]
    refine ⟨not_isEmpty (by rw [hachars]; exact hfits.solid.ne_nil), a, argument_written hfits hachars, ?_⟩
    rw [← ha]
    rfl

end Parser
end SlotSql
