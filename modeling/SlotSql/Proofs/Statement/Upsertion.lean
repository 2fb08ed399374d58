import SlotSql.Proofs.Statement.Query
import SlotSql.Statement.Parser.Upsertion
/-!
# Statements that write rows, read back

A value to write, and the value of an assignment, is told from a call and from a sum by its shape alone. So whatever
was not read as one is not read as one when it is written.

Results:
* `newValue_fits`, `newValue_written`: values are read back.
* `assignment_fits`, `assignment_written`: so are assignments.
* `upsertion_fits`, `upsertion_written`: statements that write rows are read back just if no literal of a condition
  reads like a keyword.
-/
namespace SlotSql

open Text Excerpt

variable {s : Settings}

/-! ## Values -/

/-- A value that is read back: a literal does not look like a call. -/
def NewValue.Fits (s : Settings) : NewValue → Prop
  | .literal l => l.Fits ∧ ¬ IsCall l.text.toList
  | .call c => c.Fits s

theorem NewValue.Fits.solid {v : NewValue} (h : v.Fits s) : Solid v.text.toList := by
  cases v with
  | literal l => exact h.1.solid
  | call c => exact c.isCall_text.solid

namespace Parser

variable {e : Excerpt} {v : NewValue}

theorem newValue_fits (h : newValue s e = .ok v) : v.Fits s ∧ delimiters v.text.toList = delimiters e.chars ∧
    ∀ l, v = .literal l → Text.trim e.chars = l.text.toList := by
  simp only [newValue, except_bind_eq_ok] at h
  obtain ⟨-, -, o, ho, h⟩ := h
  cases o with
  | some c =>
    cases h
    obtain ⟨hfits, inner, he, hinner⟩ := call?_fits ho
    exact ⟨hfits, by rw [← delimiters_trim e.chars, he, ← Call.delimiters_text hinner]; rfl, fun l hl => nomatch hl⟩
  | none =>
    obtain ⟨l, hl, h⟩ := except_bind_eq_ok.1 h
    cases h
    obtain ⟨he, hfits⟩ := literal_eq_ok.1 hl
    refine ⟨⟨hfits, by rw [← he]; exact not_isCall ho⟩, by rw [← delimiters_trim e.chars, he]; rfl, fun l' hl' => ?_⟩
    cases hl'
    exact he

theorem newValue_written (hv : v.Fits s) (h : e.chars = v.text.toList) : newValue s e = .ok v := by
  simp only [newValue, except_bind_eq_ok, check_eq_ok, exists_const]
  refine ⟨not_isEmpty (by rw [h]; exact hv.solid.ne_nil), ?_⟩
  cases v with
  | literal l =>
    have hcall : ¬ IsCall (Text.trim e.chars) := by
      rw [h, hv.solid.trim]
      exact hv.2
    exact ⟨none, call?_eq_none hcall, except_bind_eq_ok.2 ⟨l, literal_written hv.1 h, rfl⟩⟩
  | call c => exact ⟨some c, call?_written hv h, rfl⟩

end Parser

/-! ## Sums and differences -/

/-- The sign that joins the old value with the new one. -/
def AssignOp.Sign (op : AssignOp) (c : Char) : Prop := c = '+' ∧ op = .add ∨ c = '-' ∧ op = .sub

theorem AssignOp.Sign.chars {op : AssignOp} {c : Char} (h : op.Sign c) :
    Token.isNameChar c = false ∧ isBlank c = false ∧ isDelimiter c = false := by
  rcases h with ⟨rfl, -⟩ | ⟨rfl, -⟩ <;> decide

theorem AssignOp.Sign.toList_text {op : AssignOp} {c : Char} (h : op.Sign c) (column : String) :
    (op.text column).toList = column.toList ++ [' ', c, ' '] := by
  rcases h with ⟨rfl, rfl⟩ | ⟨rfl, rfl⟩ <;> simp [text]

/-- An assignment replaces the old value, or joins it with the new one. -/
theorem AssignOp.set_or_sign (op : AssignOp) : op = .set ∨ ∃ c, op.Sign c := by
  cases op with
  | set => exact .inl rfl
  | add => exact .inr ⟨'+', .inl ⟨rfl, rfl⟩⟩
  | sub => exact .inr ⟨'-', .inr ⟨rfl, rfl⟩⟩

/-- The parts of a sum or difference: a name, a sign between blanks, and an operand. -/
structure SumParts (cs n operand : List Char) (op : AssignOp) : Prop where
  name : Token.isName n = true
  ne_nil : operand ≠ []
  parts : ∃ a sign b, cs = n ++ (a ++ sign :: (b ++ operand)) ∧ op.Sign sign ∧ (∀ c ∈ a, isBlank c = true) ∧
    (∀ c ∈ b, isBlank c = true) ∧ ∀ c ∈ operand.head?, isBlank c = false

/-- A text that looks like a sum or difference. -/
def IsSum (cs : List Char) : Prop := ∃ n operand op, SumParts cs n operand op

namespace Parser

variable {e x : Excerpt} {n : String} {m operand : List Char} {op : AssignOp}

theorem token_sum?_eq_some (h : Token.sum? e = some (n, op, x)) : SumParts e.chars n.toList x.chars op := by
  unfold Token.sum? at h
  dsimp only at h
  split at h
  · cases h
  · next hc =>
    simp only [Bool.or_eq_true, not_or, Bool.not_eq_true, Bool.not_eq_false'] at hc
    obtain ⟨hname, hoperand⟩ := hc
    -- the sign is the first character behind the name and the blanks
    have hall (sign : Char) (hs : op.Sign sign)
        (hsign : ((e.span Token.isNameChar).2.span isBlank).2.chars.head? = some sign) :
        SumParts e.chars (e.span Token.isNameChar).1.chars
          ((((e.span Token.isNameChar).2.span isBlank).2.drop 1).span isBlank).2.chars op := by
      obtain ⟨r, hr⟩ := List.head?_eq_some_iff.1 hsign
      have hne : ((((e.span Token.isNameChar).2.span isBlank).2.drop 1).span isBlank).2.chars ≠ [] := fun hnil => by
        rw [Excerpt.isEmpty_iff.2 hnil] at hoperand
        cases hoperand
      refine ⟨hname, hne, (e.chars.dropWhile Token.isNameChar).takeWhile isBlank, sign,
        r.takeWhile isBlank, ?_, hs, fun c hc => List.mem_takeWhile_imp hc, fun c hc => List.mem_takeWhile_imp hc, ?_⟩
      · simp only [chars_span_snd] at hr
        simp only [chars_span_fst, chars_span_snd, chars_drop]
        rw [hr, List.drop_one, List.tail_cons, List.takeWhile_append_dropWhile, ← hr, List.takeWhile_append_dropWhile,
          List.takeWhile_append_dropWhile]
      · intro c hc
        have hdrop := List.head?_dropWhile_not isBlank
          (((e.span Token.isNameChar).2.span isBlank).2.drop 1).chars
        rw [chars_span_snd] at hc
        rw [hc] at hdrop
        simpa using hdrop
    split at h
    · next hsign =>
      cases h
      rw [Excerpt.text, String.toList_ofList]
      exact hall '+' (.inl ⟨rfl, rfl⟩) hsign
    · next hsign =>
      cases h
      rw [Excerpt.text, String.toList_ofList]
      exact hall '-' (.inr ⟨rfl, rfl⟩) hsign
    · cases h

theorem token_sum?_written (h : SumParts e.chars m operand op) :
    ∃ x, Token.sum? e = some (String.ofList m, op, x) ∧ x.chars = operand := by
  obtain ⟨hname, hne, a, sign, b, he, hsign, ha, hb, hhead⟩ := h
  obtain ⟨hs, hs', -⟩ := hsign.chars
  have hblank : ∀ c ∈ (a ++ sign :: (b ++ operand)).head?, Token.isNameChar c = false := by
    intro c hc
    cases a with
    | nil => cases hc; exact hs
    | cons d a =>
      cases hc
      cases hn : Token.isNameChar c with
      | false => rfl
      | true => exact absurd (ha c List.mem_cons_self) (by rw [isBlank_of_isNameChar hn]; exact Bool.false_ne_true)
  obtain ⟨hname', hrest⟩ := span_append (isName_chars hname).2 hblank
  obtain ⟨-, hbehind⟩ := span_append ha (b := sign :: (b ++ operand)) (by rintro _ ⟨⟩; exact hs')
  obtain ⟨-, hlast⟩ := span_append hb hhead
  have hfront : (e.span Token.isNameChar).1.chars = m := by rw [chars_span_fst, he, hname']
  have hsign' : ((e.span Token.isNameChar).2.span isBlank).2.chars = sign :: (b ++ operand) := by
    rw [chars_span_snd, chars_span_snd, he, hrest, hbehind]
  have hoperand : ((((e.span Token.isNameChar).2.span isBlank).2.drop 1).span isBlank).2.chars = operand := by
    rw [chars_span_snd, chars_drop, hsign', List.drop_one, List.tail_cons, hlast]
  refine ⟨_, ?_, hoperand⟩
  unfold Token.sum?
  dsimp only
  rw [if_neg, hsign']
  · rw [Excerpt.text, hfront]
    rcases hsign with ⟨rfl, rfl⟩ | ⟨rfl, rfl⟩ <;> rfl
  · rw [hfront, hname, Excerpt.isEmpty, hoperand]
    simpa using hne

theorem token_sum?_isSome : (Token.sum? e).isSome = true ↔ IsSum e.chars := by
  rw [Option.isSome_iff_exists]
  constructor
  · rintro ⟨⟨n, op, x⟩, h⟩
    exact ⟨_, _, _, token_sum?_eq_some h⟩
  · rintro ⟨m, operand, op, h⟩
    obtain ⟨x, hx, -⟩ := token_sum?_written h
    exact ⟨_, hx⟩

end Parser

/-! ## Assignments -/

/-- An assignment that is read back: a value that stands alone does not look like a sum. -/
structure Assignment.Fits (s : Settings) (a : Assignment) : Prop where
  column : IsName s a.column
  value : a.value.Fits s
  single : a.op = .set → ¬ IsSum a.value.text.toList

namespace Assignment

variable {a : Assignment}

theorem toList_text (a : Assignment) : a.text.toList =
    a.column.toList ++ (" = ".toList ++ ((a.op.text a.column).toList ++ a.value.text.toList)) := by
  simp [text]

theorem Fits.solid (h : a.Fits s) : Solid a.text.toList := by
  rw [toList_text]
  simpa using h.column.solid.around (" = ".toList ++ (a.op.text a.column).toList) h.value.solid

theorem delimiters_text (h : IsName s a.column) : delimiters a.text.toList = delimiters a.value.text.toList := by
  have hop : delimiters (a.op.text a.column).toList = [] := by
    cases a.op <;> simp only [AssignOp.text, String.toList_append, delimiters_append, h.delimiters] <;> rfl
  rw [toList_text, delimiters_append, delimiters_append, delimiters_append, h.delimiters, hop]
  rfl

end Assignment

namespace Parser

variable {e : Excerpt} {a : Assignment}

/-- A call does not look like a sum. -/
theorem not_isSum_call (c : Call) : ¬ IsSum c.text.toList := by
  rintro ⟨n, operand, op, hname, -, a, sign, b, he, -⟩
  obtain ⟨hne, hchars⟩ := isName_chars hname
  obtain ⟨d, n, rfl⟩ := List.exists_cons_of_ne_nil hne
  obtain ⟨hfun, hcap⟩ := Call.isCapital_name c.function
  obtain ⟨x, r, hx⟩ := List.exists_cons_of_ne_nil hfun
  rw [Call.toList_text, hx] at he
  have hd : x = d := (List.cons.inj he).1
  have hlow := not_isCapital_of_isNameChar (hchars d List.mem_cons_self)
  rw [← hd, hcap x (by rw [hx]; exact List.mem_cons_self)] at hlow
  cases hlow

theorem assignment_fits (h : assignment s e = .ok a) : a.Fits s ∧ delimiters a.text.toList = delimiters e.chars := by
  simp only [assignment, except_bind_eq_ok, demand_eq_ok, Prod.exists] at h
  obtain ⟨left, right, hcut, column, hname, h⟩ := h
  obtain ⟨hleft, hcolumn⟩ := name_eq_ok.1 hname
  have he := eq_of_cutUnquoted? (cutAt?_chars hcut)
  have hdelims : delimiters e.chars = delimiters right.trim.chars := by
    rw [he, delimiters_append, delimiters_append, ← delimiters_trim left.chars, hleft, hcolumn.delimiters, chars_trim,
      delimiters_trim]
    rfl
  split at h
  · next hnone =>
    obtain ⟨v, hv, h⟩ := except_bind_eq_ok.1 h
    cases h
    obtain ⟨hfits, hd, hliteral⟩ := newValue_fits hv
    refine ⟨⟨hcolumn, hfits, fun _ => ?_⟩, by rw [Assignment.delimiters_text hcolumn, hdelims]; exact hd⟩
    cases v with
    | call c => exact not_isSum_call c
    | literal l =>
      have hl := hliteral l rfl
      rw [chars_trim, trim_trim] at hl
      show ¬ IsSum l.text.toList
      rw [← hl, ← chars_trim, ← token_sum?_isSome, hnone]
      exact Bool.false_ne_true
  · next again op operand hsum =>
    simp only [except_bind_eq_ok, check_eq_ok, exists_const] at h
    obtain ⟨-, v, hv, h⟩ := h
    cases h
    obtain ⟨hfits, hd, -⟩ := newValue_fits hv
    obtain ⟨hn, -, a, sign, b, hparts, hsign, ha, hb, -⟩ := token_sum?_eq_some hsum
    refine ⟨⟨hcolumn, hfits, fun hset => ?_⟩, ?_⟩
    · rcases hsign with ⟨-, rfl⟩ | ⟨-, rfl⟩ <;> cases hset
    · have hletters : delimiters again.toList = [] :=
        delimiters_eq_nil.2 fun c hc => isDelimiter_of_isNameChar ((isName_chars hn).2 c hc)
      rw [Assignment.delimiters_text hcolumn, hdelims, hparts, delimiters_append, delimiters_append, hletters,
        delimiters_blanks ha, delimiters_cons hsign.chars.2.2, delimiters_append, delimiters_blanks hb]
      exact hd

theorem assignment_written (ha : a.Fits s) (h : e.chars = a.text.toList) : assignment s e = .ok a := by
  have hcut : cutUnquoted? "=".toList false e.chars =
      some (a.column.toList ++ [' '], ' ' :: ((a.op.text a.column).toList ++ a.value.text.toList)) := by
    have hhere : cutUnquoted? "=".toList false (" = ".toList ++ ((a.op.text a.column).toList ++ a.value.text.toList)) =
        some ([' '], ' ' :: ((a.op.text a.column).toList ++ a.value.text.toList)) := rfl
    rw [h, Assignment.toList_text, ha.column.cut (by decide), hhere]
    rfl
  obtain ⟨left, right, hcutAt, hleft, hright⟩ := cutAt?_written hcut
  have hname : name s left = .ok a.column := by
    refine name_eq_ok.2 ⟨?_, ha.column⟩
    rw [hleft, trim_append_blanks _ (by simp [isBlank]), ha.column.solid.trim]
  simp only [assignment, except_bind_eq_ok, demand_eq_ok, Prod.exists]
  refine ⟨left, right, hcutAt, a.column, hname, ?_⟩
  have hsolid := ha.value.solid
  rcases a.op.set_or_sign with hop | ⟨sign, hsign⟩
  · have hvalue : right.trim.chars = a.value.text.toList := by
      rw [chars_trim, hright, hop]
      exact hsolid.blank_trim
    have hnone : Token.sum? right.trim = none := by
      rw [← Option.not_isSome_iff_eq_none, token_sum?_isSome, hvalue]
      exact ha.single hop
    rw [hnone]
    refine except_bind_eq_ok.2 ⟨a.value, newValue_written ha.value hvalue, ?_⟩
    rw [← hop]
    rfl
  · obtain ⟨d, r, hd, hb⟩ := hsolid.front
    have hvalue : right.trim.chars = a.column.toList ++ ([' '] ++ sign :: ([' '] ++ a.value.text.toList)) := by
      have haround := ha.column.solid.around [' ', sign, ' '] hsolid
      rw [chars_trim, hright, hsign.toList_text, haround.blank_trim]
      simp
    have hblank : ∀ c ∈ [' '], isBlank c = true := List.forall_mem_singleton.2 (by decide)
    have hparts : SumParts right.trim.chars a.column.toList a.value.text.toList a.op :=
      ⟨ha.column.1, hsolid.ne_nil, [' '], sign, [' '], hvalue, hsign, hblank, hblank, by
        rw [hd]
        rintro _ ⟨⟩
        exact hb⟩
    obtain ⟨x, hx, hchars⟩ := token_sum?_written hparts
    rw [String.ofList_toList] at hx
    simp only [hx, except_bind_eq_ok, check_eq_ok, exists_const]
    exact ⟨by simp, a.value, newValue_written ha.value hchars, rfl⟩

end Parser
/-! ## Rows that exist -/

/-- What to do with a row that exists, read back. -/
def OnDuplicate.Fits (s : Settings) : OnDuplicate → Prop
  | .overwrite | .ignore => True
  | .update as => (∀ a ∈ as, a.Fits s) ∧ Level.Pieces .ground (as.map (·.text.toList))

namespace OnDuplicate

variable {d : OnDuplicate}

theorem solid_assignments {as : List Assignment} (h : (update as).Fits s) :
    Solid (join comma.toList (as.map (·.text.toList))) := by
  obtain ⟨hall, hpieces⟩ := h
  have hne : as ≠ [] := by
    rintro rfl
    exact hpieces
  refine .join (by simpa using hne) fun p hp => ?_
  obtain ⟨a, ha, rfl⟩ := List.mem_map.1 hp
  exact (hall a ha).solid

theorem toList_ignore : ignore.text.toList = ' ' :: keywordChars ["ON", "DUPLICATE", "KEY"] "IGNORE".toList := by decide

theorem toList_update (as : List Assignment) : (update as).text.toList = ' ' :: keywordChars ["ON", "DUPLICATE", "KEY", "UPDATE"]
    (join comma.toList (as.map (·.text.toList))) := by
  have hwords : " ON DUPLICATE KEY UPDATE ".toList = ' ' :: keywordChars ["ON", "DUPLICATE", "KEY", "UPDATE"] [] := by decide
  change (" ON DUPLICATE KEY UPDATE " ++ joinText comma (as.map Assignment.text)).toList = _
  rw [keywordChars_append, String.toList_append, toList_joinText, List.map_map, hwords, List.cons_append]
  rfl

theorem Fits.trailing (h : d.Fits s) : Trailing d.text.toList := by
  cases d with
  | overwrite => exact .inl rfl
  | ignore => exact .inr ⟨keywordChars ["ON", "DUPLICATE", "KEY"] "IGNORE".toList, toList_ignore,
      solid_keywordChars (by decide) (IsKeyword.solid (by decide))⟩
  | update as => exact .inr ⟨_, toList_update as, solid_keywordChars (by decide) (solid_assignments h)⟩

end OnDuplicate

namespace Parser

variable {e : Excerpt} {d : OnDuplicate}

theorem onDuplicate_fits (h : onDuplicate s e = .ok d) : d.Fits s := by
  rw [onDuplicate] at h
  split at h
  · cases h
    trivial
  · obtain ⟨clause, -, h⟩ := except_bind_eq_ok.1 h
    split at h
    · obtain ⟨_, -, h⟩ := except_bind_eq_ok.1 h
      cases h
      trivial
    · obtain ⟨as, has, h⟩ := except_bind_eq_ok.1 h
      cases h
      simp only [assignments, except_bind_eq_ok] at has
      obtain ⟨-, -, has⟩ := has
      refine ⟨fun a ha => ?_, (delimiters_of_mapM (fun a => a.text.toList) has fun x a hx => (assignment_fits hx).2).1⟩
      obtain ⟨x, -, hx⟩ := mem_of_mapM has a ha
      exact (assignment_fits hx).1
    · cases h

theorem onDuplicate_written (hd : d.Fits s) (h : e.chars = Text.trim d.text.toList) : onDuplicate s e = .ok d := by
  cases d with
  | overwrite =>
    have hempty : e.isEmpty = true := Excerpt.isEmpty_iff.2 h
    rw [onDuplicate, if_pos hempty]
    rfl
  | ignore =>
    have hword : Solid "IGNORE".toList := IsKeyword.solid (by decide)
    have he : e.chars = keywordChars ["ON", "DUPLICATE", "KEY"] "IGNORE".toList := by
      rw [h, OnDuplicate.toList_ignore]
      exact (solid_keywordChars (by decide) hword).blank_trim
    obtain ⟨clause, hclause, hchars⟩ := afterKeywords?_written (by decide) hword he
    obtain ⟨after, hafter, hrest⟩ := afterKeyword?_written (by decide) (hchars.trans (List.append_nil _).symm) rfl
    have hne : ¬ e.isEmpty = true := by
      rw [Excerpt.isEmpty_iff, he]
      exact (solid_keywordChars (by decide) hword).ne_nil
    rw [onDuplicate, if_neg hne]
    simp only [except_bind_eq_ok, demand_eq_ok]
    refine ⟨clause, hclause, ?_⟩
    rw [hafter]
    simp only [except_bind_eq_ok, check_eq_ok, exists_const]
    exact ⟨Excerpt.isEmpty_iff.2 hrest, rfl⟩
  | update as =>
    have hlist := OnDuplicate.solid_assignments hd
    have hkey : Solid (keywordChars ["UPDATE"] (join comma.toList (as.map (·.text.toList)))) :=
      solid_keywordChars (by decide) hlist
    have hwhole : Solid (keywordChars ["ON", "DUPLICATE", "KEY"] (keywordChars ["UPDATE"]
        (join comma.toList (as.map (·.text.toList))))) := solid_keywordChars (by decide) hkey
    have he : e.chars = keywordChars ["ON", "DUPLICATE", "KEY"] (keywordChars ["UPDATE"]
        (join comma.toList (as.map (·.text.toList)))) := by
      rw [h, OnDuplicate.toList_update]
      exact hwhole.blank_trim
    obtain ⟨clause, hclause, hchars⟩ := afterKeywords?_written (by decide) hkey he
    obtain ⟨after, hafter, hrest⟩ := afterKeyword?_written (show IsKeyword "UPDATE" by decide) hchars (wordEnds_blank _)
    have hignore : clause.afterKeyword? "IGNORE" = none :=
      afterKeyword?_other (by decide) (show IsKeyword "UPDATE" by decide) (by decide) hchars (wordEnds_blank _)
    have hlist' : after.chars = join comma.toList (as.map (·.text.toList)) := by
      rw [hrest]
      exact hlist.blank_trim
    have hne : ¬ e.isEmpty = true := by
      rw [Excerpt.isEmpty_iff, he]
      exact hwhole.ne_nil
    rw [onDuplicate, if_neg hne]
    simp only [except_bind_eq_ok, demand_eq_ok]
    refine ⟨clause, hclause, ?_⟩
    rw [hignore, hafter]
    simp only [assignments, except_bind_eq_ok, check_eq_ok, exists_const]
    exact ⟨as, ⟨not_isEmpty (by rw [hlist']; exact hlist.ne_nil), mapM_written hd.2 hlist'
      (fun a ha => (hd.1 a ha).solid.trim) fun a ha x hx => assignment_written (hd.1 a ha) hx⟩, rfl⟩

end Parser
/-! ## Rows to write -/

/-- Values that are read back from between parentheses. -/
structure ValuesFit (s : Settings) (vs : List NewValue) : Prop where
  values : ∀ v ∈ vs, v.Fits s
  pieces : Level.Pieces .ground (vs.map (·.text.toList))
  inside : Level.Avoids ')' .ground (join comma.toList (vs.map (·.text.toList)))
  closed : Level.ground.run (join comma.toList (vs.map (·.text.toList))) = .ground

theorem ValuesFit.solid {vs : List NewValue} (h : ValuesFit s vs) : Solid (join comma.toList (vs.map (·.text.toList))) := by
  have hne : vs ≠ [] := by
    rintro rfl
    exact h.pieces
  refine .join (by simpa using hne) fun p hp => ?_
  obtain ⟨v, hv, rfl⟩ := List.mem_map.1 hp
  exact (h.values v hv).solid

/-- A statement that writes rows, read back: values are written to columns that are named, and what to do with a row
that exists is said behind values only. -/
structure Upsertion.Fits (s : Settings) (u : Upsertion) : Prop where
  table : u.table.Fits s
  proper : u.table.isDual = false
  columns : ∀ n ∈ u.columns, IsName s n
  values : ∀ vs, u.source = .values vs → ValuesFit s vs ∧ u.columns ≠ [] ∧ vs.length = u.columns.length
  query : ∀ q, u.source = .query q → q.Fits s ∧ u.onDuplicate = .overwrite
  onDuplicate : u.onDuplicate.Fits s

/-- The columns in front of the rows, as they are written. -/
def columnChars (ns : List String) : List Char := if ns = [] then [] else ' ' :: '(' :: (nameChars ns ++ [')'])

theorem trailing_columnChars (ns : List String) : Trailing (columnChars ns) := by
  unfold columnChars
  split
  · exact .inl rfl
  · exact .inr ⟨_, rfl, .enclosed (by decide) (by decide)⟩

namespace RowSource

theorem toList_values (vs : List NewValue) : (values vs).text.toList =
    ' ' :: ("VALUES".toList ++ ' ' :: '(' :: (join comma.toList (vs.map (·.text.toList)) ++ [')'])) := by
  simp only [text, String.toList_append, toList_joinText, List.map_map]
  rfl

theorem toList_query (q : Query) : (query q).text.toList = ' ' :: ("SELECT".toList ++ ' ' :: q.text.toList) := by
  simp [text]

end RowSource

namespace Upsertion

variable {u : Upsertion}

theorem toList_text (u : Upsertion) : u.text.toList = "INTO".toList ++ ' ' :: (u.table.written.toList ++
    (columnChars u.columns ++ (u.source.text.toList ++ u.onDuplicate.text.toList))) := by
  have hcolumns : (if u.columns = [] then "" else " (" ++ joinText comma u.columns ++ ")").toList = columnChars u.columns := by
    unfold columnChars nameChars
    split
    · rfl
    · simp [toList_joinText]
  rw [text, String.toList_append, String.toList_append, String.toList_append, String.toList_append, hcolumns]
  simp

theorem Fits.trailing_source (h : u.Fits s) : Trailing u.source.text.toList := by
  cases hs : u.source with
  | values vs =>
    have hword : Solid "VALUES".toList := IsKeyword.solid (by decide)
    exact .inr ⟨_, RowSource.toList_values vs, hword.trailing (.inr ⟨_, rfl, .enclosed (by decide) (by decide)⟩)⟩
  | query q =>
    have hword : Solid "SELECT".toList := IsKeyword.solid (by decide)
    exact .inr ⟨_, RowSource.toList_query q, hword.trailing (.inr ⟨_, rfl, (h.query q hs).1.solid⟩)⟩

theorem Fits.solid (h : u.Fits s) : Solid u.text.toList := by
  have hinto : Solid "INTO".toList := IsKeyword.solid (by decide)
  have hrest := (trailing_columnChars u.columns).append (h.trailing_source.append h.onDuplicate.trailing)
  rw [toList_text]
  exact hinto.trailing (.inr ⟨_, rfl, h.table.solid.trailing hrest⟩)

end Upsertion

namespace Parser

variable {e r : Excerpt} {ns : List String} {u : Upsertion}

theorem columnList_fits (h : columnList s e = .ok (ns, r)) : ∀ n ∈ ns, IsName s n := by
  rw [columnList] at h
  split at h
  · simp only [except_bind_eq_ok, Prod.exists] at h
    obtain ⟨inner, rest, -, names, hnames, h⟩ := h
    cases h
    exact (names_fits hnames).2
  · cases h
    exact fun n hn => by cases hn

theorem columnList_written {cs : List Char} (hns : ∀ n ∈ ns, IsName s n) (hcs : Trailing cs)
    (hhead : (cs.drop 1).head? ≠ some '(') (h : e.chars = Text.trim (columnChars ns ++ cs)) :
    ∃ r, columnList s e = .ok (ns, r) ∧ r.chars = Text.trim cs := by
  by_cases hne : ns = []
  · have he : e.chars = Text.trim cs := by rw [h, columnChars, if_pos hne, List.nil_append]
    refine ⟨e, ?_, he⟩
    rw [columnList, if_neg (by rw [he, hcs.trim]; exact hhead), hne]
    rfl
  · have hgroup : Solid ('(' :: (nameChars ns ++ [')'])) := .enclosed (by decide) (by decide)
    have he : e.chars = '(' :: (nameChars ns ++ ')' :: cs) := by
      rw [h, columnChars, if_neg hne, List.cons_append, (hgroup.trailing hcs).blank_trim]
      simp
    have hcommas := delimiters_nameChars hns
    obtain ⟨inner, rest, hsplit, hinner, hrest⟩ :=
      splitParens_written he (Level.avoids_commas hcommas _) (Level.run_commas hcommas _)
    rw [(solid_nameChars hns hne).trim] at hinner
    refine ⟨rest, ?_, hrest⟩
    rw [columnList, if_pos (by rw [he]; rfl)]
    simp only [except_bind_eq_ok, Prod.exists]
    exact ⟨inner, rest, hsplit, ns, names_written hns hne hinner, rfl⟩

theorem upsertion_fits (h : upsertion s e = .ok u) : u.Fits s := by
  simp only [upsertion, except_bind_eq_ok, demand_eq_ok, check_eq_ok, exists_const, Prod.exists] at h
  obtain ⟨rest, -, -, table, htable, hdual, columns, rest', hcolumns, h⟩ := h
  have ht := tableName_fits htable
  have hp : table.isDual = false := by simpa using hdual
  have hns := columnList_fits hcolumns
  split at h
  · obtain ⟨q, hq, h⟩ := except_bind_eq_ok.1 h
    cases h
    refine ⟨ht, hp, hns, fun vs hvs => absurd hvs (by simp), fun q' hq' => ?_, trivial⟩
    cases hq'
    exact ⟨query_fits hq, rfl⟩
  · simp only [except_bind_eq_ok, demand_eq_ok, check_eq_ok, exists_const, Prod.exists] at h
    obtain ⟨behind, -, hne, inner, rest'', hparens, vs, hvs, hlen, d, hd, h⟩ := h
    cases h
    refine ⟨ht, hp, hns, fun vs' hvs' => ?_, fun q hq => absurd hq (by simp), onDuplicate_fits hd⟩
    cases hvs'
    obtain ⟨inside, cs, -, hinside, hclosed, hinner, -⟩ := splitParens_chars hparens
    obtain ⟨hpieces, hdelims⟩ := delimiters_of_mapM (fun v => v.text.toList) hvs fun x v hx => (newValue_fits hx).2.1
    rw [hinner, delimiters_trim] at hdelims
    refine ⟨⟨fun v hv => ?_, hpieces, (Level.avoids_congr (by decide) hdelims).2 hinside, ?_⟩, ?_, by simpa using hlen⟩
    · obtain ⟨x, -, hx⟩ := mem_of_mapM hvs v hv
      exact (newValue_fits hx).1
    · rw [Level.run_congr hdelims, hclosed]
    · simpa using hne

/-- The table, the columns and the rows are found again. -/
theorem upsertion_parts (hu : u.Fits s) (h : e.chars = u.text.toList) : ∃ rest behind,
    e.afterKeyword? "INTO" = some rest ∧ rest.splitToken.1.chars = u.table.written.toList ∧
      columnList s rest.splitToken.2 = .ok (u.columns, behind) ∧
        behind.chars = (u.source.text.toList ++ u.onDuplicate.text.toList).drop 1 := by
  have hbehind := hu.trailing_source.append hu.onDuplicate.trailing
  have htail := (trailing_columnChars u.columns).append hbehind
  rw [Upsertion.toList_text] at h
  obtain ⟨rest, hinto, hrest⟩ := afterKeyword?_written (by decide) h (wordEnds_blank _)
  obtain ⟨htoken, hafter⟩ := splitToken_table hu.table htail
    (by rw [hrest, trim_trim, (hu.table.solid.trailing htail).blank_trim])
  have hhead : ((u.source.text.toList ++ u.onDuplicate.text.toList).drop 1).head? ≠ some '(' := by
    cases u.source with
    | values vs =>
      rw [RowSource.toList_values]
      exact fun he => nomatch Option.some.inj he
    | query q =>
      rw [RowSource.toList_query]
      exact fun he => nomatch Option.some.inj he
  obtain ⟨behind, hcolumns, hchars⟩ := columnList_written hu.columns hbehind hhead hafter
  exact ⟨rest, behind, hinto, htoken, hcolumns, by rw [hchars, hbehind.trim]⟩

/-- Rows from a query stand behind the keyword. -/
theorem source_query {q : Query} (hu : u.Fits s) (hs : u.source = .query q)
    (h : e.chars = (u.source.text.toList ++ u.onDuplicate.text.toList).drop 1) :
    ∃ rest, e.afterKeyword? "SELECT" = some rest ∧ rest.chars = q.text.toList := by
  obtain ⟨hq, hd⟩ := hu.query q hs
  have he : e.chars = "SELECT".toList ++ ' ' :: q.text.toList := by
    rw [h, hs, hd, RowSource.toList_query]
    exact List.append_nil _
  obtain ⟨rest, hselect, hrest⟩ := afterKeyword?_written (by decide) he (wordEnds_blank _)
  exact ⟨rest, hselect, by rw [hrest, hq.solid.blank_trim]⟩

/-- Values stand between parentheses, and behind them what to do with a row that exists. -/
theorem source_values {vs : List NewValue} (hu : u.Fits s) (hs : u.source = .values vs)
    (h : e.chars = (u.source.text.toList ++ u.onDuplicate.text.toList).drop 1) :
    e.afterKeyword? "SELECT" = none ∧ ∃ group inner last, e.afterKeyword? "VALUES" = some group ∧
      group.splitParens = .ok (inner, last) ∧ (inner.splitTopLevel ',').mapM (newValue s) = .ok vs ∧
        last.chars = Text.trim u.onDuplicate.text.toList := by
  obtain ⟨hvs, -, -⟩ := hu.values vs hs
  have he : e.chars = "VALUES".toList ++ ' ' :: ('(' :: (join comma.toList (vs.map (·.text.toList)) ++ [')']) ++
      u.onDuplicate.text.toList) := by
    rw [h, hs, RowSource.toList_values, List.cons_append, List.drop_one, List.tail_cons, List.append_assoc]
    rfl
  have hselect : e.afterKeyword? "SELECT" = none :=
    afterKeyword?_other (by decide) (show IsKeyword "VALUES" by decide) (by decide) he (wordEnds_blank _)
  obtain ⟨group, hvalues, hgroup⟩ := afterKeyword?_written (show IsKeyword "VALUES" by decide) he (wordEnds_blank _)
  have hsolid : Solid ('(' :: (join comma.toList (vs.map (·.text.toList)) ++ [')'])) := .enclosed (by decide) (by decide)
  have hparens : group.chars = '(' :: (join comma.toList (vs.map (·.text.toList)) ++ ')' :: u.onDuplicate.text.toList) := by
    rw [hgroup, (hsolid.trailing hu.onDuplicate.trailing).blank_trim]
    simp
  obtain ⟨inner, last, hsplit, hinner, hlast⟩ := splitParens_written hparens hvs.inside hvs.closed
  rw [hvs.solid.trim] at hinner
  exact ⟨hselect, group, inner, last, hvalues, hsplit, mapM_written hvs.pieces hinner
    (fun v hv => (hvs.values v hv).solid.trim) fun v hv x hx => newValue_written (hvs.values v hv) hx, hlast⟩

/-- A statement that writes rows is read back just if no literal of a condition reads like a keyword. -/
theorem upsertion_written (hu : u.Fits s) (h : e.chars = u.text.toList) :
    upsertion s e = .ok u ↔ ∀ q, u.source = .query q → q.selection.Plain := by
  obtain ⟨rest, behind, hinto, htoken, hcolumns, hchars⟩ := upsertion_parts hu h
  simp only [upsertion, except_bind_eq_ok, demand_eq_ok, check_eq_ok, exists_const, Prod.exists]
  constructor
  · rintro ⟨r, hr, -, table, -, -, columns, b, hlist, hend⟩ q hs
    obtain rfl : rest = r := Option.some.inj (hinto.symm.trans hr)
    obtain rfl : behind = b := congrArg Prod.snd (Except.ok.inj (hcolumns.symm.trans hlist))
    obtain ⟨after, hselect, hafter⟩ := source_query hu hs hchars
    rw [hselect] at hend
    obtain ⟨q', hread, hend⟩ := except_bind_eq_ok.1 hend
    obtain rfl : q' = q := RowSource.query.inj ((congrArg Upsertion.source (Except.ok.inj hend)).trans hs)
    exact (query_written (hu.query q' hs).1 hafter).1 hread
  · intro hp
    refine ⟨rest, hinto, not_isEmpty (by rw [htoken]; exact hu.table.ne_nil), u.table, tableName_written hu.table htoken,
      by simp [hu.proper], u.columns, behind, hcolumns, ?_⟩
    cases hs : u.source with
    | query q =>
      obtain ⟨hq, hd⟩ := hu.query q hs
      obtain ⟨after, hselect, hafter⟩ := source_query hu hs hchars
      rw [hselect]
      refine except_bind_eq_ok.2 ⟨q, (query_written hq hafter).2 (hp q hs), ?_⟩
      rw [← hs, ← hd]
      rfl
    | values vs =>
      obtain ⟨-, hne, hlen⟩ := hu.values vs hs
      obtain ⟨hselect, group, inner, last, hvalues, hsplit, hread, hlast⟩ := source_values hu hs hchars
      rw [hselect]
      simp only [except_bind_eq_ok, demand_eq_ok, check_eq_ok, exists_const, Prod.exists]
      refine ⟨group, hvalues, by simpa using hne, inner, last, hsplit, vs, hread, by simpa using hlen, u.onDuplicate,
        onDuplicate_written hu.onDuplicate hlast, ?_⟩
      rw [← hs]
      rfl

end Parser
end SlotSql
