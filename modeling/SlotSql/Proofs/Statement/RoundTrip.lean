import SlotSql.Proofs.Statement.Columns
import SlotSql.Proofs.Statement.Upsertion
import SlotSql.Statement.Parser
/-!
# Statements that are read back

A statement is found again from the way in which it is written. Whatever was read fits: its names and comments are
not too long, its numbers not too large, its parts are separated by the commas and parentheses that hide nothing. Texts
between quotes may hold anything. There is one exception: a literal of a condition that has no quotes may read like a
keyword, and where it comes to stand between blanks it is taken for one.

Results:
* `parse_fits`: whatever is read fits.
* `parse_text`: it is read back just if no literal of a condition reads like a keyword of its place.
-/
namespace SlotSql

open Text Excerpt

variable {s : Settings}

/-! ## Letters -/

namespace Text

variable {c : Char}

theorem isLower_toLower (h : c.isAlpha = true) : c.toLower.isLower = true := by
  have halpha : c.isUpper = true ∨ c.isLower = true := Bool.or_eq_true_iff.1 h
  delta Char.toLower
  split
  · next hu =>
    simp only [ge_iff_le, UInt32.le_iff_toNat_le, Char.reduceVal, UInt32.reduceToNat] at hu
    delta Char.isLower
    simp only [ge_iff_le, UInt32.le_iff_toNat_le, Bool.and_eq_true, decide_eq_true_eq, UInt32.toNat_add,
      Char.reduceVal, UInt32.reduceToNat, UInt32.reduceSub]
    omega
  · next hu =>
    refine halpha.resolve_left ?_
    delta Char.isUpper
    simpa using hu

theorem toNat_of_isLower (h : c.isLower = true) : 97 ≤ c.toNat ∧ c.toNat ≤ 122 := by
  delta Char.isLower at h
  simp only [ge_iff_le, UInt32.le_iff_toNat_le, Bool.and_eq_true, decide_eq_true_eq] at h
  exact h

theorem toLower_of_isLower (h : c.isLower = true) : c.toLower = c := by
  have hn := toNat_of_isLower h
  delta Char.toLower
  rw [dif_neg]
  simp only [ge_iff_le, UInt32.le_iff_toNat_le, Char.reduceVal, UInt32.reduceToNat, Char.toNat_val]
  omega

end Text

/-! ## Statements of a session -/

namespace Parser

variable {e : Excerpt} {cs : List Char} {t : TableName} {st : Statement} {part : Option String} {node : Option Nat} {c : Char}

theorem lastTableName_fits (h : lastTableName s e = .ok t) : t.Fits s := by
  simp only [lastTableName, except_bind_eq_ok] at h
  obtain ⟨-, -, -, -, ht⟩ := h
  exact tableName_fits ht

theorem lastTableName_written (ht : t.Fits s) (h : e.chars = t.written.toList) : lastTableName s e = .ok t := by
  obtain ⟨htoken, hrest⟩ := splitToken_table ht (.inl rfl) (by rw [h, ht.solid.trim, List.append_nil])
  simp only [lastTableName, except_bind_eq_ok, check_eq_ok, exists_const]
  exact ⟨not_isEmpty (by rw [htoken]; exact ht.ne_nil), Excerpt.isEmpty_iff.2 hrest, tableName_written ht htoken⟩

theorem dropping_fits (h : dropping s e = .ok st) : ∃ t, st = .drop t ∧ t.Fits s := by
  simp only [dropping, except_bind_eq_ok] at h
  obtain ⟨_, -, t, ht, h⟩ := h
  cases h
  exact ⟨t, rfl, lastTableName_fits ht⟩

theorem dropping_written (ht : t.Fits s) (h : e.chars = "TABLE".toList ++ ' ' :: t.written.toList) :
    dropping s e = .ok (.drop t) := by
  obtain ⟨rest, hrest, hchars⟩ := afterKeyword?_written (by decide) h (wordEnds_blank _)
  rw [ht.solid.blank_trim] at hchars
  simp only [dropping, except_bind_eq_ok, demand_eq_ok]
  exact ⟨rest, hrest, t, lastTableName_written ht hchars, rfl⟩

theorem showing_fits (h : showing s e = .ok st) : st = .showDatabases ∨ ∃ n, st = .showTables n ∧ IsName s n := by
  rw [showing] at h
  split at h
  · obtain ⟨-, h⟩ := check_bind_eq_ok h
    cases h
    exact .inl rfl
  · obtain ⟨-, h⟩ := check_bind_eq_ok h
    obtain ⟨n, hn, h⟩ := except_bind_eq_ok.1 h
    cases h
    exact .inr ⟨n, rfl, (name_eq_ok.1 hn).2⟩
  · cases h

theorem showing_databases (h : e.chars = "DATABASES".toList) : showing s e = .ok .showDatabases := by
  obtain ⟨rest, hrest, hchars⟩ := afterKeyword?_written (show IsKeyword "DATABASES" by decide) (h.trans (List.append_nil _).symm) rfl
  have hempty : rest.isEmpty = true := Excerpt.isEmpty_iff.2 hchars
  rw [showing, hrest]
  simp only [except_bind_eq_ok, check_eq_ok, exists_const]
  exact ⟨hempty, rfl⟩

theorem showing_tables {n : String} (hn : IsName s n) (h : e.chars = "TABLES".toList ++ ' ' :: n.toList) :
    showing s e = .ok (.showTables n) := by
  obtain ⟨rest, hrest, hchars⟩ := afterKeyword?_written (show IsKeyword "TABLES" by decide) h (wordEnds_blank _)
  rw [hn.solid.blank_trim] at hchars
  have hnone : e.afterKeyword? "DATABASES" = none :=
    afterKeyword?_other (by decide) (show IsKeyword "TABLES" by decide) (by decide) h (wordEnds_blank _)
  rw [showing, hnone, hrest]
  simp only [except_bind_eq_ok, check_eq_ok, exists_const]
  exact ⟨not_isEmpty (by rw [hchars]; exact hn.ne_nil), n, name_written hn hchars, rfl⟩

/-- A number behind a blank, if there is one. -/
def nodeChars (node : Option Nat) : List Char := node.elim [] fun n => ' ' :: (toString n).toList

theorem trailing_nodeChars (node : Option Nat) : Trailing (nodeChars node) := by
  cases node with
  | none => exact .inl rfl
  | some n => exact .inr ⟨_, rfl, solid_toString n⟩

theorem infoNode_fits (h : infoNode e = .ok node) : ∀ n ∈ node, n ≤ Number.max64 := by
  unfold infoNode at h
  dsimp only at h
  split at h
  · simp only [except_bind_eq_ok, demand_eq_ok] at h
    obtain ⟨n, hn, -, -, h⟩ := h
    cases h
    rintro _ ⟨⟩
    exact natural?_le hn
  · obtain ⟨-, -, h⟩ := except_bind_eq_ok.1 h
    cases h
    exact fun n hn => by cases hn

/-- What a node is read from begins with a token, if it is not empty. -/
theorem infoNode_token (h : infoNode e = .ok node) (hne : e.chars ≠ []) : e.splitToken.1.chars ≠ [] := by
  intro hnil
  have hnumber : ¬ Token.isNumber e.splitToken.1.chars = true := by rw [hnil]; exact Bool.false_ne_true
  unfold infoNode at h
  dsimp only at h
  rw [if_neg hnumber] at h
  simp only [infoEnd, except_bind_eq_ok, check_eq_ok, exists_const] at h
  exact hne (Excerpt.isEmpty_iff.1 h.1)

theorem token_digits {n : Nat} (h : e.chars = (toString n).toList) :
    e.splitToken.1.chars = (toString n).toList ∧ e.splitToken.2.chars = [] := by
  have hletters : ∀ c ∈ (toString n).toList, endsToken c = false := fun c hc => by
    have hname := isNameChar_of_isDigit (isDigit_toString n c hc)
    simp [endsToken, isBlank_of_isNameChar hname, ne_of_isNameChar hname (d := '(') (by decide)]
  exact splitToken_chars hletters (toString_ne_nil n) (by rw [h, List.append_nil]) (fun c hc => by cases hc)

theorem infoNode_written (hn : ∀ n ∈ node, n ≤ Number.max64) (h : e.chars = Text.trim (nodeChars node)) :
    infoNode e = .ok node := by
  rw [(trailing_nodeChars node).trim] at h
  cases node with
  | none =>
    have hempty : e.chars = [] := h
    have htoken : e.splitToken.1.chars = [] := by rw [chars_token, hempty]; rfl
    unfold infoNode
    dsimp only
    rw [if_neg (by rw [htoken]; exact Bool.false_ne_true)]
    simp only [infoEnd, except_bind_eq_ok, check_eq_ok, exists_const]
    exact ⟨Excerpt.isEmpty_iff.2 hempty, rfl⟩
  | some n =>
    obtain ⟨htoken, hrest⟩ := token_digits (show e.chars = (toString n).toList from h)
    unfold infoNode
    dsimp only
    rw [if_pos (by rw [htoken]; exact isNumber_toString n)]
    simp only [infoEnd, except_bind_eq_ok, check_eq_ok, demand_eq_ok, exists_const]
    refine ⟨n, ?_, Excerpt.isEmpty_iff.2 hrest, rfl⟩
    rw [text_eq_iff.2 htoken]
    exact Number.nat64?_toString (hn n rfl)

end Parser

/-- A section that is read back: one word in lower case. -/
def IsSection (p : String) : Prop := p.toList ≠ [] ∧ ∀ c ∈ p.toList, c.isLower = true

namespace IsSection

variable {p : String}

theorem endsToken (h : IsSection p) : ∀ c ∈ p.toList, endsToken c = false := by
  intro c hc
  have hn := toNat_of_isLower (h.2 c hc)
  have hopen : c ≠ '(' := by
    rintro rfl
    exact absurd hn (by decide)
  have hblank : isBlank c = false := by
    simp only [isBlank, Bool.or_eq_false_iff, Bool.and_eq_false_iff, decide_eq_false_iff_not, beq_eq_false_iff_ne]
    omega
  simp [Excerpt.endsToken, hblank, hopen]

theorem solid (h : IsSection p) : Solid p.toList :=
  .word h.1 fun c hc => (Bool.or_eq_false_iff.1 (h.endsToken c hc)).1

theorem not_isNumber (h : IsSection p) : Token.isNumber p.toList = false := by
  obtain ⟨c, r, hc⟩ := List.exists_cons_of_ne_nil h.1
  have hn := toNat_of_isLower (h.2 c (by rw [hc]; exact List.mem_cons_self))
  have hdigit : Token.isDigit c = false := by
    cases hd : Token.isDigit c with
    | false => rfl
    | true =>
      simp only [Token.isDigit, Bool.and_eq_true, decide_eq_true_eq] at hd
      have : c.toNat ≤ 57 := hd.2
      omega
  rw [Token.isNumber, hc]
  simp [hdigit]

theorem lower (h : IsSection p) : asciiLower p = p := by
  rw [asciiLower, ← String.toList_inj, String.toList_ofList]
  conv_rhs => rw [← List.map_id p.toList]
  exact List.map_congr_left fun c hc => toLower_of_isLower (h.2 c hc)

end IsSection

namespace Parser

variable {e : Excerpt} {st : Statement} {part : Option String} {node : Option Nat} {c : Char}

/-- The section and the node of a statement, as they are written. -/
def infoChars (part : Option String) (node : Option Nat) : List Char :=
  (part.elim [] fun p => ' ' :: p.toList) ++ nodeChars node

theorem trailing_infoChars (hp : ∀ p ∈ part, IsSection p) : Trailing (infoChars part node) := by
  refine .append ?_ (trailing_nodeChars node)
  cases part with
  | none => exact .inl rfl
  | some p => exact .inr ⟨_, rfl, (hp p rfl).solid⟩

theorem info_fits (h : info e = .ok st) : ∃ part node, st = .info part node ∧ (∀ p ∈ part, IsSection p) ∧
    ∀ n ∈ node, n ≤ Number.max64 := by
  unfold info at h
  dsimp only at h
  split at h
  · next hsection =>
    obtain ⟨node, hnode, h⟩ := except_bind_eq_ok.1 h
    simp only [Bool.and_eq_true, List.all_eq_true] at hsection
    obtain ⟨⟨he, -⟩, hletters⟩ := hsection
    refine ⟨_, _, (Except.ok.inj h).symm, fun p hp => ?_, infoNode_fits hnode⟩
    obtain rfl := Option.some.inj hp
    refine ⟨?_, fun c hc => ?_⟩
    · -- without a token in front, all of the text would be left for the node
      intro hnil
      have htoken : e.trim.splitToken.1.chars = [] := by
        rw [asciiLower, String.toList_ofList, List.map_eq_nil_iff, Excerpt.text, String.toList_ofList] at hnil
        exact hnil
      have hfront := htoken
      rw [chars_token, chars_trim, trim_trim] at hfront
      have hrest : e.trim.splitToken.2.chars = e.trim.chars := by
        have hall := List.takeWhile_append_dropWhile (p := fun c => !Excerpt.endsToken c) (l := Text.trim e.chars)
        rw [hfront, List.nil_append] at hall
        rw [chars_afterToken, chars_trim, trim_trim, hall, trim_trim]
      have hne : e.trim.chars ≠ [] := by simpa [Excerpt.isEmpty] using he
      refine infoNode_token hnode (by rw [hrest]; exact hne) ?_
      rw [chars_token, hrest, chars_trim, trim_trim]
      exact hfront
    · rw [asciiLower, String.toList_ofList, Excerpt.text, String.toList_ofList] at hc
      obtain ⟨d, hd, rfl⟩ := List.mem_map.1 hc
      exact isLower_toLower (hletters d hd)
  · obtain ⟨node, hnode, h⟩ := except_bind_eq_ok.1 h
    exact ⟨none, node, (Except.ok.inj h).symm, fun p hp => absurd hp (by simp), infoNode_fits hnode⟩

theorem info_written (hp : ∀ p ∈ part, IsSection p) (hn : ∀ n ∈ node, n ≤ Number.max64)
    (h : e.chars = Text.trim (infoChars part node)) : info e = .ok (.info part node) := by
  have htrim : e.trim.chars = e.chars := by rw [chars_trim, h, trim_trim]
  unfold info
  dsimp only
  cases part with
  | none =>
    have hnode : e.trim.chars = Text.trim (nodeChars node) := htrim.trans h
    rw [if_neg]
    · exact except_bind_eq_ok.2 ⟨node, infoNode_written hn hnode, rfl⟩
    · cases node with
      | none =>
        have hempty : e.trim.isEmpty = true := Excerpt.isEmpty_iff.2 hnode
        rw [hempty]
        exact Bool.false_ne_true
      | some n =>
        have hdigits : e.trim.chars = (toString n).toList := hnode.trans (solid_toString n).blank_trim
        rw [(token_digits hdigits).1, isNumber_toString]
        simp
  | some p =>
    have hsection := hp p rfl
    have hword := hsection.solid.trailing (trailing_nodeChars node)
    have he : e.trim.chars = p.toList ++ nodeChars node := (htrim.trans h).trans hword.blank_trim
    obtain ⟨htoken, hrest⟩ := splitToken_chars hsection.endsToken hsection.1 (by rw [he]) (trailing_nodeChars node).endsToken
    rw [if_pos]
    · refine except_bind_eq_ok.2 ⟨node, infoNode_written hn hrest, ?_⟩
      rw [text_eq_iff.2 htoken, hsection.lower]
      rfl
    · have hne : e.trim.isEmpty = false := by simpa using not_isEmpty (by rw [he]; exact hword.ne_nil)
      rw [htoken, hsection.not_isNumber, hne]
      simp only [Bool.not_false, Bool.and_self, Bool.true_and, List.all_eq_true]
      intro c hc
      exact Bool.or_eq_true_iff.2 (.inr (hsection.2 c hc))

theorem verbose_fits (h : verbose e = .ok st) : ∃ on, st = .verbose on := by
  rw [verbose] at h
  split at h
  · cases h
    exact ⟨true, rfl⟩
  · split at h
    · cases h
      exact ⟨false, rfl⟩
    · cases h

theorem verbose_written {on : Bool} (h : e.chars = (if on then "ON" else "OFF").toList) : verbose e = .ok (.verbose on) := by
  cases on with
  | true =>
    have htext : e.text = "ON" := text_eq_iff.2 h
    rw [verbose, if_pos htext]
  | false =>
    have htext : e.text = "OFF" := text_eq_iff.2 h
    have hne : e.text ≠ "ON" := by rw [htext]; decide
    rw [verbose, if_neg hne, if_pos htext]

theorem delimiter_fits (h : delimiter e = .ok st) : ∃ c, st = .delimiter c ∧ isBlank c = false ∧ c ≠ quote := by
  obtain ⟨l, -, h⟩ := except_bind_eq_ok.1 h
  split at h
  · next c _ =>
    simp only [except_bind_eq_ok, check_eq_ok, exists_const] at h
    obtain ⟨hc, h⟩ := h
    cases h
    exact ⟨c, rfl, by simpa using hc⟩
  · cases h

theorem delimiter_written (hb : isBlank c = false) (hq : c ≠ quote) (h : e.chars = (Literal.mk c.toString true).text.toList) :
    delimiter e = .ok (.delimiter c) := by
  have hliteral : literal e = .ok ⟨c.toString, true⟩ := literal_written (fun hbare => nomatch hbare) h
  have hchars : c.toString.toList = [c] := String.toList_singleton c
  refine except_bind_eq_ok.2 ⟨_, hliteral, ?_⟩
  simp only [hchars, except_bind_eq_ok, check_eq_ok, exists_const]
  exact ⟨by simp [hb, hq], rfl⟩

end Parser

/-! ## All statements -/

namespace Statement

/-- A statement that is read back. -/
def Fits (s : Settings) : Statement → Prop
  | .select q => q.Fits s
  | .delete d => d.Fits s
  | .upsert u => u.Fits s
  | .create t => t.Fits s
  | .describe t | .drop t => t.Fits s
  | .showDatabases | .verbose _ => True
  | .showTables n => IsName s n
  | .info part node => (∀ p ∈ part, IsSection p) ∧ ∀ n ∈ node, n ≤ Number.max64
  | .delimiter c => isBlank c = false ∧ c ≠ quote
  | .command _ => False

/-- The rows that a statement selects, if it selects any. -/
def selection? : Statement → Option Selection
  | .select q => some q.selection
  | .delete d => some d.selection
  | .upsert u => match u.source with
    | .query q => some q.selection
    | .values _ => none
  | _ => none

/-- No literal of a condition reads like a keyword. -/
def Plain (st : Statement) : Prop := ∀ sel ∈ st.selection?, sel.Plain

instance (st : Statement) : Decidable st.Plain := inferInstanceAs (Decidable (∀ sel ∈ st.selection?, sel.Plain))

end Statement

namespace Parser

variable {e : Excerpt} {kw : String} {cs : List Char} {st : Statement} {input : String}

/-- The reader is found whose keyword is written in front. -/
theorem readWith_written {rs : List (String × (Excerpt → Read Statement))} {reader : Excerpt → Read Statement}
    (hkws : ∀ r ∈ rs, IsKeyword r.1) (hnodup : (rs.map Prod.fst).Nodup) (hin : (kw, reader) ∈ rs)
    (h : e.chars = kw.toList ++ cs) (hcs : wordEnds cs = true) :
    ∃ rest : Excerpt, rest.chars = Text.trim cs ∧ readWith e rs = reader rest := by
  induction rs with
  | nil => cases hin
  | cons r rs ih =>
    obtain ⟨hr, hrest⟩ := List.forall_mem_cons.1 hkws
    rw [List.map_cons, List.nodup_cons] at hnodup
    rcases List.mem_cons.1 hin with rfl | hin
    · obtain ⟨rest, hfound, hchars⟩ := afterKeyword?_written hr h hcs
      refine ⟨rest, hchars, ?_⟩
      rw [readWith, hfound]
    · have hne : kw ≠ r.1 := by
        rintro rfl
        exact hnodup.1 (List.mem_map.2 ⟨_, hin, rfl⟩)
      rw [readWith, afterKeyword?_other hr (hrest _ hin) hne h hcs]
      exact ih hrest hnodup.2 hin

theorem readers_keywords (s : Settings) : (∀ r ∈ readers s, IsKeyword r.1) ∧ ((readers s).map Prod.fst).Nodup := by
  have hkws : ∀ kw ∈ (readers s).map Prod.fst, IsKeyword kw := by
    change ∀ kw ∈ ["SELECT", "DELETE", "UPSERT", "CREATE", "DESC", "DROP", "SHOW", "INFO", "VERBOSE", "DELIMITER"], IsKeyword kw
    decide
  refine ⟨fun r hr => hkws r.1 (List.mem_map_of_mem hr), ?_⟩
  change ["SELECT", "DELETE", "UPSERT", "CREATE", "DESC", "DROP", "SHOW", "INFO", "VERBOSE", "DELIMITER"].Nodup
  decide

/-- The semicolon at the end of a statement does not count. -/
theorem body_written {b : String} (hb : Solid b.toList) : (body (b ++ ";")).chars = b.toList := by
  have hend : Solid [';'] := .word (by simp) (by simp [isBlank])
  have htext : (Excerpt.ofText (b ++ ";")).trim.chars = b.toList ++ [';'] := by
    have hwhole := (hb.append hend).trim
    rw [chars_trim]
    simpa [Excerpt.ofText] using hwhole
  unfold body
  dsimp only
  rw [htext, if_pos (by simp), chars_trim, chars_take, htext]
  simp [hb.trim]

theorem readers_fits {reader : String × (Excerpt → Read Statement)} (hin : reader ∈ readers s) (h : reader.2 e = .ok st) :
    st.Fits s := by
  unfold readers at hin
  simp only [List.mem_cons, List.not_mem_nil, or_false] at hin
  rcases hin with rfl | rfl | rfl | rfl | rfl | rfl | rfl | rfl | rfl | rfl
  · obtain ⟨q, hq, rfl⟩ := except_map_eq_ok.1 h
    exact query_fits hq
  · obtain ⟨d, hd, rfl⟩ := except_map_eq_ok.1 h
    exact deletion_fits hd
  · obtain ⟨u, hu, rfl⟩ := except_map_eq_ok.1 h
    exact upsertion_fits hu
  · obtain ⟨t, ht, rfl⟩ := except_map_eq_ok.1 h
    exact tableDef_fits ht
  · obtain ⟨t, ht, rfl⟩ := except_map_eq_ok.1 h
    exact lastTableName_fits ht
  · obtain ⟨t, rfl, ht⟩ := dropping_fits h
    exact ht
  · rcases showing_fits h with rfl | ⟨n, rfl, hn⟩
    · trivial
    · exact hn
  · obtain ⟨part, node, rfl, hinfo⟩ := info_fits h
    exact hinfo
  · obtain ⟨on, rfl⟩ := verbose_fits h
    trivial
  · obtain ⟨c, rfl, hc⟩ := delimiter_fits h
    exact hc

theorem parse_fits (h : parse s input = .ok st) : st.Fits s := by
  unfold parse at h
  dsimp only at h
  split at h
  · cases h
  · obtain ⟨reader, hin, rest, -, hread⟩ := readWith_eq_ok h
    exact readers_fits hin hread

/-- The reader behind a statement's keyword reads the statement from what follows the keyword, just if `p`. -/
def ReadBack (s : Settings) (st : Statement) (p : Prop) : Prop := ∃ kw reader cs, (kw, reader) ∈ readers s ∧
  st.body.toList = kw.toList ++ cs ∧ Trailing cs ∧ ∀ e : Excerpt, e.chars = Text.trim cs → (reader e = .ok st ↔ p)

/-- A text stands behind the keyword. -/
theorem ReadBack.behind (kw : String) (reader : Excerpt → Read Statement) {cs : List Char} {p : Prop}
    (hin : (kw, reader) ∈ readers s) (hcs : Solid cs) (hbody : st.body.toList = kw.toList ++ ' ' :: cs)
    (h : ∀ e : Excerpt, e.chars = cs → (reader e = .ok st ↔ p)) : ReadBack s st p :=
  ⟨kw, reader, ' ' :: cs, hin, hbody, .inr ⟨cs, rfl, hcs⟩, fun e he => h e (he.trans hcs.blank_trim)⟩

theorem map_eq_ok {α : Type} {x : Read α} {f : α → Statement} {a : α} (hf : ∀ b, f b = f a → b = a) :
    x.map f = .ok (f a) ↔ x = .ok a := by
  rw [except_map_eq_ok]
  constructor
  · rintro ⟨b, hb, he⟩
    rw [hb, hf b he]
  · exact fun h => ⟨a, h, rfl⟩

theorem readBack (h : st.Fits s) : ReadBack s st st.Plain := by
  have hnone (hsel : st.selection? = none) : st.Plain := fun sel hmem => by
    rw [hsel] at hmem
    cases hmem
  cases st with
  | select q =>
    have hq : q.Fits s := h
    refine .behind "SELECT" (fun e => (query s e).map .select) (by simp [readers]) hq.solid
      (by rw [Statement.body, String.toList_append]; rfl) fun e he => ?_
    rw [map_eq_ok fun _ => Statement.select.inj, query_written hq he]
    exact ⟨fun hp _ hsel => Option.some.inj hsel ▸ hp, fun hp => hp _ rfl⟩
  | delete d =>
    have hd : d.Fits s := h
    refine .behind "DELETE" (fun e => (deletion s e).map .delete) (by simp [readers]) hd.solid
      (by rw [Statement.body, String.toList_append]; rfl) fun e he => ?_
    rw [map_eq_ok fun _ => Statement.delete.inj, deletion_written hd he]
    exact ⟨fun hp _ hsel => Option.some.inj hsel ▸ hp, fun hp => hp _ rfl⟩
  | upsert u =>
    have hu : u.Fits s := h
    refine .behind "UPSERT" (fun e => (upsertion s e).map .upsert) (by simp [readers]) hu.solid
      (by rw [Statement.body, String.toList_append]; rfl) fun e he => ?_
    rw [map_eq_ok fun _ => Statement.upsert.inj, upsertion_written hu he]
    refine ⟨fun hp sel hsel => ?_, fun hp q hs => hp _ (by simp [Statement.selection?, hs])⟩
    cases hs : u.source with
    | values vs => simp [Statement.selection?, hs] at hsel
    | query q =>
      obtain rfl : q.selection = sel := by simpa [Statement.selection?, hs] using hsel
      exact hp q hs
  | create t =>
    have ht : t.Fits s := h
    exact .behind "CREATE" (fun e => (tableDef s e).map .create) (by simp [readers]) ht.solid
      (by rw [Statement.body, String.toList_append]; rfl) fun e he =>
        iff_of_true ((map_eq_ok fun _ => Statement.create.inj).2 (tableDef_written ht he)) (hnone rfl)
  | describe t =>
    have ht : t.Fits s := h
    exact .behind "DESC" (fun e => (lastTableName s e).map .describe) (by simp [readers]) ht.solid
      (by rw [Statement.body, String.toList_append]; rfl) fun e he =>
        iff_of_true ((map_eq_ok fun _ => Statement.describe.inj).2 (lastTableName_written ht he)) (hnone rfl)
  | drop t =>
    have ht : t.Fits s := h
    have hword : Solid ("TABLE".toList ++ ' ' :: t.written.toList) :=
      (IsKeyword.solid (by decide)).trailing (.inr ⟨_, rfl, ht.solid⟩)
    exact .behind "DROP" (dropping s) (by simp [readers]) hword (by rw [Statement.body, String.toList_append]; rfl)
      fun e he => iff_of_true (dropping_written ht he) (hnone rfl)
  | showDatabases =>
    exact .behind "SHOW" (showing s) (by simp [readers]) (show IsKeyword "DATABASES" by decide).solid (by decide)
      fun e he => iff_of_true (showing_databases he) (hnone rfl)
  | showTables n =>
    have hn : IsName s n := h
    have hword : Solid ("TABLES".toList ++ ' ' :: n.toList) :=
      (IsKeyword.solid (by decide)).trailing (.inr ⟨_, rfl, hn.solid⟩)
    exact .behind "SHOW" (showing s) (by simp [readers]) hword (by rw [Statement.body, String.toList_append]; rfl)
      fun e he => iff_of_true (showing_tables hn he) (hnone rfl)
  | info part node =>
    obtain ⟨hpart, hnode⟩ := h
    refine ⟨"INFO", info, infoChars part node, by simp [readers], ?_, trailing_infoChars hpart,
      fun e he => iff_of_true (info_written hpart hnode he) (hnone rfl)⟩
    rw [Statement.body, String.toList_append, String.toList_append, List.append_assoc]
    cases part <;> cases node <;> simp [infoChars, nodeChars]
  | verbose on =>
    have hword : Solid (if on then "ON" else "OFF").toList := by cases on <;> exact IsKeyword.solid (by decide)
    exact .behind "VERBOSE" verbose (by simp [readers]) hword (by rw [Statement.body, String.toList_append]; rfl)
      fun e he => iff_of_true (verbose_written he) (hnone rfl)
  | delimiter c =>
    have hquoted : Solid (Literal.mk c.toString true).text.toList := Literal.Fits.solid fun hbare => nomatch hbare
    exact .behind "DELIMITER" delimiter (by simp [readers]) hquoted (by rw [Statement.body, String.toList_append]; rfl)
      fun e he => iff_of_true (delimiter_written h.1 h.2 he) (hnone rfl)
  | command arguments => exact h.elim

/-- Whatever was read is read back from the way in which it is written, just if no literal of a condition reads like a
keyword of the place where it comes to stand. -/
theorem parse_text (h : parse s input = .ok st) : parse s st.text = .ok st ↔ st.Plain := by
  obtain ⟨kw, reader, cs, hin, hbody, hcs, hread⟩ := readBack (parse_fits h)
  obtain ⟨hkws, hnodup⟩ := readers_keywords s
  have hsolid : Solid st.body.toList := by
    rw [hbody]
    exact (hkws _ hin).solid.trailing hcs
  have hends : wordEnds cs = true := by
    rcases hcs.atBlank with rfl | ⟨r, rfl⟩ <;> rfl
  have hchars : (body st.text).chars = st.body.toList := body_written hsolid
  obtain ⟨rest, hrest, hfound⟩ := readWith_written hkws hnodup hin (hchars.trans hbody) hends
  have hne : ¬ (body st.text).isEmpty = true := by
    rw [Excerpt.isEmpty_iff, hchars]
    exact hsolid.ne_nil
  unfold parse
  dsimp only
  rw [if_neg hne, hfound]
  exact hread rest hrest

/-- Keywords, parentheses and quotes between quotes are read back. -/
theorem parse_text_quoted : parse {} "DELETE FROM t.x WHERE a=' LIMIT 1)' AND b LIKE 'it''s ( AND ';" =
      .ok (.delete ⟨⟨"t", "x"⟩, ⟨[⟨"a", .eq, ⟨" LIMIT 1)", true⟩⟩, ⟨"b", .like, ⟨"it's ( AND ", true⟩⟩], none, none⟩⟩) ∧
    parse {} "DELETE FROM t.x WHERE a = ' LIMIT 1)' AND b LIKE 'it''s ( AND ';" =
      .ok (.delete ⟨⟨"t", "x"⟩, ⟨[⟨"a", .eq, ⟨" LIMIT 1)", true⟩⟩, ⟨"b", .like, ⟨"it's ( AND ", true⟩⟩], none, none⟩⟩) := by
  have hread : parse {} "DELETE FROM t.x WHERE a=' LIMIT 1)' AND b LIKE 'it''s ( AND ';" =
      .ok (.delete ⟨⟨"t", "x"⟩, ⟨[⟨"a", .eq, ⟨" LIMIT 1)", true⟩⟩, ⟨"b", .like, ⟨"it's ( AND ", true⟩⟩], none, none⟩⟩) := by
    decide +kernel
  exact ⟨hread, (parse_text hread).2 (by decide +kernel)⟩

/-- A literal that reads like the word between conditions is not read back. -/
theorem parse_text_and : ∃ st, parse {} "SELECT * FROM t.x WHERE a =AND AND b = 1;" = .ok st ∧
    st.text = "SELECT * FROM t.x WHERE a = AND AND b = 1;" ∧ parse {} st.text ≠ .ok st :=
  ⟨.select ⟨[.all], ⟨"t", "x"⟩, ⟨[⟨"a", .eq, ⟨"AND", false⟩⟩, ⟨"b", .eq, ⟨"1", false⟩⟩], none, none⟩⟩,
    by decide +kernel, by decide +kernel, by decide +kernel⟩

end Parser
end SlotSql
