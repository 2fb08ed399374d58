import SlotSql.Proofs.Plan.Build
import SlotSql.Proofs.Statement.Literal
import SlotSql.Proofs.Text.Pieces
import SlotSql.Statement.Parser
/-!
# What a definition holds

Whatever a reader takes from a statement was written there, character by character: names, comments and the columns
between commas are parts of the text. So a definition is never longer than the text it was read from, and its numbers
fit their widths because they were read with that width.

Results:
* `Excerpt.sublist_trim` and those that follow: each operation on excerpts narrows them.
* `parse_create`: the sizes of a definition that was read.
-/
namespace SlotSql

/-- The names, comments and numbers of a definition that was read from so many octets. -/
structure TableDef.Bounded (n : Nat) (d : TableDef) : Prop where
  count : d.columns.length ≤ n + 1
  names : ∀ c ∈ d.columns, (Utf8.bytes c.name).length ≤ n
  lengths : ∀ c ∈ d.columns, ∀ k ∈ c.length, k ≤ Number.max32
  scales : ∀ c ∈ d.columns, ∀ k ∈ c.scale, k ≤ Number.max32
  comments : ∀ c ∈ d.columns, ∀ text ∈ c.comment, (Utf8.bytes text).length ≤ n

theorem TableDef.Bounded.mono {n k : Nat} {d : TableDef} (h : d.Bounded n) (hk : n ≤ k) : d.Bounded k :=
  ⟨h.count.trans (Nat.succ_le_succ hk), fun c hc => (h.names c hc).trans hk, h.lengths, h.scales,
    fun c hc text ht => (h.comments c hc text ht).trans hk⟩

/-- A part of a text takes no more octets than the text. -/
theorem Utf8.length_encode_le {a b : List Char} (h : a.Sublist b) : (encode a).length ≤ (encode b).length :=
  (h.flatMap String.utf8EncodeChar).length_le

/-- Every character takes an octet. -/
theorem Utf8.length_le_encode (cs : List Char) : cs.length ≤ (encode cs).length := by
  induction cs with
  | nil => exact Nat.le_refl 0
  | cons c cs ih =>
    have hc : 0 < (String.utf8EncodeChar c).length := by
      rw [String.length_utf8EncodeChar]
      exact c.utf8Size_pos
    rw [List.length_cons, encode, List.flatMap_cons, List.length_append]
    unfold encode at ih
    omega

namespace Excerpt

variable {e r i : Excerpt} {kw : String} {sep : Char}

theorem sublist_trim (e : Excerpt) : e.trim.chars.Sublist e.chars := by
  rw [chars_trim]
  obtain ⟨x, y, -, -, h⟩ := Text.exists_trim e.chars
  conv_rhs => rw [h]
  exact List.sublist_append_of_sublist_left (List.sublist_append_right x _)

theorem sublist_take (e : Excerpt) (n : Nat) : (e.take n).chars.Sublist e.chars := List.take_sublist _ _

theorem sublist_drop (e : Excerpt) (n : Nat) : (e.drop n).chars.Sublist e.chars := List.drop_sublist _ _

theorem sublist_front (e : Excerpt) (p : Char → Bool) : (e.span p).1.chars.Sublist e.chars :=
  List.takeWhile_sublist _

theorem sublist_rest (e : Excerpt) (p : Char → Bool) : (e.span p).2.chars.Sublist e.chars :=
  List.dropWhile_sublist _

theorem sublist_afterKeyword (h : e.afterKeyword? kw = some r) : r.chars.Sublist e.chars := by
  unfold afterKeyword? at h
  split at h
  · cases h
    exact (sublist_trim _).trans (sublist_drop e _)
  · cases h

theorem sublist_afterKeywords {kws : List String} (h : e.afterKeywords? kws = some r) : r.chars.Sublist e.chars := by
  have hfold (kws : List String) (i : Excerpt) (h : kws.foldlM afterKeyword? i = some r) :
      r.chars.Sublist i.chars := by
    induction kws generalizing i with
    | nil =>
      cases h
      exact .refl _
    | cons kw kws ih =>
      rw [List.foldlM_cons] at h
      obtain ⟨j, hj, h⟩ := Option.bind_eq_some_iff.1 h
      exact (ih j h).trans (sublist_afterKeyword hj)
  exact (hfold kws _ h).trans (sublist_trim e)

theorem sublist_token (e : Excerpt) : e.splitToken.1.chars.Sublist e.chars :=
  (sublist_front _ _).trans (sublist_trim e)

theorem sublist_afterToken (e : Excerpt) : e.splitToken.2.chars.Sublist e.chars :=
  (sublist_trim _).trans ((sublist_rest _ _).trans (sublist_trim e))

theorem sublist_splitParens (h : e.splitParens = .ok (i, r)) : i.chars.Sublist e.chars ∧ r.chars.Sublist e.chars := by
  unfold splitParens at h
  simp only [] at h
  split at h
  · split at h
    · cases h
      exact ⟨(sublist_trim _).trans ((sublist_drop _ _).trans ((sublist_take _ _).trans (sublist_trim e))),
        (sublist_trim _).trans ((sublist_drop _ _).trans (sublist_trim e))⟩
    · cases h
  · cases h

/-- The pieces of a text are parts of it, and one more than there are characters at most. -/
theorem piecesAt_bounded (sep : Char) (p : Place) (cs : List Char) :
    (piecesAt sep p cs).length ≤ cs.length + 1 ∧ ∀ piece ∈ piecesAt sep p cs, piece.Sublist cs := by
  induction cs generalizing p with
  | nil => simp [piecesAt]
  | cons c cs ih =>
    obtain ⟨h1, h2⟩ := ih (p.step c)
    rw [piecesAt]
    split
    · refine ⟨by simpa using h1, fun piece hpiece => ?_⟩
      rcases List.mem_cons.1 hpiece with rfl | hpiece
      · exact List.nil_sublist _
      · exact (h2 piece hpiece).cons _
    · cases hps : piecesAt sep (p.step c) cs with
      | nil => exact absurd hps (piecesAt_ne_nil sep _ cs)
      | cons q qs =>
        rw [hps] at h1 h2
        refine ⟨by simpa using Nat.le_trans h1 (Nat.le_succ _), fun piece hpiece => ?_⟩
        rcases List.mem_cons.1 hpiece with rfl | hpiece
        · exact (h2 q List.mem_cons_self).cons_cons _
        · exact (h2 piece (List.mem_cons_of_mem _ hpiece)).cons _

theorem splitTopLevel_bounded (e : Excerpt) (sep : Char) : (e.splitTopLevel sep).length ≤ e.chars.length + 1 ∧
    ∀ part ∈ e.splitTopLevel sep, part.chars.Sublist e.chars := by
  obtain ⟨h1, h2⟩ := piecesAt_bounded sep {} e.chars
  have hparts := chars_splitTopLevel e sep
  constructor
  · have hlen := congrArg List.length hparts
    rw [List.length_map, List.length_map] at hlen
    rw [hlen]
    exact h1
  · intro part hpart
    have hmem := List.mem_map_of_mem (f := chars) hpart
    rw [hparts] at hmem
    obtain ⟨piece, hpiece, he⟩ := List.mem_map.1 hmem
    rw [← he]
    exact (sublist_trim ⟨0, piece⟩).trans (h2 piece hpiece)

end Excerpt

namespace Token

variable {e r : Excerpt} {shape : ColumnShape}

theorem sublist_after {word : String} (h : after? word e = some r) : r.chars.Sublist e.chars := by
  unfold after? at h
  split at h
  · cases h
    exact e.sublist_drop _
  · cases h

theorem sublist_afterBlanks (h : afterBlanks? e = some r) : r.chars.Sublist e.chars := by
  unfold afterBlanks? at h
  simp only [] at h
  split at h
  · cases h
  · cases h
    exact e.sublist_rest _

theorem sublist_number {n : Excerpt} (h : number? e = some (n, r)) : r.chars.Sublist e.chars := by
  unfold number? at h
  simp only [] at h
  split at h
  · cases h
  · cases h
    exact e.sublist_rest _

theorem sublist_size {length : Excerpt} {scale : Option Excerpt} (h : size? e = some (length, scale, r)) :
    r.chars.Sublist e.chars := by
  unfold size? at h
  obtain ⟨e₁, h1, h⟩ := Option.bind_eq_some_iff.1 h
  obtain ⟨⟨n, e₂⟩, h2, h⟩ := Option.bind_eq_some_iff.1 h
  have hfront : e₂.chars.Sublist e.chars :=
    (sublist_number h2).trans ((e₁.sublist_rest _).trans ((sublist_after h1).trans (e.sublist_rest _)))
  simp only [] at h
  split at h
  · next e₃ h3 =>
    cases h
    exact (sublist_after h3).trans ((e₂.sublist_rest _).trans hfront)
  · obtain ⟨e₃, h3, h⟩ := Option.bind_eq_some_iff.1 h
    obtain ⟨⟨k, e₄⟩, h4, h⟩ := Option.bind_eq_some_iff.1 h
    obtain ⟨e₅, h5, h⟩ := Option.bind_eq_some_iff.1 h
    cases h
    exact (sublist_after h5).trans ((e₄.sublist_rest _).trans ((sublist_number h4).trans ((e₃.sublist_rest _).trans
      ((sublist_after h3).trans ((e₂.sublist_rest _).trans hfront)))))

theorem sublist_notNull (h : notNull? e = some r) : r.chars.Sublist e.chars := by
  unfold notNull? at h
  obtain ⟨e₁, h1, h⟩ := Option.bind_eq_some_iff.1 h
  obtain ⟨e₂, h2, h⟩ := Option.bind_eq_some_iff.1 h
  obtain ⟨e₃, h3, h⟩ := Option.bind_eq_some_iff.1 h
  exact (sublist_after h).trans ((sublist_afterBlanks h3).trans ((sublist_after h2).trans (sublist_afterBlanks h1)))

theorem sublist_comment (h : comment? e = some r) : r.chars.Sublist e.chars := by
  unfold comment? at h
  obtain ⟨e₁, h1, h⟩ := Option.bind_eq_some_iff.1 h
  obtain ⟨e₂, h2, h⟩ := Option.bind_eq_some_iff.1 h
  obtain ⟨e₃, h3, h⟩ := Option.bind_eq_some_iff.1 h
  obtain ⟨e₄, -, h⟩ := Option.bind_eq_some_iff.1 h
  split at h
  · cases h
    exact (sublist_afterBlanks h3).trans ((sublist_after h2).trans (sublist_afterBlanks h1))
  · cases h

/-- The name and the comment of a column definition are parts of it. -/
theorem sublist_column (h : column? e = some shape) : shape.name.chars.Sublist e.chars ∧
    ∀ note ∈ shape.comment, note.chars.Sublist e.chars := by
  unfold column? at h
  obtain ⟨e₁, h1, h⟩ := Option.bind_eq_some_iff.1 h
  have htype : (e₁.span fun c => isCapital c || isDigit c).2.chars.Sublist e.chars :=
    (e₁.sublist_rest _).trans ((sublist_afterBlanks h1).trans (e.sublist_rest _))
  -- Whatever stands behind the type, the comment is taken from a part of it.
  have hend {rest type : Excerpt} {length scale : Option Excerpt} {notNull : Bool} (hrest : rest.chars.Sublist e.chars)
      (h : (if rest.isEmpty = true then pure ⟨(e.span isNameChar).1, type, length, scale, notNull, none⟩ else do
        return ⟨(e.span isNameChar).1, type, length, scale, notNull, some (← comment? rest)⟩ : Option ColumnShape) =
          some shape) : shape.name.chars.Sublist e.chars ∧ ∀ note ∈ shape.comment, note.chars.Sublist e.chars := by
    split at h
    · cases h
      exact ⟨e.sublist_front _, fun _ hn => by cases hn⟩
    · obtain ⟨note, h2, h⟩ := Option.bind_eq_some_iff.1 h
      cases h
      refine ⟨e.sublist_front _, fun _ hn => ?_⟩
      cases hn
      exact (sublist_comment h2).trans hrest
  simp only [] at h
  split at h
  · cases h
  · cases hsize : size? (e₁.span fun c => isCapital c || isDigit c).2 with
    | none =>
      rw [hsize] at h
      cases hnull : notNull? (e₁.span fun c => isCapital c || isDigit c).2 with
      | none =>
        simp only [hnull] at h
        exact hend htype h
      | some rest =>
        simp only [hnull] at h
        exact hend ((sublist_notNull hnull).trans htype) h
    | some sized =>
      obtain ⟨length, scale, behind⟩ := sized
      have hbehind := (sublist_size hsize).trans htype
      rw [hsize] at h
      cases hnull : notNull? behind with
      | none =>
        simp only [hnull] at h
        exact hend hbehind h
      | some rest =>
        simp only [hnull] at h
        exact hend ((sublist_notNull hnull).trans hbehind) h

end Token

namespace Parser

variable {st : Settings} {e : Excerpt}

theorem check_bind_eq_ok {α : Type} {message : String} {b : Bool} {f : Unit → Read α} {a : α}
    (h : (check e message b >>= f) = .ok a) : b = true ∧ f () = .ok a := by
  unfold check at h
  split at h
  · next hb => exact ⟨hb, h⟩
  · cases h

theorem sublist_name {n : String} (h : name st e = .ok n) : n.toList.Sublist e.chars := by
  obtain ⟨-, h⟩ := check_bind_eq_ok h
  obtain ⟨-, h⟩ := check_bind_eq_ok h
  cases h
  rw [Excerpt.text, String.toList_ofList]
  exact e.sublist_trim

theorem sublist_undoubled {cs value : List Char} (h : undoubled? cs = some value) : value.Sublist cs := by
  fun_induction undoubled? cs generalizing value with
  | case1 =>
    cases h
    exact .refl _
  | case2 => cases h
  | case3 cs ih =>
    obtain ⟨rest, hrest, rfl⟩ := Option.map_eq_some_iff.1 h
    exact ((ih hrest).cons _).cons_cons _
  | case4 => cases h
  | case5 c cs hc ih =>
    obtain ⟨rest, hrest, rfl⟩ := Option.map_eq_some_iff.1 h
    exact (ih hrest).cons_cons _

theorem sublist_literal {l : Literal} (h : literal e = .ok l) : l.value.toList.Sublist e.chars := by
  unfold literal at h
  simp only [] at h
  split at h
  · next body hbody =>
    obtain ⟨inner, h1, h⟩ := except_bind_eq_ok.1 h
    obtain ⟨value, h2, h⟩ := except_bind_eq_ok.1 h
    cases h
    have hsub : inner.Sublist e.trim.chars := by
      rw [Text.stripStart?_eq_some.1 hbody, Text.stripEnd?_eq_some.1 (demand_eq_ok.1 h1)]
      exact (List.sublist_append_left _ _).trans (List.sublist_append_right _ _)
    rw [String.toList_ofList]
    exact (sublist_undoubled (demand_eq_ok.1 h2)).trans (hsub.trans e.sublist_trim)
  · obtain ⟨-, h⟩ := check_bind_eq_ok h
    obtain ⟨-, h⟩ := check_bind_eq_ok h
    cases h
    rw [Excerpt.text, String.toList_ofList]
    exact e.sublist_trim

theorem sublist_comment {note : String} (h : comment st e = .ok note) : note.toList.Sublist e.chars := by
  obtain ⟨l, h1, h⟩ := except_bind_eq_ok.1 h
  obtain ⟨-, h⟩ := check_bind_eq_ok h
  obtain ⟨-, h⟩ := check_bind_eq_ok h
  cases h
  exact sublist_literal h1

theorem size32_le {what : String} {n : Nat} (h : size32 what e = .ok n) : n ≤ Number.max32 := by
  have hn := demand_eq_ok.1 h
  unfold Number.natural? at hn
  exact of_decide_eq_true (Option.filter_eq_some_iff.1 hn).2

theorem mapM_option_eq_ok {α β : Type} {f : α → Read β} {o : Option α} {r : Option β} (h : o.mapM f = .ok r) :
    ∀ b ∈ r, ∃ a ∈ o, f a = .ok b := by
  cases o with
  | none =>
    cases h
    rintro _ ⟨⟩
  | some a =>
    obtain ⟨b, hb, h⟩ := except_map_eq_ok.1 (show (f a).map some = .ok r from h)
    subst h
    rintro _ ⟨⟩
    exact ⟨a, rfl, hb⟩

/-- A column keeps to the part that it was read from, and to the widths of its numbers. -/
theorem columnDef_eq_ok {c : ColumnDef} (h : columnDef st e = .ok c) : c.name.toList.Sublist e.chars ∧
    (∀ n ∈ c.length, n ≤ Number.max32) ∧ (∀ n ∈ c.scale, n ≤ Number.max32) ∧
      ∀ text ∈ c.comment, text.toList.Sublist e.chars := by
  unfold columnDef at h
  obtain ⟨shape, h1, h⟩ := except_bind_eq_ok.1 h
  obtain ⟨n, h2, h⟩ := except_bind_eq_ok.1 h
  obtain ⟨type, -, h⟩ := except_bind_eq_ok.1 h
  obtain ⟨length, h3, h⟩ := except_bind_eq_ok.1 h
  obtain ⟨scale, h4, h⟩ := except_bind_eq_ok.1 h
  obtain ⟨note, h5, h⟩ := except_bind_eq_ok.1 h
  cases h
  obtain ⟨g1, g2⟩ := Token.sublist_column (demand_eq_ok.1 h1)
  refine ⟨(sublist_name h2).trans g1, fun n hn => ?_, fun n hn => ?_, fun text ht => ?_⟩
  · obtain ⟨part, -, hpart⟩ := mapM_option_eq_ok h3 n hn
    exact size32_le hpart
  · obtain ⟨part, -, hpart⟩ := mapM_option_eq_ok h4 n hn
    exact size32_le hpart
  · obtain ⟨part, hin, hpart⟩ := mapM_option_eq_ok h5 text ht
    exact (sublist_comment hpart).trans (g2 part hin)

/-- Each column of a definition was read from a part of its body, and no two from one part. -/
theorem definitions_eq_ok {body : Excerpt} {parts : List Excerpt} {key key' : Option (List String)}
    {columns : List ColumnDef} (h : definitions st body key parts = .ok (columns, key')) :
    columns.length ≤ parts.length ∧ ∀ c ∈ columns, ∃ part ∈ parts, columnDef st part = .ok c := by
  induction parts generalizing key columns with
  | nil =>
    cases h
    exact ⟨Nat.le_refl 0, fun _ hc => by cases hc⟩
  | cons part parts ih =>
    rw [definitions] at h
    obtain ⟨-, h⟩ := check_bind_eq_ok h
    split at h
    · obtain ⟨-, h⟩ := check_bind_eq_ok h
      obtain ⟨names, -, h⟩ := except_bind_eq_ok.1 h
      obtain ⟨h1, h2⟩ := ih h
      refine ⟨Nat.le_succ_of_le h1, fun c hc => ?_⟩
      obtain ⟨part', hin, hpart⟩ := h2 c hc
      exact ⟨part', List.mem_cons_of_mem _ hin, hpart⟩
    · obtain ⟨c, hc, h⟩ := except_bind_eq_ok.1 h
      obtain ⟨⟨rest, key₁⟩, hrest, h⟩ := except_bind_eq_ok.1 h
      cases h
      obtain ⟨h1, h2⟩ := ih hrest
      refine ⟨Nat.succ_le_succ h1, fun c' hc' => ?_⟩
      rcases List.mem_cons.1 hc' with rfl | hc'
      · exact ⟨part, List.mem_cons_self, hc⟩
      · obtain ⟨part', hin, hpart⟩ := h2 c' hc'
        exact ⟨part', List.mem_cons_of_mem _ hin, hpart⟩

theorem tableDef_bounded {d : TableDef} (h : tableDef st e = .ok d) : d.Bounded (Utf8.encode e.chars).length := by
  unfold tableDef at h
  obtain ⟨rest, h1, h⟩ := except_bind_eq_ok.1 h
  have hstart : ((rest.afterKeywords? ["IF", "NOT", "EXISTS"]).getD rest).chars.Sublist e.chars := by
    refine List.Sublist.trans ?_ (Excerpt.sublist_afterKeyword (demand_eq_ok.1 h1))
    cases hnot : rest.afterKeywords? ["IF", "NOT", "EXISTS"] with
    | none => exact .refl _
    | some r => exact Excerpt.sublist_afterKeywords hnot
  obtain ⟨-, h⟩ := check_bind_eq_ok h
  obtain ⟨table, -, h⟩ := except_bind_eq_ok.1 h
  obtain ⟨-, h⟩ := check_bind_eq_ok h
  obtain ⟨⟨body, behind⟩, h2, h⟩ := except_bind_eq_ok.1 h
  obtain ⟨note, -, h⟩ := except_bind_eq_ok.1 h
  obtain ⟨⟨columns, key⟩, h3, h⟩ := except_bind_eq_ok.1 h
  obtain ⟨names, -, h⟩ := except_bind_eq_ok.1 h
  cases h
  have hbody : body.chars.Sublist e.chars :=
    (Excerpt.sublist_splitParens h2).1.trans ((Excerpt.sublist_afterToken _).trans hstart)
  obtain ⟨hcount, hparts⟩ := body.splitTopLevel_bounded ','
  obtain ⟨hcolumns, hread⟩ := definitions_eq_ok h3
  have hcolumn (c : ColumnDef) (hc : c ∈ columns) : c.name.toList.Sublist e.chars ∧
      (∀ n ∈ c.length, n ≤ Number.max32) ∧ (∀ n ∈ c.scale, n ≤ Number.max32) ∧
        ∀ text ∈ c.comment, text.toList.Sublist e.chars := by
    obtain ⟨part, hin, hpart⟩ := hread c hc
    obtain ⟨g1, g2, g3, g4⟩ := columnDef_eq_ok hpart
    have hsub := (hparts part hin).trans hbody
    exact ⟨g1.trans hsub, g2, g3, fun text ht => (g4 text ht).trans hsub⟩
  refine ⟨?_, fun c hc => Utf8.length_encode_le (hcolumn c hc).1, fun c hc => (hcolumn c hc).2.1,
    fun c hc => (hcolumn c hc).2.2.1, fun c hc text ht => Utf8.length_encode_le ((hcolumn c hc).2.2.2 text ht)⟩
  have := hbody.length_le.trans (Utf8.length_le_encode e.chars)
  show columns.length ≤ _
  omega

theorem readWith_eq_ok {readers : List (String × (Excerpt → Read Statement))} {statement : Statement}
    (h : readWith e readers = .ok statement) :
    ∃ reader ∈ readers, ∃ rest, e.afterKeyword? reader.1 = some rest ∧ reader.2 rest = .ok statement := by
  induction readers with
  | nil => cases h
  | cons reader readers ih =>
    rw [readWith] at h
    split at h
    · next rest hrest => exact ⟨reader, List.mem_cons_self, rest, hrest, h⟩
    · obtain ⟨other, hin, hother⟩ := ih h
      exact ⟨other, List.mem_cons_of_mem _ hin, hother⟩

/-- The readers for statements of a session read no definition. -/
theorem showing_ne_create {d : TableDef} : showing st e ≠ .ok (.create d) := by
  intro h
  unfold showing at h
  split at h
  · obtain ⟨-, h⟩ := check_bind_eq_ok h
    cases h
  · obtain ⟨-, h⟩ := check_bind_eq_ok h
    obtain ⟨_, -, h⟩ := except_bind_eq_ok.1 h
    cases h
  · cases h

theorem info_ne_create {d : TableDef} : info e ≠ .ok (.create d) := by
  intro h
  unfold info at h
  simp only [] at h
  split at h
  all_goals
    obtain ⟨_, -, h⟩ := except_bind_eq_ok.1 h
    cases h

theorem verbose_ne_create {d : TableDef} : verbose e ≠ .ok (.create d) := by
  intro h
  unfold verbose at h
  split at h
  · cases h
  · split at h <;> cases h

theorem delimiter_ne_create {d : TableDef} : delimiter e ≠ .ok (.create d) := by
  intro h
  unfold delimiter at h
  obtain ⟨l, -, h⟩ := except_bind_eq_ok.1 h
  split at h
  · obtain ⟨-, h⟩ := check_bind_eq_ok h
    cases h
  · cases h

/-- Only the reader behind `CREATE` reads a definition. -/
theorem readWith_create {d : TableDef} (h : readWith e (readers st) = .ok (.create d)) :
    ∃ rest, e.afterKeyword? "CREATE" = some rest ∧ tableDef st rest = .ok d := by
  obtain ⟨reader, hin, rest, hrest, h⟩ := readWith_eq_ok h
  have hmap {α : Type} {x : Read α} {f : α → Statement} (hf : ∀ a, f a ≠ .create d) : x.map f ≠ .ok (.create d) := by
    intro hx
    obtain ⟨a, -, ha⟩ := except_map_eq_ok.1 hx
    exact hf a ha
  unfold readers at hin
  simp only [List.mem_cons, List.not_mem_nil, or_false] at hin
  rcases hin with rfl | rfl | rfl | rfl | rfl | rfl | rfl | rfl | rfl | rfl
  · exact absurd h (hmap fun _ hf => by cases hf)
  · exact absurd h (hmap fun _ hf => by cases hf)
  · exact absurd h (hmap fun _ hf => by cases hf)
  · obtain ⟨d', hd', he⟩ := except_map_eq_ok.1 h
    cases he
    exact ⟨rest, hrest, hd'⟩
  · exact absurd h (hmap fun _ hf => by cases hf)
  · obtain ⟨_, -, h⟩ := except_bind_eq_ok.1 h
    obtain ⟨_, -, h⟩ := except_bind_eq_ok.1 h
    cases h
  · exact absurd h showing_ne_create
  · exact absurd h info_ne_create
  · exact absurd h verbose_ne_create
  · exact absurd h delimiter_ne_create

/-- A definition is never longer than the text that it was read from. -/
theorem parse_create {text : String} {d : TableDef} (h : parse st text = .ok (.create d)) :
    d.Bounded (Utf8.bytes text).length := by
  have hbody : (body text).chars.Sublist text.toList := by
    unfold body
    simp only []
    split
    · exact (Excerpt.sublist_trim _).trans ((Excerpt.sublist_take _ _).trans (Excerpt.sublist_trim _))
    · exact Excerpt.sublist_trim _
  unfold parse at h
  simp only [] at h
  split at h
  · cases h
  · obtain ⟨rest, h1, h2⟩ := readWith_create h
    exact (tableDef_bounded h2).mono (Utf8.length_encode_le ((Excerpt.sublist_afterKeyword h1).trans hbody))

end Parser
end SlotSql
