import SlotSql.Proofs.Statement.Columns
/-!
# Excerpts of excerpts

Every operation on an excerpt narrows it: what it gives stands in the excerpt, at the place that it says. So do the parts
that are found in tokens. A place counts characters from the beginning of the whole statement, however many times an
excerpt was narrowed.

Results:
* `Excerpt.In`: an excerpt lies in another one; there is one lemma for each operation.
* `Token.call?_in`, `Token.sum?_in`, `Token.column?_in`: the parts of tokens.
* `Excerpt.In.points`: the offset and the fragment of an error about an excerpt of a text.
-/
namespace SlotSql

namespace Excerpt

variable {a b e : Excerpt}

/-- An excerpt lies in another one: its characters stand there, at its place. -/
def In (a e : Excerpt) : Prop := ∃ front back, e.chars = front ++ a.chars ++ back ∧ a.start = e.start + front.length

theorem In.refl (e : Excerpt) : e.In e := ⟨[], [], by simp, rfl⟩

theorem In.trans (hab : a.In b) (hbe : b.In e) : a.In e := by
  obtain ⟨f, k, h1, h2⟩ := hab
  obtain ⟨f', k', h3, h4⟩ := hbe
  refine ⟨f' ++ f, k ++ k', ?_, ?_⟩
  · rw [h3, h1]
    simp only [List.append_assoc]
  · rw [h2, h4, List.length_append]
    omega

/-- A beginning of an excerpt. -/
theorem prefix_in {cs : List Char} (h : cs <+: e.chars) : (Excerpt.mk e.start cs).In e := by
  obtain ⟨back, h⟩ := h
  exact ⟨[], back, by simp [h], rfl⟩

/-- What stands behind some characters of an excerpt. -/
theorem suffix_in {front cs : List Char} (h : e.chars = front ++ cs) : (Excerpt.mk (e.start + front.length) cs).In e :=
  ⟨front, [], by simp [h], rfl⟩

theorem take_in (e : Excerpt) (n : Nat) : (e.take n).In e := prefix_in (List.take_prefix n e.chars)

theorem drop_in (e : Excerpt) (n : Nat) : (e.drop n).In e := by
  have h := suffix_in (List.take_append_drop n e.chars).symm
  rwa [List.length_take] at h

theorem span_fst_in (e : Excerpt) (p : Char → Bool) : (e.span p).1.In e := prefix_in (List.takeWhile_prefix p)

theorem span_snd_in (e : Excerpt) (p : Char → Bool) : (e.span p).2.In e := suffix_in List.takeWhile_append_dropWhile.symm

theorem trim_in (e : Excerpt) : e.trim.In e := by
  have hend : Text.trimEnd (e.span Text.isBlank).2.chars <+: (e.span Text.isBlank).2.chars := by
    rw [← List.reverse_suffix, Text.trimEnd, List.reverse_reverse]
    exact List.dropWhile_suffix _
  exact (prefix_in hend).trans (span_snd_in e Text.isBlank)

/-! ## Keywords, tokens and groups -/

theorem afterKeyword?_in {kw : String} (h : e.afterKeyword? kw = some a) : a.In e := by
  unfold afterKeyword? at h
  split at h
  · cases h
    exact (trim_in _).trans (drop_in e _)
  · cases h

theorem afterKeywords?_in {kws : List String} (h : e.afterKeywords? kws = some a) : a.In e := by
  have hfold (kws : List String) (e : Excerpt) (h : kws.foldlM afterKeyword? e = some a) : a.In e := by
    induction kws generalizing e with
    | nil =>
      cases h
      exact .refl _
    | cons kw kws ih =>
      rw [List.foldlM_cons] at h
      obtain ⟨b, hb, hrest⟩ := Option.bind_eq_some_iff.1 h
      exact (ih b hrest).trans (afterKeyword?_in hb)
  exact (hfold kws _ h).trans (trim_in e)

theorem cutUnquoted?_in {pattern : String} {quoted : Bool} {cs ds : List Char}
    (h : cutUnquoted? pattern.toList quoted e.chars = some (cs, ds)) :
    (Excerpt.mk e.start cs).In e ∧ (Excerpt.mk (e.start + cs.length + pattern.length) ds).In e := by
  have hchars := eq_of_cutUnquoted? h
  have hrest := suffix_in hchars
  rw [List.length_append, String.length_toList, ← Nat.add_assoc] at hrest
  exact ⟨prefix_in ⟨pattern.toList ++ ds, by rw [hchars, List.append_assoc]⟩, hrest⟩

theorem cutAt?_in {pattern : String} (h : e.cutAt? pattern = some (a, b)) : a.In e ∧ b.In e := by
  unfold cutAt? at h
  obtain ⟨⟨cs, ds⟩, hcut, hparts⟩ := Option.map_eq_some_iff.1 h
  cases hparts
  exact cutUnquoted?_in hcut

theorem splitUnquoted_in (e : Excerpt) (pattern : String) : ∀ a ∈ e.splitUnquoted pattern, a.In e := by
  have hself (e : Excerpt) : ∀ a ∈ [e], a.In e := fun a ha => by
    rw [List.mem_singleton.1 ha]
    exact .refl e
  fun_induction splitUnquoted e pattern with
  | case1 e _ => exact hself e
  | case2 e _ _ _ _ => exact hself e
  | case3 e cs ds hcut _ ih =>
    obtain ⟨hfront, hrest⟩ := cutUnquoted?_in hcut
    intro a ha
    rcases List.mem_cons.1 ha with rfl | ha
    · exact hfront
    · exact (ih a ha).trans hrest

/-- Pieces with one character between each two stand in the text that they are the pieces of. -/
theorem placed_in {sep : Char} (front : List Char) (pieces : List (List Char)) (hp : pieces ≠ [])
    (h : e.chars = front ++ Text.join [sep] pieces) : ∀ a ∈ placed (e.start + front.length) pieces, a.In e := by
  induction pieces generalizing front with
  | nil => exact absurd rfl hp
  | cons piece rest ih =>
    intro a ha
    rcases List.mem_cons.1 ha with rfl | ha
    · refine (trim_in _).trans ?_
      cases rest with
      | nil => exact suffix_in h
      | cons next rest =>
        refine ⟨front, [sep] ++ Text.join [sep] (next :: rest), ?_, rfl⟩
        rw [h]
        show front ++ (piece ++ [sep] ++ _) = _
        simp only [List.append_assoc]
    · cases rest with
      | nil => cases ha
      | cons next rest =>
        refine ih (front ++ piece ++ [sep]) (List.cons_ne_nil _ _) ?_ a ?_
        · rw [h]
          show front ++ (piece ++ [sep] ++ _) = _
          simp only [List.append_assoc]
        · rw [List.length_append, List.length_append, List.length_singleton, ← Nat.add_assoc, ← Nat.add_assoc]
          exact ha

theorem splitTopLevel_in (e : Excerpt) : ∀ a ∈ e.splitTopLevel ',', a.In e :=
  placed_in [] _ (piecesAt_ne_nil ',' {} e.chars) (pieces_piecesAt {} e.chars).2.symm

theorem splitToken_in (e : Excerpt) : e.splitToken.1.In e ∧ e.splitToken.2.In e :=
  ⟨(span_fst_in _ _).trans (trim_in e), (trim_in _).trans ((span_snd_in _ _).trans (trim_in e))⟩

theorem splitParens_in (h : e.splitParens = .ok (a, b)) : a.In e ∧ b.In e := by
  unfold splitParens at h
  simp only [] at h
  split at h
  · split at h
    · cases h
      exact ⟨(trim_in _).trans ((drop_in _ _).trans ((take_in _ _).trans (trim_in e))),
        (trim_in _).trans ((drop_in _ _).trans (trim_in e))⟩
    · cases h
  · cases h

/-- A group that is not there is missed behind the blanks in front. -/
theorem splitParens_error {err : ParseError} (h : e.splitParens = .error err) : ∃ message, err = e.trim.error message := by
  unfold splitParens at h
  simp only [] at h
  split at h
  · split at h
    · cases h
    · cases h
      exact ⟨_, rfl⟩
  · cases h
    exact ⟨_, rfl⟩

/-! ## Errors -/

/-- The offset of an error about an excerpt of a text is one of the text, and its fragment stands there. -/
theorem In.points {a : Excerpt} {input : String} (h : a.In (ofText input)) (message : String) :
    (a.error message).offset ≤ input.length ∧ (a.error message).fragment.length ≤ 40 ∧
      (a.error message).fragment.toList <+: input.toList.drop (a.error message).offset := by
  obtain ⟨front, back, hchars, hstart⟩ := h
  have hinput : input.toList = front ++ (a.chars ++ back) := by
    rw [← List.append_assoc]
    exact hchars
  have hoffset : (a.error message).offset = front.length := by
    show a.start = _
    rw [hstart]
    exact Nat.zero_add _
  refine ⟨?_, ?_, ?_⟩
  · rw [hoffset, ← String.length_toList, hinput, List.length_append]
    omega
  · show (String.ofList (a.chars.take fragmentLength)).length ≤ 40
    rw [String.length_ofList, List.length_take]
    exact Nat.min_le_left _ _
  · rw [hoffset, hinput, List.drop_left]
    show (String.ofList (a.chars.take fragmentLength)).toList <+: _
    rw [String.toList_ofList]
    exact (List.take_prefix _ _).trans (List.prefix_append _ _)

end Excerpt

/-! ## Shapes of tokens -/

namespace Token

open Excerpt

variable {a e : Excerpt}

theorem call?_in {name : String} (h : call? e = some (name, a)) : a.In e := by
  unfold call? at h
  simp only [] at h
  split at h
  · split at h
    · cases h
    · cases h
      exact (drop_in _ 1).trans ((take_in _ _).trans (span_snd_in e _))
  · cases h

theorem sum?_in {name : String} {op : AssignOp} (h : sum? e = some (name, op, a)) : a.In e := by
  have hoperand : ((((e.span isNameChar).2.span Text.isBlank).2.drop 1).span Text.isBlank).2.In e :=
    (span_snd_in _ _).trans ((drop_in _ 1).trans ((span_snd_in _ _).trans (span_snd_in e _)))
  unfold sum? at h
  simp only [] at h
  split at h
  · cases h
  · split at h
    · cases h
      exact hoperand
    · cases h
      exact hoperand
    · cases h

theorem afterBlanks?_in (h : afterBlanks? e = some a) : a.In e := by
  unfold afterBlanks? at h
  simp only [] at h
  split at h
  · cases h
  · cases h
    exact span_snd_in e _

theorem after?_in {word : String} (h : after? word e = some a) : a.In e := by
  unfold after? at h
  split at h
  · cases h
    exact drop_in e _
  · cases h

theorem number?_in {digits : Excerpt} (h : number? e = some (digits, a)) : digits.In e ∧ a.In e := by
  unfold number? at h
  simp only [] at h
  split at h
  · cases h
  · cases h
    exact ⟨span_fst_in e _, span_snd_in e _⟩

theorem skipBlanks_in (e : Excerpt) : (skipBlanks e).In e := span_snd_in e _

theorem size?_in {length : Excerpt} {scale : Option Excerpt} (h : size? e = some (length, scale, a)) :
    length.In e ∧ (∀ b ∈ scale, b.In e) ∧ a.In e := by
  unfold size? at h
  obtain ⟨x, hx, h⟩ := Option.bind_eq_some_iff.1 h
  obtain ⟨⟨l, y⟩, hy, h⟩ := Option.bind_eq_some_iff.1 h
  have hxe : (skipBlanks x).In e := (skipBlanks_in x).trans ((after?_in hx).trans (skipBlanks_in e))
  obtain ⟨hl, hy⟩ := number?_in hy
  have hye : (skipBlanks y).In e := (skipBlanks_in y).trans (hy.trans hxe)
  simp only [] at h
  split at h
  · next z hz =>
    cases h
    refine ⟨hl.trans hxe, ?_, (after?_in hz).trans hye⟩
    rintro b ⟨⟩
  · obtain ⟨z, hz, h⟩ := Option.bind_eq_some_iff.1 h
    obtain ⟨⟨sc, w⟩, hw, h⟩ := Option.bind_eq_some_iff.1 h
    obtain ⟨r, hr, h⟩ := Option.bind_eq_some_iff.1 h
    have hze : (skipBlanks z).In e := (skipBlanks_in z).trans ((after?_in hz).trans hye)
    obtain ⟨hs, hw⟩ := number?_in hw
    cases h
    refine ⟨hl.trans hxe, ?_, (after?_in hr).trans ((skipBlanks_in w).trans (hw.trans hze))⟩
    rintro b ⟨⟩
    exact hs.trans hze

theorem notNull?_in (h : notNull? e = some a) : a.In e := by
  unfold notNull? at h
  obtain ⟨x, hx, h⟩ := Option.bind_eq_some_iff.1 h
  obtain ⟨y, hy, h⟩ := Option.bind_eq_some_iff.1 h
  obtain ⟨z, hz, h⟩ := Option.bind_eq_some_iff.1 h
  exact (after?_in h).trans ((afterBlanks?_in hz).trans ((after?_in hy).trans (afterBlanks?_in hx)))

theorem comment?_in (h : comment? e = some a) : a.In e := by
  unfold comment? at h
  obtain ⟨x, hx, h⟩ := Option.bind_eq_some_iff.1 h
  obtain ⟨y, hy, h⟩ := Option.bind_eq_some_iff.1 h
  obtain ⟨z, hz, h⟩ := Option.bind_eq_some_iff.1 h
  obtain ⟨body, -, h⟩ := Option.bind_eq_some_iff.1 h
  split at h
  · cases h
    exact (afterBlanks?_in hz).trans ((after?_in hy).trans (afterBlanks?_in hx))
  · cases h

/-- The parts of a column definition lie in it. -/
structure ColumnShape.In (shape : ColumnShape) (e : Excerpt) : Prop where
  name : shape.name.In e
  type : shape.type.In e
  length : ∀ a ∈ shape.length, a.In e
  scale : ∀ a ∈ shape.scale, a.In e
  comment : ∀ a ∈ shape.comment, a.In e

theorem column?_in {shape : ColumnShape} (h : column? e = some shape) : shape.In e := by
  unfold column? at h
  obtain ⟨x, hx, h⟩ := Option.bind_eq_some_iff.1 h
  have hxe : x.In e := (afterBlanks?_in hx).trans (span_snd_in e _)
  have hfront : (e.span isNameChar).1.In e := span_fst_in e _
  have htype : (x.span fun c => isCapital c || isDigit c).1.In e := (span_fst_in x _).trans hxe
  -- the end of a definition is read alike, whether there is a size in front of it or not
  have hend {rest : Excerpt} {length scale : Option Excerpt} {notNull : Bool} (hrest : rest.In e)
      (hl : ∀ a ∈ length, a.In e) (hs : ∀ a ∈ scale, a.In e)
      (h : (if rest.isEmpty = true then
          pure ⟨(e.span isNameChar).1, (x.span fun c => isCapital c || isDigit c).1, length, scale, notNull, none⟩
        else do
          return ⟨(e.span isNameChar).1, (x.span fun c => isCapital c || isDigit c).1, length, scale, notNull,
            some (← comment? rest)⟩ : Option ColumnShape) = some shape) : shape.In e := by
    split at h
    · cases h
      exact ⟨hfront, htype, hl, hs, by rintro a ⟨⟩⟩
    · obtain ⟨note, hnote, h⟩ := Option.bind_eq_some_iff.1 h
      cases h
      refine ⟨hfront, htype, hl, hs, ?_⟩
      rintro a ⟨⟩
      exact (comment?_in hnote).trans hrest
  dsimp only at h
  split at h
  · cases h
  · have hbehind : (x.span fun c => isCapital c || isDigit c).2.In e := (span_snd_in x _).trans hxe
    cases hsize : size? (x.span fun c => isCapital c || isDigit c).2 with
    | none =>
      simp only [hsize] at h
      cases hnull : notNull? (x.span fun c => isCapital c || isDigit c).2 with
      | none =>
        simp only [hnull] at h
        exact hend hbehind (by rintro a ⟨⟩) (by rintro a ⟨⟩) h
      | some rest =>
        simp only [hnull] at h
        exact hend ((notNull?_in hnull).trans hbehind) (by rintro a ⟨⟩) (by rintro a ⟨⟩) h
    | some sized =>
      obtain ⟨length, scale, rest⟩ := sized
      obtain ⟨hlength, hscale, hrest⟩ := size?_in hsize
      have hlengthIn : ∀ a ∈ some length, a.In e := by
        rintro a ⟨⟩
        exact hlength.trans hbehind
      simp only [hsize] at h
      cases hnull : notNull? rest with
      | none =>
        simp only [hnull] at h
        exact hend (hrest.trans hbehind) hlengthIn (fun a ha => (hscale a ha).trans hbehind) h
      | some behind =>
        simp only [hnull] at h
        exact hend ((notNull?_in hnull).trans (hrest.trans hbehind)) hlengthIn
          (fun a ha => (hscale a ha).trans hbehind) h

end Token

end SlotSql
