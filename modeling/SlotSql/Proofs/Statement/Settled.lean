import SlotSql.Proofs.Statement.RoundTrip
import SlotSql.Proofs.Statement.Scanners
/-!
# Quotes of statements that are read

Only literals hold single quotes, and a literal closes the quotes that it opens. So a text that a reader accepts is
settled, with no quote open behind it. Every operation on excerpts takes a part away that has no quotes of its own, or
leaves parts that are read in turn.

Results:
* `Settled`: texts behind which no quote is open.
* `settled_of_afterKeyword` and those that follow: a text is settled if what an operation leaves of it is.
* `query_settled`, `upsertion_settled`, `tableDef_settled`: readers accept settled texts only.
* `parse_settled`: every statement that is read closes its quotes.
-/
namespace SlotSql

open Text Excerpt

variable {s : Settings}

namespace Excerpt

variable {e i r : Excerpt} {kw : String} {a b cs sep : List Char} {ps : List (List Char)} {n : Nat}

/-! ## Settled texts -/

/-- No quote is open behind a text. -/
def Settled (cs : List Char) : Prop := behind false cs = false

instance : DecidablePred Settled := fun cs => inferInstanceAs (Decidable (behind false cs = false))

/-- Nothing but its quotes decides about a text. -/
theorem settled_congr (h : delimiters a = delimiters b) : Settled a ↔ Settled b := by
  have hrun := congrArg Level.quoted (Level.run_congr (l := .ground) h)
  rw [quoted_run, quoted_run] at hrun
  exact Eq.congr_left hrun

theorem settled_trim : Settled (Text.trim cs) ↔ Settled cs := settled_congr (delimiters_trim cs)

namespace Settled

theorem nil : Settled [] := rfl

theorem append (ha : Settled a) (hb : Settled b) : Settled (a ++ b) := by
  rw [Settled, behind_append, ha, hb]

theorem plain (h : ∀ c ∈ cs, c ≠ quote) : Settled cs := by
  induction cs with
  | nil => exact nil
  | cons c cs ih =>
    obtain ⟨hc, hcs⟩ := List.forall_mem_cons.1 h
    refine append (a := [c]) ?_ (ih hcs)
    simp [Settled, behind, hc]

theorem keyword (h : IsKeyword kw) : Settled kw.toList := h.tight.closed

theorem join (hsep : Settled sep) (h : ∀ p ∈ ps, Settled p) : Settled (Text.join sep ps) := by
  induction ps with
  | nil => exact nil
  | cons p ps ih =>
    obtain ⟨hp, hps⟩ := List.forall_mem_cons.1 h
    cases ps with
    | nil => exact hp
    | cons q ps => exact (hp.append hsep).append (ih hps)

end Settled

/-! ## Parts of a text -/

theorem settled_of_isEmpty (h : e.isEmpty = true) : Settled e.chars := by
  rw [isEmpty_iff.1 h]
  exact .nil

/-- What stands in front without quotes does not count. -/
theorem settled_of_span {p : Char → Bool} (hp : p quote = false) (h : Settled (e.span p).2.chars) :
    Settled e.chars := by
  have hfront : Settled (e.chars.takeWhile p) := .plain fun c hc => by
    rintro rfl
    rw [List.mem_takeWhile_imp hc] at hp
    cases hp
  rw [← List.takeWhile_append_dropWhile (p := p) (l := e.chars)]
  exact hfront.append h

theorem settled_of_afterKeyword (hkw : IsKeyword kw) (h : e.afterKeyword? kw = some r) (hr : Settled r.chars) :
    Settled e.chars := by
  obtain ⟨cs, he, -, hcs⟩ := afterKeyword?_chars h
  rw [hcs, settled_trim] at hr
  rw [he]
  exact (Settled.keyword hkw).append hr

theorem settled_of_afterKeywords {kws : List String} (hkws : ∀ kw ∈ kws, IsKeyword kw)
    (h : e.afterKeywords? kws = some r) (hr : Settled r.chars) : Settled e.chars := by
  have hfold (kws : List String) (hkws : ∀ kw ∈ kws, IsKeyword kw) (i : Excerpt)
      (h : kws.foldlM afterKeyword? i = some r) : Settled i.chars := by
    induction kws generalizing i with
    | nil =>
      cases h
      exact hr
    | cons kw kws ih =>
      obtain ⟨hkw, hkws⟩ := List.forall_mem_cons.1 hkws
      rw [List.foldlM_cons] at h
      obtain ⟨j, hj, h⟩ := Option.bind_eq_some_iff.1 h
      exact settled_of_afterKeyword hkw hj (ih hkws j h)
  exact settled_trim.1 (hfold kws hkws e.trim h)

theorem settled_of_token (htoken : Settled e.splitToken.1.chars) (hrest : Settled e.splitToken.2.chars) :
    Settled e.chars := by
  rw [chars_token] at htoken
  rw [chars_afterToken, settled_trim] at hrest
  have h := htoken.append hrest
  rw [List.takeWhile_append_dropWhile] at h
  exact settled_trim.1 h

theorem settled_of_parens (h : e.splitParens = .ok (i, r)) (hi : Settled i.chars) (hr : Settled r.chars) :
    Settled e.chars := by
  obtain ⟨inner, cs, he, -, -, hinner, hcs⟩ := splitParens_chars h
  rw [hinner, settled_trim] at hi
  rw [hcs, settled_trim] at hr
  have hgroup : Settled (['('] ++ (inner ++ ([')'] ++ cs))) := Settled.append rfl (hi.append (Settled.append rfl hr))
  exact settled_trim.1 (he ▸ hgroup)

theorem settled_of_parts (h : ∀ part ∈ e.splitTopLevel ',', Settled part.chars) : Settled e.chars := by
  obtain ⟨-, hj⟩ := pieces_piecesAt {} e.chars
  rw [← hj]
  refine .join rfl fun p hp => ?_
  have hmem : Text.trim p ∈ (e.splitTopLevel ',').map chars := by
    rw [chars_splitTopLevel]
    exact List.mem_map_of_mem hp
  obtain ⟨part, hpart, he⟩ := List.mem_map.1 hmem
  exact settled_trim.1 (he ▸ h part hpart)

theorem settled_of_found (hkw : IsKeyword kw) (h : e.findKeyword? kw = some n) (hfront : Settled (e.take n).chars)
    (hback : Settled (e.drop (n + kw.length)).chars) : Settled e.chars := by
  obtain ⟨r, hr⟩ := Extent.exists_findKeyword? h
  have hdrop : e.chars.drop (n + kw.length) = r := by
    rw [← List.drop_drop, hr, ← String.length_toList, List.drop_left]
  rw [chars_drop, hdrop] at hback
  rw [← List.take_append_drop n e.chars, hr]
  exact hfront.append ((Settled.keyword hkw).append hback)

/-- Every part of a list was read. -/
theorem exists_of_mapM {α β ε : Type} {g : α → Except ε β} {as : List α} {bs : List β} (h : as.mapM g = .ok bs) :
    ∀ a ∈ as, ∃ b, g a = .ok b := by
  have hall := mapM_eq_ok.1 h
  clear h
  induction hall with
  | nil => exact fun _ ha => by cases ha
  | cons hab _ ih =>
    intro a ha
    rcases List.mem_cons.1 ha with rfl | ha
    · exact ⟨_, hab⟩
    · exact ih a ha

theorem settled_of_mapM {β ε : Type} {f : Excerpt → Except ε β} {bs : List β}
    (h : (e.splitTopLevel ',').mapM f = .ok bs) (hf : ∀ x b, f x = .ok b → Settled x.chars) : Settled e.chars := by
  refine settled_of_parts fun part hpart => ?_
  obtain ⟨b, hb⟩ := exists_of_mapM h part hpart
  exact hf part b hb

end Excerpt

/-! ## Names, literals and numbers -/

namespace Parser

variable {e : Excerpt}

theorem name_settled {n : String} (h : name s e = .ok n) : Settled e.chars := by
  obtain ⟨he, hname⟩ := name_eq_ok.1 h
  exact settled_trim.1 (he ▸ hname.tight.closed)

theorem literal_settled {l : Literal} (h : literal e = .ok l) : Settled e.chars := by
  obtain ⟨he, hl⟩ := literal_eq_ok.1 h
  exact settled_trim.1 (he ▸ hl.tight.closed)

theorem settled_of_isName {cs : List Char} (h : Token.isName cs = true) : Settled cs :=
  .plain fun c hc => ne_of_isNameChar ((isName_chars h).2 c hc) (by decide)

theorem settled_of_isNumber {cs : List Char} (h : Token.isNumber cs = true) : Settled cs := by
  refine .plain fun c hc => ?_
  have hdigits := List.all_eq_true.1 (Bool.and_eq_true_iff.1 h).2 c hc
  exact ne_of_isNameChar (isNameChar_of_isDigit hdigits) (by decide)

theorem number_settled {clause : String} {n : Nat} (h : number e clause = .ok n) : Settled e.chars := by
  simp only [number, except_bind_eq_ok, check_eq_ok, exists_const] at h
  exact settled_trim.1 (settled_of_isNumber h.1)

theorem tableName_settled {t : TableName} (h : tableName s e = .ok t) : Settled e.chars := by
  simp only [tableName, except_bind_eq_ok, demand_eq_ok] at h
  obtain ⟨⟨tablespace, table⟩, hparts, -⟩ := h
  refine settled_trim.1 ?_
  rw [← chars_trim]
  unfold Token.tableParts? at hparts
  split at hparts
  · split at hparts
    · next hname => exact settled_of_isName hname
    · cases hparts
  · next a b hcut =>
    split at hparts
    · next hnames =>
      obtain ⟨ha, hb⟩ := Bool.and_eq_true_iff.1 hnames
      rw [cut?_eq_some hcut]
      have hdot : Settled ['.'] := rfl
      exact ((settled_of_isName ha).append hdot).append (settled_of_isName hb)
    · cases hparts

theorem lastTableName_settled {t : TableName} (h : lastTableName s e = .ok t) : Settled e.chars := by
  simp only [lastTableName, except_bind_eq_ok, check_eq_ok, exists_const] at h
  obtain ⟨-, hrest, ht⟩ := h
  exact settled_of_token (tableName_settled ht) (settled_of_isEmpty hrest)

/-! ## Queries and deletions -/

theorem selectItem_settled {i : SelectItem} (h : selectItem s e = .ok i) : Settled e.chars := by
  obtain ⟨hfits, hdelims⟩ := selectItem_fits h
  exact (settled_congr hdelims).1 hfits.tight.closed

theorem condition_settled {c : Condition} (h : condition s e = .ok c) : Settled e.chars := by
  obtain ⟨hfits, hdelims⟩ := condition_fits h
  refine (settled_congr hdelims).1 ?_
  rw [Settled, ← show Level.ground.quoted = false from rfl, ← quoted_run]
  exact hfits.tight rfl

theorem whereClause_settled {cs : List Condition} {r : Excerpt} (h : whereClause s e = .ok (cs, r))
    (hr : Settled r.chars) : Settled e.chars := by
  rw [whereClause] at h
  split at h
  · cases h
    exact hr
  · next after hafter =>
    simp only [except_bind_eq_ok, check_eq_ok, exists_const, stop_eq] at h
    obtain ⟨-, conds, hconds, h⟩ := h
    cases h
    rw [chars_trim, settled_trim, chars_drop] at hr
    refine settled_of_afterKeyword (by decide) hafter ?_
    rw [← List.take_append_drop (stop after) after.chars]
    refine Settled.append (settled_trim.1 ?_) hr
    rw [← chars_take, ← chars_trim, ← join_splitUnquoted _ " AND "]
    have hsep : Settled " AND ".toList := rfl
    refine .join hsep fun p hp => ?_
    obtain ⟨part, hpart, rfl⟩ := List.mem_map.1 hp
    obtain ⟨c, hc⟩ := exists_of_mapM hconds part hpart
    exact settled_trim.1 (condition_settled hc)

theorem numberClause_settled {kw : String} {o : Option Nat} {r : Excerpt} (hkw : IsKeyword kw)
    (h : numberClause e kw = .ok (o, r)) (hr : Settled r.chars) : Settled e.chars := by
  rw [numberClause] at h
  split at h
  · cases h
    exact hr
  · next after hafter =>
    obtain ⟨n, hn, h⟩ := except_bind_eq_ok.1 h
    cases h
    exact settled_of_afterKeyword hkw hafter (settled_of_token (number_settled hn) hr)

theorem selection_settled {sel : Selection} (h : selection s e = .ok sel) : Settled e.chars := by
  simp only [selection, except_bind_eq_ok, check_eq_ok, exists_const, Prod.exists] at h
  obtain ⟨conds, r, hwhere, offset, r₁, hoffset, limit, r₂, hlimit, hend, -⟩ := h
  have hlast := numberClause_settled (by decide) hlimit (settled_of_isEmpty hend)
  exact settled_trim.1 (whereClause_settled hwhere (numberClause_settled (by decide) hoffset hlast))

theorem query_settled {q : Query} (h : query s e = .ok q) : Settled e.chars := by
  simp only [query, except_bind_eq_ok, demand_eq_ok, check_eq_ok, exists_const] at h
  obtain ⟨stop, hstop, -, -, table, htable, items, hitems, sel, hsel, -⟩ := h
  have hlist := settled_of_mapM (selectItems_eq_ok.1 hitems).1 fun _ _ => selectItem_settled
  exact settled_of_found (by decide) hstop (settled_trim.1 hlist)
    (settled_of_token (tableName_settled htable) (selection_settled hsel))

theorem deletion_settled {d : Deletion} (h : deletion s e = .ok d) : Settled e.chars := by
  simp only [deletion, except_bind_eq_ok, demand_eq_ok, check_eq_ok, exists_const] at h
  obtain ⟨rest, hrest, -, table, htable, -, sel, hsel, -⟩ := h
  exact settled_of_afterKeyword (by decide) hrest (settled_of_token (tableName_settled htable) (selection_settled hsel))

/-! ## Statements that write rows -/

theorem settled_newValue {v : NewValue} (h : v.Fits s) : Settled v.text.toList := by
  cases v with
  | literal l => exact h.1.tight.closed
  | call c => exact h.tight.closed

theorem newValue_settled {v : NewValue} (h : newValue s e = .ok v) : Settled e.chars := by
  obtain ⟨hfits, hdelims, -⟩ := newValue_fits h
  exact (settled_congr hdelims).1 (settled_newValue hfits)

theorem assignment_settled {a : Assignment} (h : assignment s e = .ok a) : Settled e.chars := by
  obtain ⟨hfits, hdelims⟩ := assignment_fits h
  rw [Assignment.delimiters_text hfits.column] at hdelims
  exact (settled_congr hdelims).1 (settled_newValue hfits.value)

theorem onDuplicate_settled {d : OnDuplicate} (h : onDuplicate s e = .ok d) : Settled e.chars := by
  rw [onDuplicate] at h
  split at h
  · next hempty => exact settled_of_isEmpty hempty
  · simp only [except_bind_eq_ok, demand_eq_ok] at h
    obtain ⟨clause, hclause, h⟩ := h
    refine settled_of_afterKeywords (by decide) hclause ?_
    split at h
    · next after _ hafter =>
      simp only [except_bind_eq_ok, check_eq_ok, exists_const] at h
      exact settled_of_afterKeyword (by decide) hafter (settled_of_isEmpty h.1)
    · next after _ hafter =>
      obtain ⟨as, has, -⟩ := except_bind_eq_ok.1 h
      simp only [assignments, except_bind_eq_ok] at has
      obtain ⟨-, -, has⟩ := has
      exact settled_of_afterKeyword (by decide) hafter (settled_of_mapM has fun _ _ => assignment_settled)
    · cases h

theorem columnList_settled {ns : List String} {r : Excerpt} (h : columnList s e = .ok (ns, r)) (hr : Settled r.chars) :
    Settled e.chars := by
  rw [columnList] at h
  split at h
  · simp only [except_bind_eq_ok, Prod.exists] at h
    obtain ⟨inner, rest, hparens, names, hnames, h⟩ := h
    cases h
    exact settled_of_parens hparens (settled_of_mapM hnames fun _ _ => name_settled) hr
  · cases h
    exact hr

theorem upsertion_settled {u : Upsertion} (h : upsertion s e = .ok u) : Settled e.chars := by
  simp only [upsertion, except_bind_eq_ok, demand_eq_ok, check_eq_ok, exists_const, Prod.exists] at h
  obtain ⟨rest, hrest, -, table, htable, -, columns, rest', hcolumns, h⟩ := h
  refine settled_of_afterKeyword (by decide) hrest (settled_of_token (tableName_settled htable)
    (columnList_settled hcolumns ?_))
  split at h
  · next behind hbehind =>
    obtain ⟨q, hq, -⟩ := except_bind_eq_ok.1 h
    exact settled_of_afterKeyword (by decide) hbehind (query_settled hq)
  · simp only [except_bind_eq_ok, demand_eq_ok, check_eq_ok, exists_const, Prod.exists] at h
    obtain ⟨behind, hbehind, -, inner, rest'', hparens, vs, hvs, -, d, hd, -⟩ := h
    exact settled_of_afterKeyword (by decide) hbehind
      (settled_of_parens hparens (settled_of_mapM hvs fun _ _ => newValue_settled) (onDuplicate_settled hd))

/-! ## Table definitions -/

theorem comment_settled {note : String} (h : comment s e = .ok note) : Settled e.chars := by
  obtain ⟨l, hl, -⟩ := except_bind_eq_ok.1 h
  exact literal_settled hl

end Parser

namespace Token

variable {e r : Excerpt}

theorem settled_of_afterBlanks (h : afterBlanks? e = some r) (hr : Settled r.chars) : Settled e.chars := by
  unfold afterBlanks? at h
  dsimp only at h
  split at h
  · cases h
  · cases h
    exact settled_of_span (by decide) hr

theorem settled_of_after {word : String} (hword : Settled word.toList) (h : after? word e = some r)
    (hr : Settled r.chars) : Settled e.chars := by
  unfold after? at h
  split at h
  · next hs =>
    obtain ⟨cs, hcs⟩ := Option.isSome_iff_exists.1 hs
    have he := stripStart?_eq_some.1 hcs
    cases h
    rw [chars_drop, he, ← String.length_toList, List.drop_left] at hr
    rw [he]
    exact hword.append hr
  · cases h

theorem settled_of_number {digits : Excerpt} (h : number? e = some (digits, r)) (hr : Settled r.chars) :
    Settled e.chars := by
  unfold number? at h
  dsimp only at h
  split at h
  · cases h
  · cases h
    exact settled_of_span (by decide) hr

theorem settled_skipBlanks (h : Settled (skipBlanks e).chars) : Settled e.chars := settled_of_span (by decide) h

theorem settled_of_size {length : Excerpt} {scale : Option Excerpt} (h : size? e = some (length, scale, r))
    (hr : Settled r.chars) : Settled e.chars := by
  unfold size? at h
  obtain ⟨e₁, h1, h⟩ := Option.bind_eq_some_iff.1 h
  obtain ⟨⟨n, e₂⟩, h2, h⟩ := Option.bind_eq_some_iff.1 h
  refine settled_skipBlanks (settled_of_after (by decide) h1 (settled_skipBlanks ?_))
  refine settled_of_number h2 (settled_skipBlanks ?_)
  dsimp only at h
  split at h
  · next e₃ h3 =>
    cases h
    exact settled_of_after (by decide) h3 hr
  · obtain ⟨e₃, h3, h⟩ := Option.bind_eq_some_iff.1 h
    obtain ⟨⟨k, e₄⟩, h4, h⟩ := Option.bind_eq_some_iff.1 h
    obtain ⟨e₅, h5, h⟩ := Option.bind_eq_some_iff.1 h
    cases h
    have hscale := settled_of_number h4 (settled_skipBlanks (settled_of_after (by decide) h5 hr))
    exact settled_of_after (by decide) h3 (settled_skipBlanks hscale)

theorem settled_of_notNull (h : notNull? e = some r) (hr : Settled r.chars) : Settled e.chars := by
  unfold notNull? at h
  obtain ⟨e₁, h1, h⟩ := Option.bind_eq_some_iff.1 h
  obtain ⟨e₂, h2, h⟩ := Option.bind_eq_some_iff.1 h
  obtain ⟨e₃, h3, h⟩ := Option.bind_eq_some_iff.1 h
  have hnull := settled_of_afterBlanks h3 (settled_of_after (by decide) h hr)
  exact settled_of_afterBlanks h1 (settled_of_after (by decide) h2 hnull)

theorem settled_of_comment (h : comment? e = some r) (hr : Settled r.chars) : Settled e.chars := by
  unfold comment? at h
  obtain ⟨e₁, h1, h⟩ := Option.bind_eq_some_iff.1 h
  obtain ⟨e₂, h2, h⟩ := Option.bind_eq_some_iff.1 h
  obtain ⟨e₃, h3, h⟩ := Option.bind_eq_some_iff.1 h
  obtain ⟨e₄, -, h⟩ := Option.bind_eq_some_iff.1 h
  split at h
  · cases h
    exact settled_of_afterBlanks h1 (settled_of_after (by decide) h2 (settled_of_afterBlanks h3 hr))
  · cases h

/-- The parts of a column definition have no quotes, its comment apart. -/
theorem settled_of_column {shape : ColumnShape} (h : column? e = some shape)
    (hnote : ∀ note ∈ shape.comment, Settled note.chars) : Settled e.chars := by
  unfold column? at h
  obtain ⟨e₁, h1, h⟩ := Option.bind_eq_some_iff.1 h
  dsimp only at h
  split at h
  · cases h
  · refine settled_of_span (p := isNameChar) (by decide) (settled_of_afterBlanks h1
      (settled_of_span (p := fun c => isCapital c || isDigit c) (by decide) ?_))
    -- What stands behind the size and the words `NOT NULL` is empty, or the comment.
    have hend {rest type : Excerpt} {length scale : Option Excerpt} {notNull : Bool}
        (h : (if rest.isEmpty = true then pure ⟨(e.span isNameChar).1, type, length, scale, notNull, none⟩ else do
          return ⟨(e.span isNameChar).1, type, length, scale, notNull, some (← comment? rest)⟩ : Option ColumnShape) =
            some shape) : Settled rest.chars := by
      split at h
      · next hempty => exact settled_of_isEmpty hempty
      · obtain ⟨note, h2, h⟩ := Option.bind_eq_some_iff.1 h
        cases h
        exact settled_of_comment h2 (hnote note rfl)
    have hwords {rest : Excerpt} (hnone : notNull? rest = none → Settled rest.chars)
        (hsome : ∀ behind, notNull? rest = some behind → Settled behind.chars) : Settled rest.chars := by
      cases hnull : notNull? rest with
      | none => exact hnone hnull
      | some behind => exact settled_of_notNull hnull (hsome behind hnull)
    cases hsize : size? (e₁.span fun c => isCapital c || isDigit c).2 with
    | none =>
      rw [hsize] at h
      refine hwords (fun hnull => ?_) fun behind hnull => ?_
      · rw [hnull] at h
        exact hend h
      · rw [hnull] at h
        exact hend h
    | some sized =>
      obtain ⟨length, scale, behind⟩ := sized
      rw [hsize] at h
      refine settled_of_size hsize (hwords (fun hnull => ?_) fun behind hnull => ?_)
      · rw [hnull] at h
        exact hend h
      · rw [hnull] at h
        exact hend h

end Token

namespace Parser

variable {e : Excerpt}

theorem columnDef_settled {c : ColumnDef} (h : columnDef s e = .ok c) : Settled e.chars := by
  simp only [columnDef, except_bind_eq_ok, demand_eq_ok] at h
  obtain ⟨shape, hshape, -, -, -, -, -, -, -, -, note, hnote, -⟩ := h
  refine Token.settled_of_column hshape fun x hx => ?_
  rw [Option.mem_def.1 hx] at hnote
  obtain ⟨t, ht, -⟩ := except_map_eq_ok.1 (show (comment s x).map some = .ok note from hnote)
  exact comment_settled ht

theorem rowKey_settled {ns : List String} (h : rowKey s e = .ok ns) : Settled e.chars := by
  simp only [rowKey, except_bind_eq_ok, check_eq_ok, exists_const, Prod.exists] at h
  obtain ⟨inner, rest, hparens, hend, hnames⟩ := h
  exact settled_of_parens hparens (settled_of_mapM hnames fun _ _ => name_settled) (settled_of_isEmpty hend)

theorem definitions_settled {body : Excerpt} {key key' : Option (List String)} {parts : List Excerpt}
    {cs : List ColumnDef} (h : definitions s body key parts = .ok (cs, key')) : ∀ part ∈ parts, Settled part.chars := by
  induction parts generalizing key key' cs with
  | nil => exact fun _ hp => by cases hp
  | cons part parts ih =>
    rw [definitions] at h
    obtain ⟨-, h⟩ := check_bind_eq_ok h
    refine List.forall_mem_cons.2 ?_
    split at h
    · next keys hkeys =>
      obtain ⟨-, h⟩ := check_bind_eq_ok h
      obtain ⟨names, hnames, h⟩ := except_bind_eq_ok.1 h
      exact ⟨settled_of_afterKeyword (by decide) hkeys (rowKey_settled hnames), ih h⟩
    · obtain ⟨c, hc, h⟩ := except_bind_eq_ok.1 h
      obtain ⟨⟨rest, key₁⟩, hrest, -⟩ := except_bind_eq_ok.1 h
      exact ⟨columnDef_settled hc, ih hrest⟩

theorem tableComment_settled {note : Option String} (h : tableComment s e = .ok note) : Settled e.chars := by
  rw [tableComment] at h
  split at h
  · next hempty => exact settled_of_isEmpty hempty
  · simp only [except_bind_eq_ok, demand_eq_ok] at h
    obtain ⟨rest, hrest, t, ht, -⟩ := h
    exact settled_of_afterKeyword (by decide) hrest (comment_settled ht)

theorem tableDef_settled {t : TableDef} (h : tableDef s e = .ok t) : Settled e.chars := by
  simp only [tableDef, except_bind_eq_ok, demand_eq_ok, check_eq_ok, exists_const, Prod.exists] at h
  obtain ⟨rest, hrest, -, table, htable, -, body, last, hparens, note, hnote, columns, key, hdefs, -⟩ := h
  have hbehind := settled_of_token (tableName_settled htable)
    (settled_of_parens hparens (settled_of_parts (definitions_settled hdefs)) (tableComment_settled hnote))
  refine settled_of_afterKeyword (by decide) hrest ?_
  cases hunless : rest.afterKeywords? ["IF", "NOT", "EXISTS"] with
  | none => rwa [hunless] at hbehind
  | some behind =>
    rw [hunless] at hbehind
    exact settled_of_afterKeywords (by decide) hunless hbehind

/-! ## Statements of a session -/

theorem dropping_settled {st : Statement} (h : dropping s e = .ok st) : Settled e.chars := by
  simp only [dropping, except_bind_eq_ok, demand_eq_ok] at h
  obtain ⟨rest, hrest, t, ht, -⟩ := h
  exact settled_of_afterKeyword (by decide) hrest (lastTableName_settled ht)

theorem showing_settled {st : Statement} (h : showing s e = .ok st) : Settled e.chars := by
  rw [showing] at h
  split at h
  · next rest hrest =>
    obtain ⟨hend, -⟩ := check_bind_eq_ok h
    exact settled_of_afterKeyword (by decide) hrest (settled_of_isEmpty hend)
  · next rest _ hrest =>
    obtain ⟨-, h⟩ := check_bind_eq_ok h
    obtain ⟨n, hn, -⟩ := except_bind_eq_ok.1 h
    exact settled_of_afterKeyword (by decide) hrest (name_settled hn)
  · cases h

theorem infoNode_settled {node : Option Nat} (h : infoNode e = .ok node) : Settled e.chars := by
  unfold infoNode at h
  dsimp only at h
  split at h
  · next hnumber =>
    simp only [infoEnd, except_bind_eq_ok, check_eq_ok, exists_const] at h
    obtain ⟨-, -, hend, -⟩ := h
    exact settled_of_token (settled_of_isNumber hnumber) (settled_of_isEmpty hend)
  · simp only [infoEnd, except_bind_eq_ok, check_eq_ok, exists_const] at h
    exact settled_of_isEmpty h.1

theorem info_settled {st : Statement} (h : info e = .ok st) : Settled e.chars := by
  unfold info at h
  dsimp only at h
  refine settled_trim.1 ?_
  rw [← chars_trim]
  split at h
  · next hsection =>
    obtain ⟨node, hnode, -⟩ := except_bind_eq_ok.1 h
    have hletters := List.all_eq_true.1 (Bool.and_eq_true_iff.1 hsection).2
    refine settled_of_token (.plain fun c hc => ?_) (infoNode_settled hnode)
    rintro rfl
    exact absurd (hletters _ hc) (by decide)
  · obtain ⟨node, hnode, -⟩ := except_bind_eq_ok.1 h
    exact infoNode_settled hnode

theorem verbose_settled {st : Statement} (h : verbose e = .ok st) : Settled e.chars := by
  rw [verbose] at h
  split at h
  · next hon => rw [text_eq_iff.1 hon]; rfl
  · split at h
    · next hoff => rw [text_eq_iff.1 hoff]; rfl
    · cases h

theorem delimiter_settled {st : Statement} (h : delimiter e = .ok st) : Settled e.chars := by
  obtain ⟨l, hl, -⟩ := except_bind_eq_ok.1 h
  exact literal_settled hl

/-! ## Statements -/

theorem readers_settled {reader : String × (Excerpt → Read Statement)} {st : Statement} (hin : reader ∈ readers s)
    (h : reader.2 e = .ok st) : Settled e.chars := by
  unfold readers at hin
  simp only [List.mem_cons, List.not_mem_nil, or_false] at hin
  rcases hin with rfl | rfl | rfl | rfl | rfl | rfl | rfl | rfl | rfl | rfl
  · obtain ⟨q, hq, -⟩ := except_map_eq_ok.1 h
    exact query_settled hq
  · obtain ⟨d, hd, -⟩ := except_map_eq_ok.1 h
    exact deletion_settled hd
  · obtain ⟨u, hu, -⟩ := except_map_eq_ok.1 h
    exact upsertion_settled hu
  · obtain ⟨t, ht, -⟩ := except_map_eq_ok.1 h
    exact tableDef_settled ht
  · obtain ⟨t, ht, -⟩ := except_map_eq_ok.1 h
    exact lastTableName_settled ht
  · exact dropping_settled h
  · exact showing_settled h
  · exact info_settled h
  · exact verbose_settled h
  · exact delimiter_settled h

theorem settled_of_body {input : String} (h : Settled (body input).chars) : Settled input.toList := by
  unfold body at h
  dsimp only at h
  refine settled_trim.1 ?_
  split at h
  · next hlast =>
    obtain ⟨cs, hcs⟩ := List.getLast?_eq_some_iff.1 hlast
    rw [chars_trim, settled_trim, chars_take, hcs, List.length_append, List.length_singleton, Nat.add_sub_cancel,
      List.take_left] at h
    have hend : Settled [';'] := rfl
    have hwhole : Text.trim input.toList = cs ++ [';'] := hcs
    rw [hwhole]
    exact h.append hend
  · exact h

/-- A statement that is read closes its quotes. -/
theorem parse_settled {input : String} {st : Statement} (h : parse s input = .ok st) : Settled input.toList := by
  unfold parse at h
  dsimp only at h
  split at h
  · cases h
  · obtain ⟨reader, hin, rest, hrest, hread⟩ := readWith_eq_ok h
    have hkw := (readers_keywords s).1 reader hin
    exact settled_of_body (settled_of_afterKeyword hkw hrest (readers_settled hin hread))

end Parser
end SlotSql
