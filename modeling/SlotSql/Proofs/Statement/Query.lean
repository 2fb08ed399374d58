import SlotSql.Proofs.Statement.Clause
/-!
# Queries and deletions that are read back

The list of a query ends at the first `FROM` that stands between blanks outside quotes and parentheses. An item is
no such word, and parentheses that are open behind the list would have hidden the keyword when it was read.

Results:
* `selectItem_fits`, `selectItem_written`: items are read back.
* `query_fits`, `query_written`: queries are read back just if no literal of a condition reads like a keyword.
* `deletion_fits`, `deletion_written`: so are deletions.
-/
namespace SlotSql

open Text Excerpt

variable {s : Settings}

/-! ## Calls -/

namespace Call

variable {c : Call}

theorem Fits.tight_inner (h : c.Fits s) : Tight c.inner := by
  unfold inner
  cases ha : c.argument with
  | none => exact ⟨trivial, rfl⟩
  | some a =>
    have hfits := h.argument a ha
    cases a with
    | column n => exact IsName.tight hfits
    | literal l => exact hfits.1.tight

theorem Fits.tight (h : c.Fits s) : Tight c.text.toList := by
  obtain ⟨-, hcap⟩ := isCapital_name c.function
  have hname : Tight c.function.name.toList := IsKeyword.tight ⟨(isCapital_name c.function).1, hcap⟩
  have hopen : Tight ['('] := .all (by decide)
  have hclose : Tight [')'] := .all (by decide)
  rw [toList_text]
  exact hname.append (hopen.append (h.tight_inner.append hclose))

/-- What a call was read from has its delimiters. -/
theorem delimiters_text {inner : List Char} (h : Text.trim inner = c.inner) :
    delimiters c.text.toList = delimiters (c.function.name.toList ++ '(' :: (inner ++ [')'])) := by
  have hinner : delimiters c.inner = delimiters inner := by rw [← h, delimiters_trim]
  simp only [toList_text, delimiters, List.filter_cons, List.filter_append] at hinner ⊢
  rw [hinner]

end Call

/-! ## Items -/

/-- An item that is read back. -/
def SelectItem.Fits (s : Settings) : SelectItem → Prop
  | .all | .count => True
  | .column n => IsName s n
  | .call c => c.Fits s

namespace SelectItem

variable {i : SelectItem} {kw : String}

theorem Fits.solid (h : i.Fits s) : Solid i.text.toList := by
  cases i with
  | all => exact .all (by decide) (by decide)
  | column n => exact IsName.solid h
  | count => exact .all (by decide) (by decide)
  | call c => exact c.isCall_text.solid

theorem Fits.tight (h : i.Fits s) : Tight i.text.toList := by
  cases i with
  | all => exact .all (by decide)
  | column n => exact IsName.tight h
  | count => exact .all (by decide)
  | call c => exact Call.Fits.tight h

/-- No item begins with the word behind the list. -/
theorem Fits.frontWord_ne (h : i.Fits s) (cs : List Char) : frontWord (i.text.toList ++ cs) ≠ "FROM".toList := by
  intro hf
  obtain ⟨t, ht⟩ := head_of_frontWord hf
  have hstar : '*' ≠ 'F' := by decide
  have hcount : 'C' ≠ 'F' := by decide
  cases i with
  | all => exact hstar (List.cons.inj ht).1
  | column n => exact IsName.frontWord_ne h (by decide) cs hf
  | count => exact hcount (List.cons.inj ht).1
  | call c =>
    have hnow : 'N' ≠ 'F' := by decide
    have hto : 'T' ≠ 'F' := by decide
    change c.text.toList ++ cs = 'F' :: t at ht
    rw [Call.toList_text, List.append_assoc] at ht
    cases hfun : c.function <;> rw [hfun] at ht <;>
      first
      | exact hnow (List.cons.inj ht).1
      | exact hto (List.cons.inj ht).1

end SelectItem

namespace Parser

variable {e : Excerpt} {i : SelectItem}

theorem isCount_chars {cs : List Char} (h : Token.isCount cs = true) :
    ∃ inner, cs = "COUNT(".toList ++ (inner ++ [')']) ∧ Text.trim inner = ['*'] := by
  rw [Token.isCount] at h
  split at h
  · next inner hinner =>
    obtain ⟨r, hr, hend⟩ := Option.bind_eq_some_iff.1 hinner
    exact ⟨inner, by rw [stripStart?_eq_some.1 hr, stripEnd?_eq_some.1 hend], by simpa using h⟩
  · cases h

theorem selectItem_fits (h : selectItem s e = .ok i) : i.Fits s ∧ delimiters i.text.toList = delimiters e.chars := by
  simp only [selectItem, except_bind_eq_ok] at h
  obtain ⟨-, -, h⟩ := h
  split at h
  · next hall =>
    cases h
    exact ⟨trivial, by rw [hall]; rfl⟩
  · split at h
    · next hcount =>
      cases h
      obtain ⟨inner, he, hinner⟩ := isCount_chars hcount
      refine ⟨trivial, ?_⟩
      have hnone : delimiters inner = [] := by rw [← delimiters_trim, hinner]; rfl
      rw [he, delimiters_append, delimiters_append, hnone]
      rfl
    · obtain ⟨o, ho, h⟩ := except_bind_eq_ok.1 h
      cases o with
      | some c =>
        cases h
        obtain ⟨hfits, inner, he, hinner⟩ := call?_fits ho
        exact ⟨hfits, by rw [← delimiters_trim e.chars, he, ← Call.delimiters_text hinner]; rfl⟩
      | none =>
        obtain ⟨n, hn, h⟩ := except_bind_eq_ok.1 h
        cases h
        obtain ⟨hc, hname⟩ := name_eq_ok.1 hn
        exact ⟨hname, by rw [← delimiters_trim e.chars, hc]; rfl⟩

theorem selectItem_written (hi : i.Fits s) (h : e.chars = i.text.toList) : selectItem s e = .ok i := by
  simp only [selectItem, except_bind_eq_ok, check_eq_ok, exists_const]
  refine ⟨not_isEmpty (by rw [h]; exact hi.solid.ne_nil), ?_⟩
  cases i with
  | all =>
    rw [if_pos (show e.chars = ['*'] from h)]
    rfl
  | count =>
    have hstar : e.chars ≠ ['*'] := by rw [h]; decide
    rw [if_neg hstar, if_pos (by rw [h]; decide)]
    rfl
  | column n =>
    have hname : IsName s n := hi
    have hchars : e.chars = n.toList := h
    have hletters : ∀ c ∈ e.chars, Token.isNameChar c = true := by rw [hchars]; exact hname.chars
    have hstar : e.chars ≠ ['*'] := fun he => absurd (hletters '*' (by rw [he]; simp)) (by decide)
    have hcount : ¬ Token.isCount e.chars = true := fun hc => by
      obtain ⟨inner, he, -⟩ := isCount_chars hc
      exact absurd (hletters '(' (by rw [he]; simp)) (by decide)
    have hcall : ¬ IsCall (Text.trim e.chars) := fun hc => by
      obtain ⟨m, inner, -, -, he⟩ := hc
      rw [hchars, hname.solid.trim] at he
      exact absurd (hname.chars '(' (by rw [he]; simp)) (by decide)
    rw [if_neg hstar, if_neg hcount, except_bind_eq_ok]
    exact ⟨none, call?_eq_none hcall, except_bind_eq_ok.2 ⟨n, name_written hname hchars, rfl⟩⟩
  | call c =>
    have hchars : e.chars = c.function.name.toList ++ '(' :: (c.inner ++ [')']) := h.trans c.toList_text
    have hstar : e.chars ≠ ['*'] := fun he => by
      have hopen : '(' ∈ e.chars := by rw [hchars]; simp
      rw [he] at hopen
      exact absurd hopen (by decide)
    have hcount : ¬ Token.isCount e.chars = true := fun hc => by
      obtain ⟨inner, he, -⟩ := isCount_chars hc
      rw [hchars] at he
      have hnow : 'N' ≠ 'C' := by decide
      have hto : 'T' ≠ 'C' := by decide
      cases hfun : c.function <;> rw [hfun] at he <;>
        first
        | exact hnow (List.cons.inj he).1
        | exact hto (List.cons.inj he).1
    rw [if_neg hstar, if_neg hcount, except_bind_eq_ok]
    exact ⟨some c, call?_written hi h, rfl⟩

end Parser

/-! ## Queries -/

/-- The list of a query as it is written. -/
def Query.itemChars (q : Query) : List Char := join comma.toList (q.items.map (·.text.toList))

/-- A query that is read back. -/
structure Query.Fits (s : Settings) (q : Query) : Prop where
  items : ∀ i ∈ q.items, i.Fits s
  pieces : Level.Pieces .ground (q.items.map (·.text.toList))
  closed : Level.ground.run q.itemChars = .ground
  alone : q.items.length ≤ 1 ∨ SelectItem.all ∉ q.items
  table : q.table.Fits s
  selection : q.selection.Fits s
  dual : q.table.isDual = true → q.items.all Parser.needsNoRow = true ∧ q.selection.conditions = []

namespace Query

variable {q : Query}

theorem toList_text (q : Query) : q.text.toList =
    q.itemChars ++ ' ' :: ("FROM".toList ++ ' ' :: (q.table.written.toList ++ q.selection.text.toList)) := by
  simp only [text, String.toList_append, toList_joinText, List.map_map, List.append_assoc]
  rfl

theorem Fits.items_ne_nil (h : q.Fits s) : q.items ≠ [] := by
  intro hnil
  have := h.pieces
  rw [hnil] at this
  exact this

theorem Fits.solid_itemChars (h : q.Fits s) : Solid q.itemChars := by
  refine .join (by simpa using h.items_ne_nil) fun p hp => ?_
  obtain ⟨i, hi, rfl⟩ := List.mem_map.1 hp
  exact (h.items i hi).solid

theorem Fits.solid (h : q.Fits s) : Solid q.text.toList := by
  have hfrom : Solid "FROM".toList := IsKeyword.solid (by decide)
  have htail : Solid (q.table.written.toList ++ q.selection.text.toList) :=
    h.table.solid.trailing h.selection.trailing_text
  rw [toList_text]
  simpa using h.solid_itemChars.around (' ' :: ("FROM".toList ++ [' '])) htail

/-- The search for the word behind the list passes over it. -/
theorem Fits.skips (h : q.Fits s) : Skips "FROM" .ground q.itemChars := by
  have hne := h.items_ne_nil
  have hall := h.items
  have hl : Level.ground.quoted = false := rfl
  unfold itemChars
  generalize q.items = is, Level.ground = l at hne hall hl
  induction is generalizing l with
  | nil => exact absurd rfl hne
  | cons i is ih =>
    obtain ⟨hi, hrest⟩ := List.forall_mem_cons.1 hall
    cases is with
    | nil =>
      have hlast := hi.frontWord_ne []
      rw [List.append_nil] at hlast
      exact .word (by decide) hi.tight hl fun _ => hlast
    | cons j is =>
      have hcomma : Tight [','] := .all (by decide)
      have htight := hi.tight.append hcomma
      have hword : Skips "FROM" l (i.text.toList ++ [',']) := .word (by decide) htight hl fun _ => hi.frontWord_ne _
      simpa [join, comma] using hword.append (by decide) (ih _ (by simp) hrest (htight.run hl))

end Query

namespace Parser

variable {e : Excerpt} {q : Query}

theorem selectItems_eq_ok {is : List SelectItem} : selectItems s e = .ok is ↔
    (e.splitTopLevel ',').mapM (selectItem s) = .ok is ∧ (is.length ≤ 1 ∨ SelectItem.all ∉ is) := by
  simp only [selectItems, except_bind_eq_ok, check_eq_ok, exists_const]
  constructor
  · rintro ⟨is', hread, hall, h⟩
    cases h
    exact ⟨hread, by simpa using hall⟩
  · rintro ⟨hread, hall⟩
    exact ⟨is, hread, by simpa using hall, rfl⟩

theorem query_fits (h : query s e = .ok q) : q.Fits s := by
  simp only [query, except_bind_eq_ok, demand_eq_ok, check_eq_ok, exists_const] at h
  obtain ⟨stop, hstop, -, -, table, htable, items, hitems, sel, hsel, h⟩ := h
  obtain ⟨hread, halone⟩ := selectItems_eq_ok.1 hitems
  obtain ⟨hpieces, hdelims⟩ := delimiters_of_mapM (fun i => i.text.toList) hread fun x i hx => (selectItem_fits hx).2
  have hfits : ∀ i ∈ items, i.Fits s := fun i hi => by
    obtain ⟨x, -, hx⟩ := mem_of_mapM hread i hi
    exact (selectItem_fits hx).1
  have hclosed : Level.ground.run (join comma.toList (items.map (·.text.toList))) = .ground := by
    rw [Level.run_congr hdelims, chars_trim, Level.run_congr (delimiters_trim _)]
    exact level_of_findKeyword hstop
  have hq : q = ⟨items, table, sel⟩ ∧
      (table.isDual = true → items.all needsNoRow = true ∧ sel.conditions = []) := by
    split at h
    · simp only [except_bind_eq_ok, check_eq_ok, exists_const] at h
      obtain ⟨hall, hnone, h⟩ := h
      cases h
      exact ⟨rfl, fun _ => ⟨hall, List.isEmpty_iff.1 hnone⟩⟩
    · next hdual =>
      cases h
      exact ⟨rfl, fun hd => absurd hd hdual⟩
  obtain ⟨rfl, hdual⟩ := hq
  exact ⟨hfits, hpieces, hclosed, halone, tableName_fits htable, selection_fits hsel, hdual⟩

/-- The list, the table and the end of a query are found again. -/
theorem query_parts (hq : q.Fits s) (h : e.chars = q.text.toList) :
    e.findKeyword? "FROM" = some (q.itemChars.length + 1) ∧
      (e.take (q.itemChars.length + 1)).trim.chars = q.itemChars ∧
        (e.drop (q.itemChars.length + 1 + "FROM".length)).splitToken.1.chars = q.table.written.toList ∧
          (e.drop (q.itemChars.length + 1 + "FROM".length)).splitToken.2.chars = Text.trim q.selection.text.toList := by
  rw [Query.toList_text] at h
  have hselection := hq.selection.trailing_text
  have htail : Solid (q.table.written.toList ++ q.selection.text.toList) := hq.table.solid.trailing hselection
  have hbehind : Text.trim (e.drop (q.itemChars.length + 1 + "FROM".length)).chars =
      q.table.written.toList ++ q.selection.text.toList := by
    have hdrop : (e.drop (q.itemChars.length + 1 + "FROM".length)).chars =
        ' ' :: (q.table.written.toList ++ q.selection.text.toList) := by
      rw [chars_drop, h, Nat.add_assoc, List.drop_length_add_append]
      rfl
    rw [hdrop, htail.blank_trim]
  refine ⟨?_, ?_, splitToken_table hq.table hselection hbehind⟩
  · rw [findKeyword?, h]
    refine hq.skips.find_here (by decide) hq.closed ?_
    rw [frontWord_append (IsKeyword.endsWord (by decide))]
    rfl
  · rw [chars_trim, chars_take, h, List.take_length_add_append]
    exact (trim_append_blanks _ (by simp [isBlank])).trans hq.solid_itemChars.trim

/-- A query is read back just if no literal of a condition reads like a keyword. -/
theorem query_written (hq : q.Fits s) (h : e.chars = q.text.toList) : query s e = .ok q ↔ q.selection.Plain := by
  obtain ⟨hstop, hlist, htoken, hrest⟩ := query_parts hq h
  have hitems : selectItems s (e.take (q.itemChars.length + 1)).trim = .ok q.items :=
    selectItems_eq_ok.2 ⟨mapM_written hq.pieces hlist (fun i hi => (hq.items i hi).solid.trim)
      fun i hi x hx => selectItem_written (hq.items i hi) hx, hq.alone⟩
  have hsel := selection_written hq.selection hrest
  simp only [query, except_bind_eq_ok, demand_eq_ok, check_eq_ok, exists_const]
  constructor
  · rintro ⟨stop, hfound, -, -, table, -, items, -, sel, hread, hend⟩
    obtain rfl : q.itemChars.length + 1 = stop := Option.some.inj (hstop.symm.trans hfound)
    have hsame : sel = q.selection := by
      split at hend
      · simp only [except_bind_eq_ok] at hend
        obtain ⟨-, -, -, -, hend⟩ := hend
        exact congrArg Query.selection (Except.ok.inj hend)
      · exact congrArg Query.selection (Except.ok.inj hend)
    exact hsel.1 (hsame ▸ hread)
  · intro hp
    refine ⟨_, hstop, not_isEmpty (by rw [hlist]; exact hq.solid_itemChars.ne_nil),
      not_isEmpty (by rw [htoken]; exact hq.table.ne_nil), q.table, tableName_written hq.table htoken, q.items, hitems,
      q.selection, hsel.2 hp, ?_⟩
    split
    · next hdual =>
      obtain ⟨hall, hnone⟩ := hq.dual hdual
      simp only [except_bind_eq_ok, check_eq_ok, exists_const]
      exact ⟨hall, List.isEmpty_iff.2 hnone, rfl⟩
    · rfl

end Parser

/-! ## Deletions -/

/-- A deletion that is read back. -/
structure Deletion.Fits (s : Settings) (d : Deletion) : Prop where
  table : d.table.Fits s
  proper : d.table.isDual = false
  selection : d.selection.Fits s

namespace Deletion

variable {d : Deletion}

theorem toList_text (d : Deletion) :
    d.text.toList = "FROM".toList ++ ' ' :: (d.table.written.toList ++ d.selection.text.toList) := by
  simp [text]

theorem Fits.solid (h : d.Fits s) : Solid d.text.toList := by
  have hfrom : Solid "FROM".toList := IsKeyword.solid (by decide)
  rw [toList_text]
  exact hfrom.trailing (.inr ⟨_, rfl, h.table.solid.trailing h.selection.trailing_text⟩)

end Deletion

namespace Parser

variable {e : Excerpt} {d : Deletion}

theorem deletion_fits (h : deletion s e = .ok d) : d.Fits s := by
  simp only [deletion, except_bind_eq_ok, demand_eq_ok, check_eq_ok, exists_const] at h
  obtain ⟨rest, -, -, table, htable, hdual, sel, hsel, h⟩ := h
  cases h
  exact ⟨tableName_fits htable, by simpa using hdual, selection_fits hsel⟩

/-- A deletion is read back just if no literal of a condition reads like a keyword. -/
theorem deletion_written (hd : d.Fits s) (h : e.chars = d.text.toList) : deletion s e = .ok d ↔ d.selection.Plain := by
  have hselection := hd.selection.trailing_text
  obtain ⟨rest, hfrom, hrest⟩ := afterKeyword?_written (by decide) (h.trans d.toList_text) (wordEnds_blank _)
  obtain ⟨htoken, hbehind⟩ := splitToken_table hd.table hselection
    (by rw [hrest, trim_trim, (hd.table.solid.trailing hselection).blank_trim])
  have hsel := selection_written hd.selection hbehind
  simp only [deletion, except_bind_eq_ok, demand_eq_ok, check_eq_ok, exists_const]
  constructor
  · rintro ⟨r, hr, -, table, -, -, sel, hread, hend⟩
    obtain rfl : rest = r := Option.some.inj (hfrom.symm.trans hr)
    cases hend
    exact hsel.1 hread
  · intro hp
    exact ⟨rest, hfrom, not_isEmpty (by rw [htoken]; exact hd.table.ne_nil), d.table, tableName_written hd.table htoken,
      by simp [hd.proper], d.selection, hsel.2 hp, rfl⟩

end Parser
end SlotSql
