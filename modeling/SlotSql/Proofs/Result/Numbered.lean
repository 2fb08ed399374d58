import Mathlib.Data.List.Nodup
import SlotSql.Proofs.Store.Command
import SlotSql.Result.Numbered
/-!
# Numbered rows as a list

Numbered rows are a list of rows with distinct keys, in the order of their insertion, whatever has been done to them
before. The numbers rise along this list and stay below the next one, so that sorting by them gives the list back, in
whatever order the map hands its entries out.

Results:
* `Lists`: the list with numbers that numbered rows stand for.
* `Lists.insert`, `Lists.erase`, `Lists.write`, `Lists.visit`: what an operation does to this list.
* `run_listed`: after any requests, numbered rows act as a list, and they answer as the plain list of rows does.
-/
namespace SlotSql

variable {γ : Type}

/-- What is in a map, as members of its entries. -/
theorem KeyMap.mem_entries_iff {α : Type} {m : KeyMap α} {k : String} {v : α} :
    (k, v) ∈ m.entries ↔ m.get? k = some v := by
  have h (es : List (String × α)) (hn : (es.map Prod.fst).Nodup) : (k, v) ∈ es ↔ es.lookup k = some v := by
    induction es with
    | nil => simp
    | cons e es ih =>
      simp only [List.map_cons, List.nodup_cons, List.mem_map, not_exists, not_and] at hn
      rw [lookup_cons_if, List.mem_cons, ih hn.2]
      by_cases hk : k = e.1
      · have hno : es.lookup k ≠ some v := fun he => hn.1 (k, v) ((ih hn.2).2 he) hk
        simp [hk, Prod.ext_iff, eq_comm] at hno ⊢
        intro he
        exact absurd he hno
      · simp [hk, Prod.ext_iff]
  exact h m.entries m.keys_nodup

/-! ## Rows that are written -/

namespace RowOf

variable {r : RowOf γ} {i : Nat} {c : Option γ}

@[simp] theorem key_set : (r.set i c).key = r.key := rfl

@[simp] theorem length_set : (r.set i c).cells.length = r.cells.length := by simp [set]

@[simp] theorem key_resize (width : Nat) : (r.resize width).key = r.key := rfl

/-- Cells that a row keeps are those that it had. -/
theorem cell?_resize {width : Nat} (hi : i < width) : (r.resize width).cell? i = r.cell? i := by
  unfold cell? resize
  by_cases h : i < r.cells.length
  · rw [List.getElem?_append_left (by simp; omega), List.getElem?_take_of_lt hi]
  · rw [List.getElem?_append_right (by simp; omega), List.getElem?_eq_none (by omega : r.cells.length ≤ i)]
    rw [List.getElem?_replicate]
    split <;> rfl

@[simp] theorem key_write (cells : List (Nat × Option γ)) : (r.write cells).key = r.key := by
  unfold write
  induction cells generalizing r with
  | nil => rfl
  | cons w ws ih => rw [List.foldl_cons, ih, key_set]

@[simp] theorem length_write (cells : List (Nat × Option γ)) : (r.write cells).cells.length = r.cells.length := by
  unfold write
  induction cells generalizing r with
  | nil => rfl
  | cons w ws ih => rw [List.foldl_cons, ih, length_set]

end RowOf

namespace NumberedRows

open RowsOf (Request Answer runAll)

variable {m m' : NumberedRows γ} {es vs : List (NumberedRow γ)} {e : NumberedRow γ} {row : RowOf γ} {k key : String}

/-! ## The list behind the numbers -/

/-- The list, with its numbers, that numbered rows stand for. -/
structure Lists (m : NumberedRows γ) (es : List (NumberedRow γ)) : Prop where
  rising : es.Pairwise fun a b => a.number < b.number
  below : ∀ e ∈ es, e.number < m.next
  distinct : (es.map fun e => e.row.key).Nodup
  found : ∀ k e, m.entries.get? k = some e ↔ e ∈ es ∧ e.row.key = k
  even : ∀ e ∈ es, e.row.cells.length = m.width

/-- Sorting by rising numbers gives a list back, in whatever order its members come. -/
theorem inOrder_of_perm (hp : vs.Perm es) (hr : es.Pairwise fun a b => a.number < b.number) : inOrder vs = es := by
  have hinj : (es.map NumberedRow.number).Nodup :=
    (List.pairwise_map.2 hr).imp fun h => Nat.ne_of_lt h
  have hsorted : (inOrder vs).Pairwise fun a b => a.number ≤ b.number := by
    unfold inOrder
    refine (List.pairwise_mergeSort ?_ ?_ vs).imp of_decide_eq_true
    · intro a b c hab hbc
      simp only [decide_eq_true_eq] at *
      omega
    · intro a b
      simp only [Bool.or_eq_true, decide_eq_true_eq]
      omega
  apply List.Perm.eq_of_pairwise ?_ hsorted (hr.imp Nat.le_of_lt) ((List.mergeSort_perm ..).trans hp)
  intro a b ha hb hab hba
  have ha : a ∈ es := hp.mem_iff.1 (List.mem_mergeSort.1 ha)
  exact List.inj_on_of_nodup_map hinj ha hb (Nat.le_antisymm hab hba)

theorem Lists.values_perm (h : m.Lists es) : (m.entries.entries.map Prod.snd).Perm es := by
  have hkeys : (m.entries.entries.map Prod.snd).map (fun e => e.row.key) = m.entries.keys := by
    rw [List.map_map]
    apply List.map_congr_left
    intro p hp
    exact ((h.found p.1 p.2).1 (KeyMap.mem_entries_iff.1 hp)).2
  apply (List.perm_ext_iff_of_nodup (List.Nodup.of_map _ (hkeys ▸ m.entries.keys_nodup))
    (List.Nodup.of_map _ h.distinct)).2
  intro e
  rw [List.mem_map]
  constructor
  · rintro ⟨p, hp, rfl⟩
    exact ((h.found p.1 p.2).1 (KeyMap.mem_entries_iff.1 hp)).1
  · intro he
    exact ⟨(e.row.key, e), KeyMap.mem_entries_iff.2 ((h.found _ _).2 ⟨he, rfl⟩), rfl⟩

theorem Lists.ordered (h : m.Lists es) : m.ordered = es.map NumberedRow.row := by
  unfold NumberedRows.ordered
  rw [inOrder_of_perm h.values_perm h.rising]

theorem Lists.keys (h : m.Lists es) : m.keys = es.map fun e => e.row.key := by
  unfold NumberedRows.keys
  rw [h.ordered, List.map_map]
  rfl

theorem Lists.mem_keys (h : m.Lists es) : k ∈ m.keys ↔ ∃ e, m.entries.get? k = some e := by
  rw [h.keys, List.mem_map]
  constructor
  · rintro ⟨e, he, rfl⟩
    exact ⟨e, (h.found _ _).2 ⟨he, rfl⟩⟩
  · rintro ⟨e, he⟩
    exact ⟨e, (h.found k e).1 he⟩

theorem Lists.contains (h : m.Lists es) : m.entries.contains k = true ↔ k ∈ m.keys := by
  rw [h.mem_keys, KeyMap.contains, Option.isSome_iff_exists]

theorem Lists.size (h : m.Lists es) : m.size = m.ordered.length := by
  rw [h.ordered, List.length_map, ← h.values_perm.length_eq, List.length_map]
  rfl

/-- A row is found under its key and nowhere else. -/
theorem Lists.find? (h : m.Lists es) (key : String) : m.find? key = m.ordered.find? fun row => row.key == key := by
  cases hf : m.ordered.find? fun row => row.key == key with
  | none =>
    have hno := List.find?_eq_none.1 hf
    rw [NumberedRows.find?, Option.map_eq_none_iff, Option.eq_none_iff_forall_ne_some]
    intro e he
    obtain ⟨hmem, hkey⟩ := (h.found key e).1 he
    apply hno e.row
    · rw [h.ordered]
      exact List.mem_map_of_mem hmem
    · simpa using hkey
  | some row =>
    have hmem := List.mem_of_find?_eq_some hf
    have hkey : row.key = key := by simpa using List.find?_some hf
    rw [h.ordered, List.mem_map] at hmem
    obtain ⟨e, he, rfl⟩ := hmem
    rw [NumberedRows.find?, (h.found key e).2 ⟨he, hkey⟩]
    rfl

theorem lists_blank (title : String) (columns : List Header) :
    (⟨title, columns, .empty, 0⟩ : NumberedRows γ).Lists [] where
  rising := .nil
  below := by simp
  distinct := .nil
  found := by simp [KeyMap.get?_empty]
  even := by simp

/-! ## What operations do to the list -/

/-- A new row goes to the end, with a cell for each column. -/
theorem Lists.insert (h : m.Lists es) (hk : row.key ∉ m.keys) :
    ∃ m', m.insert row = .ok m' ∧ m'.Lists (es ++ [⟨m.next, row.resize m.width⟩]) ∧ m'.columns = m.columns ∧
      m'.title = m.title := by
  have hno : m.entries.get? row.key = none := by
    rw [Option.eq_none_iff_forall_ne_some]
    intro e he
    exact hk (h.mem_keys.2 ⟨e, he⟩)
  have hnew : ∀ e ∈ es, e.row.key ≠ row.key := by
    intro e he hkey
    have := (h.found row.key e).2 ⟨he, hkey⟩
    rw [hno] at this
    cases this
  unfold NumberedRows.insert
  rw [if_neg (by rwa [h.contains])]
  refine ⟨_, rfl, ⟨?_, ?_, ?_, ?_, ?_⟩, rfl, rfl⟩
  · simp only [List.pairwise_append, List.pairwise_cons, List.mem_singleton]
    exact ⟨h.rising, by simp, fun a ha b hb => hb ▸ h.below a ha⟩
  · intro e he
    simp only [List.mem_append, List.mem_singleton] at he
    rcases he with he | rfl
    · exact Nat.lt_succ_of_lt (h.below e he)
    · exact Nat.lt_succ_self _
  · simp only [List.map_append, List.nodup_append, List.map_cons, List.map_nil, List.mem_map, List.mem_singleton]
    refine ⟨h.distinct, by simp, ?_⟩
    rintro k ⟨e, he, rfl⟩ _ rfl
    exact hnew e he
  · intro k e
    rw [KeyMap.get?_insert, List.mem_append, List.mem_singleton]
    by_cases hkey : k = row.key
    · subst hkey
      simp only [if_pos, Option.some.injEq]
      constructor
      · rintro rfl
        exact ⟨.inr rfl, rfl⟩
      · rintro ⟨he | rfl, hek⟩
        · exact absurd hek (hnew e he)
        · rfl
    · rw [if_neg hkey, h.found]
      constructor
      · rintro ⟨he, hek⟩
        exact ⟨.inl he, hek⟩
      · rintro ⟨he | rfl, hek⟩
        · exact ⟨he, hek⟩
        · exact absurd hek.symm hkey
  · intro e he
    simp only [List.mem_append, List.mem_singleton] at he
    rcases he with he | rfl
    · exact h.even e he
    · exact RowOf.length_resize _ _

theorem Lists.insert_present (h : m.Lists es) (hk : row.key ∈ m.keys) :
    m.insert row = .error (.duplicate row.key) := if_pos (h.contains.2 hk)

theorem Lists.erase (h : m.Lists es) (key : String) : (m.erase key).Lists (es.filter fun e => e.row.key != key) where
  rising := h.rising.filter _
  below := fun e he => h.below e (List.mem_of_mem_filter he)
  distinct := h.distinct.sublist (List.filter_sublist.map _)
  found := by
    intro k e
    unfold NumberedRows.erase
    rw [KeyMap.get?_erase]
    by_cases hk : k = key
    · subst hk
      simp
    · rw [if_neg hk, h.found, List.mem_filter]
      constructor
      · rintro ⟨he, rfl⟩
        exact ⟨⟨he, by simpa using hk⟩, rfl⟩
      · rintro ⟨⟨he, -⟩, hek⟩
        exact ⟨he, hek⟩
  even := fun e he => h.even e (List.mem_of_mem_filter he)

/-- The row with cells put in, if its key is the given one. -/
def written (key : String) (cells : List (Nat × Option γ)) (e : NumberedRow γ) : NumberedRow γ :=
  if e.row.key = key then { e with row := e.row.write cells } else e

@[simp] theorem number_written (cells : List (Nat × Option γ)) : (written key cells e).number = e.number := by
  unfold written
  split <;> rfl

@[simp] theorem key_written (cells : List (Nat × Option γ)) : (written key cells e).row.key = e.row.key := by
  unfold written
  split <;> simp

@[simp] theorem length_written (cells : List (Nat × Option γ)) :
    (written key cells e).row.cells.length = e.row.cells.length := by
  unfold written
  split <;> simp

theorem written_other (cells : List (Nat × Option γ)) (h : e.row.key ≠ key) : written key cells e = e := if_neg h

/-- A row whose cells are set stays where it is. -/
theorem Lists.write (h : m.Lists es) (key : String) (cells : List (Nat × Option γ)) :
    (m.write key cells).Lists (es.map (written key cells)) := by
  unfold NumberedRows.write
  cases hg : m.entries.get? key with
  | none =>
    have hsame : es.map (written key cells) = es := by
      refine (List.map_congr_left fun e he => written_other cells ?_).trans (List.map_id _)
      intro hk
      have := (h.found key e).2 ⟨he, hk⟩
      rw [hg] at this
      cases this
    rwa [hsame]
  | some x =>
    obtain ⟨hx, hxk⟩ := (h.found key x).1 hg
    refine ⟨?_, ?_, ?_, ?_, ?_⟩
    · rw [List.pairwise_map]
      simpa using h.rising
    · simpa using h.below
    · rw [List.map_map]
      simpa [Function.comp_def] using h.distinct
    · intro k e
      rw [KeyMap.get?_insert, List.mem_map]
      by_cases hk : k = key
      · subst hk
        simp only [if_pos, Option.some.injEq]
        constructor
        · rintro rfl
          exact ⟨⟨x, hx, if_pos hxk⟩, by simpa using hxk⟩
        · rintro ⟨⟨y, hy, rfl⟩, hyk⟩
          rw [key_written] at hyk
          have := (h.found k y).2 ⟨hy, hyk⟩
          rw [hg] at this
          cases this
          exact (if_pos hxk).symm
      · rw [if_neg hk, h.found]
        constructor
        · rintro ⟨he, rfl⟩
          exact ⟨⟨e, he, written_other cells hk⟩, rfl⟩
        · rintro ⟨⟨y, hy, rfl⟩, hyk⟩
          rw [key_written] at hyk
          rw [written_other cells (hyk ▸ hk)]
          exact ⟨hy, hyk⟩
    · intro e he
      obtain ⟨y, hy, rfl⟩ := List.mem_map.1 he
      rw [length_written]
      exact h.even y hy

theorem columns_write (key : String) (cells : List (Nat × Option γ)) :
    (m.write key cells).columns = m.columns ∧ (m.write key cells).title = m.title := by
  unfold NumberedRows.write
  split <;> exact ⟨rfl, rfl⟩

/-! ## Visits -/

section Visits

variable {done rest : List (NumberedRow γ)}

/-- The other rows have other keys. -/
theorem key_ne_of_distinct (hd : ((done ++ e :: rest).map fun e => e.row.key).Nodup) :
    (∀ x ∈ done, x.row.key ≠ e.row.key) ∧ ∀ x ∈ rest, x.row.key ≠ e.row.key := by
  simp only [List.map_append, List.map_cons, List.nodup_append, List.nodup_cons, List.mem_cons, List.mem_map] at hd
  obtain ⟨-, ⟨hrest, -⟩, hdone⟩ := hd
  constructor
  · intro x hx
    exact hdone _ ⟨x, hx, rfl⟩ _ (.inl rfl)
  · intro x hx hk
    exact hrest ⟨x, hx, hk⟩

theorem map_written_at (hd : ((done ++ e :: rest).map fun e => e.row.key).Nodup) (cells : List (Nat × Option γ)) :
    (done ++ e :: rest).map (written e.row.key cells) = done ++ { e with row := e.row.write cells } :: rest := by
  obtain ⟨hdone, hrest⟩ := key_ne_of_distinct hd
  have hid {l : List (NumberedRow γ)} (h : ∀ x ∈ l, x.row.key ≠ e.row.key) : l.map (written e.row.key cells) = l :=
    (List.map_congr_left fun x hx => written_other cells (h x hx)).trans (List.map_id _)
  rw [List.map_append, List.map_cons, hid hdone, hid hrest, written, if_pos rfl]

theorem filter_at (hd : ((done ++ e :: rest).map fun e => e.row.key).Nodup) :
    ((done ++ e :: rest).filter fun x => x.row.key != e.row.key) = done ++ rest := by
  obtain ⟨hdone, hrest⟩ := key_ne_of_distinct hd
  rw [List.filter_append, List.filter_cons_of_neg (by simp), List.filter_eq_self.2 (by simpa using hdone),
    List.filter_eq_self.2 (by simpa using hrest)]

/-- The rows that are still to come are visited one after the other, and stay or go as the visitor says. -/
theorem Lists.visit (v : Visitor γ) (h : m.Lists (done ++ rest)) (seen : List (RowOf γ)) :
    ∃ m' left, NumberedRows.visit v (rest.map fun e => e.row.key) seen m = (seen ++ rest.map NumberedRow.row, m') ∧
      m'.Lists (done ++ left) ∧ left.map NumberedRow.row = v.sweep seen (rest.map NumberedRow.row) ∧
      m'.columns = m.columns ∧ m'.title = m.title := by
  induction rest generalizing m done seen with
  | nil => exact ⟨m, [], by simp [NumberedRows.visit], h, rfl, rfl, rfl⟩
  | cons e rest ih =>
    have hfind : m.find? e.row.key = some e.row := by
      rw [NumberedRows.find?, (h.found e.row.key e).2 ⟨by simp, rfl⟩]
      rfl
    simp only [List.map_cons, NumberedRows.visit, hfind, Visitor.sweep]
    by_cases hkeep : (v seen e.row).keep = true
    · rw [if_pos hkeep, if_pos hkeep]
      have hw := h.write e.row.key (v seen e.row).cells
      rw [map_written_at h.distinct, List.append_cons] at hw
      obtain ⟨m', left, hvisit, hlists, hleft, hcolumns, htitle⟩ := ih hw (seen ++ [e.row])
      obtain ⟨hc, ht⟩ := columns_write (m := m) e.row.key (v seen e.row).cells
      refine ⟨m', _ :: left, ?_, by rwa [← List.append_cons] at hlists, ?_, hcolumns.trans hc, htitle.trans ht⟩
      · rw [hvisit, ← List.append_cons]
      · rw [List.map_cons, hleft]
    · rw [if_neg hkeep, if_neg hkeep]
      have he := h.erase e.row.key
      rw [filter_at h.distinct] at he
      obtain ⟨m', left, hvisit, hlists, hleft, hcolumns, htitle⟩ := ih he (seen ++ [e.row])
      refine ⟨m', left, ?_, hlists, hleft, hcolumns, htitle⟩
      rw [hvisit, ← List.append_cons]

theorem Lists.traverse (v : Visitor γ) (h : m.Lists es) :
    ∃ m' left, m.traverse v = (m.ordered, m') ∧ m'.Lists left ∧
      left.map NumberedRow.row = v.sweep [] m.ordered ∧ m'.columns = m.columns ∧ m'.title = m.title := by
  rw [NumberedRows.traverse, h.keys, h.ordered]
  have hall : m.Lists ([] ++ es) := h
  exact hall.visit v []

end Visits

/-! ## Numbered rows act as a list -/

/-- Rows that are a list with distinct keys, which only an insertion makes longer, at its end. -/
structure ActsAsList (m : NumberedRows γ) : Prop where
  keys_distinct : m.keys.Nodup
  keys_ordered : m.keys = m.ordered.map RowOf.key
  size_ordered : m.size = m.ordered.length
  find_ordered : ∀ key, m.find? key = m.ordered.find? fun row => row.key == key
  /-- Each row has a cell for each column. -/
  even : ∀ row ∈ m.ordered, row.cells.length = m.columns.length
  insert_present : ∀ row, row.key ∈ m.keys → m.insert row = .error (.duplicate row.key)
  /-- A new row, of whatever length, goes to the end and keeps the cells that there are columns for. -/
  insert_new : ∀ row, row.key ∉ m.keys → ∃ m' stored, m.insert row = .ok m' ∧ m'.ordered = m.ordered ++ [stored] ∧
    stored.key = row.key ∧ stored.cells.length = m.columns.length ∧
    ∀ i < m.columns.length, stored.cell? i = row.cell? i
  erase_ordered : ∀ key, (m.erase key).ordered = m.ordered.filter fun row => row.key != key
  write_ordered : ∀ key cells, (m.write key cells).ordered =
    m.ordered.map fun row => if row.key = key then row.write cells else row
  /-- Every row is visited once, in order, whatever the visitor removes on the way. -/
  traverse_visited : ∀ v, (m.traverse v).1 = m.ordered
  traverse_ordered : ∀ v, (m.traverse v).2.ordered = v.sweep [] m.ordered
  /-- The order does not depend on that of the entries. -/
  entries_any : ∀ vs, vs.Perm (m.entries.entries.map Prod.snd) → (inOrder vs).map NumberedRow.row = m.ordered

theorem Lists.write_ordered (h : m.Lists es) (key : String) (cells : List (Nat × Option γ)) :
    (m.write key cells).ordered = m.ordered.map fun row => if row.key = key then row.write cells else row := by
  rw [(h.write key cells).ordered, h.ordered, List.map_map, List.map_map]
  apply List.map_congr_left
  intro e _
  simp only [Function.comp_apply, written]
  split <;> rfl

theorem Lists.erase_ordered (h : m.Lists es) (key : String) :
    (m.erase key).ordered = m.ordered.filter fun row => row.key != key := by
  rw [(h.erase key).ordered, h.ordered, List.filter_map]
  rfl

theorem Lists.actsAsList (h : m.Lists es) : m.ActsAsList where
  keys_distinct := h.keys ▸ h.distinct
  keys_ordered := rfl
  size_ordered := h.size
  find_ordered := h.find?
  even := by
    intro row hrow
    rw [h.ordered, List.mem_map] at hrow
    obtain ⟨e, he, rfl⟩ := hrow
    exact h.even e he
  insert_present := fun _ hk => h.insert_present hk
  insert_new := by
    intro row hk
    obtain ⟨m', hins, hlists, -, -⟩ := h.insert hk
    refine ⟨m', row.resize m.width, hins, ?_, rfl, RowOf.length_resize _ _, fun i hi => RowOf.cell?_resize hi⟩
    rw [hlists.ordered, h.ordered, List.map_append]
    rfl
  erase_ordered := h.erase_ordered
  write_ordered := h.write_ordered
  traverse_visited := by
    intro v
    obtain ⟨m', left, ht, -⟩ := h.traverse v
    rw [ht]
  traverse_ordered := by
    intro v
    obtain ⟨m', left, ht, hlists, hleft, -⟩ := h.traverse v
    rw [ht, hlists.ordered, hleft]
  entries_any := by
    intro vs hvs
    rw [inOrder_of_perm (hvs.trans h.values_perm) h.rising, h.ordered]

/-- A request does the same to numbered rows and to the list of their rows. -/
theorem Lists.perform (h : m.Lists es) (q : Request γ) :
    ∃ m' es', m'.Lists es' ∧ m'.columns = m.columns ∧ m.perform q = ((m.toRows.perform q).1, m') ∧
      m'.toRows = (m.toRows.perform q).2 := by
  cases q with
  | insert row =>
    by_cases hk : row.key ∈ m.keys
    · have hlist : m.toRows.insert row = .error (.duplicate row.key) := if_pos (List.contains_iff_mem.2 hk)
      refine ⟨m, es, h, rfl, ?_⟩
      simp only [NumberedRows.perform, RowsOf.perform, h.insert_present hk, hlist, and_self]
    · obtain ⟨m', hins, hlists, hcolumns, htitle⟩ := h.insert hk
      have hlist : m.toRows.insert row = .ok { m.toRows with rows := m.ordered ++ [row.resize m.width] } :=
        if_neg fun hc => hk (List.contains_iff_mem.1 hc)
      refine ⟨m', _, hlists, hcolumns, ?_⟩
      simp only [NumberedRows.perform, RowsOf.perform, hins, hlist, true_and]
      simp only [toRows, hlists.ordered, h.ordered, hcolumns, htitle, List.map_append, List.map_cons, List.map_nil]
  | erase key =>
    refine ⟨m.erase key, _, h.erase key, rfl, ?_, ?_⟩
    · simp only [NumberedRows.perform, RowsOf.perform, h.find? key]
      rfl
    · simp only [RowsOf.perform, RowsOf.erase, toRows, h.erase_ordered key]
      rfl
  | set key i c =>
    have hw := h.write key [(i, c)]
    obtain ⟨hcolumns, htitle⟩ := columns_write (m := m) key [(i, c)]
    have hrows : (m.write key [(i, c)]).toRows = m.toRows.update key (·.set i c) := by
      simp only [toRows, RowsOf.update, hcolumns, htitle, h.write_ordered, RowsOf.mk.injEq, true_and]
      apply List.map_congr_left
      intro row _
      by_cases hk : row.key = key
      · simp [hk, RowOf.write, RowOf.set]
      · simp [hk]
    refine ⟨m.write key [(i, c)], _, hw, hcolumns, ?_, hrows⟩
    simp only [NumberedRows.perform, RowsOf.perform, ← hrows, hw.find? key]
    rfl
  | traverse v =>
    obtain ⟨m', left, ht, hlists, hleft, hcolumns, htitle⟩ := h.traverse v
    refine ⟨m', left, hlists, hcolumns, ?_, ?_⟩
    · simp only [NumberedRows.perform, RowsOf.perform, ht]
      rfl
    · simp only [RowsOf.perform, RowsOf.traverse, toRows, hlists.ordered, hleft, hcolumns, htitle]

/-- So do requests one after the other. -/
theorem Lists.runAll (h : m.Lists es) (qs : List (Request γ)) :
    ∃ m' es', m'.Lists es' ∧ m'.columns = m.columns ∧
      RowsOf.runAll NumberedRows.perform m qs = ((RowsOf.runAll RowsOf.perform m.toRows qs).1, m') ∧
      m'.toRows = (RowsOf.runAll RowsOf.perform m.toRows qs).2 := by
  induction qs generalizing m es with
  | nil => exact ⟨m, es, h, rfl, rfl, rfl⟩
  | cons q qs ih =>
    obtain ⟨m₁, es₁, h₁, hc₁, hq, hrows⟩ := h.perform q
    obtain ⟨m', es', h', hc, hqs, hrows'⟩ := ih h₁
    rw [hrows] at hqs hrows'
    refine ⟨m', es', h', hc.trans hc₁, ?_, hrows'⟩
    simp only [RowsOf.runAll, hq, hqs]

theorem toRows_blank (title : String) (columns : List Header) :
    ({ title, columns } : NumberedRows γ).toRows = { title, columns } := by
  unfold toRows
  rw [(lists_blank title columns).ordered]
  rfl

/-- After any requests, numbered rows act as a list of rows with distinct keys, and they have given the answers of that
list. -/
theorem run_listed (title : String) (columns : List Header) (qs : List (Request γ)) :
    let m := runAll NumberedRows.perform { title, columns } qs
    let l := runAll RowsOf.perform { title, columns } qs
    m.2.ActsAsList ∧ m.2.columns = columns ∧ m.2.toRows = l.2 ∧ m.1 = l.1 := by
  intro m l
  obtain ⟨m', es, h, hcolumns, hrun, hrows⟩ := (lists_blank (γ := γ) title columns).runAll qs
  rw [toRows_blank] at hrun hrows
  have hm : m = (l.1, m') := hrun
  rw [hm]
  exact ⟨h.actsAsList, hcolumns, hrows, rfl⟩

/-- A row that is removed and inserted again stands behind those that stayed; a visitor removes the first row it sees. -/
theorem run_listed_again :
    let columns : List Header := [⟨"sid", true⟩, ⟨"host", false⟩]
    let qs : List (Request Nat) := [.insert ⟨"a", [some 1]⟩, .insert ⟨"b", [some 2, none, some 3]⟩,
      .insert ⟨"c", []⟩, .insert ⟨"a", []⟩, .erase "a", .insert ⟨"a", [none, some 4]⟩, .set "c" 1 (some 5),
      .traverse fun seen _ => { keep := !seen.isEmpty }]
    let m := (runAll NumberedRows.perform { title := "t.logs", columns } qs).2
    m.ActsAsList ∧ m.keys = ["c", "a"] ∧ m.ordered.map RowOf.cells = [[none, some 5], [none, some 4]] := by
  intro columns qs m
  obtain ⟨hacts, -, hrows, -⟩ := run_listed "t.logs" columns qs
  have hlist : m.ordered = (runAll RowsOf.perform { title := "t.logs", columns } qs).2.rows := congrArg RowsOf.rows hrows
  refine ⟨hacts, ?_, ?_⟩
  · rw [hacts.keys_ordered]
    show m.ordered.map RowOf.key = _
    rw [hlist]
    decide +kernel
  · rw [hlist]
    decide +kernel

end NumberedRows
end SlotSql
