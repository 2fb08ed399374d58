import Mathlib.Data.List.Perm.Subperm
import SlotSql.Proofs.Plan.Build
import SlotSql.Proofs.Rows.Literal
import SlotSql.Proofs.Rows.Parts
import SlotSql.Proofs.Rows.Selection
/-!
# Plans for one row

A query for all columns with one equation for each part of the row key, each with the stored form of the part, always
has a plan: one that looks up the key of these parts, compares nothing else and shows each column from its place.

A column of a result takes its values from the place where the plan has them: a part of the row key, or an attribute that
is read. Attributes that are read stay in their places when others are added, so what holds when an item is taken in holds
of the whole plan.

Results:
* `build_sourced`: the columns of a plan take their values from the right places.
* `build_counts`: a plan that counts has one column only.
* `filterFor_part`: an equation with the stored form of a part has a filter, which holds the part as it is.
* `Filters.length_fetches`: no attribute is read twice.
* `build_row`: the plan for one row.
-/
namespace SlotSql

/-! ## The columns of a result -/

/-- A column of a result that shows a column of the table has its values from the place of that column. -/
def Output.Sourced (keys fetches : List Field) : Output → Prop
  | .field f (.key i) => keys[i]? = some f
  | .field f (.fetch i) => fetches[i]? = some f
  | .call _ _ => True
  | .count => False

/-- Places stay the same when more attributes are read. -/
theorem Output.Sourced.mono {keys fetches fetches' : List Field} {o : Output} (h : o.Sourced keys fetches)
    (hp : fetches <+: fetches') : o.Sourced keys fetches' := by
  obtain ⟨more, rfl⟩ := hp
  cases o with
  | field f source =>
    cases source with
    | key i => exact h
    | fetch i =>
      have hi : i < fetches.length := (List.getElem?_eq_some_iff.1 h).1
      exact (List.getElem?_append_left hi).trans h
  | call c source => trivial
  | count => exact h

namespace Plan

namespace Filters

variable {t : Table} {st : Settings} {cs : List Condition} {fs fs' : Filters} {f : Field}

/-- The attributes that are read. -/
def read (fs : Filters) : List Field := fs.fetches.map FetchFilter.field

/-- The place of a column that is found by its name is that of the column. -/
theorem getElem?_of_findIdx? {α : Type} {field : α → Field} {l : List α} {i : Nat} (ht : t.Valid st)
    (h : l.findIdx? (fun a => (field a).name == f.name) = some i) (hl : ∀ a ∈ l, field a ∈ t.fields)
    (hf : f ∈ t.fields) : (l.map field)[i]? = some f := by
  obtain ⟨hi, hname, -⟩ := List.findIdx?_eq_some_iff_getElem.1 h
  rw [List.getElem?_map, List.getElem?_eq_getElem hi]
  exact congrArg some (ht.eq_of_name (hl _ (List.getElem_mem hi)) hf (beq_iff_eq.1 hname))

/-- A column has its value from its place. -/
theorem source_sourced (ht : t.Valid st) (h : fs.Covers t cs) (hf : f ∈ t.fields) :
    (Output.field f (fs.source f).1).Sourced t.keyFields (fs.source f).2.read := by
  unfold Filters.source
  split
  · next i hi =>
    show t.keyFields[i]? = some f
    rw [← h.keys]
    exact getElem?_of_findIdx? ht hi (fun k hk => (h.mem_key hk).1) hf
  · next hnone =>
    have hk := (h.keyIndex?_eq_none ht hf).1 hnone
    obtain ⟨hcovers, hplace⟩ := h.fetch hf hk
    exact getElem?_of_findIdx? ht hplace (fun g hg => (hcovers.fetched g hg).1) hf

/-- Of the columns of a result each is from its place. -/
def AllSourced (t : Table) (os : List Output) (fs : Filters) : Prop := ∀ o ∈ os, o.Sourced t.keyFields fs.read

theorem AllSourced.mono {os : List Output} (h : AllSourced t os fs) (hg : Grows fs fs') : AllSourced t os fs' :=
  fun o ho => (h o ho).mono hg

theorem AllSourced.append {os more : List Output} (h : AllSourced t os fs) (hm : AllSourced t more fs) :
    AllSourced t (os ++ more) fs :=
  fun o ho => (List.mem_append.1 ho).elim (h o) (hm o)

theorem addField_sourced (ht : t.Valid st) (h : fs.Covers t cs) (hf : f ∈ t.fields) :
    AllSourced t [(fs.addField f).1] (fs.addField f).2 := by
  intro o ho
  rw [List.mem_singleton.1 ho]
  have hread : (fs.addField f).2.read = (fs.source f).2.read := fetches_addField fs f fun _ => rfl
  rw [hread]
  exact source_sourced ht h hf

theorem addFields_sourced (ht : t.Valid st) {more : List Field} (h : fs.Covers t cs) (hf : ∀ f ∈ more, f ∈ t.fields) :
    AllSourced t (fs.addFields more).1 (fs.addFields more).2 := by
  induction more generalizing fs with
  | nil => exact fun o ho => nomatch ho
  | cons f more ih =>
    have hf' := hf f List.mem_cons_self
    have hmore : ∀ g ∈ more, g ∈ t.fields := fun g hg => hf g (List.mem_cons_of_mem _ hg)
    exact ((addField_sourced ht h hf').mono (grows_addFields _ more)).append (ih (h.addField ht hf') hmore)

theorem addItem_sourced (ht : t.Valid st) (h : fs.Covers t cs) {alone : Bool} {item : SelectItem} {os : List Output}
    (ha : fs.addItem t alone item = .ok (os, fs')) (hc : item ≠ .count) : AllSourced t os fs' := by
  unfold addItem at ha
  split at ha
  · exact absurd rfl hc
  · have he : fs.addFields t.fields = (os, fs') := Except.ok.inj ha
    have hall := addFields_sourced ht h fun f hf => hf
    rwa [he] at hall
  · obtain ⟨f, hf, ha⟩ := except_bind_eq_ok.1 ha
    cases ha
    exact addFields_sourced ht h fun g hg =>
      List.mem_singleton.1 hg ▸ (Table.mem_of_field? (fieldOf_eq_ok.1 hf)).1
  · split at ha
    · obtain ⟨f, hf, ha⟩ := except_bind_eq_ok.1 ha
      cases ha
      exact fun o ho => List.mem_singleton.1 ho ▸ trivial
    · cases ha
      exact fun o ho => List.mem_singleton.1 ho ▸ trivial

theorem addItems_sourced (ht : t.Valid st) {alone : Bool} {items : List SelectItem} {os : List Output}
    (h : fs.Covers t cs) (ha : fs.addItems t alone items = .ok (os, fs')) (hc : SelectItem.count ∉ items) :
    AllSourced t os fs' := by
  induction items generalizing fs os with
  | nil =>
    cases ha
    exact fun o ho => nomatch ho
  | cons item items ih =>
    unfold addItems at ha
    obtain ⟨⟨os₁, fs₁⟩, h1, ha⟩ := except_bind_eq_ok.1 ha
    obtain ⟨⟨os₂, fs₂⟩, h2, ha⟩ := except_bind_eq_ok.1 ha
    cases ha
    rw [List.mem_cons, not_or] at hc
    exact ((addItem_sourced ht h h1 (Ne.symm hc.1)).mono (grows_addItems h2)).append
      (ih (addItem_covers ht h h1) h2 hc.2)

/-- The number of rows is not shown beside anything else. -/
theorem addItems_mixed {items : List SelectItem} (hc : SelectItem.count ∈ items) (x : List Output × Filters) :
    fs.addItems t false items ≠ .ok x := by
  induction items generalizing fs x with
  | nil => cases hc
  | cons item items ih =>
    intro ha
    unfold addItems at ha
    obtain ⟨⟨os₁, fs₁⟩, h1, ha⟩ := except_bind_eq_ok.1 ha
    obtain ⟨y, h2, -⟩ := except_bind_eq_ok.1 ha
    rcases List.mem_cons.1 hc with rfl | hc
    · cases h1
    · exact ih hc y h2

theorem addItems_counts {items : List SelectItem} {os : List Output}
    (ha : fs.addItems t (items.length ≤ 1) items = .ok (os, fs')) (hc : SelectItem.count ∈ items) : os = [.count] := by
  match items with
  | [item] =>
    rw [← List.mem_singleton.1 hc] at ha
    cases ha
    rfl
  | item :: item' :: rest => exact absurd ha (addItems_mixed hc _)

end Filters

variable {t : Table} {st : Settings} {cs : List Condition} {items : List SelectItem} {p : Plan}

/-- The columns of a plan that shows rows have their values from the right places. -/
theorem build_sourced (ht : t.Valid st) (hp : build st t cs items = .ok p) (hc : p.countOnly = false) :
    ∀ o ∈ p.outputs, o.Sourced t.keyFields (p.fetches.map FetchFilter.field) := by
  obtain ⟨fs, os, fs', h1, h2, -, rfl⟩ := build_iff.1 hp
  have hcovers := Filters.conditions_cover ht (Filters.covers_start t) h1
  exact Filters.addItems_sourced ht hcovers h2 fun hmem => by
    rw [← List.contains_iff_mem] at hmem
    exact Bool.false_ne_true (hc.symm.trans hmem)

/-- A plan that counts has one column only. -/
theorem build_counts (hp : build st t cs items = .ok p) (hc : p.countOnly = true) : p.outputs = [.count] := by
  obtain ⟨fs, os, fs', -, h2, -, rfl⟩ := build_iff.1 hp
  exact Filters.addItems_counts h2 (List.contains_iff_mem.1 hc)

/-! ## Conditions for all parts of a row key -/

variable {c : Condition} {f : Field} {fs : Filters} {parts : List String} {v x : String}

/-- Conditions that ask for the parts of a row key, for each of them once and as it is stored. -/
structure AsksFor (t : Table) (parts : List String) (cs : List Condition) : Prop where
  columns : (cs.map Condition.column).Perm (t.keyFields.map Field.name)
  equations : ∀ c ∈ cs, c.comparison = .eq
  literals : t.keyFields.Forall₂ (fun f x => ∀ c ∈ cs, c.column = f.name → c.value.value = x) parts

/-- An equation with the stored form of a part has a filter, which holds the part as it is. -/
theorem filterFor_part (hk : f.isKey = true) (ht : f.type.isKeyType = true) (hx : f.normalize v = .ok x)
    (hc : c.comparison = .eq) (hl : c.value.value = x) : ∃ flt, filterFor f c = .ok flt ∧ flt.value = x := by
  have hfloat : f.type.isFloat = false ∧ f.type ≠ .flt64 := by
    cases hty : f.type <;> rw [hty] at ht <;> first | exact ⟨rfl, nofun⟩ | cases ht
  have hholds := holds_of_stored (stored_of_normalize hx)
  have hplain : Key.holdsStructural c.value.value = false := by
    rw [hl, Key.holdsStructural_eq_false_iff]
    exact fun _ hc => notMem_of_normalize hx hk hc
  have hliteral : ∃ literal, literalFor f c = .ok literal := by
    unfold literalFor
    simp only [hc, reduceCtorEq, ↓reduceIte, hfloat.1, Bool.false_eq_true]
    split
    · next hi =>
      obtain ⟨n, hn⟩ := hholds.1.1 hi
      rw [hl, hn]
      exact ⟨_, rfl⟩
    · exact ⟨_, rfl⟩
  obtain ⟨literal, hliteral⟩ := hliteral
  have hflt : filterFor f c = .ok ⟨.eq, literal, none⟩ := by
    have htext : Comparison.eq.isTextual = false := rfl
    unfold filterFor
    rw [hplain, hliteral, hc, htext]
    simp only [Bool.and_false, Bool.false_eq_true, ↓reduceIte]
    rfl
  refine ⟨_, hflt, ?_⟩
  have hvalue := Filter.value_of_stored hflt (w := x) (by rw [hl]; exact hholds.2 hfloat.2) (by rw [hc]; decide) hfloat.1
  rw [hvalue, hl, ite_self]

/-- Conditions that have filters are taken in. -/
theorem conditions_ok (h : ∀ c ∈ cs, ∃ f flt, c.Gives t f flt) (fs : Filters) :
    ∃ fs', cs.foldlM (Filters.addCondition t) fs = .ok fs' := by
  induction cs generalizing fs with
  | nil => exact ⟨fs, rfl⟩
  | cons c cs ih =>
    obtain ⟨f, flt, hf, hflt⟩ := h c List.mem_cons_self
    obtain ⟨fs₁, h1⟩ : ∃ fs₁, Filters.addCondition t fs c = .ok fs₁ := by
      unfold Filters.addCondition
      rw [Filters.fieldOf_eq_ok.2 hf]
      show ∃ fs₁, (do let filter ← filterFor f c; _) = Except.ok fs₁
      rw [hflt]
      cases fs.keyIndex? f with
      | some i => exact ⟨_, rfl⟩
      | none => exact ⟨_, rfl⟩
    obtain ⟨fs₂, h2⟩ := ih (fun c hc => h c (List.mem_cons_of_mem _ hc)) fs₁
    exact ⟨fs₂, by rw [List.foldlM_cons, h1]; exact h2⟩

/-! ## Attributes that are read -/

/-- No attribute is read twice. -/
theorem Filters.length_fetches (h : fs.Covers t cs) (q : Field → Bool) :
    ((fs.fetches.map FetchFilter.field).filter q).length ≤ (t.fields.filter fun f => !f.isKey && q f).length := by
  refine (List.subperm_of_subset (h.nodup.of_map.filter q) fun f hf => ?_).length_le
  obtain ⟨hmem, hq⟩ := List.mem_filter.1 hf
  obtain ⟨g, hg, rfl⟩ := List.mem_map.1 hmem
  obtain ⟨hfield, hattr⟩ := h.fetched g hg
  exact List.mem_filter.2 ⟨hfield, by rw [hattr, hq]; rfl⟩

theorem length_plainNames (hf : For t cs p fs) : p.plainNames.length ≤ (t.fields.filter Field.isPlain).length := by
  have hlength : p.plainNames.length = ((fs.fetches.map FetchFilter.field).filter fun f => !f.type.isSet).length := by
    unfold Plan.plainNames
    rw [hf.fetches, List.length_map, List.filter_map, List.length_map]
    rfl
  rw [hlength]
  exact Filters.length_fetches hf.covers _

/-- Each of some columns is shown from some place. -/
theorem addFields_outputs (fs : Filters) (more : List Field) :
    more.Forall₂ (fun f o => ∃ source, o = .field f source) (fs.addFields more).1 := by
  induction more generalizing fs with
  | nil => exact .nil
  | cons f more ih => exact .cons ⟨_, rfl⟩ (ih _)

/-! ## The plan for one row -/

/-- A plan that shows all columns of one row, the one with the given key, without comparing anything. -/
structure ShowsRow (t : Table) (key : String) (p : Plan) : Prop where
  table : p.table = t
  direct : p.directKey = some key
  shows : p.countOnly = false
  keys : ∀ k ∈ p.keys, k.chain = []
  fetches : ∀ g ∈ p.fetches, g.chain = []
  outputs : t.fields.Forall₂ (fun f o => ∃ source, o = .field f source) p.outputs

theorem ShowsRow.headers {key : String} (h : ShowsRow t key p) :
    p.outputs.map Output.header = t.fields.map fun f => ⟨f.name, f.isKey⟩ := by
  have hmap : t.fields.Forall₂ (fun f o => (⟨f.name, f.isKey⟩ : Header) = Output.header o) p.outputs :=
    h.outputs.imp fun f o ⟨_, ho⟩ => by rw [ho]; rfl
  rw [← List.forall₂_eq_eq_eq, List.forall₂_map_left_iff, List.forall₂_map_right_iff]
  exact hmap.flip.imp fun _ _ h => h.symm

/-- A query for all columns with the parts of a row key has a plan, which looks the row up and shows it. -/
theorem build_row (ht : t.Valid st) (hparts : t.keyFields.Forall₂ (fun f x => ∃ v, f.normalize v = .ok x) parts)
    (hcs : AsksFor t parts cs) : ∃ p, build st t cs [.all] = .ok p ∧ ShowsRow t (t.rowKey parts) p := by
  have hboth : t.keyFields.Forall₂ (fun f x => (∃ v, f.normalize v = .ok x) ∧
      ∀ c ∈ cs, c.column = f.name → c.value.value = x) parts := .mp (fun _ _ => And.intro) hparts hcs.literals
  have hcolumn : ∀ c ∈ cs, ∃ f ∈ t.keyFields, f.name = c.column := fun c hc =>
    List.mem_map.1 (hcs.columns.mem_iff.1 (List.mem_map_of_mem hc))
  have hgives : ∀ c ∈ cs, ∃ f flt, c.Gives t f flt := fun c hc => by
    obtain ⟨f, hf, hname⟩ := hcolumn c hc
    obtain ⟨x, -, ⟨v, hv⟩, hx⟩ := exists_of_mem_right hboth.flip hf
    obtain ⟨hmem, hkey⟩ := Table.mem_keyFields.1 hf
    obtain ⟨flt, hflt, -⟩ := filterFor_part hkey (ht.keyType hmem hkey) hv (hcs.equations c hc) (hx c hc hname.symm)
    exact ⟨f, flt, ht.field?_iff.2 ⟨hmem, hname⟩, hflt⟩
  obtain ⟨fs, h1⟩ := conditions_ok hgives { keys := t.keyFields.map fun f => { field := f } }
  obtain ⟨hcovers, hone⟩ := bound_of_equations ht h1 hcs.columns hcs.equations
  have hcovers' := hcovers.addFields ht fun f hf => hf
  have hlen : (fs.addFields t.fields).2.fetches.length ≤ st.maxFields := by
    have hle := Filters.length_fetches hcovers' fun _ => true
    rw [List.filter_true, List.length_map] at hle
    exact hle.trans ((List.length_filter_le _ _).trans ht.length_le)
  have hitems : fs.addItems t (([.all] : List SelectItem).length ≤ 1) [.all] =
      .ok ((fs.addFields t.fields).1 ++ [], (fs.addFields t.fields).2) := rfl
  have hp := build_iff.2 ⟨fs, _, _, h1, hitems, hlen, rfl⟩
  refine ⟨_, hp, ⟨rfl, ?_, rfl, ?_, ?_, ?_⟩⟩
  · obtain ⟨xs, hdirect, hxs⟩ := directKey_of_equations ht hp hcs.columns hcs.equations
    have hsame : xs = parts := (forall₂_eq_iff hxs hboth (P := fun _ => True) fun f hf x w hx hw => by
      obtain ⟨-, c, hc, hname, flt, hflt, rfl⟩ := hx
      obtain ⟨⟨v, hv⟩, hw⟩ := hw
      obtain ⟨hmem, hkey⟩ := Table.mem_keyFields.1 hf
      obtain ⟨flt', hflt', hvalue⟩ := filterFor_part hkey (ht.keyType hmem hkey) hv (hcs.equations c hc) (hw c hc hname)
      cases hflt.symm.trans hflt'
      exact iff_of_true hvalue trivial).2 fun _ _ => trivial
    rw [hdirect, hsame]
  · intro k hk
    obtain ⟨k₀, hk₀, rfl⟩ := List.mem_map.1 hk
    exact (hone k₀ hk₀).1
  · intro g hg
    refine List.eq_nil_iff_forall_not_mem.2 fun flt hflt => ?_
    -- All conditions are on parts of the row key.
    obtain ⟨c, hc, hgives⟩ := (hcovers'.fetchChain g hg flt).1 hflt
    obtain ⟨f, hf, hname⟩ := hcolumn c hc
    obtain ⟨hmem, hkey⟩ := Table.mem_keyFields.1 hf
    have hsame : g.field = f := Option.some.inj (hgives.1.symm.trans (ht.field?_iff.2 ⟨hmem, hname⟩))
    have hattr := (hcovers'.fetched g hg).2
    rw [hsame, hkey] at hattr
    cases hattr
  · show t.fields.Forall₂ _ ((fs.addFields t.fields).1 ++ [])
    rw [List.append_nil]
    exact addFields_outputs _ _

end Plan
end SlotSql
