import SlotSql.Proofs.Rows.Upsertion
/-!
# Values and the literals they were written with

A value is stored in one form of its literal, and the filter of a condition holds one form of the literal
that it compares with. For all types but those of days and times the two go together, so that a value is
found with the literal that it was written with. A day or a time is stored with all its digits, but compared
with a literal as it stands.

Results:
* `value_of_stored`: the literal of a filter beside the stored form of the same literal.
* `accepts_stored`: whether an equation accepts the stored form of its own literal.
* `addCondition_exact`, `conditions_exact`: the filters on a part of the row key, in the order of their conditions.
* `found_by_literal`: what is found and which key is looked up with the literals of a statement.
-/
namespace SlotSql

open Evaluation

variable {t : Table} {st : Settings} {f : Field} {c : Condition} {flt : Filter} {v w : String} {now : Int}

/-! ## One value -/

namespace Evaluation

/-- No double is less than itself. -/
theorem not_lt_self (x : Float) : ¬ x < x := by
  have hself (y : Float.Model.UnpackedFloat) : y.compare y ≠ some .lt := by
    cases y with
    | notANumber => nofun
    | infinity s => cases s <;> decide
    | zero s => nofun
    | finite s m e h =>
      have hm : compare m m = .eq := Std.ReflCmp.compare_self
      have he : compare e e = .eq := Std.ReflCmp.compare_self
      cases s with
      | positive =>
        show some ((compare e e).then (compare m m)) ≠ _
        rw [he, hm]
        decide
      | negative =>
        show some ((compare e e).then (compare m m)).swap ≠ _
        rw [he, hm]
        decide
  show ¬ (decide (x.toModel < x.toModel) = true)
  rw [decide_eq_true_eq]
  show ¬ ((x.toModel.unpack.compare x.toModel.unpack == some .lt) = true)
  rw [beq_iff_eq]
  exact hself _

theorem doubleOrder_self (x : Float) : doubleOrder x x = .eq := by
  unfold doubleOrder
  rw [if_neg (not_lt_self x), if_neg (not_lt_self x)]

end Evaluation

namespace Filter

/-- The literal of a filter beside the stored form of the same literal: they differ only for days and times. -/
theorem value_of_stored (h : Plan.filterFor f c = .ok flt) (hs : f.stored c.value.value = .ok w)
    (hc : c.comparison ≠ .ignore) (hf : f.type.isFloat = false) :
    flt.value = if f.type.isTemporal = true then c.value.value else w := by
  cases hi : f.type.isInteger with
  | true =>
    obtain ⟨n, hn, hv⟩ := value_of_integer h hc hi
    obtain ⟨m, hm, hw⟩ := stored_integer hi hs
    have ht : f.type.isTemporal = false := by
      cases hty : f.type <;> rw [hty] at hi <;> first | rfl | cases hi
    cases hn.symm.trans hm
    rw [hv, hw, ht, if_neg Bool.false_ne_true]
  | false =>
    have hv : flt.value = c.value.value := (value_filterFor h).resolve_right fun hr => by
      rw [hi] at hr
      cases hr.1
    cases ht : f.type.isTemporal with
    | true => rw [if_pos rfl, hv]
    | false =>
      have hn : f.type.isNumeric = false := by unfold ValueType.isNumeric; rw [hi, hf]; rfl
      rw [if_neg Bool.false_ne_true, hv, stored_verbatim hs hn ht]

/-- An equation accepts the stored form of its own literal, unless that is a day or a time in another form. -/
theorem accepts_stored (h : Plan.filterFor f c = .ok flt) (hs : f.stored c.value.value = .ok w)
    (hc : c.comparison = .eq) :
    flt.accepts (some f.type) w = .ok (decide (f.type.isTemporal = true → w = c.value.value)) := by
  have hig : c.comparison ≠ .ignore := by rw [hc]; decide
  cases hf : f.type.isFloat with
  | true =>
    obtain ⟨hv, y, hy⟩ := double_of_filterFor h hig hf
    obtain ⟨z, hz, -, rfl⟩ := stored_float hf hs
    cases hy.symm.trans hz
    have hnum : f.type.isNumeric = true := by unfold ValueType.isNumeric; rw [hf, Bool.or_true]
    have ht : f.type.isTemporal = false := by
      rw [ValueType.isFloat, beq_iff_eq] at hf
      rw [hf]
      rfl
    have horder : numberOrder f.type (Text.trimmed c.value.value) flt.value = .ok .eq := by
      unfold numberOrder
      rw [if_pos hf, double_trimmed f.type _ hy, hv, hy]
      show Except.ok (doubleOrder y y) = _
      rw [doubleOrder_self]
    rw [accepts_number hnum (comparison_filterFor h ▸ hig) (by rw [comparison_filterFor h, hc]; rfl), horder,
      comparison_filterFor h, hc, decide_eq_true fun ht' => absurd (ht'.symm.trans ht) (by decide)]
    rfl
  | false =>
    obtain ⟨b, hb⟩ := accepts_readable h (stored_readable hs)
    have hiff := accepts_eq_iff h ((comparison_filterFor h).trans hc) hf (stored_stored hs)
    rw [hb, Except.ok.injEq, value_of_stored h hs hig hf] at hiff
    rw [hb]
    refine congrArg _ (Bool.eq_iff_iff.2 (hiff.trans ?_))
    rw [decide_eq_true_eq]
    split
    · next ht => exact ⟨fun he _ => he, fun he => he ht⟩
    · next ht => exact ⟨fun _ ht' => absurd ht' ht, fun _ => rfl⟩

end Filter

/-! ## The filters on a part of the row key -/

namespace Plan

variable {cs : List Condition} {items : List SelectItem} {p : Plan} {fs fs' : Filters} {k : KeyFilter}

/-- On every part of the row key stand the filters of the conditions on it, one for each and in their order. -/
def Filters.Exact (cs : List Condition) (fs : Filters) : Prop :=
  ∀ k ∈ fs.keys, (cs.filter fun c => c.column == k.field.name).Forall₂
    (fun c flt => filterFor k.field c = .ok flt) k.chain

namespace Filters

/-- Taking in a condition adds its filter to one part, or to none. -/
theorem addCondition_exact (ht : t.Valid st) (h : fs.Covers t cs) (he : fs.Exact cs)
    (ha : addCondition t fs c = .ok fs') : fs'.Exact (cs ++ [c]) := by
  unfold addCondition at ha
  obtain ⟨f, hf, ha⟩ := except_bind_eq_ok.1 ha
  obtain ⟨flt, hflt, ha⟩ := except_bind_eq_ok.1 ha
  obtain ⟨hmem, hname⟩ := Table.mem_of_field? (fieldOf_eq_ok.1 hf)
  have hother {k : KeyFilter} (hk : k ∈ fs.keys) (hne : k.field.name ≠ f.name) :
      ((cs ++ [c]).filter fun c => c.column == k.field.name).Forall₂
        (fun c flt => filterFor k.field c = .ok flt) k.chain := by
    have hc : (c.column == k.field.name) = false := beq_eq_false_iff_ne.2 fun hc => hne (hc ▸ hname).symm
    rw [List.filter_append, List.filter_cons_of_neg (by rw [hc]; exact Bool.false_ne_true), List.filter_nil,
      List.append_nil]
    exact he k hk
  split at ha
  · next i hi =>
    cases ha
    have hmap : fs.keys.modify i (fun k => { k with chain := k.chain ++ [flt] }) = fs.keys.map fun k =>
        if (k.field.name == f.name) = true then { k with chain := k.chain ++ [flt] } else k :=
      modify_findIdx? hi (pairwise_name (h.keys_nodup ht) f.name)
    intro k hk
    rw [hmap] at hk
    obtain ⟨k₀, hk₀, rfl⟩ := List.mem_map.1 hk
    by_cases hk₁ : (k₀.field.name == f.name) = true
    · obtain rfl : k₀.field = f := ht.eq_of_name (h.mem_key hk₀).1 hmem (beq_iff_eq.1 hk₁)
      rw [if_pos hk₁, List.filter_append,
        List.filter_cons_of_pos (by simpa using hname.symm), List.filter_nil]
      exact List.rel_append (he k₀ hk₀) (.cons hflt .nil)
    · rw [if_neg hk₁]
      exact hother hk₀ fun hn => hk₁ (beq_iff_eq.2 hn)
  · next hi =>
    cases ha
    intro k hk
    have hk : k ∈ fs.keys := by
      have hkeys : (fs.fetch f).2.keys = fs.keys := by
        unfold Filters.fetch
        split <;> rfl
      exact hkeys ▸ hk
    refine hother hk ?_
    have hnone := List.findIdx?_eq_none_iff.1 hi k hk
    exact beq_eq_false_iff_ne.1 hnone

/-- Taking in conditions. -/
theorem conditions_exact (ht : t.Valid st) {more : List Condition} (h : fs.Covers t cs) (he : fs.Exact cs)
    (ha : more.foldlM (addCondition t) fs = .ok fs') : fs'.Exact (cs ++ more) := by
  induction more generalizing cs fs with
  | nil =>
    cases ha
    rw [List.append_nil]
    exact he
  | cons c more ih =>
    rw [List.foldlM_cons] at ha
    obtain ⟨fs₁, hc, ha⟩ := except_bind_eq_ok.1 ha
    rw [List.append_cons]
    exact ih (addCondition_covers ht h hc) (addCondition_exact ht h he hc) ha

end Filters

/-- A single equation on a part of the row key binds it, and nothing else is asked of the part. -/
theorem bind_equation (h : k.chain = [flt]) (hc : flt.comparison = .eq) :
    (bind k).bound = some flt.value ∧ (bind k).chain = [] := by
  have hfilter : k.chain.filter (fun f => f.comparison = .eq) = [flt] := by
    rw [h, List.filter_cons_of_pos (by simpa using hc), List.filter_nil]
  have hrest : k.chain.filter (fun f => f.comparison ≠ .eq) = [] := by
    rw [h, List.filter_cons_of_neg (by simpa using hc), List.filter_nil]
  unfold bind
  rw [hfilter]
  exact ⟨rfl, hrest⟩

theorem mapM_some {α β : Type} {g : α → Option β} {l : List α} (h : ∀ a ∈ l, ∃ b, g a = some b) :
    ∃ bs, l.mapM g = some bs := by
  induction l with
  | nil => exact ⟨[], rfl⟩
  | cons a as ih =>
    obtain ⟨b, hb⟩ := h a List.mem_cons_self
    obtain ⟨bs, hbs⟩ := ih fun x hx => h x (List.mem_cons_of_mem _ hx)
    exact ⟨b :: bs, by rw [List.mapM_cons, hb, hbs]; rfl⟩

/-- Conditions on columns that are named apart are found by the names of the columns. -/
theorem filter_column (hn : (cs.map Condition.column).Nodup) {n : String} (h : n ∈ cs.map Condition.column) :
    ∃ c ∈ cs, c.column = n ∧ cs.filter (fun c => c.column == n) = [c] := by
  have hone : (cs.filter fun c => c.column == n).map Condition.column = [n] := by
    have hmap := List.filter_map (f := Condition.column) (p := fun m => m == n) (l := cs)
    rw [List.filter_beq, List.count_eq_one_of_mem hn h] at hmap
    exact hmap.symm
  obtain ⟨c, hc, hname⟩ := List.map_eq_singleton_iff.1 hone
  exact ⟨c, List.mem_of_mem_filter (hc ▸ List.mem_singleton_self c : c ∈ cs.filter fun c => c.column == n),
    hname, hc⟩

/-- With equations on distinct columns, a part of the row key is bound if there is one on it and open if there is none,
and nothing else is asked of it. -/
theorem bound_of_distinct (ht : t.Valid st)
    (h : cs.foldlM (Filters.addCondition t) { keys := t.keyFields.map fun f => { field := f } } = .ok fs)
    (hnodup : (cs.map Condition.column).Nodup) (heq : ∀ c ∈ cs, c.comparison = .eq) :
    fs.Covers t cs ∧ ∀ k ∈ fs.keys, (bind k).chain = [] ∧ ((∃ c ∈ cs, c.column = k.field.name ∧
      ∃ flt, filterFor k.field c = .ok flt ∧ (bind k).bound = some flt.value) ∨
        k.field.name ∉ cs.map Condition.column ∧ (bind k).bound = none) := by
  have hstart := Filters.covers_start t
  have hc : fs.Covers t cs := by
    have := Filters.conditions_cover ht hstart h
    rwa [List.nil_append] at this
  have he : fs.Exact cs := by
    have := Filters.conditions_exact ht hstart (fun k hk => ?_) h
    · rwa [List.nil_append] at this
    · obtain ⟨f, -, rfl⟩ := List.mem_map.1 hk
      exact .nil
  refine ⟨hc, fun k hk => ?_⟩
  have hchain := he k hk
  by_cases hname : k.field.name ∈ cs.map Condition.column
  · obtain ⟨c, hmem, hcol, hfilter⟩ := filter_column hnodup hname
    rw [hfilter] at hchain
    obtain ⟨flt, rest, hflt, hrest, hk'⟩ := List.forall₂_cons_left_iff.1 hchain
    cases hrest
    obtain ⟨hbound, hempty⟩ := bind_equation hk' ((Filter.comparison_filterFor hflt).trans (heq c hmem))
    exact ⟨hempty, .inl ⟨c, hmem, hcol, flt, hflt, hbound⟩⟩
  · have hnone : cs.filter (fun c => c.column == k.field.name) = [] :=
      List.filter_eq_nil_iff.2 fun c hmem hcol => hname (List.mem_map.2 ⟨c, hmem, beq_iff_eq.1 hcol⟩)
    rw [hnone] at hchain
    have hempty : k.chain = [] := by
      cases hk' : k.chain with
      | nil => rfl
      | cons flt rest =>
        rw [hk'] at hchain
        cases hchain
    have hopen : bind k = k := by
      unfold bind
      rw [hempty]
      rfl
    rw [hopen]
    exact ⟨hempty, .inr ⟨hname, hc.unbound k hk⟩⟩

/-- With one equation for every part of the row key, each part is bound and nothing else is asked of it. -/
theorem bound_of_equations (ht : t.Valid st)
    (h : cs.foldlM (Filters.addCondition t) { keys := t.keyFields.map fun f => { field := f } } = .ok fs)
    (hcs : (cs.map Condition.column).Perm (t.keyFields.map Field.name)) (heq : ∀ c ∈ cs, c.comparison = .eq) :
    fs.Covers t cs ∧ ∀ k ∈ fs.keys, (bind k).chain = [] ∧ ∃ c ∈ cs, c.column = k.field.name ∧
      ∃ flt, filterFor k.field c = .ok flt ∧ (bind k).bound = some flt.value := by
  obtain ⟨hc, hone⟩ := bound_of_distinct ht h (hcs.nodup_iff.2 ht.keys_nodup) heq
  refine ⟨hc, fun k hk => ?_⟩
  obtain ⟨hempty, hbound⟩ := hone k hk
  have hname : k.field.name ∈ cs.map Condition.column := by
    rw [hcs.mem_iff]
    exact List.mem_map_of_mem (Table.mem_keyFields.2 (hc.mem_key hk))
  exact ⟨hempty, hbound.resolve_right fun hnone => hnone.1 hname⟩

/-- With one equation for every part of the row key a plan looks up the key that the filters make up. -/
theorem directKey_of_equations (ht : t.Valid st) (hp : build st t cs items = .ok p)
    (hcs : (cs.map Condition.column).Perm (t.keyFields.map Field.name)) (heq : ∀ c ∈ cs, c.comparison = .eq) :
    ∃ xs, p.directKey = some (t.rowKey xs) ∧ t.keyFields.Forall₂ (fun f x => ':' ∉ x.toList ∧
      ∃ c ∈ cs, c.column = f.name ∧ ∃ flt, filterFor f c = .ok flt ∧ flt.value = x) xs := by
  obtain ⟨fs, os, fs', h1, -, -, rfl⟩ := build_iff.1 hp
  obtain ⟨hc, hone⟩ := bound_of_equations ht h1 hcs heq
  obtain ⟨xs, hxs⟩ := mapM_some (g := KeyFilter.bound) (l := fs.keys.map bind) fun k hk => by
    obtain ⟨k₀, hk₀, rfl⟩ := List.mem_map.1 hk
    obtain ⟨-, -, -, -, flt, -, hb⟩ := hone k₀ hk₀
    exact ⟨_, hb⟩
  refine ⟨xs, by simp only [hxs, Option.map_some], ?_⟩
  have hall := forall₂_of_mapM hxs
  rw [List.forall₂_map_left_iff, List.forall₂_iff_zip] at hall
  rw [← hc.keys, List.forall₂_map_left_iff, List.forall₂_iff_zip]
  refine ⟨hall.1, fun {k x} hkx => ?_⟩
  have hk := (List.of_mem_zip hkx).1
  have hx := hall.2 hkx
  obtain ⟨-, c, hmem, hcol, flt, hflt, hb⟩ := hone k hk
  exact ⟨(onKey ht hc hk).plain_bound hx (by decide), c, hmem, hcol, flt, hflt,
    Option.some.inj (hb.symm.trans hx)⟩

end Plan

/-! ## Literals of a statement -/

namespace Upsertion

variable {u : Upsertion} {pu : PreparedUpsertion} {key : String}

/-- A statement writes a literal with the given text into a column. -/
def Writes (u : Upsertion) (column text : String) : Prop :=
  ∃ vs l, u.source = .values vs ∧ (column, NewValue.literal l) ∈ u.columns.zip vs ∧ l.value = text

/-- Conditions that ask for every part of the row key, once and with the literal that a statement writes into it. -/
structure Equates (t : Table) (u : Upsertion) (cs : List Condition) : Prop where
  columns : (cs.map Condition.column).Perm (t.keyFields.map Field.name)
  equations : ∀ c ∈ cs, c.comparison = .eq
  literals : ∀ c ∈ cs, u.Writes c.column c.value.value

/-- The parts of the key of a prepared statement are the stored forms of the literals that it writes. -/
theorem prepare_literals (ht : t.Valid st) (h : prepare t now u = .ok pu) (hk : pu.key = some key) :
    ∃ ws, key = t.rowKey ws ∧ t.keyFields.Forall₂
      (fun f w => ∀ text, u.Writes f.name text → f.normalize text = .ok w) ws := by
  obtain ⟨vs, ws, hsource, hnodup, hws, hall⟩ := prepare_key ht h hk
  refine ⟨ws, hws, hall.imp fun f w hfw => ?_⟩
  obtain ⟨v, raw, hv, hraw, hnorm⟩ := hfw
  rintro text ⟨vs', l, hsource', hl, rfl⟩
  cases hsource.symm.trans hsource'
  -- The columns are named apart, so the literal is the value that was stored.
  cases (lookup_zip hnodup hv).symm.trans (lookup_zip hnodup hl)
  cases hraw
  exact hnorm

end Upsertion

/-! ## Keys -/

/-- Two keys of rows are equal if their parts are. -/
theorem rowKey_eq_iff {xs ws : List String} (hl : ws.length = xs.length) (hx : ∀ x ∈ xs, ':' ∉ x.toList) :
    t.rowKey xs = t.rowKey ws ↔ xs = ws := by
  refine ⟨fun h => ?_, fun h => by rw [h]⟩
  have hlist := congrArg String.toList h
  unfold Table.rowKey at hlist
  rw [Key.toList_row, Key.toList_row] at hlist
  have hparts : (ws.map String.toList).flatMap (':' :: ·) = (xs.map String.toList).flatMap (':' :: ·) := by
    have h1 := List.append_cancel_right hlist
    injection h1 with _ h2
    have h3 := List.append_cancel_left h2
    injection h3 with _ h4
    injection h4 with _ h5
    exact (List.append_cancel_left h5).symm
  have hsame := Text.pieces_aligned (by rw [List.length_map, List.length_map, hl])
    (by simpa using hx) hparts
  exact (List.map_injective_iff.2 (fun _ _ => String.toList_inj.1) hsame).symm

/-- Lists that go with a third one are equal just when they are where it says. -/
theorem forall₂_eq_iff {α β : Type} {as : List α} {xs ws : List β} {R S : α → β → Prop} {P : α → Prop}
    (hx : as.Forall₂ R xs) (hw : as.Forall₂ S ws) (h : ∀ a ∈ as, ∀ x w, R a x → S a w → (x = w ↔ P a)) :
    xs = ws ↔ ∀ a ∈ as, P a := by
  induction hx generalizing ws with
  | nil =>
    cases hw
    simp
  | cons hr _ ih =>
    cases hw with
    | cons hs hrest =>
      rw [List.cons.injEq, List.forall_mem_cons, h _ List.mem_cons_self _ _ hr hs,
        ih hrest fun a ha => h a (List.mem_cons_of_mem _ ha)]

/-- A value is found with the literal that it was written with, and the row of a statement is looked up with the
literals of its key, just when no literal of a day or a time is written in another form than it is stored. -/
theorem found_by_literal (st : Settings) (t : Table) (now : Int) :
    (∀ (f : Field) (c : Condition) (flt : Filter) (w : String), c.comparison = .eq →
      f.normalize c.value.value = .ok w → Plan.filterFor f c = .ok flt →
        flt.accepts (some f.type) w = .ok (decide (f.type.isTemporal = true → w = c.value.value))) ∧
    ∀ (u : Upsertion) (pu : PreparedUpsertion) (key : String) (cs : List Condition) (items : List SelectItem)
      (p : Plan), t.Valid st →
      Upsertion.prepare t now u = .ok pu → pu.key = some key → u.Equates t cs →
      Plan.build st t cs items = .ok p →
        ∃ key', p.directKey = some key' ∧ (key' = key ↔ ∀ f ∈ t.keyFields, f.type.isTemporal = true →
          ∀ c ∈ cs, c.column = f.name → f.normalize c.value.value = .ok c.value.value) := by
  refine ⟨fun f c flt w hc hw hflt => Filter.accepts_stored hflt (stored_of_normalize hw) hc, ?_⟩
  intro u pu key cs items p ht hprep hkey hequates hp
  obtain ⟨ws, rfl, hws⟩ := Upsertion.prepare_literals ht hprep hkey
  obtain ⟨xs, hdirect, hxs⟩ := Plan.directKey_of_equations ht hp hequates.columns hequates.equations
  have hplain : ∀ x ∈ xs, ':' ∉ x.toList := fun x hx =>
    let ⟨_, _, hplain, _⟩ := exists_of_mem_right hxs hx
    hplain
  refine ⟨_, hdirect, (rowKey_eq_iff (hws.length_eq.symm.trans hxs.length_eq) hplain).trans ?_⟩
  refine forall₂_eq_iff hxs hws fun f hf x w hx hw => ?_
  obtain ⟨-, c, hmem, hcol, flt, hflt, rfl⟩ := hx
  have hnorm := hw _ (hcol ▸ hequates.literals c hmem)
  have hfloat : f.type.isFloat = false := by
    have hty := ht.keyType (Table.mem_keyFields.1 hf).1 (Table.mem_keyFields.1 hf).2
    cases hft : f.type <;> rw [hft] at hty <;> first | rfl | cases hty
  have hig : c.comparison ≠ .ignore := by rw [hequates.equations c hmem]; decide
  rw [Filter.value_of_stored hflt (stored_of_normalize hnorm) hig hfloat]
  have hone {c' : Condition} (hc' : c' ∈ cs) (hcol' : c'.column = f.name) : c' = c :=
    List.inj_on_of_nodup_map (hequates.columns.nodup_iff.2 ht.keys_nodup) hc' hmem (hcol'.trans hcol.symm)
  split
  · next htemp =>
    constructor
    · intro he _ c' hc' hcol'
      rw [hone hc' hcol', hnorm, he]
    · intro h
      exact Except.ok.inj ((h htemp c hmem hcol).symm.trans hnorm)
  · next htemp => exact ⟨fun _ htemp' => absurd htemp' htemp, fun _ => rfl⟩

/-- The hits of each day. -/
def visitTable : Table where
  tablespace := "t"
  name := "visits"
  fields := [{ name := "day", type := .date, length := 10, ordinal := 1, nullable := false },
    { name := "hits", type := .ub4x, length := 4 }]

/-- The statement that writes the visits of a day. -/
def visitUpsertion (day hits : String) : Upsertion where
  table := visitTable.tableName
  columns := ["day", "hits"]
  source := .values [.literal ⟨day, true⟩, .literal ⟨hits, false⟩]
  onDuplicate := .overwrite

/-- The condition on the day. -/
def visitConditions (day : String) : List Condition := [⟨"day", .eq, ⟨day, true⟩⟩]

theorem visitUpsertion_equates (day hits : String) :
    (visitUpsertion day hits).Equates visitTable (visitConditions day) where
  columns := by
    have hkey : visitTable.keyFields.map Field.name = ["day"] := by decide +kernel
    rw [hkey]
    exact .refl _
  equations := by simp [visitConditions]
  literals := by
    intro c hc
    rw [List.mem_singleton.1 hc]
    exact ⟨_, ⟨day, true⟩, rfl, List.mem_cons_self, rfl⟩

/-- A number is found with its literal, a day written with fewer digits is not, neither as a value nor as a key. -/
theorem found_by_literal_visits :
    (∃ flt, Plan.filterFor { name := "hits", type := .ub4x, length := 4 } ⟨"hits", .eq, ⟨"0x0A", false⟩⟩ = .ok flt ∧
      flt.accepts (some .ub4x) "a" = .ok true) ∧
    ∃ pu p key', Upsertion.prepare visitTable 0 (visitUpsertion "2024-5-6" "0x0A") = .ok pu ∧
      pu.key = some "{t::visits:2024-05-06}" ∧
      Plan.build {} visitTable (visitConditions "2024-5-6") [.all] = .ok p ∧ p.directKey = some key' ∧
        key' ≠ "{t::visits:2024-05-06}" := by
  have hvalid : visitTable.Valid {} := by decide +kernel
  obtain ⟨hvalue, hkey⟩ := found_by_literal {} visitTable 0
  constructor
  · obtain ⟨flt, hflt⟩ : ∃ flt, Plan.filterFor { name := "hits", type := .ub4x, length := 4 }
        ⟨"hits", .eq, ⟨"0x0A", false⟩⟩ = .ok flt := ⟨⟨.eq, "a", none⟩, rfl⟩
    exact ⟨flt, hflt, hvalue _ _ flt "a" rfl (by decide +kernel) hflt⟩
  · have hstored : (Upsertion.prepare visitTable 0 (visitUpsertion "2024-5-6" "0x0A")).toOption.bind
        PreparedUpsertion.key = some "{t::visits:2024-05-06}" := by decide +kernel
    have hplan : (Plan.build {} visitTable (visitConditions "2024-5-6") [.all]).isOk = true := by
      decide +kernel
    cases hpu : Upsertion.prepare visitTable 0 (visitUpsertion "2024-5-6" "0x0A") with
    | error e => rw [hpu] at hstored; cases hstored
    | ok pu =>
      rw [hpu] at hstored
      cases hp : Plan.build {} visitTable (visitConditions "2024-5-6") [.all] with
      | error e => rw [hp] at hplan; cases hplan
      | ok p =>
        obtain ⟨key', hdirect, hiff⟩ := hkey _ pu _ _ _ p hvalid hpu hstored
          (visitUpsertion_equates "2024-5-6" "0x0A") hp
        refine ⟨pu, p, key', rfl, hstored, rfl, hdirect, fun he => ?_⟩
        have hsame := hiff.1 he
          { name := "day", type := .date, length := 10, ordinal := 1, nullable := false }
          (by decide +kernel) rfl _ List.mem_cons_self rfl
        exact absurd hsame (by decide +kernel)

end SlotSql
