import SlotSql.Proofs.Rows.Effect
/-!
# What a statement leaves of each attribute

A statement names each column once. So of the values that it writes to a row, and of its assignments, there is one at
most for each attribute, and what it leaves of the attribute depends on this one only.

Results:
* `prepare_nodup`: a statement names each column once.
* `plain_written`, `members_written`: what is left of an attribute when a row is written.
* `plain_updated`, `members_updated`: what is left of it when assignments are carried out.
-/
namespace SlotSql

open Store

variable {t : Table} {st : Settings} {now : Int} {n : String} {w : RowImage}

/-! ## One value for each name -/

theorem lookup_of_mem {α : Type} {ps : List (String × α)} {v : α} (hn : (ps.map Prod.fst).Nodup) (h : (n, v) ∈ ps) :
    ps.lookup n = some v := by
  induction ps with
  | nil => cases h
  | cons p ps ih =>
    obtain ⟨hp, hn⟩ := List.nodup_cons.1 hn
    rw [KeyMap.lookup_cons_if]
    rcases List.mem_cons.1 h with rfl | h
    · exact if_pos rfl
    · have hne : n ≠ p.1 := fun he => hp (List.mem_map.2 ⟨_, h, he⟩)
      rw [if_neg hne, ih hn h]

namespace RowImage

variable {pairs : List (String × Bytes)} {v : Bytes}

theorem plain_overlay (hn : (pairs.map Prod.fst).Nodup) (h : (n, v) ∈ pairs) : (w.overlay pairs).plain n = some v := by
  have hr : (pairs.reverse.map Prod.fst).Nodup := by
    rw [List.map_reverse]
    exact List.nodup_reverse.2 hn
  show (pairs.reverse.lookup n).or (w.plain n) = some v
  rw [lookup_of_mem hr (List.mem_reverse.2 h), Option.some_or]

theorem plain_overlay_other (h : n ∉ pairs.map Prod.fst) : (w.overlay pairs).plain n = w.plain n := by
  have hnone : pairs.reverse.lookup n = none := List.lookup_eq_none_iff.2 fun p hp => by
    simpa using fun he : n = p.1 => h (he ▸ List.mem_map_of_mem (f := Prod.fst) (List.mem_reverse.1 hp))
  show (pairs.reverse.lookup n).or (w.plain n) = _
  rw [hnone, Option.none_or]

/-- Nothing that a row has is lost when fields are written over it. -/
theorem plain_overlay_isSome (h : (w.plain n).isSome = true) : ((w.overlay pairs).plain n).isSome = true := by
  show ((pairs.reverse.lookup n).or (w.plain n)).isSome = true
  rw [Option.isSome_or, h, Bool.or_true]

section Change

variable {α : Type} {c : α → String} {g : α → Set String → Set String} {as : List α} {a : α}

theorem plain_changes : (as.foldl (fun w a => w.change (c a) (g a)) w).plain = w.plain := by
  induction as generalizing w with
  | nil => rfl
  | cons a as ih => exact ih

/-- A set that none of some changes is about stays as it is. -/
theorem members_changes_other (h : ∀ a ∈ as, c a ≠ n) :
    (as.foldl (fun w a => w.change (c a) (g a)) w).members n = w.members n := by
  induction as generalizing w with
  | nil => rfl
  | cons a as ih =>
    exact (ih fun b hb => h b (List.mem_cons_of_mem _ hb)).trans (if_neg (h a List.mem_cons_self).symm)

/-- Of changes of different sets, each is carried out on its own set. -/
theorem members_changes (hn : (as.map c).Nodup) (ha : a ∈ as) :
    (as.foldl (fun w a => w.change (c a) (g a)) w).members (c a) = g a (w.members (c a)) := by
  induction as generalizing w with
  | nil => cases ha
  | cons b as ih =>
    obtain ⟨hb, hn⟩ := List.nodup_cons.1 hn
    rcases List.mem_cons.1 ha with rfl | ha
    · exact (members_changes_other fun x hx he => hb (List.mem_map.2 ⟨x, hx, he⟩)).trans (if_pos rfl)
    · have hne : c a ≠ c b := fun he => hb (List.mem_map.2 ⟨a, ha, he⟩)
      refine (ih hn ha).trans ?_
      show g a (if c a = c b then _ else w.members (c a)) = _
      rw [if_neg hne]

end Change
end RowImage

namespace Upsertion

/-! ## Statements -/

theorem storedValues_fields {fvs : List (Field × NewValue)} {values : List (Field × String)}
    (h : storedValues now fvs = .ok values) : values.map Prod.fst = fvs.map Prod.fst := by
  induction fvs generalizing values with
  | nil =>
    cases h
    rfl
  | cons fv fvs ih =>
    unfold storedValues at h
    obtain ⟨raw, -, h⟩ := except_bind_eq_ok.1 h
    obtain ⟨x, -, h⟩ := except_bind_eq_ok.1 h
    obtain ⟨rest, hr, h⟩ := except_bind_eq_ok.1 h
    cases h
    exact congrArg (fv.1 :: ·) (ih hr)

/-- A column is assigned to once. -/
theorem assignments_nodup {before : List String} {as : List Assignment} {ps : List PreparedAssignment}
    (h : assignments t now before as = .ok ps) :
    (ps.map fun a => a.field.name).Nodup ∧ ∀ a ∈ ps, a.field.name ∉ before := by
  induction as generalizing before ps with
  | nil =>
    cases h
    exact ⟨List.nodup_nil, by simp⟩
  | cons a as ih =>
    unfold assignments at h
    cases hf : t.field? a.column with
    | none => rw [hf] at h; cases h
    | some f =>
      rw [hf] at h
      simp only [] at h
      by_cases hk : f.isKey = true
      · rw [if_pos hk] at h
        cases h
      · rw [if_neg hk] at h
        by_cases hb : before.contains f.name = true
        · rw [if_pos hb] at h
          cases h
        · rw [if_neg hb] at h
          obtain ⟨raw, -, h⟩ := except_bind_eq_ok.1 h
          have hcons {x : String} {rest : List PreparedAssignment}
              (hr : assignments t now (f.name :: before) as = .ok rest) (hps : ps = ⟨f, a.op, x⟩ :: rest) :
              (ps.map fun a => a.field.name).Nodup ∧ ∀ a ∈ ps, a.field.name ∉ before := by
            subst hps
            obtain ⟨h1, h2⟩ := ih hr
            refine ⟨List.nodup_cons.2 ⟨fun hm => ?_, h1⟩, fun b hb' => ?_⟩
            · obtain ⟨b, hb', he⟩ := List.mem_map.1 hm
              exact h2 b hb' (he ▸ List.mem_cons_self)
            · rcases List.mem_cons.1 hb' with rfl | hb'
              · simpa using hb
              · exact fun hm => h2 b hb' (List.mem_cons_of_mem _ hm)
          by_cases hop : a.op = .set
          · rw [if_pos hop] at h
            obtain ⟨x, -, h⟩ := except_bind_eq_ok.1 h
            obtain ⟨rest, hr, h⟩ := except_bind_eq_ok.1 h
            exact hcons hr (Except.ok.inj h).symm
          · rw [if_neg hop] at h
            obtain ⟨x, -, h⟩ := except_bind_eq_ok.1 h
            obtain ⟨rest, hr, h⟩ := except_bind_eq_ok.1 h
            exact hcons hr (Except.ok.inj h).symm

/-- A statement names each column once. -/
structure Distinct (pu : PreparedUpsertion) : Prop where
  values : (pu.values.map fun v => v.1.name).Nodup
  mode : ∀ as, pu.mode = .update as → (as.map fun a => a.field.name).Nodup

theorem prepare_distinct {u : Upsertion} {pu : PreparedUpsertion} (h : prepare t now u = .ok pu) : Distinct pu := by
  obtain ⟨-, ⟨q, hnil, -, hmode⟩ | ⟨fs, vs, -, hfs, hlen, hvalues, -, hmode⟩⟩ := prepare_ok h
  · refine ⟨by rw [hnil]; exact List.nodup_nil, fun as has => ?_⟩
    rw [hmode] at has
    cases has
  · refine ⟨?_, fun as has => ?_⟩
    · obtain ⟨hnames, hnodup, -⟩ := fields_names hfs
      have hfields : pu.values.map Prod.fst = fs := by
        rw [storedValues_fields hvalues, List.map_fst_zip (Nat.le_of_eq hlen.symm)]
      show (pu.values.map (Field.name ∘ Prod.fst)).Nodup
      rw [← List.map_map, hfields, hnames]
      exact hnodup
    · rw [has] at hmode
      obtain ⟨bs, ps, -, hps, hm⟩ | ⟨-, hm⟩ := mode_ok hmode
      · cases hm
        exact (assignments_nodup hps).1
      · rcases hm with hm | hm <;> cases hm

/-- A statement that writes over rows, or leaves them as they are, has a value for every column that needs one. -/
theorem prepare_present {u : Upsertion} {pu : PreparedUpsertion} (h : prepare t now u = .ok pu)
    (hmode : pu.mode = .overwrite ∨ pu.mode = .ignore) : checkPresent t pu.values = .ok () := by
  obtain ⟨-, ⟨q, -, -, hq⟩ | ⟨fs, vs, -, -, -, -, -, hm⟩⟩ := prepare_ok h
  · rw [hq] at hmode
    rcases hmode with hm | hm <;> cases hm
  · obtain ⟨bs, ps, -, -, hps⟩ | ⟨hpresent, -⟩ := mode_ok hm
    · rw [hps] at hmode
      rcases hmode with hm | hm <;> cases hm
    · exact hpresent

/-- There is a value for every column that cannot be absent. -/
theorem checkPresent_ok {values : List (Field × String)} {f : Field} (h : checkPresent t values = .ok ())
    (hf : f ∈ t.fields) (hn : f.nullable = false) : ∃ v ∈ values, v.1.name = f.name := by
  unfold checkPresent at h
  split at h
  · cases h
  · next hnone =>
    have hno := List.find?_eq_none.1 hnone f hf
    rw [hn] at hno
    simpa using hno

/-! ## Rows that are written -/

section Written

variable {values : List (Field × String)} {v : Field × String}

/-- Of the fields that are written, one is for each plain attribute that the statement names. -/
theorem hashFields_nodup (hn : (values.map fun v => v.1.name).Nodup) : ((hashFields values).map Prod.fst).Nodup := by
  have hplain : ((values.filter fun v => v.1.isPlain).map fun v => v.1.name).Nodup :=
    hn.sublist (List.filter_sublist.map _)
  unfold hashFields
  split
  · exact List.nodup_singleton _
  · rw [List.map_map]
    exact hplain

theorem mem_hashFields (hv : v ∈ values) (hp : v.1.isPlain = true) : (v.1.name, Utf8.bytes v.2) ∈ hashFields values := by
  have hmem : (v.1.name, Utf8.bytes v.2) ∈ (values.filter fun v => v.1.isPlain).map fun v => (v.1.name, Utf8.bytes v.2) :=
    List.mem_map_of_mem (f := fun v : Field × String => (v.1.name, Utf8.bytes v.2)) (List.mem_filter.2 ⟨hv, hp⟩)
  unfold hashFields
  split
  · next hnil =>
    rw [hnil] at hmem
    cases hmem
  · exact hmem

theorem plain_written (hn : (values.map fun v => v.1.name).Nodup) (hv : v ∈ values) (hp : v.1.isPlain = true) :
    (written values w).plain v.1.name = some (Utf8.bytes v.2) := by
  have hsets : (written values w).plain = (w.overlay (hashFields values)).plain := RowImage.plain_changes
  rw [hsets, RowImage.plain_overlay (hashFields_nodup hn) (mem_hashFields hv hp)]

theorem members_written (hn : (values.map fun v => v.1.name).Nodup) (hv : v ∈ values) (hs : v.1.type.isSet = true) :
    (written values w).members v.1.name = listed v.2 :=
  RowImage.members_changes (c := fun v : Field × String => v.1.name) (hn.sublist (List.filter_sublist.map _))
    (List.mem_filter.2 ⟨hv, hs⟩)

end Written

/-! ## Rows to which values are assigned -/

section Updated

variable {as : List PreparedAssignment} {a : PreparedAssignment} {pairs : List (String × Bytes)}

theorem Computed.names (h : Computed w as pairs) :
    pairs.map Prod.fst = (as.filter fun a => !a.field.type.isSet).map fun a => a.field.name := by
  unfold Computed at h
  generalize as.filter _ = bs at h
  induction h with
  | nil => rfl
  | cons h _ ih => rw [List.map_cons, List.map_cons, h.1, ih]

theorem members_updated (hn : (as.map fun a => a.field.name).Nodup) (ha : a ∈ as) (hs : a.field.type.isSet = true) :
    (updated as pairs w).members a.field.name = assignedMembers a (w.members a.field.name) :=
  RowImage.members_changes (c := fun a : PreparedAssignment => a.field.name) (g := assignedMembers)
    (hn.sublist (List.filter_sublist.map _)) (List.mem_filter.2 ⟨ha, hs⟩)

theorem members_updated_other (h : ∀ a ∈ as, a.field.type.isSet = true → a.field.name ≠ n) :
    (updated as pairs w).members n = w.members n :=
  RowImage.members_changes_other (c := fun a : PreparedAssignment => a.field.name) (g := assignedMembers)
    fun a ha => let ⟨h1, h2⟩ := List.mem_filter.1 ha; h a h1 h2

theorem plain_updated (hn : (as.map fun a => a.field.name).Nodup) (hp : Computed w as pairs) (ha : a ∈ as)
    (hs : a.field.type.isSet = false) : ∃ x, Gives a (w.plain a.field.name) x ∧
      (updated as pairs w).plain a.field.name = some (Utf8.bytes x) := by
  have hplain : a ∈ as.filter fun a => !a.field.type.isSet := List.mem_filter.2 ⟨ha, by rw [hs]; rfl⟩
  obtain ⟨i, hi, he⟩ := List.mem_iff_getElem.1 hplain
  obtain ⟨hname, x, hgives, hx⟩ := hp.get hi (hp.length_eq ▸ hi)
  have hpair : (a.field.name, Utf8.bytes x) ∈ pairs := by
    have hget : pairs.get ⟨i, hp.length_eq ▸ hi⟩ = (a.field.name, Utf8.bytes x) := Prod.ext (he ▸ hname) hx
    exact hget ▸ List.getElem_mem _
  refine ⟨x, ?_, RowImage.plain_overlay (hp.names ▸ hn.sublist (List.filter_sublist.map _)) hpair⟩
  have he : (as.filter fun a => !a.field.type.isSet).get ⟨i, hi⟩ = a := he
  rwa [he] at hgives

/-- No assignment takes a plain attribute from a row. -/
theorem plain_updated_isSome (h : (w.plain n).isSome = true) : ((updated as pairs w).plain n).isSome = true := by
  have hsets : (allAssigned as w).plain = w.plain := RowImage.plain_changes
  exact RowImage.plain_overlay_isSome (hsets ▸ h)

end Updated

end Upsertion
end SlotSql
