import Mathlib.Data.List.Nodup
import SlotSql.Proofs.Key
import SlotSql.Table.Schema
/-!
# Valid tables

What the conditions on a table say about its names, its columns and its row key.

Results:
* `Valid.tablespace`, `Valid.name`, `Valid.field`: names are names, and each column keeps its conditions.
* `Valid.field?_iff`: a column is found by its name.
* `mem_keyFields`, `Valid.keys_nodup`: the columns of the row key.
* `TableDef.toTable_eq_ok`: the table of a definition.
-/
namespace SlotSql.Table

variable {t : Table} {st : Settings} {f g : Field}

/-! ## Names and columns -/

theorem orElse_eq_none {α : Type} {a b : Option α} : (a <|> b) = none ↔ a = none ∧ b = none := by
  cases a <;> simp

theorem isName_of_nameFault? {name : String} (h : nameFault? st name = none) :
    Token.isName name.toList = true := by
  unfold nameFault? at h
  split at h
  · cases h
  · next hn => simpa using hn

theorem Valid.parts (h : t.Valid st) : nameFault? st t.tablespace = none ∧ nameFault? st t.name = none ∧
    fieldsFault? st t.fullName [] t.fields = none ∧ t.keyFault? = none := by
  unfold Valid fault? at h
  simp only [orElse_eq_none] at h
  exact ⟨h.1, h.2.1, h.2.2.2.2.2.1, h.2.2.2.2.2.2⟩

theorem Valid.length_le (h : t.Valid st) : t.fields.length ≤ st.maxFields := by
  unfold Valid fault? at h
  simp only [orElse_eq_none] at h
  by_contra hlong
  have hmany := h.2.2.2.2.1
  rw [if_pos (Nat.lt_of_not_le hlong)] at hmany
  cases hmany

theorem Valid.tablespace (h : t.Valid st) : Token.isName t.tablespace.toList = true :=
  isName_of_nameFault? h.parts.1

theorem Valid.name (h : t.Valid st) : Token.isName t.name.toList = true := isName_of_nameFault? h.parts.2.1

/-- Columns without a fault have names, keep their conditions and are named apart. -/
theorem fieldsFault?_eq_none {table : String} {before : List String} {fs : List Field}
    (h : fieldsFault? st table before fs = none) :
    (∀ f ∈ fs, Token.isName f.name.toList = true ∧ f.fault? st = none ∧ f.name ∉ before) ∧
      (fs.map Field.name).Nodup := by
  induction fs generalizing before with
  | nil => exact ⟨by simp, List.nodup_nil⟩
  | cons f fs ih =>
    rw [fieldsFault?] at h
    split at h
    · cases h
    · next hf =>
      simp only [orElse_eq_none] at hf
      obtain ⟨h1, h2, h3⟩ := hf
      obtain ⟨g1, g2⟩ := ih h
      have hb : f.name ∉ before := by
        intro hm
        rw [if_pos (by simpa using hm)] at h2
        cases h2
      refine ⟨fun g hg => ?_, ?_⟩
      · rcases List.mem_cons.1 hg with rfl | hg
        · exact ⟨isName_of_nameFault? h1, h3, hb⟩
        · obtain ⟨e1, e2, e3⟩ := g1 g hg
          exact ⟨e1, e2, fun hm => e3 (List.mem_cons_of_mem _ hm)⟩
      · rw [List.map_cons, List.nodup_cons]
        refine ⟨fun hm => ?_, g2⟩
        obtain ⟨g, hg, he⟩ := List.mem_map.1 hm
        exact (g1 g hg).2.2 (he ▸ List.mem_cons_self)

theorem Valid.field (h : t.Valid st) (hf : f ∈ t.fields) :
    Token.isName f.name.toList = true ∧ f.fault? st = none :=
  let ⟨h1, h2, _⟩ := (fieldsFault?_eq_none h.parts.2.2.1).1 f hf
  ⟨h1, h2⟩

theorem Valid.names_nodup (h : t.Valid st) : (t.fields.map Field.name).Nodup :=
  (fieldsFault?_eq_none h.parts.2.2.1).2

theorem Valid.eq_of_name (h : t.Valid st) (hf : f ∈ t.fields) (hg : g ∈ t.fields) (he : f.name = g.name) :
    f = g := List.inj_on_of_nodup_map h.names_nodup hf hg he

theorem mem_of_field? {name : String} (h : t.field? name = some f) : f ∈ t.fields ∧ f.name = name :=
  ⟨List.mem_of_find?_eq_some h, by simpa using List.find?_some h⟩

/-- A column is found by its name. -/
theorem Valid.field?_iff (h : t.Valid st) {name : String} :
    t.field? name = some f ↔ f ∈ t.fields ∧ f.name = name := by
  refine ⟨mem_of_field?, ?_⟩
  rintro ⟨hf, rfl⟩
  cases hg : t.field? f.name with
  | none =>
    have := List.find?_eq_none.1 hg f hf
    simp at this
  | some g =>
    obtain ⟨h1, h2⟩ := mem_of_field? hg
    rw [h.eq_of_name h1 hf h2]

/-- A column of the row key is no set, no blob and no double. -/
theorem Valid.keyType (h : t.Valid st) (hf : f ∈ t.fields) (hk : f.isKey = true) :
    f.type.isKeyType = true := by
  have hfault := (h.field hf).2
  unfold Field.fault? at hfault
  split at hfault
  · cases hfault
  · next hn => simpa [hk] using hn

/-! ## The row key -/

theorem map_snd_indexed (t : Table) :
    ((t.fields.mapIdx fun i f => (i, f)).filter fun p => p.2.isKey).map Prod.snd =
      t.fields.filter Field.isKey := by
  have hsnd : (t.fields.mapIdx fun i f => (i, f)).map Prod.snd = t.fields := by
    refine List.ext_getElem? fun i => ?_
    rw [List.getElem?_map, List.getElem?_mapIdx]
    cases t.fields[i]? <;> rfl
  conv_rhs => rw [← hsnd]
  rw [List.filter_map]
  rfl

theorem keyFields_perm (t : Table) : t.keyFields.Perm (t.fields.filter Field.isKey) := by
  unfold keyFields indexedKey
  rw [← map_snd_indexed]
  exact (List.mergeSort_perm _ _).map _

theorem mem_keyFields : f ∈ t.keyFields ↔ f ∈ t.fields ∧ f.isKey = true := by
  rw [(keyFields_perm t).mem_iff, List.mem_filter]

theorem Valid.keys_nodup (h : t.Valid st) : (t.keyFields.map Field.name).Nodup :=
  ((keyFields_perm t).map _).nodup_iff.2 (h.names_nodup.sublist (List.filter_sublist.map _))

theorem Valid.keys_ne_nil (h : t.Valid st) : t.keyFields ≠ [] := by
  have hk := h.parts.2.2.2
  unfold keyFault? at hk
  simp only [] at hk
  intro he
  rw [he] at hk
  cases hk

theorem mem_setFields : f ∈ t.setFields ↔ f ∈ t.fields ∧ f.type.isSet = true := by
  unfold setFields
  rw [List.mem_filter]

theorem Valid.setField (h : t.Valid st) (hf : f ∈ t.setFields) :
    Token.isName f.name.toList = true ∧ f.isKey = false := by
  obtain ⟨h1, h2⟩ := mem_setFields.1 hf
  refine ⟨(h.field h1).1, ?_⟩
  cases hk : f.isKey with
  | false => rfl
  | true =>
    have := h.keyType h1 hk
    unfold ValueType.isKeyType at this
    unfold ValueType.isSet at h2
    simp [beq_iff_eq.1 h2] at this

end SlotSql.Table

namespace SlotSql.TableDef

/-- What the table of a definition consists of. -/
theorem toTable_eq_ok {d : TableDef} {now : Int} {t : Table} (h : d.toTable now = .ok t) :
    d.keyFault? [] d.rowKey = none ∧
      t = ⟨d.table.tablespace, d.table.table, d.columns.map d.field, now, d.comment.getD ""⟩ := by
  unfold toTable at h
  split at h
  · cases h
  · next hk =>
    cases h
    exact ⟨hk, rfl⟩

theorem tableName_toTable {d : TableDef} {now : Int} {t : Table} (h : d.toTable now = .ok t) :
    t.tableName = d.table := by
  obtain ⟨-, rfl⟩ := toTable_eq_ok h
  rfl

end SlotSql.TableDef
