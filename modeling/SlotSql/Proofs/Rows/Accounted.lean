import SlotSql.Proofs.Rows.Failure
import SlotSql.Proofs.Rows.Written
/-!
# Stores in which every key is accounted for

A key of a store is the entry of a table in the catalog, a row of such a table, or a set of a row that is there; and what
lies under it is in the form in which statements store it. The commands of the engine on rows and sets keep a store
so.

Results:
* `Accounted`: what may lie under the keys of a store.
* `Accounts.disjoint`: a key is accounted for in one way only.
* `accounted_hset`, `accounted_changeSet`, `accounted_del`, `accounted_deletion`: what commands keep.
-/
namespace SlotSql

open Cluster Store Simulation Dialogue

variable {t u : Table} {st : Settings} {d d' : Data} {key k : String} {name : TableName} {parts : List String}
  {f : Field} {v : Value} {kind kind' : KeyKind}

/-! ## The catalog -/

/-- A table that is read from its entry keeps every condition, and it has the name that was asked for. -/
theorem Catalog.read_ok {a b x y : Option Bytes} (h : Catalog.read st name a b x y = .ok t) :
    t.Valid st ∧ t.tableName = name := by
  unfold Catalog.read at h
  split at h
  · split at h
    · next n _ =>
      by_cases hn : n = 0
      · rw [if_pos hn] at h
        cases h
      · rw [if_neg hn] at h
        simp only [] at h
        split at h
        · obtain ⟨fs, -, h⟩ := except_bind_eq_ok.1 h
          by_cases hl : fs.length ≠ n
          · rw [if_pos hl] at h
            cases h
          · rw [if_neg hl] at h
            obtain ⟨_, hv, h⟩ := except_bind_eq_ok.1 h
            cases h
            refine ⟨?_, rfl⟩
            unfold Table.validate at hv
            split at hv
            · next hf => exact hf
            · cases hv
        · cases h
    · cases h
  · cases h

namespace Session

theorem valid_of_tableIn (h : tableIn st d name = .ok t) : t.Valid st ∧ t.tableName = name := by
  unfold tableIn Catalog.describe at h
  rw [outcome_bind, Engine.outcome_liftM] at h
  cases hr : (outcome (fixedWorld (answers st.maxArgs d)) (Asking.hmget (Catalog.entryKey st name)
      [Catalog.countField, Catalog.columnsField, Catalog.createdField, Catalog.commentField]) ()).1 with
  | error e =>
    rw [hr] at h
    cases h
  | ok values =>
    rw [hr] at h
    simp only [Except.mapError, Engine.outcome_liftExcept] at h
    exact Catalog.read_ok h

/-- The table of a name depends on its entry only. -/
theorem tableIn_congr (h : d'.get? (Catalog.entryKey st name) = d.get? (Catalog.entryKey st name)) :
    tableIn st d' name = tableIn st d name := by
  have hy : Fails (ReadsRow [] (Catalog.entryKey st name)) Mild (fun e => e.isConnectionError = false)
      (Asking.hmget (Catalog.entryKey st name)
        [Catalog.countField, Catalog.columnsField, Catalog.createdField, Catalog.commentField]) :=
    Fails.hmget ⟨rfl, .inl ⟨_, List.cons_ne_nil _ _, rfl⟩⟩
  obtain ⟨h1, -⟩ := run_simulates (fixedWorld (answers st.maxArgs d')) (fixedWorld (answers st.maxArgs d))
    (A := Mild) (R := fun _ _ => True) (fun g cmd _ _ hc _ => by
      obtain ⟨rfl, -⟩ := id hc
      exact ⟨answers_agree h (by simp) hc, mild_answers hc, trivial⟩) hy (s := ()) (r := ()) trivial
  have h1 : (outcome (fixedWorld (answers st.maxArgs d')) (Asking.hmget (Catalog.entryKey st name)
      [Catalog.countField, Catalog.columnsField, Catalog.createdField, Catalog.commentField]) ()).1 = _ := h1
  unfold tableIn Catalog.describe
  rw [outcome_bind, outcome_bind, Engine.outcome_liftM, Engine.outcome_liftM, h1]
  rfl

end Session

open Session (tableIn valid_of_tableIn tableIn_congr)

/-- The prefix of the keys of the catalog holds no character with a meaning in keys. -/
theorem Settings.Valid.notMem_structural (hst : st.Valid) {c : Char} (hc : c ∈ Key.structural) :
    c ∉ st.systemPrefix.toList := by
  unfold Settings.Valid Settings.fault? at hst
  cases hs : Key.holdsStructural st.systemPrefix with
  | false => exact Key.holdsStructural_eq_false_iff.1 hs c hc
  | true =>
    rw [hs] at hst
    split at hst <;> cases hst

theorem Settings.Valid.notMem_prefix (hst : st.Valid) : ':' ∉ st.systemPrefix.toList :=
  hst.notMem_structural List.mem_cons_self

theorem toList_entryKey (st : Settings) (name : TableName) : (Catalog.entryKey st name).toList =
    Key.openBrace :: (st.systemPrefix.toList ++ ':' ::
      (':' :: (name.tablespace.toList ++ ':' :: name.table.toList))) ++ [Key.closeBrace] := Key.toList_system ..

/-- A row or a set of a table outside the tablespace of the system is no entry of the catalog. -/
theorem entryKey_notMem (hst : st.Valid) (ht : t.Valid st) (hts : t.tablespace ≠ st.systemPrefix)
    (hp : (t.parts? key).isSome = true) : Catalog.entryKey st name ∉ t.footprint key := by
  obtain ⟨parts, hp⟩ := Option.isSome_iff_exists.1 hp
  intro hm
  rcases List.mem_cons.1 hm with he | hm
  · have hrow := congrArg String.toList (he.trans (Key.parseRow?_eq_some (Table.parse_of_parts? hp).1).1)
    rw [toList_entryKey, Key.toList_row] at hrow
    have hbody := List.append_cancel_right hrow
    exact hts (String.toList_inj.1 (Text.eq_of_append_cons (Table.notMem_name ht.tablespace (by decide))
      hst.notMem_prefix (List.cons.inj hbody).2.symm).1)
  · obtain ⟨f, hf, he⟩ := List.mem_map.1 hm
    have hlast := congrArg List.getLast? (congrArg String.toList he)
    have hname := (ht.setField hf).1
    rw [toList_entryKey, Key.toList_set, List.getLast?_concat, List.getLast?_append, List.getLast?_cons, Option.some_or] at hlast
    cases hl : f.name.toList.getLast? with
    | none =>
      rw [List.getLast?_eq_none_iff.1 hl] at hname
      cases hname
    | some ch =>
      rw [hl] at hlast
      cases hlast
      exact Table.notMem_name hname (by decide) (List.mem_of_getLast? hl)

theorem contains_eq {d d' : Data} (h : d'.get? k = d.get? k) : d'.contains k = d.contains k := by
  unfold KeyMap.contains
  rw [h]

/-- A row key is among the keys of another row and of its sets only as the row itself. -/
theorem notMem_footprint (ht : t.Valid st) (hk : (u.parts? k).isSome = true) (hne : k ≠ key) :
    k ∉ t.footprint key := by
  obtain ⟨parts, hk⟩ := Option.isSome_iff_exists.1 hk
  intro hm
  rcases List.mem_cons.1 hm with he | hm
  · exact hne he
  · obtain ⟨f, hf, rfl⟩ := List.mem_map.1 hm
    have hrow := (Table.parse_of_parts? hk).1
    rw [Key.parseRow?_set (Table.notMem_name (ht.setField hf).1 (by decide))] at hrow
    cases hrow

/-- The key of a set of another row is not among them either. -/
theorem set_notMem_footprint (ht : t.Valid st) (hu : u.Valid st) (hp : (t.parts? key).isSome = true) {f : Field}
    (hf : f ∈ u.setFields) (hne : k ≠ key) : Key.set k f.name ∉ t.footprint key := by
  have hdollar {w : Table} (hw : w.Valid st) {g : Field} (hg : g ∈ w.setFields) : '$' ∉ g.name.toList :=
    Table.notMem_name (hw.setField hg).1 (by decide)
  intro hm
  rcases List.mem_cons.1 hm with he | hm
  · obtain ⟨parts, hp⟩ := Option.isSome_iff_exists.1 hp
    have hrow := (Table.parse_of_parts? hp).1
    rw [← he, Key.parseRow?_set (Table.notMem_name (hu.setField hf).1 (by decide))] at hrow
    cases hrow
  · obtain ⟨g, hg, he⟩ := List.mem_map.1 hm
    exact hne ((Key.set_inj (hdollar ht hg) (hdollar hu hf)).1 he).1.symm

/-! ## Accounts -/

/-- A table of the catalog, outside the tablespace of the system. -/
structure Live (st : Settings) (d : Data) (t : Table) : Prop where
  table : tableIn st d t.tableName = .ok t
  tablespace : t.tablespace ≠ st.systemPrefix

theorem Live.valid (h : Live st d t) : t.Valid st := (valid_of_tableIn h.table).1

/-- Whether a table is in the catalog depends on its entry only. -/
theorem Live.congr (h : Live st d t)
    (hd : d'.get? (Catalog.entryKey st t.tableName) = d.get? (Catalog.entryKey st t.tableName)) : Live st d' t :=
  ⟨(tableIn_congr hd).trans h.table, h.tablespace⟩

/-- What a key of a store can be. -/
inductive KeyKind where
  | entry
  | row
  | set
  deriving DecidableEq, Repr

/-- What accounts for a key of a store and for what lies under it: it is the entry of a table, or a row of one, whose
parts are in stored form, with a hash of plain attributes in stored form, or a set of a row that is there. -/
inductive Accounts (st : Settings) (d : Data) : KeyKind → String → Value → Prop
  | entry {t : Table} {v : Value} (ht : Live st d t) : Accounts st d .entry (Catalog.entryKey st t.tableName) v
  | row {t : Table} {key : String} {parts : List String} {h : KeyMap Bytes} (ht : Live st d t)
    (hp : t.parts? key = some parts) (hparts : t.keyFields.Forall₂ (fun f x => ∃ v, f.normalize v = .ok x) parts)
    (hfields : ∀ n b, h.get? n = some b → Upsertion.StoredField t n b) : Accounts st d .row key (.hash h)
  | set {t : Table} {row : String} {f : Field} {ms : KeyMap Unit} (ht : Live st d t)
    (hrow : (t.parts? row).isSome = true) (hd : d.contains row = true) (hf : f ∈ t.setFields) (hne : ms.keys ≠ [])
    (hms : ∀ x ∈ ms.keys, f.Member x) : Accounts st d .set (Key.set row f.name) (.set ms)

/-- A store in which every key is accounted for. -/
def Accounted (st : Settings) (d : Data) : Prop := ∀ key v, d.get? key = some v → ∃ kind, Accounts st d kind key v

/-- Two tables with a row of the same key have the same name. -/
theorem tableName_of_parts? (ht : (t.parts? key).isSome = true) (hu : (u.parts? key).isSome = true) :
    u.tableName = t.tableName := by
  obtain ⟨ps, hps⟩ := Option.isSome_iff_exists.1 ht
  obtain ⟨qs, hqs⟩ := Option.isSome_iff_exists.1 hu
  have hsame := (Table.parse_of_parts? hps).1.symm.trans (Table.parse_of_parts? hqs).1
  unfold Table.tableName
  simp only [Option.some.injEq, Prod.mk.injEq] at hsame
  rw [hsame.1, hsame.2.1]

/-- Two tables of the catalog with one name are the same. -/
theorem Live.eq_of_name (ht : Live st d t) (hu : Live st d u) (hn : t.tableName = u.tableName) : u = t := by
  have h := hu.table
  rw [← hn, ht.table] at h
  exact (Except.ok.inj h).symm

theorem Live.eq_of_parts? (ht : Live st d t) (hu : Live st d u) (hp : (t.parts? key).isSome = true)
    (hq : (u.parts? key).isSome = true) : u = t := ht.eq_of_name hu (tableName_of_parts? hp hq).symm

/-- The key of a set of any table is no row key. -/
theorem parts?_set (hu : u.Valid st) (hf : f ∈ u.setFields) (t : Table) (k : String) :
    t.parts? (Key.set k f.name) = none :=
  Table.parts?_eq_none (Key.parseRow?_set (Table.notMem_name (hu.setField hf).1 (by decide)))

/-- What accounts for the key of a row. -/
theorem Accounts.of_row (hst : st.Valid) (ht : Live st d t) (hp : t.parts? key = some parts)
    (h : Accounts st d kind key v) : ∃ m, v = .hash m ∧
      t.keyFields.Forall₂ (fun f x => ∃ v, f.normalize v = .ok x) parts ∧
      ∀ n b, m.get? n = some b → Upsertion.StoredField t n b := by
  have hsome : (t.parts? key).isSome = true := by rw [hp]; rfl
  cases h with
  | entry hu => exact absurd List.mem_cons_self (entryKey_notMem hst ht.valid ht.tablespace hsome)
  | @row u _ parts' m hu hp' hparts hfields =>
    have hq : (u.parts? key).isSome = true := by rw [hp']; rfl
    obtain rfl := ht.eq_of_parts? hu hsome hq
    rw [hp] at hp'
    cases hp'
    exact ⟨m, rfl, hparts, hfields⟩
  | set hu _ _ hf _ _ =>
    rw [parts?_set hu.valid hf] at hp
    cases hp

/-- What accounts for the key of a set of a row. -/
theorem Accounts.of_set (hst : st.Valid) (ht : Live st d t) (hp : (t.parts? key).isSome = true) (hf : f ∈ t.setFields)
    (h : Accounts st d kind (Key.set key f.name) v) : ∃ ms, v = .set ms ∧ d.contains key = true ∧
      ∀ x ∈ ms.keys, f.Member x := by
  have hdollar {w : Table} (hw : w.Valid st) {g : Field} (hg : g ∈ w.setFields) : '$' ∉ g.name.toList :=
    Table.notMem_name (hw.setField hg).1 (by decide)
  generalize hj : Key.set key f.name = j at h
  cases h with
  | entry hu =>
    exact absurd (hj ▸ Table.set_mem_footprint hf) (entryKey_notMem hst ht.valid ht.tablespace hp)
  | row hu hp' _ _ =>
    rw [← hj, parts?_set ht.valid hf] at hp'
    cases hp'
  | set hu hrow hd hg _ hms =>
    obtain ⟨rfl, hname⟩ := (Key.set_inj (hdollar ht.valid hf) (hdollar hu.valid hg)).1 hj
    obtain rfl := ht.eq_of_parts? hu hp hrow
    obtain rfl := ht.valid.eq_of_name (Table.mem_setFields.1 hf).1 (Table.mem_setFields.1 hg).1 hname
    exact ⟨_, rfl, hd, hms⟩

/-- A key is accounted for in one way only. -/
theorem Accounts.disjoint (hst : st.Valid) (h : Accounts st d kind key v) (h' : Accounts st d kind' key v) :
    kind = kind' := by
  have hentry {w : Table} (hw : Live st d w) {k : String} (hk : (w.parts? k).isSome = true) {j : String}
      (hj : j ∈ w.footprint k) (name : TableName) : j ≠ Catalog.entryKey st name := fun he =>
    entryKey_notMem hst hw.valid hw.tablespace hk (he ▸ hj)
  -- A row holds a hash and a set of it does not.
  cases h with
  | entry ht =>
    generalize hj : Catalog.entryKey st _ = j at h'
    cases h' with
    | entry => rfl
    | row hu hp => exact absurd hj.symm (hentry hu (by rw [hp]; rfl) List.mem_cons_self _)
    | set hu hp _ hf => exact absurd hj.symm (hentry hu hp (Table.set_mem_footprint hf) _)
  | row ht hp =>
    cases h' with
    | entry hu => exact absurd rfl (hentry ht (by rw [hp]; rfl) List.mem_cons_self _)
    | row => rfl
  | set ht hp _ hf =>
    generalize hj : Key.set _ _ = j at h'
    cases h' with
    | entry hu => exact absurd hj (hentry ht hp (Table.set_mem_footprint hf) _)
    | set => rfl

/-- What accounts for a key does so after a change of the store that removes no table and no row. -/
theorem Accounts.move (hlive : ∀ u, Live st d u → Live st d' u)
    (hrows : ∀ (u : Table) k, (u.parts? k).isSome = true → d.contains k = true → d'.contains k = true)
    (h : Accounts st d kind key v) : Accounts st d' kind key v := by
  cases h with
  | entry ht => exact .entry (hlive _ ht)
  | row ht hp hparts hfields => exact .row (hlive _ ht) hp hparts hfields
  | set ht hrow hd hf hne hms => exact .set (hlive _ ht) hrow (hrows _ _ hrow hd) hf hne hms

/-- A table is kept well in a store in which every key is accounted for. -/
theorem Accounted.kept (hst : st.Valid) (ht : Live st d t) (ha : Accounted st d) : t.Kept d := by
  intro key v hv
  obtain ⟨kind, h⟩ := ha key v hv
  cases v with
  | hash m =>
    refine ⟨?_, fun parts hp => ?_⟩
    · rintro k f hp hf rfl
      obtain ⟨_, he, -⟩ := h.of_set hst ht hp hf
      cases he
    · obtain ⟨_, he, hparts, hfields⟩ := h.of_row hst ht hp
      cases he
      refine ⟨Upsertion.stored_parts hparts, fun f hf hplain b hb => ?_⟩
      have hpairs : Upsertion.StoredPairs t [(f.name, b)] := fun p hp => by
        rw [List.mem_singleton.1 hp]
        exact hfields f.name b hb
      exact hpairs.readable ht.valid f hf hplain b (List.mem_singleton_self _)
  | set ms =>
    cases hp : t.parts? key with
    | none => exact hp
    | some parts =>
      obtain ⟨_, he, -⟩ := h.of_row hst ht hp
      cases he

/-! ## What commands keep -/

section Commands

variable {pairs : List (String × Bytes)}

/-- A change of keys of one row leaves the catalog alone. -/
theorem Live.outside (hst : st.Valid) (ht : Live st d t) (hp : (t.parts? key).isSome = true)
    (hout : ∀ j, j ∉ t.footprint key → d'.get? j = d.get? j) (u : Table) (hu : Live st d u) : Live st d' u :=
  hu.congr (hout _ (entryKey_notMem hst ht.valid ht.tablespace hp))

/-- Where fields of a hash were written, there is something. -/
theorem contains_hset (hp : pairs ≠ []) (key : String) (d : Data) :
    ((KeyCommand.hset false key pairs).run d).2.contains key = true := by
  show ((KeyCommand.changeHash d key fun h => (.ok, (KeyCommand.insertAll h pairs).2)).2.get? key).isSome = true
  rw [KeyCommand.changeHash_get?, if_pos rfl]
  unfold KeyCommand.hashAt
  cases d.get? key with
  | none => simp only [KeyCommand.insertAll_isEmpty _ hp]; rfl
  | some x => cases x <;> simp only [KeyCommand.insertAll_isEmpty _ hp] <;> rfl

theorem hset_outside {j : String} (hj : j ≠ key) :
    ((KeyCommand.hset false key pairs).run d).2.get? j = d.get? j :=
  KeyCommand.run_outside _ fun hm => hj (List.mem_singleton.1 hm)

/-- Fields in stored form are written to a row. -/
theorem accounted_hset (hst : st.Valid) (ht : Live st d t) (hp : t.parts? key = some parts)
    (hparts : t.keyFields.Forall₂ (fun f x => ∃ v, f.normalize v = .ok x) parts) (hne : pairs ≠ [])
    (hpairs : Upsertion.StoredPairs t pairs) (ha : Accounted st d) :
    Accounted st ((KeyCommand.hset false key pairs).run d).2 := by
  have hsome : (t.parts? key).isSome = true := by rw [hp]; rfl
  have hlive : ∀ u, Live st d u → Live st ((KeyCommand.hset false key pairs).run d).2 u := ht.outside hst hsome
    fun j hj => hset_outside fun he => hj (he ▸ List.mem_cons_self)
  have hrows (u : Table) (k : String) (_ : (u.parts? k).isSome = true) (hk : d.contains k = true) :
      ((KeyCommand.hset false key pairs).run d).2.contains k = true := by
    by_cases he : k = key
    · rw [he]
      exact contains_hset hne key d
    · rw [contains_eq (hset_outside he)]
      exact hk
  intro j v hv
  by_cases he : j = key
  · subst he
    have hv' : (KeyCommand.changeHash d j fun h => (.ok, (KeyCommand.insertAll h pairs).2)).2.get? j = some v := hv
    rw [KeyCommand.changeHash_get?, if_pos rfl] at hv'
    cases hh : KeyCommand.hashAt d j with
    | error e =>
      rw [hh] at hv'
      obtain ⟨kind, hj⟩ := ha j v hv'
      exact ⟨kind, hj.move hlive hrows⟩
    | ok h =>
      rw [hh] at hv'
      simp only [KeyCommand.insertAll_isEmpty h hne] at hv'
      cases hv'
      refine ⟨.row, .row (hlive _ ht) hp hparts fun n b hb => ?_⟩
      rcases KeyCommand.mem_of_insertAll hb with hm | hm
      · exact hpairs _ hm
      · -- The field was there before.
        unfold KeyCommand.hashAt at hh
        split at hh
        · cases hh
          rw [KeyMap.get?_empty] at hm
          cases hm
        · next h' hh' =>
          cases hh
          obtain ⟨kind, hj⟩ := ha j _ hh'
          obtain ⟨_, he, -, hfields⟩ := hj.of_row hst ht hp
          cases he
          exact hfields n b hm
        · cases hh
  · rw [hset_outside he] at hv
    obtain ⟨kind, hj⟩ := ha j v hv
    exact ⟨kind, hj.move hlive hrows⟩

/-- A set of a row that is there changes, and what is new among its members may be there. -/
theorem accounted_changeSet (hst : st.Valid) (ht : Live st d t) (hp : (t.parts? key).isSome = true)
    (hd : d.contains key = true) (hf : f ∈ t.setFields) (g : KeyMap Unit → Reply × KeyMap Unit)
    (hg : ∀ ms, ∀ x ∈ (g ms).2.keys, x ∈ ms.keys ∨ f.Member x) (ha : Accounted st d) :
    Accounted st (KeyCommand.changeSet d (Key.set key f.name) g).2 := by
  have hout {j : String} (hj : j ≠ Key.set key f.name) :
      (KeyCommand.changeSet d (Key.set key f.name) g).2.get? j = d.get? j := by
    rw [KeyCommand.changeSet_get?, if_neg hj]
  have hlive : ∀ u, Live st d u → Live st (KeyCommand.changeSet d (Key.set key f.name) g).2 u := ht.outside hst hp
    fun j hj => hout fun he => hj (he ▸ Table.set_mem_footprint hf)
  have hrows (u : Table) (k : String) (hk : (u.parts? k).isSome = true) (hd : d.contains k = true) :
      (KeyCommand.changeSet d (Key.set key f.name) g).2.contains k = true := by
    refine (contains_eq (hout ?_)).trans hd
    rintro rfl
    rw [parts?_set ht.valid hf] at hk
    cases hk
  intro j v hv
  by_cases he : j = Key.set key f.name
  · subst he
    have hv' := hv
    rw [KeyCommand.changeSet_get?, if_pos rfl] at hv'
    cases hs : KeyCommand.setAt d (Key.set key f.name) with
    | error e =>
      rw [hs] at hv'
      obtain ⟨kind, hj⟩ := ha _ v hv'
      exact ⟨kind, hj.move hlive hrows⟩
    | ok ms =>
      rw [hs] at hv'
      simp only [] at hv'
      split at hv'
      · cases hv'
      · next hne =>
        cases hv'
        refine ⟨.set, .set (hlive _ ht) hp (hrows t key hp hd) hf (fun he => hne ?_)
          fun x hx => ?_⟩
        · refine KeyMap.isEmpty_iff.2 fun k => ?_
          cases hk : (g ms).2.get? k with
          | none => rfl
          | some w =>
            have hmem : k ∈ (g ms).2.keys := KeyMap.mem_keys_iff.2 (by rw [hk]; rfl)
            rw [he] at hmem
            cases hmem
        · rcases hg ms x hx with hx | hx
          · -- The member was there before.
            unfold KeyCommand.setAt at hs
            split at hs
            · cases hs
              cases hx
            · next ms' hms =>
              cases hs
              obtain ⟨kind, hj⟩ := ha _ _ hms
              obtain ⟨_, he, -, hms⟩ := hj.of_set hst ht hp hf
              cases he
              exact hms x hx
            · cases hs
          · exact hx
  · rw [hout he] at hv
    obtain ⟨kind, hj⟩ := ha j v hv
    exact ⟨kind, hj.move hlive hrows⟩

/-- A set of a row is removed. -/
theorem accounted_del (hst : st.Valid) (ht : Live st d t) (hp : (t.parts? key).isSome = true) (hf : f ∈ t.setFields)
    (ha : Accounted st d) : Accounted st (KeyCommand.eraseAll d [Key.set key f.name]).2 := by
  have hout {j : String} (hj : j ≠ Key.set key f.name) :
      (KeyCommand.eraseAll d [Key.set key f.name]).2.get? j = d.get? j := by
    rw [KeyCommand.get?_eraseAll, if_neg fun hm => hj (List.mem_singleton.1 hm)]
  have hlive : ∀ u, Live st d u → Live st (KeyCommand.eraseAll d [Key.set key f.name]).2 u := ht.outside hst hp
    fun j hj => hout fun he => hj (he ▸ Table.set_mem_footprint hf)
  intro j v hv
  by_cases he : j = Key.set key f.name
  · rw [KeyCommand.get?_eraseAll, if_pos (List.mem_singleton.2 he)] at hv
    cases hv
  · rw [hout he] at hv
    obtain ⟨kind, hj⟩ := ha j v hv
    refine ⟨kind, hj.move hlive fun u k hk hd => (contains_eq (hout ?_)).trans hd⟩
    rintro rfl
    rw [parts?_set ht.valid hf] at hk
    cases hk

/-- A row is removed with its sets. -/
theorem accounted_deletion (hst : st.Valid) (ht : Live st d t) (hp : (t.parts? key).isSome = true)
    (ha : Accounted st d) : Accounted st (KeyCommand.eraseAll d (t.footprint key)).2 := by
  have hout {j : String} (hj : j ∉ t.footprint key) : (KeyCommand.eraseAll d (t.footprint key)).2.get? j = d.get? j := by
    rw [KeyCommand.get?_eraseAll, if_neg hj]
  have hlive : ∀ u, Live st d u → Live st (KeyCommand.eraseAll d (t.footprint key)).2 u :=
    ht.outside hst hp fun j hj => hout hj
  intro j v hv
  have hj : j ∉ t.footprint key := fun hm => by
    rw [KeyCommand.get?_eraseAll, if_pos hm] at hv
    cases hv
  rw [hout hj] at hv
  obtain ⟨kind, ha⟩ := ha j v hv
  refine ⟨kind, ?_⟩
  cases ha with
  | entry hu => exact .entry (hlive _ hu)
  | row hu hq hparts hfields => exact .row (hlive _ hu) hq hparts hfields
  | set hu hrow hd hg hne hms =>
    refine .set (hlive _ hu) hrow ((contains_eq (hout (notMem_footprint ht.valid hrow ?_))).trans hd) hg hne hms
    rintro rfl
    obtain rfl := ht.eq_of_parts? hu hp hrow
    exact hj (Table.set_mem_footprint hg)

end Commands

end SlotSql
