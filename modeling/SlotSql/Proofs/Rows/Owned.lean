import SlotSql.Proofs.Rows.Entries
import SlotSql.Proofs.Rows.Typed
/-!
# Keys of a table

By its text, a key can be that of a row of a table, that of a set of such a row, or that of the entry of the table.
This does not depend on what is stored, nor on what columns the table has or had.

A store knows its tables by their entries. A definition that succeeds adds the entry of its table, one that fails changes
nothing, a table that is dropped loses its entry, and no command on a row adds or removes one: the keys of rows and sets
are not read as entries, because no table lies in the tablespace of the system.

Results:
* `Owned`: the keys that can be keys of the table of a name.
* `Owned.apart`: tables outside the tablespace of the system have no key in common.
* `changed_closed`: commands of statements on a table leave all other keys alone.
* `Accounted.owned`: which keys of a table are there if every key is accounted for.
* `Listed`: a store whose entries are those of a list of tables.
* `listed_rows`, `Listed.define`, `Listed.drop`: what statements leave of such a store.
* `Listed.found_iff`: which tables are found under a pattern.
-/
namespace SlotSql

open Store

variable {t : Table} {st : Settings} {d : Data} {key k : String} {name other : TableName} {parts : List String}

/-- A key that can be one of the table of a name. -/
inductive Owned (st : Settings) (name : TableName) : String → Prop
  | row {key : String} {parts : List String} (h : Key.parseRow? key = some (name.tablespace, name.table, parts)) :
    Owned st name key
  | set {row f : String} {parts : List String} (h : Key.parseRow? row = some (name.tablespace, name.table, parts))
    (hf : Token.isName f.toList = true) : Owned st name (Key.set row f)
  | entry : Owned st name (Catalog.entryKey st name)

/-- A name that a table outside the tablespace of the system can have. -/
structure TableName.Outside (st : Settings) (name : TableName) : Prop where
  tablespace : Token.isName name.tablespace.toList = true
  table : Token.isName name.table.toList = true
  outside : name.tablespace ≠ st.systemPrefix

theorem Table.Valid.outside (ht : t.Valid st) (hts : t.tablespace ≠ st.systemPrefix) : t.tableName.Outside st :=
  ⟨ht.tablespace, ht.name, hts⟩

/-- Read as a row key, the entry of a table belongs to the tablespace of the system. -/
theorem parseRow?_entryKey (hst : st.Valid) (hn : name.Outside st) :
    Key.parseRow? (Catalog.entryKey st other) ≠ some (name.tablespace, name.table, parts) := by
  intro h
  have hrow := congrArg String.toList (Key.parseRow?_eq_some h).1
  rw [toList_entryKey, Key.toList_row] at hrow
  have hbody := List.append_cancel_right hrow
  exact hn.outside (String.toList_inj.1 (Text.eq_of_append_cons (Table.notMem_name hn.tablespace (by decide))
    hst.notMem_prefix (List.cons.inj hbody).2.symm).1)

namespace Owned

/-- The key of a set is neither the key of a row nor an entry. -/
theorem isSet (h : Key.parseRow? key = some (name.tablespace, name.table, parts)) {f : String}
    (hf : Token.isName f.toList = true) : Key.IsSet (Key.set key f) := by
  refine ⟨key, f, Key.isClosed_of_parse h, fun he => ?_, Table.notMem_name hf (by decide), rfl⟩
  rw [he] at hf
  cases hf

/-- The keys of a row and its sets are keys of the table. -/
theorem footprint (ht : t.Valid st) (hp : (t.parts? key).isSome = true) (hk : k ∈ t.footprint key) :
    Owned st t.tableName k := by
  obtain ⟨parts, hp⟩ := Option.isSome_iff_exists.1 hp
  have hrow := (Table.parse_of_parts? hp).1
  rcases List.mem_cons.1 hk with rfl | hk
  · exact .row hrow
  · obtain ⟨f, hf, rfl⟩ := List.mem_map.1 hk
    exact .set hrow (ht.setField hf).1

/-- A row key names one table. -/
theorem eq_of_parse {ps qs : List String} (h : Key.parseRow? key = some (name.tablespace, name.table, ps))
    (h' : Key.parseRow? key = some (other.tablespace, other.table, qs)) : name = other := by
  have hsame := h.symm.trans h'
  simp only [Option.some.injEq, Prod.mk.injEq] at hsame
  exact TableName.mk.injEq .. ▸ ⟨hsame.1, hsame.2.1⟩

/-- Tables outside the tablespace of the system have no key in common. -/
theorem apart (hst : st.Valid) (hn : name.Outside st) (ho : other.Outside st) (h : Owned st name key)
    (h' : Owned st other key) : name = other := by
  have hentry (x : TableName) : Key.IsClosed (Catalog.entryKey st x) := Key.isClosed_braced _
  cases h with
  | row hrow =>
    cases h' with
    | row hrow' => exact eq_of_parse hrow hrow'
    | set hrow' hf => exact absurd (Key.isClosed_of_parse hrow) (isSet hrow' hf).not_isClosed
    | entry => exact absurd hrow (parseRow?_entryKey hst hn)
  | set hrow hf =>
    have hset := (isSet hrow hf).not_isClosed
    generalize hj : Key.set _ _ = j at h' hset
    cases h' with
    | row hrow' => exact absurd (Key.isClosed_of_parse hrow') hset
    | set hrow' hf' =>
      obtain ⟨rfl, -⟩ := (Key.set_inj (Table.notMem_name hf (by decide)) (Table.notMem_name hf' (by decide))).1 hj
      exact eq_of_parse hrow hrow'
    | entry => exact absurd (hentry other) hset
  | entry =>
    generalize hj : Catalog.entryKey st name = j at h'
    have hclosed : Key.IsClosed j := hj ▸ hentry name
    cases h' with
    | row hrow' => exact absurd (hj ▸ hrow') (parseRow?_entryKey hst ho)
    | set hrow' hf => exact absurd hclosed (isSet hrow' hf).not_isClosed
    | entry => exact entryKey_inj hn.tablespace ho.tablespace hj

end Owned

/-- What a command on a row does not change: all but the row and its sets. -/
theorem RowStep.frame {d' : Data} (h : RowStep t key d d') {j : String} (hj : j ∉ t.footprint key) :
    d'.get? j = d.get? j := by
  have hout {k : String} (hk : k ∈ t.footprint key) : j ≠ k := fun he => hj (he ▸ hk)
  cases h with
  | refl => rfl
  | hset => exact hset_outside (hout List.mem_cons_self)
  | erase hf =>
    rw [KeyCommand.get?_eraseAll, if_neg fun hm => hout (Table.set_mem_footprint hf) (List.mem_singleton.1 hm)]
  | changeSet hf g => rw [KeyCommand.changeSet_get?, if_neg (hout (Table.set_mem_footprint hf))]

/-- What a command of a statement on a table does not change: all but the keys of the table. -/
theorem TableStep.frame {d' : Data} (h : TableStep st name d d') :
    name.Outside st ∧ ∀ j, ¬ Owned st name j → d'.get? j = d.get? j := by
  have herase (keys : List String) {j : String} (hj : j ∉ keys) : (KeyCommand.eraseAll d keys).2.get? j = d.get? j := by
    rw [KeyCommand.get?_eraseAll, if_neg hj]
  cases h with
  | @row t key _ ht hn hts hp h =>
    subst hn
    exact ⟨ht.outside hts, fun j hj => h.frame fun hm => hj (.footprint ht hp hm)⟩
  | delete ht hn hts hp =>
    subst hn
    exact ⟨ht.outside hts, fun j hj => herase _ fun hm => hj (.footprint ht hp hm)⟩
  | define ht hn hts =>
    subst hn
    exact ⟨ht.outside hts, fun j hj => hset_outside fun he => hj (he ▸ .entry)⟩
  | drop ht hn hts =>
    subst hn
    exact ⟨ht.outside hts, fun j hj => herase _ fun hm => hj (List.mem_singleton.1 hm ▸ .entry)⟩

/-- A store that commands of statements on the table of a name have made of another one. -/
structure Changed (st : Settings) (name : TableName) (d d' : Data) : Prop where
  typed : Typed st d'
  outside : name.Outside st ∨ d' = d
  frame : ∀ j, ¬ Owned st name j → d'.get? j = d.get? j

theorem changed_closed (hst : st.Valid) (name : TableName) (d : Data) : Closed st name (Changed st name d) where
  typed _ h := h.typed
  step _ _ h hstep :=
    let ⟨h1, h2⟩ := hstep.frame
    ⟨hstep.typed hst h.typed, .inl h1, fun j hj => (h2 j hj).trans (h.frame j hj)⟩

/-- If every key is accounted for, the keys of a table that are there are its entry, its rows and their sets. -/
theorem Accounted.owned (hst : st.Valid) (ha : Accounted st d) (ht : Live st d t) (h : Owned st t.tableName key)
    (hd : d.contains key = true) : key = Catalog.entryKey st t.tableName ∨
      ∃ row, d.contains row = true ∧ (t.parts? row).isSome = true ∧ key ∈ t.footprint row := by
  have hout := ht.valid.outside ht.tablespace
  obtain ⟨v, hv⟩ := Option.isSome_iff_exists.1 hd
  obtain ⟨kind, hkind⟩ := ha key v hv
  cases hkind with
  | entry hu => exact .inl (congrArg _ (h.apart hst hout (hu.valid.outside hu.tablespace) .entry).symm)
  | @row u _ parts _ hu hp _ _ =>
    have hq : (u.parts? key).isSome = true := by rw [hp]; rfl
    have hname := h.apart hst hout (hu.valid.outside hu.tablespace) (Owned.footprint hu.valid hq List.mem_cons_self)
    obtain rfl := ht.eq_of_name hu hname
    exact .inr ⟨key, hd, hq, List.mem_cons_self⟩
  | @set u row f _ hu hrow hdrow hf _ _ =>
    have hmem : Key.set row f.name ∈ u.footprint row := Table.set_mem_footprint hf
    have hname := h.apart hst hout (hu.valid.outside hu.tablespace) (Owned.footprint hu.valid hrow hmem)
    obtain rfl := ht.eq_of_name hu hname
    exact .inr ⟨row, hdrow, hrow, hmem⟩

/-! ## The entries of a store -/

open Cluster Simulation Dialogue

variable {d' : Data} {live : List TableName} {m : Nat}

/-- A store whose entries are those of these tables, all of them outside the tablespace of the system. -/
structure Listed (st : Settings) (live : List TableName) (d : Data) : Prop where
  typed : Typed st d
  outside : ∀ name ∈ live, name.Outside st
  entry : ∀ name ∈ live, d.contains (Catalog.entryKey st name) = true
  complete : ∀ ts tb, d.contains (Catalog.entryKey st ⟨ts, tb⟩) = true →
    Key.parseSystem? st.systemPrefix (Catalog.entryKey st ⟨ts, tb⟩) = some (ts, tb) → ⟨ts, tb⟩ ∈ live

theorem listed_empty : Listed st [] .empty where
  typed := typed_empty
  outside := by simp
  entry := by simp
  complete _ _ h := by cases h

/-- The entry of a table is read as its name. -/
theorem TableName.Outside.parseSystem? (h : name.Outside st) :
    Key.parseSystem? st.systemPrefix (Catalog.entryKey st name) = some (name.tablespace, name.table) := by
  have hne {s : String} (hs : Token.isName s.toList = true) : s ≠ "" := by
    rintro rfl
    cases hs
  exact Key.parseSystem?_system (hne h.tablespace) (Table.notMem_name h.tablespace (by decide)) (hne h.table)
    (Table.notMem_name h.table (by decide))

namespace Listed

/-- The tables are those whose entries are there. -/
theorem mem_iff (h : Listed st live d) (hn : name.Outside st) :
    name ∈ live ↔ d.contains (Catalog.entryKey st name) = true :=
  ⟨h.entry name, fun hd => h.complete name.tablespace name.table hd hn.parseSystem?⟩

/-- A change of keys that are no entries. -/
theorem congr (h : Listed st live d) (htyped : Typed st d')
    (hsame : ∀ name, d'.get? (Catalog.entryKey st name) = d.get? (Catalog.entryKey st name)) : Listed st live d' where
  typed := htyped
  outside := h.outside
  entry name hn := (contains_eq (hsame name)).trans (h.entry name hn)
  complete ts tb hd hparse := h.complete ts tb ((contains_eq (hsame _)).symm.trans hd) hparse

end Listed

/-- Commands on rows and sets change no entry. -/
theorem listed_rows (hst : st.Valid) (name : TableName) : RowsClosed st name (Listed st live) where
  typed _ h := h.typed
  row ht hn hts hp hstep h := h.congr (TableStep.typed hst (.row ht hn hts hp hstep) h.typed) fun _ =>
    hstep.frame (entryKey_notMem hst ht hts hp)
  deletion ht hn hts key d hp h := h.congr (h.typed.eraseAll _) fun _ => by
    rw [KeyCommand.get?_eraseAll, if_neg (entryKey_notMem hst ht hts hp)]

namespace Listed

/-- A table is defined. -/
theorem define (hst : st.Valid) (h : Listed st live d) (ht : t.Valid st) (hts : t.tablespace ≠ st.systemPrefix) :
    Listed st (t.tableName :: live)
      ((KeyCommand.hset false (Catalog.entryKey st t.tableName) (Catalog.entry t)).run d).2 where
  typed := h.typed.hset (Key.isClosed_braced _) (not_reserved_entry hst ht hts)
  outside := List.forall_mem_cons.2 ⟨ht.outside hts, h.outside⟩
  entry := by
    refine List.forall_mem_cons.2 ⟨contains_hset (List.cons_ne_nil _ _) _ d, fun other ho => ?_⟩
    by_cases he : Catalog.entryKey st other = Catalog.entryKey st t.tableName
    · rw [he]
      exact contains_hset (List.cons_ne_nil _ _) _ d
    · exact (contains_eq (hset_outside he)).trans (h.entry other ho)
  complete ts tb hd hparse := by
    by_cases he : Catalog.entryKey st ⟨ts, tb⟩ = Catalog.entryKey st t.tableName
    · rw [he, (ht.outside hts).parseSystem?] at hparse
      obtain ⟨h1, h2⟩ := Prod.mk.inj (Option.some.inj hparse)
      exact List.mem_cons.2 (.inl (TableName.mk.injEq .. ▸ ⟨h1.symm, h2.symm⟩))
    · exact List.mem_cons_of_mem _ (h.complete ts tb ((contains_eq (hset_outside he)).symm.trans hd) hparse)

/-- A table is dropped. -/
theorem drop (h : Listed st live d) (hn : name.Outside st) :
    Listed st (live.filter (· ≠ name)) (without d [Catalog.entryKey st name]) where
  typed := h.typed.eraseAll _
  outside other ho := h.outside other (List.mem_filter.1 ho).1
  entry other ho := by
    obtain ⟨hlive, hne⟩ := List.mem_filter.1 ho
    have hkey : Catalog.entryKey st other ∉ [Catalog.entryKey st name] := fun hm =>
      of_decide_eq_true hne (entryKey_inj (h.outside other hlive).tablespace hn.tablespace (List.mem_singleton.1 hm))
    rw [KeyMap.contains, get?_without, if_neg hkey]
    exact h.entry other hlive
  complete ts tb hd hparse := by
    rw [KeyMap.contains, get?_without] at hd
    split at hd
    · cases hd
    · next hkey =>
      refine List.mem_filter.2 ⟨h.complete ts tb hd hparse, decide_eq_true ?_⟩
      rintro rfl
      exact hkey List.mem_cons_self

/-- The tables that are found under a pattern are those whose entries match it. -/
theorem found_iff (h : Listed st live d) {keys : List String} (hkeys : ∀ k, k ∈ keys ↔ d.contains k = true)
    {pattern ts tb : String} :
    (ts, tb) ∈ (keys.filter (Glob.matchesKey pattern)).filterMap (Key.parseSystem? st.systemPrefix) ↔
      ⟨ts, tb⟩ ∈ live ∧ Glob.matchesKey pattern (Catalog.entryKey st ⟨ts, tb⟩) = true := by
  rw [List.mem_filterMap]
  constructor
  · rintro ⟨key, hkey, hparse⟩
    obtain ⟨hmem, hmatch⟩ := List.mem_filter.1 hkey
    obtain rfl : key = Catalog.entryKey st ⟨ts, tb⟩ := Key.parseSystem?_eq_some hparse
    exact ⟨h.complete ts tb ((hkeys _).1 hmem) hparse, hmatch⟩
  · rintro ⟨hlive, hmatch⟩
    exact ⟨_, List.mem_filter.2 ⟨(hkeys _).2 (h.entry _ hlive), hmatch⟩, (h.outside _ hlive).parseSystem?⟩

end Listed

/-! ## Defining tables -/

/-- A definition that fails changes nothing, and one that succeeds has written the entry of a proper table. -/
theorem create_cases (hm : 10 ≤ m) (hd : Typed st d) (ifNotExists : Bool) :
    (∃ e, outcome (Store.world m) (Catalog.create st t ifNotExists) d = (.error e, d)) ∨
      t.Valid st ∧ t.tablespace ≠ st.systemPrefix ∧ outcome (Store.world m) (Catalog.create st t ifNotExists) d =
        (.ok (), ((KeyCommand.hset false (Catalog.entryKey st t.tableName) (Catalog.entry t)).run d).2) := by
  have hclosed : Key.IsClosed (Catalog.entryKey st t.tableName) := Key.isClosed_braced _
  have hwrite : outcome (Store.world m)
      (liftM (Asking.hmset (Catalog.entryKey st t.tableName) (Catalog.entry t)) : Engine Unit) d =
        (.ok (), ((KeyCommand.hset false (Catalog.entryKey st t.tableName) (Catalog.entry t)).run d).2) := by
    have hr : (Command.hmset (Catalog.entryKey st t.tableName) (Catalog.entry t)).Runs _ :=
      Command.runs_hmset (List.cons_ne_nil _ _)
    obtain ⟨h, hh⟩ := hd.hashAt hclosed
    have hok : ((KeyCommand.hset false (Catalog.entryKey st t.tableName) (Catalog.entry t)).run d).1 = .ok := by
      show (KeyCommand.changeHash d _ fun h => (.ok, (KeyCommand.insertAll h (Catalog.entry t)).2)).1 = .ok
      unfold KeyCommand.changeHash
      rw [hh]
    rw [Store.outcome_hmset, reply_runs hr hm, hok]
    rfl
  unfold Catalog.create
  cases hst : Catalog.storable st t with
  | error e => exact .inl ⟨e, rfl⟩
  | ok _ =>
    obtain ⟨hts, ht⟩ := storable_ok hst
    have hstorable : outcome (Store.world m) (liftM (.ok () : Except EngineError Unit) : Engine Unit) d = (.ok (), d) := rfl
    rw [outcome_bind_ok hstorable]
    split
    · obtain ⟨r, h1, -⟩ := (reads_existsKey (m := m) (d := d) (Catalog.entryKey st t.tableName)).liftM d rfl
      cases r with
      | error e =>
        rw [outcome_bind_error h1]
        exact .inl ⟨e, rfl⟩
      | ok b =>
        rw [outcome_bind_ok h1]
        cases b with
        | true => exact .inl ⟨_, rfl⟩
        | false => exact .inr ⟨ht, hts, hwrite⟩
    · exact .inr ⟨ht, hts, hwrite⟩

end SlotSql
