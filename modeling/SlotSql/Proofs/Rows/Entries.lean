import SlotSql.Proofs.Blob
import SlotSql.Proofs.Rows.Accounted
import SlotSql.Proofs.Rows.Failure
import SlotSql.Proofs.Simulation.Deletion
import SlotSql.Proofs.Text.Integer
/-!
# Entries of the catalog

A table is defined by writing its entry, and dropped by removing its rows, with their sets, and then its entry. A
definition that replaces no table leaves every other key accounted for as it was; so does a table that is dropped
after its last row.

Results:
* `tableIn_hash`: the table that an entry describes.
* `accounted_entry`, `accounted_drop`: what defining and dropping a table keep.
-/
namespace SlotSql

open Cluster Store Simulation Dialogue
open Session (tableIn valid_of_tableIn tableIn_congr)

variable {t u : Table} {st : Settings} {d d' : Data} {key : String} {name : TableName}

/-! ## Reading entries -/

/-- The table of a name is read from the hash under the key of its entry. -/
theorem tableIn_hash {h : KeyMap Bytes} (hm : 6 ≤ st.maxArgs)
    (hd : KeyCommand.hashAt d (Catalog.entryKey st name) = .ok h) : tableIn st d name =
      Catalog.read st name (h.get? Catalog.countField) (h.get? Catalog.columnsField) (h.get? Catalog.createdField)
        (h.get? Catalog.commentField) := by
  have hread : outcome (fixedWorld (answers st.maxArgs d)) (Asking.hmget (Catalog.entryKey st name)
      [Catalog.countField, Catalog.columnsField, Catalog.createdField, Catalog.commentField]) () = _ :=
    outcome_hmget hd (List.cons_ne_nil _ _) hm
  unfold tableIn Catalog.describe
  rw [outcome_bind, Engine.outcome_liftM, hread]
  rfl

/-- A table that is read has an entry. -/
theorem contains_entry (hm : 6 ≤ st.maxArgs) (ht : tableIn st d name = .ok t) :
    d.contains (Catalog.entryKey st name) = true := by
  cases hd : d.get? (Catalog.entryKey st name) with
  | some v =>
    unfold KeyMap.contains
    rw [hd]
    rfl
  | none =>
    have hempty : KeyCommand.hashAt d (Catalog.entryKey st name) = .ok .empty := by
      unfold KeyCommand.hashAt
      rw [hd]
    rw [tableIn_hash hm hempty] at ht
    cases ht

/-- Different names have different entries. -/
theorem entryKey_inj {a b : TableName} (ha : Token.isName a.tablespace.toList = true)
    (hb : Token.isName b.tablespace.toList = true) (h : Catalog.entryKey st a = Catalog.entryKey st b) : a = b := by
  have htext := congrArg String.toList h
  rw [toList_entryKey, toList_entryKey] at htext
  have hbody := List.append_cancel_left (List.cons.inj (List.append_cancel_right htext)).2
  simp only [List.cons.injEq, true_and] at hbody
  obtain ⟨h1, h2⟩ := Text.eq_of_append_cons (Table.notMem_name ha (by decide)) (Table.notMem_name hb (by decide)) hbody
  exact TableName.mk.injEq .. ▸ ⟨String.toList_inj.1 h1, String.toList_inj.1 h2⟩

/-- What accounts for the entry of a table. -/
theorem Accounts.of_entry (hst : st.Valid) (ht : t.Valid st) {v : Value} {kind : KeyKind}
    (h : Accounts st d kind (Catalog.entryKey st t.tableName) v) : ∃ u, Live st d u ∧ u.tableName = t.tableName := by
  generalize hj : Catalog.entryKey st t.tableName = j at h
  cases h with
  | @entry u _ hu => exact ⟨u, hu, (entryKey_inj ht.tablespace hu.valid.tablespace hj).symm⟩
  | @row u _ _ _ hu hp =>
    have hout : Catalog.entryKey st t.tableName ∉ _ := entryKey_notMem hst hu.valid hu.tablespace (by rw [hp]; rfl)
    exact absurd List.mem_cons_self (hj ▸ hout)
  | set hu hrow _ hf =>
    have hout : Catalog.entryKey st t.tableName ∉ _ := entryKey_notMem hst hu.valid hu.tablespace hrow
    exact absurd (Table.set_mem_footprint hf) (hj ▸ hout)

/-- Where every key is accounted for, a table that is read is outside the tablespace of the system. -/
theorem Accounted.live (hst : st.Valid) (hm : 6 ≤ st.maxArgs) (ha : Accounted st d) (h : tableIn st d name = .ok t) :
    Live st d t := by
  obtain ⟨hvalid, rfl⟩ := valid_of_tableIn h
  obtain ⟨v, hv⟩ := Option.isSome_iff_exists.1 (contains_entry hm h)
  obtain ⟨_, hentry⟩ := ha _ v hv
  obtain ⟨u, hu, hn⟩ := hentry.of_entry hst hvalid
  have htable := hu.table
  rw [hn, h] at htable
  cases htable
  exact hu

/-! ## Defining tables -/

/-- A table whose columns can be stored. -/
structure Table.Storable (t : Table) : Prop where
  count : t.fields.length ≤ Number.max64
  fields : ∀ f ∈ t.fields, Blob.Storable f

/-- An entry that is written over a hash is found there. -/
theorem get?_entry (t : Table) (old : KeyMap Bytes) : let h := (KeyCommand.insertAll old (Catalog.entry t)).2
    h.get? Catalog.countField = some (Utf8.bytes (toString t.fields.length)) ∧
      h.get? Catalog.columnsField = some (Blob.encode t.fields) ∧
      h.get? Catalog.createdField = some (Utf8.bytes (toString t.created)) ∧
      h.get? Catalog.commentField = some (Utf8.bytes t.comment) := by
  simp [KeyCommand.get?_insertAll, Catalog.entry, KeyMap.lookup_cons_if, Catalog.countField, Catalog.columnsField,
    Catalog.createdField, Catalog.commentField]

/-- The entry of a table describes it, except for a time of its creation that is no number of 64 bits. -/
theorem read_entry (ht : t.Valid st) (hs : t.Storable) :
    Catalog.read st t.tableName (some (Utf8.bytes (toString t.fields.length))) (some (Blob.encode t.fields))
      (some (Utf8.bytes (toString t.created))) (some (Utf8.bytes t.comment)) =
        .ok { t with created := (Number.int64? (toString t.created)).getD 0 } := by
  have hcount : Number.nat64? (Text.trimmed (toString t.fields.length)) = some t.fields.length := by
    have htrim : Text.trimmed (toString t.fields.length) = toString t.fields.length := by
      unfold Text.trimmed
      rw [Text.trim_eq_self, String.ofList_toList]
      intro c hc
      rw [show (toString t.fields.length).toList = Nat.toDigits 10 t.fields.length from Nat.toList_repr] at hc
      exact Text.isBlank_toDigits (by omega) (by omega) _ c hc
    rw [htrim, Number.nat64?_toString hs.count]
  have hne : t.fields.length ≠ 0 := by
    obtain ⟨f, hf⟩ := List.exists_mem_of_ne_nil _ ht.keys_ne_nil
    exact Nat.ne_of_gt (List.length_pos_of_mem (Table.mem_keyFields.1 hf).1)
  -- The conditions on a table do not depend on when it was created.
  have hvalid (created : Int) : ({ t with created } : Table).validate st = .ok () := by
    have hfault : ({ t with created } : Table).fault? st = none := ht
    unfold Table.validate
    rw [hfault]
  unfold Catalog.read
  simp only [Option.map_some, Utf8.decodeLossy_bytes, hcount, if_neg hne, Blob.decode_encode hs.count hs.fields,
    Option.bind_some, Option.getD_some]
  refine except_bind_eq_ok.2 ⟨t.fields, rfl, ?_⟩
  rw [if_neg (by simp)]
  exact except_bind_eq_ok.2 ⟨(), hvalid _, rfl⟩

/-- A table that was defined is found: its entry is written over what the hash of the entry held. -/
theorem tableIn_defined (hm : 6 ≤ st.maxArgs) (ht : t.Valid st) (hs : t.Storable) {old : KeyMap Bytes}
    (hd : KeyCommand.hashAt d (Catalog.entryKey st t.tableName) = .ok old) :
    tableIn st ((KeyCommand.hset false (Catalog.entryKey st t.tableName) (Catalog.entry t)).run d).2 t.tableName =
      .ok { t with created := (Number.int64? (toString t.created)).getD 0 } := by
  have hkey : ((KeyCommand.hset false (Catalog.entryKey st t.tableName) (Catalog.entry t)).run d).2.get?
      (Catalog.entryKey st t.tableName) = some (.hash (KeyCommand.insertAll old (Catalog.entry t)).2) := by
    show (KeyCommand.changeHash d _ fun h => (.ok, (KeyCommand.insertAll h (Catalog.entry t)).2)).2.get? _ = _
    rw [KeyCommand.changeHash_get?, if_pos rfl, hd]
    exact if_neg (Bool.eq_false_iff.1 (KeyCommand.insertAll_isEmpty _ (List.cons_ne_nil _ _ : Catalog.entry t ≠ [])))
  have hhash : KeyCommand.hashAt ((KeyCommand.hset false (Catalog.entryKey st t.tableName)
      (Catalog.entry t)).run d).2 (Catalog.entryKey st t.tableName) =
        .ok (KeyCommand.insertAll old (Catalog.entry t)).2 := by
    unfold KeyCommand.hashAt
    rw [hkey]
  obtain ⟨h1, h2, h3, h4⟩ := get?_entry t old
  rw [tableIn_hash hm hhash, h1, h2, h3, h4]
  exact read_entry ht hs

/-- A definition that replaces no table leaves every key accounted for. -/
theorem accounted_entry (hm : 6 ≤ st.maxArgs) (ht : t.Valid st) (hts : t.tablespace ≠ st.systemPrefix)
    (hs : t.Storable) (hd : d.get? (Catalog.entryKey st t.tableName) = none) (ha : Accounted st d) :
    Accounted st ((KeyCommand.hset false (Catalog.entryKey st t.tableName) (Catalog.entry t)).run d).2 := by
  have hout {j : String} (hj : j ≠ Catalog.entryKey st t.tableName) :
      ((KeyCommand.hset false (Catalog.entryKey st t.tableName) (Catalog.entry t)).run d).2.get? j = d.get? j :=
    hset_outside hj
  have hempty : KeyCommand.hashAt d (Catalog.entryKey st t.tableName) = .ok .empty := by
    unfold KeyCommand.hashAt
    rw [hd]
  have htable : Live st ((KeyCommand.hset false (Catalog.entryKey st t.tableName) (Catalog.entry t)).run d).2
      { t with created := (Number.int64? (toString t.created)).getD 0 } := ⟨tableIn_defined hm ht hs hempty, hts⟩
  have hlive (u : Table) (hu : Live st d u) :
      Live st ((KeyCommand.hset false (Catalog.entryKey st t.tableName) (Catalog.entry t)).run d).2 u := by
    refine hu.congr (hout fun he => ?_)
    have hcontains := contains_entry hm hu.table
    rw [KeyMap.contains, he, hd] at hcontains
    cases hcontains
  intro j v hv
  by_cases hj : j = Catalog.entryKey st t.tableName
  · exact ⟨.entry, hj ▸ .entry htable⟩
  · rw [hout hj] at hv
    obtain ⟨kind, h⟩ := ha j v hv
    refine ⟨kind, h.move hlive fun u k _ hk => (contains_eq (hout fun he => ?_)).trans hk⟩
    rw [KeyMap.contains, he, hd] at hk
    cases hk

theorem storable_ok (h : Catalog.storable st t = .ok ()) : t.tablespace ≠ st.systemPrefix ∧ t.Valid st := by
  unfold Catalog.storable at h
  by_cases hts : t.tablespace = st.systemPrefix
  · rw [if_pos hts] at h
    cases h
  · refine ⟨hts, ?_⟩
    rw [if_neg hts] at h
    unfold Table.validate at h
    unfold Table.Valid
    cases hf : t.fault? st with
    | none => rfl
    | some e =>
      rw [hf] at h
      cases h

/-- Defining a table asks for commands on its entry, and writes it outside the tablespace of the system only. -/
theorem asks_create {P : Target → Command → Prop} {st : Settings} {t : Table}
    (hexists : P .active (.existsKey (Catalog.entryKey st t.tableName)))
    (hwrite : t.tablespace ≠ st.systemPrefix → t.Valid st →
      P .active (.hmset (Catalog.entryKey st t.tableName) (Catalog.entry t))) (ifNotExists : Bool) :
    Asks P (fun _ => True) (Catalog.create st t ifNotExists) := by
  have hexists : Asks P (fun _ => True) (Asking.existsKey (Catalog.entryKey st t.tableName)) := asks_existsKey hexists
  unfold Catalog.create
  refine (Asks.mk fun _ h => storable_ok h : Asks P (fun _ => t.tablespace ≠ st.systemPrefix ∧ t.Valid st) _).bind
    fun _ ⟨hts, ht⟩ => ?_
  have hwrite : Asks P (fun _ => True) (Asking.hmset (Catalog.entryKey st t.tableName) (Catalog.entry t)) :=
    (Asks.command (hwrite hts ht)).bind fun _ _ => .pure trivial
  split
  · refine (Engine.asks_liftM hexists).bind fun b _ => ?_
    split
    · exact (Asks.throw (Q := fun _ => True) _).bind fun _ _ => Engine.asks_liftM hwrite
    · exact Engine.asks_liftM hwrite
  · exact Engine.asks_liftM hwrite

/-- Its entry lies in one slot. -/
theorem asks_create_slot (st : Settings) (t : Table) (ifNotExists : Bool) :
    Asks OnSlot (fun _ => True) (Catalog.create st t ifNotExists) :=
  asks_create ⟨rfl, _, _, Command.runs_existsKey, oneSlot_singleton _⟩
    (fun _ _ => ⟨rfl, _, _, Command.runs_hmset (List.cons_ne_nil _ _), oneSlot_singleton _⟩) ifNotExists

/-- Defining a table leaves every key accounted for if it replaces no table. -/
theorem accounted_create (hm : 10 ≤ st.maxArgs) (hs : t.Storable) {ifNotExists : Bool}
    (hnew : t.Valid st → ifNotExists = false → d.get? (Catalog.entryKey st t.tableName) = none) (ha : Accounted st d) :
    Accounted st (outcome (Store.world st.maxArgs) (Catalog.create st t ifNotExists) d).2 := by
  unfold Catalog.create
  cases hst : Catalog.storable st t with
  | error e => exact ha
  | ok _ =>
    obtain ⟨hts, ht⟩ := storable_ok hst
    have hwrite (hd : d.get? (Catalog.entryKey st t.tableName) = none) : Accounted st (outcome (Store.world st.maxArgs)
        (liftM (Asking.hmset (Catalog.entryKey st t.tableName) (Catalog.entry t)) : Engine Unit) d).2 := by
      have hr : (Command.hmset (Catalog.entryKey st t.tableName) (Catalog.entry t)).Runs _ :=
        Command.runs_hmset (List.cons_ne_nil _ _)
      rw [Store.outcome_hmset, reply_runs hr hm]
      exact accounted_entry (by omega) ht hts hs hd ha
    show Accounted st (outcome _ (do
      if ifNotExists then
        if ← Asking.existsKey (Catalog.entryKey st t.tableName) then
          throw (.alreadyExists (Catalog.title t.tableName))
      Asking.hmset (Catalog.entryKey st t.tableName) (Catalog.entry t) : Engine Unit) d).2
    cases ifNotExists with
    | false => exact hwrite (hnew ht rfl)
    | true =>
      obtain ⟨r, h1, h2⟩ := (reads_existsKey (m := st.maxArgs) (d := d) (Catalog.entryKey st t.tableName)).liftM d rfl
      rw [if_pos rfl]
      cases r with
      | error e =>
        rw [outcome_bind_error h1]
        exact ha
      | ok b =>
        rw [outcome_bind_ok h1]
        cases b with
        | true => exact ha
        | false =>
          refine hwrite ?_
          have hb := h2 false rfl
          unfold KeyMap.contains at hb
          exact Option.isNone_iff_eq_none.1 (by rw [← Option.not_isSome, ← hb]; rfl)

/-! ## Dropping tables -/

/-- A table is dropped with all its rows and their sets. -/
theorem accounted_drop (hst : st.Valid) (ht : Live st d t) {keys : List String}
    (hkeys : ∀ key ∈ keys, (t.parts? key).isSome = true)
    (hall : ∀ key, (t.parts? key).isSome = true → d.contains key = true → key ∈ keys) (ha : Accounted st d) :
    Accounted st (without d (keys.flatMap t.footprint ++ [Catalog.entryKey st t.tableName])) := by
  have hout {j : String} (hj : j ≠ Catalog.entryKey st t.tableName) (hrows : ∀ key ∈ keys, j ∉ t.footprint key) :
      (without d (keys.flatMap t.footprint ++ [Catalog.entryKey st t.tableName])).get? j = d.get? j := by
    rw [get?_without, if_neg]
    intro hm
    rcases List.mem_append.1 hm with hm | hm
    · obtain ⟨key, hkey, hm⟩ := List.mem_flatMap.1 hm
      exact hrows key hkey hm
    · exact hj (List.mem_singleton.1 hm)
  have hsame {u : Table} (hu : Live st d u) (hn : u.tableName = t.tableName) : u = t := by
    have htable := hu.table
    rw [hn, ht.table] at htable
    exact (Except.ok.inj htable).symm
  have hlive {u : Table} (hu : Live st d u) (hn : u.tableName ≠ t.tableName) :
      Live st (without d (keys.flatMap t.footprint ++ [Catalog.entryKey st t.tableName])) u :=
    hu.congr (hout (fun he => hn (entryKey_inj hu.valid.tablespace ht.valid.tablespace he)) fun key hkey =>
      entryKey_notMem hst ht.valid ht.tablespace (hkeys key hkey))
  intro j v hv
  rw [get?_without] at hv
  split at hv
  · cases hv
  · next hj =>
    have hentry : j ≠ Catalog.entryKey st t.tableName := fun he => hj (by simp [he])
    have hgone {key : String} (hp : (t.parts? key).isSome = true) (hd : d.contains key = true) :
        j ∉ t.footprint key := fun hm =>
      hj (List.mem_append_left _ (List.mem_flatMap.2 ⟨key, hall key hp hd, hm⟩))
    obtain ⟨kind, h⟩ := ha j v hv
    refine ⟨kind, ?_⟩
    cases h with
    | entry hu => exact .entry (hlive hu fun hn => hentry (by rw [hn]))
    | row hu hp hparts hfields =>
      refine .row (hlive hu fun hn => ?_) hp hparts hfields
      obtain rfl := hsame hu hn
      exact hgone (by rw [hp]; rfl) (by rw [KeyMap.contains, hv]; rfl) List.mem_cons_self
    | @set u row f ms hu hrow hd hf hne hms =>
      have hn : u.tableName ≠ t.tableName := fun hn => by
        obtain rfl := hsame hu hn
        exact hgone hrow hd (Table.set_mem_footprint hf)
      refine .set (hlive hu hn) hrow ((contains_eq (hout (fun he => ?_) fun key hkey => ?_)).trans hd) hf hne hms
      · refine entryKey_notMem hst hu.valid hu.tablespace hrow (?_ : Catalog.entryKey st t.tableName ∈ _)
        rw [← he]
        exact List.mem_cons_self
      · refine notMem_footprint ht.valid hrow ?_
        rintro rfl
        exact hn (tableName_of_parts? (hkeys row hkey) hrow)

end SlotSql
