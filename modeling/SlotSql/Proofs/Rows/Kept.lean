import SlotSql.Proofs.Rows.Meaning
import SlotSql.Table.Value
/-!
# Keeping rows

The keys of a table are those of its rows and of their sets. A store keeps a table well if under these keys
lies what belongs there: hashes with readable numbers under row keys in stored form, sets under the keys of
sets. Each command of the engine that writes leaves such a store in that state.

Results:
* `Kept.rowIn`: the rows of such a store are as the plans of the table expect them.
* `Kept.keeps`: a command that is meant for a table keeps it well.
* `parse_rowKey`: the parts that a key is made of are read from it, if their number is right.
-/
namespace SlotSql

open Cluster Store Evaluation

namespace Table

/-- A key of a row of a table, or of a set of one. -/
def Owns (t : Table) (key : String) : Prop :=
  (t.parts? key).isSome = true ∨
    ∃ k f, (t.parts? k).isSome = true ∧ f ∈ t.setFields ∧ key = Key.set k f.name

/-- What may lie under a key: under that of a row in stored form a hash with readable numbers, and under that
of a set of a row a set. -/
def Allows (t : Table) (key : String) : Value → Prop
  | .hash h => (∀ k f, (t.parts? k).isSome = true → f ∈ t.setFields → key ≠ Key.set k f.name) ∧
      ∀ parts, t.parts? key = some parts → t.keyFields.Forall₂ (fun f x => Filter.Stored f.type x) parts ∧
        ∀ f ∈ t.fields, f.isPlain = true → ∀ v, h.get? f.name = some v →
          Readable f.type (Utf8.decodeLossy v)
  | .set _ => t.parts? key = none

/-- A store that keeps a table well. -/
def Kept (t : Table) (d : Data) : Prop := ∀ key v, d.get? key = some v → t.Allows key v

variable {t : Table} {st : Settings} {d d' : Data} {key k : String} {parts : List String} {f : Field}
  {m : Nat} {c : Command}

/-! ## Keys of a table -/

theorem parse_of_parts? (h : t.parts? key = some parts) :
    Key.parseRow? key = some (t.tablespace, t.name, parts) ∧ parts.length = t.keyCount := by
  unfold parts? at h
  split at h
  · next ts tb ps hk =>
    split at h
    · next hcond =>
      obtain ⟨rfl, rfl, hl⟩ := hcond
      cases h
      exact ⟨hk, hl⟩
    · cases h
  · cases h

theorem parts?_of_parse (h : Key.parseRow? key = some (t.tablespace, t.name, parts))
    (hl : parts.length = t.keyCount) : t.parts? key = some parts := by
  unfold parts?
  rw [h]
  exact if_pos ⟨rfl, rfl, hl⟩

theorem parts?_eq_none (h : Key.parseRow? key = none) : t.parts? key = none := by
  unfold parts?
  rw [h]

theorem notMem_name {s : String} (h : Token.isName s.toList = true) {ch : Char}
    (hc : Token.isNameChar ch = false) : ch ∉ s.toList := Key.notMem_of_isName h hc

/-- The key of a set is no key of a row. -/
theorem Valid.parts?_set (ht : t.Valid st) (hf : f ∈ t.setFields) (k : String) :
    t.parts? (Key.set k f.name) = none :=
  parts?_eq_none (Key.parseRow?_set (notMem_name (ht.setField hf).1 (by decide)))

/-- The parts that a key is made of are read from it, if their number is right. -/
theorem parse_rowKey (ht : t.Valid st) (hp : parts ≠ []) : ∃ ps,
    Key.parseRow? (t.rowKey parts) = some (t.tablespace, t.name, ps) ∧
      (ps.length = parts.length → ps = parts) := by
  obtain ⟨p, ps, rfl⟩ := List.exists_cons_of_ne_nil hp
  have hne {s : String} (h : Token.isName s.toList = true) : s.toList ≠ [] := by
    intro he
    rw [he] at h
    cases h
  have hread : Key.parseRow? (t.rowKey (p :: ps)) = some (String.ofList t.tablespace.toList,
      String.ofList t.name.toList,
      (Text.split ':' (p.toList ++ (ps.map String.toList).flatMap (':' :: ·))).map String.ofList) :=
    Key.parseRow?_of_toList (Key.toList_row t.tablespace t.name (p :: ps)) (hne ht.tablespace)
      (notMem_name ht.tablespace (by decide)) (hne ht.name) (notMem_name ht.name (by decide))
  rw [String.ofList_toList, String.ofList_toList] at hread
  refine ⟨_, hread, fun hl => ?_⟩
  have hjoin : ((p :: ps).map String.toList).flatMap (':' :: ·) =
      (Text.split ':' (p.toList ++ (ps.map String.toList).flatMap (':' :: ·))).flatMap (':' :: ·) := by
    cases hs : Text.split ':' (p.toList ++ (ps.map String.toList).flatMap (':' :: ·)) with
    | nil => exact absurd hs (Text.split_ne_nil _ _)
    | cons q qs =>
      rw [List.map_cons, List.flatMap_cons, List.flatMap_cons, List.cons_append, List.cons_append,
        (Text.split_eq_cons_iff.1 hs).1]
  have haligned := Text.pieces_aligned (by rw [List.length_map] at hl ⊢; exact hl.symm)
    (fun y hy => Text.notMem_of_mem_split hy) hjoin
  rw [← haligned, List.map_map]
  exact (List.map_congr_left fun _ _ => String.ofList_toList).trans (List.map_id _)

/-- What is read from the key that is made of the parts of a row are these parts. -/
theorem parts?_rowKey (ht : t.Valid st) {ps : List String} (hl : parts.length = t.keyCount)
    (h : t.parts? (t.rowKey parts) = some ps) : ps = parts := by
  have hne : parts ≠ [] := by
    rintro rfl
    exact ht.keys_ne_nil (List.length_eq_zero_iff.1 hl.symm)
  obtain ⟨qs, hread, hsame⟩ := parse_rowKey ht hne
  obtain ⟨hp, hlen⟩ := parse_of_parts? h
  rw [hread] at hp
  cases hp
  exact hsame (hlen.trans hl.symm)

/-- A row key of another tablespace is no key of a table. -/
theorem Valid.not_owns (ht : t.Valid st) {ts tb : String} (hk : Key.parseRow? key = some (ts, tb, parts))
    (hne : ts ≠ t.tablespace) : ¬ t.Owns key := by
  rintro (h | ⟨k, f, -, hf, rfl⟩)
  · obtain ⟨ps, hp⟩ := Option.isSome_iff_exists.1 h
    rw [(parse_of_parts? hp).1] at hk
    exact hne (congrArg (fun r => (r.getD default).1) hk).symm
  · rw [Key.parseRow?_set (notMem_name (ht.setField hf).1 (by decide))] at hk
    cases hk

/-! ## Stores that keep a table -/

/-- Under keys that are not of the table anything may lie. -/
theorem allows_of_not_owns (h : ¬ t.Owns key) (v : Value) : t.Allows key v := by
  have hnone : t.parts? key = none := by
    cases hp : t.parts? key with
    | none => rfl
    | some ps => exact absurd (.inl (by rw [hp]; rfl)) h
  cases v with
  | hash m =>
    refine ⟨fun k f hk hf he => h (.inr ⟨k, f, hk, hf, he⟩), fun ps hp => ?_⟩
    rw [hnone] at hp
    cases hp
  | set s => exact hnone

/-- The rows of a well kept store are as the plans of the table expect them. -/
theorem Kept.rowIn (hk : t.Kept d) (hp : t.parts? key = some parts) (hd : d.contains key = true) :
    t.RowIn d key parts := by
  obtain ⟨v, hv⟩ := Option.isSome_iff_exists.1 hd
  have hv : d.get? key = some v := hv
  have ha := hk key v hv
  cases v with
  | set s => exact absurd (ha.symm.trans hp) (by simp)
  | hash h =>
    obtain ⟨h1, h2⟩ := ha.2 parts hp
    refine ⟨h1, ⟨⟨h, hv⟩, fun n hn => ?_⟩, fun f hf hplain x hx => h2 f hf hplain x ?_⟩
    · obtain ⟨f, hf, rfl⟩ := List.mem_map.1 hn
      cases hg : d.get? (Key.set key f.name) with
      | none => exact .inl rfl
      | some v =>
        cases v with
        | set s => exact .inr ⟨s, rfl⟩
        | hash h' => exact absurd rfl ((hk _ _ hg).1 key f (by rw [hp]; rfl) hf)
    · unfold plainOf at hx
      rwa [hv] at hx

/-- A table is kept well where its keys are left alone or removed. -/
theorem Kept.thin (hk : t.Kept d) (h : ∀ key, t.Owns key → d'.get? key = none ∨ d'.get? key = d.get? key) :
    t.Kept d' := by
  intro key v hv
  by_cases ho : t.Owns key
  · rcases h key ho with hn | he
    · rw [hn] at hv
      cases hv
    · exact hk key v (he ▸ hv)
  · exact allows_of_not_owns ho v

/-! ## Commands that write -/

/-- A command of the engine on a row of a table or on one of its sets. -/
inductive Keeps (t : Table) : Command → Prop
  | existsKey (key : String) : Keeps t (.existsKey key)
  | hmget (key : String) {fields : List String} (hf : fields ≠ []) : Keeps t (.hmget key fields)
  | hmset {key : String} {pairs : List (String × Bytes)} (hk : Key.parseRow? key ≠ none) (hp : pairs ≠ [])
    (stored : ∀ parts, t.parts? key = some parts →
      t.keyFields.Forall₂ (fun f x => Filter.Stored f.type x) parts)
    (readable : ∀ f ∈ t.fields, f.isPlain = true → ∀ v, (f.name, v) ∈ pairs →
      Readable f.type (Utf8.decodeLossy v)) : Keeps t (.hmset key pairs)
  | del (key : String) : Keeps t (.del [key])
  | sadd (key : String) {f : Field} {members : List String} (hf : f ∈ t.setFields) (hm : members ≠ []) :
    Keeps t (.sadd (Key.set key f.name) members)
  | srem (key : String) {f : Field} {members : List String} (hf : f ∈ t.setFields) (hm : members ≠ []) :
    Keeps t (.srem (Key.set key f.name) members)

/-- A change of one set of a row. -/
theorem Kept.changeSet (ht : t.Valid st) (hk : t.Kept d) (hf : f ∈ t.setFields)
    (g : KeyMap Unit → Reply × KeyMap Unit) : t.Kept (KeyCommand.changeSet d (Key.set k f.name) g).2 := by
  intro j v hv
  rw [KeyCommand.changeSet_get?] at hv
  split at hv
  · next he =>
    subst he
    split at hv
    · split at hv
      · cases hv
      · cases hv
        exact ht.parts?_set hf k
    · exact hk _ _ hv
  · exact hk j v hv

/-- A change of the hash of a row. -/
theorem Kept.hset (ht : t.Valid st) (hk : t.Kept d) {pairs : List (String × Bytes)}
    (hkey : Key.parseRow? key ≠ none)
    (stored : ∀ parts, t.parts? key = some parts →
      t.keyFields.Forall₂ (fun f x => Filter.Stored f.type x) parts)
    (readable : ∀ f ∈ t.fields, f.isPlain = true → ∀ v, (f.name, v) ∈ pairs →
      Readable f.type (Utf8.decodeLossy v)) :
    t.Kept ((KeyCommand.hset false key pairs).run d).2 := by
  intro j v hv
  have hv : (KeyCommand.changeHash d key fun h => (.ok, (KeyCommand.insertAll h pairs).2)).2.get? j = some v := hv
  rw [KeyCommand.changeHash_get?] at hv
  split at hv
  · next he =>
    subst he
    split at hv
    · next h hh =>
      split at hv
      · cases hv
      · cases hv
        refine ⟨fun k f _ hf he => hkey ?_, fun parts hp => ⟨stored parts hp, ?_⟩⟩
        · rw [he]
          exact Key.parseRow?_set (notMem_name (ht.setField hf).1 (by decide))
        · intro f hf hplain v hv
          rcases KeyCommand.mem_of_insertAll hv with hm | hm
          · exact readable f hf hplain v hm
          · -- The field was there before.
            unfold KeyCommand.hashAt at hh
            split at hh
            · cases hh
              rw [KeyMap.get?_empty] at hm
              cases hm
            · next h' hh' =>
              cases hh
              exact ((hk _ _ hh').2 parts hp).2 f hf hplain v hm
            · cases hh
    · exact hk _ _ hv
  · exact hk j v hv

theorem Kept.eraseAll (hk : t.Kept d) (ks : List String) : t.Kept (KeyCommand.eraseAll d ks).2 := by
  refine hk.thin fun key _ => ?_
  rw [KeyCommand.get?_eraseAll]
  split
  · exact .inl rfl
  · exact .inr rfl

/-- A command of the engine is a command on one key, and keeps the table well. -/
theorem Keeps.runs (ht : t.Valid st) (h : t.Keeps c) : ∃ kc key, c.Runs kc ∧ kc.keys = [key] ∧
    ∀ d, t.Kept d → t.Kept (kc.run d).2 := by
  cases h with
  | existsKey key => exact ⟨_, key, Command.runs_existsKey, rfl, fun d hk => hk⟩
  | @hmget key fields hf =>
    refine ⟨_, key, Command.runs_hmget hf, rfl, fun d hk => ?_⟩
    have hsame : ((KeyCommand.hmget key fields).run d).2 = d := KeyCommand.readHash_data _
    rw [hsame]
    exact hk
  | hmset hkey hp stored readable =>
    exact ⟨_, _, Command.runs_hmset hp, rfl, fun d hk => hk.hset ht hkey stored readable⟩
  | del key => exact ⟨_, key, Command.runs_del (List.cons_ne_nil _ _), rfl, fun d hk => hk.eraseAll [key]⟩
  | sadd key hf hm => exact ⟨_, _, Command.runs_sadd hm, rfl, fun d hk => hk.changeSet ht hf _⟩
  | srem key hf hm => exact ⟨_, _, Command.runs_srem hm, rfl, fun d hk => hk.changeSet ht hf _⟩

end Table
end SlotSql
