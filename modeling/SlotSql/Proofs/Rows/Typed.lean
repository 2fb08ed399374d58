import SlotSql.Proofs.Rows.Anchored
import SlotSql.Proofs.Rows.Entries
/-!
# Hashes and sets

Whether a hash or a set lies under a key can be seen from the key: rows and entries of the catalog are hashes, and
their keys end with a brace; the key of a set is such a key with the name of a column behind it. No command of the
engine ever puts the other kind of value under a key of either kind, whatever tables there are or have been. Nor does
any write the entry of a table in the tablespace of the system, where a row and an entry could have one key.

Results:
* `Typed`: a store without the wrong kind of value under a key, and without a table of the system.
* `Typed.outside`: its tables lie outside the tablespace of the system.
* `TableStep`: what the commands of statements on a table do to a store.
* `TableStep.typed`, `Closed`, `RowsClosed`: they keep such stores, and what else they keep.
* `Upsertion.keeps_execute`: a statement that writes rows keeps what the commands on a row keep.
-/
namespace SlotSql

open Cluster Store Simulation Dialogue

variable {t : Table} {st : Settings} {d : Data} {key k : String} {f : Field} {pairs : List (String × Bytes)}

/-! ## Kinds of keys -/

namespace Key

/-- A key that ends with a brace. -/
def IsClosed (key : String) : Prop := key.toList.getLast? = some closeBrace

theorem isClosed_braced (s : String) : IsClosed (braced s) := by
  have hlast : (openBrace :: s.toList ++ [closeBrace]).getLast? = some closeBrace := List.getLast?_concat
  unfold IsClosed braced
  simpa using hlast

theorem isClosed_of_parse {x : String × String × List String} (h : parseRow? key = some x) : IsClosed key := by
  obtain ⟨tablespace, table, parts⟩ := x
  rw [(parseRow?_eq_some h).1]
  exact isClosed_braced _

/-- The key of a set: one that ends with a brace, and a name behind it. -/
def IsSet (key : String) : Prop :=
  ∃ k field, IsClosed k ∧ field ≠ "" ∧ closeBrace ∉ field.toList ∧ key = set k field

/-- The key of a set does not end with a brace. -/
theorem IsSet.not_isClosed (h : IsSet key) : ¬ IsClosed key := by
  obtain ⟨k, field, -, hne, hf, rfl⟩ := h
  unfold IsClosed
  rw [toList_set]
  obtain ⟨cs, c, hc⟩ := (List.eq_nil_or_concat field.toList).resolve_left (by simpa using hne)
  rw [hc, List.concat_eq_append] at hf ⊢
  rw [← List.cons_append, ← List.append_assoc, List.getLast?_concat]
  rintro ⟨⟩
  simp at hf

end Key

namespace Table

theorem isClosed_row (hp : (t.parts? key).isSome = true) : Key.IsClosed key := by
  obtain ⟨parts, hp⟩ := Option.isSome_iff_exists.1 hp
  exact Key.isClosed_of_parse (parse_of_parts? hp).1

theorem isSet_set (ht : t.Valid st) (hf : f ∈ t.setFields) (hk : Key.IsClosed key) : Key.IsSet (Key.set key f.name) := by
  have hname := (ht.setField hf).1
  refine ⟨key, f.name, hk, fun he => ?_, notMem_name hname (by decide), rfl⟩
  rw [he] at hname
  cases hname

end Table

/-! ## Entries of the system -/

/-- A key that would be the entry of a table in the tablespace of the system. -/
def Catalog.Reserved (st : Settings) (key : String) : Prop := ∃ table, key = Catalog.entryKey st ⟨st.systemPrefix, table⟩

/-- The entry of a table outside the tablespace of the system. -/
theorem not_reserved_entry (hst : st.Valid) (ht : t.Valid st) (hts : t.tablespace ≠ st.systemPrefix) :
    ¬ Catalog.Reserved st (Catalog.entryKey st t.tableName) := by
  rintro ⟨table, he⟩
  have htext := congrArg String.toList he
  rw [toList_entryKey, toList_entryKey] at htext
  have hbody := List.append_cancel_left (List.cons.inj (List.append_cancel_right htext)).2
  simp only [List.cons.injEq, true_and] at hbody
  exact hts (String.toList_inj.1
    (Text.eq_of_append_cons (Table.notMem_name ht.tablespace (by decide)) hst.notMem_prefix hbody).1)

/-- Nor is a row of such a table, or a set of a row, an entry of the system. -/
theorem not_reserved_row (hst : st.Valid) (ht : t.Valid st) (hts : t.tablespace ≠ st.systemPrefix)
    (hp : (t.parts? key).isSome = true) (hk : k ∈ t.footprint key) : ¬ Catalog.Reserved st k := by
  rintro ⟨table, rfl⟩
  exact entryKey_notMem hst ht hts hp hk

/-! ## Stores -/

namespace Store

/-- A value that may lie under a key: it is not of the other kind, and not empty. -/
def Value.Fits (key : String) : Value → Prop
  | .hash h => ¬ Key.IsSet key ∧ h.isEmpty = false
  | .set ms => ¬ Key.IsClosed key ∧ ms.isEmpty = false

/-- A store without the wrong kind of value under a key, and without a table of the system. -/
def Typed (st : Settings) (d : Data) : Prop :=
  ∀ key v, d.get? key = some v → v.Fits key ∧ ¬ Catalog.Reserved st key

theorem typed_empty : Typed st .empty := fun _ _ h => by cases h

/-- The tables of such a store lie outside the tablespace of the system. -/
theorem Typed.outside (hd : Typed st d) (hm : 6 ≤ st.maxArgs) {name : TableName}
    (h : Session.tableIn st d name = .ok t) : t.tablespace ≠ st.systemPrefix := by
  obtain ⟨-, rfl⟩ := Session.valid_of_tableIn h
  obtain ⟨v, hv⟩ := Option.isSome_iff_exists.1 (contains_entry hm h)
  intro he
  exact (hd _ v hv).2 ⟨t.name, by rw [Table.tableName, he]⟩

/-- Under a key that ends with a brace lies a hash or nothing. -/
theorem Typed.hashAt (hd : Typed st d) (hk : Key.IsClosed key) : ∃ h, KeyCommand.hashAt d key = .ok h := by
  unfold KeyCommand.hashAt
  cases hv : d.get? key with
  | none => exact ⟨_, rfl⟩
  | some v =>
    cases v with
    | hash h => exact ⟨h, rfl⟩
    | set ms => exact absurd hk (hd key _ hv).1.1

/-- Under the key of a set lies a set or nothing. -/
theorem Typed.setOrNone (hd : Typed st d) (hk : Key.IsSet key) :
    d.get? key = none ∨ ∃ ms, d.get? key = some (.set ms) := by
  cases hv : d.get? key with
  | none => exact .inl rfl
  | some v =>
    cases v with
    | hash h => exact absurd hk (hd key _ hv).1.1
    | set ms => exact .inr ⟨ms, rfl⟩

theorem Typed.setAt (hd : Typed st d) (hk : Key.IsSet key) : ∃ ms, KeyCommand.setAt d key = .ok ms := by
  unfold KeyCommand.setAt
  rcases hd.setOrNone hk with h | ⟨ms, h⟩ <;> rw [h]
  · exact ⟨_, rfl⟩
  · exact ⟨ms, rfl⟩

theorem Typed.hset (hd : Typed st d) (hk : Key.IsClosed key) (hr : ¬ Catalog.Reserved st key) :
    Typed st ((KeyCommand.hset false key pairs).run d).2 := by
  intro j v hv
  have hv : (KeyCommand.changeHash d key fun h => (.ok, (KeyCommand.insertAll h pairs).2)).2.get? j = some v := hv
  rw [KeyCommand.changeHash_get?] at hv
  split at hv
  · next he =>
    obtain ⟨h, hh⟩ := hd.hashAt hk
    rw [hh] at hv
    simp only [] at hv
    split at hv
    · cases hv
    · next hne =>
      cases hv
      exact ⟨⟨he ▸ fun hset => hset.not_isClosed hk, by simpa using hne⟩, he ▸ hr⟩
  · exact hd j v hv

theorem Typed.changeSet (hd : Typed st d) (hk : Key.IsSet key) (hr : ¬ Catalog.Reserved st key)
    (g : KeyMap Unit → Reply × KeyMap Unit) : Typed st (KeyCommand.changeSet d key g).2 := by
  intro j v hv
  rw [KeyCommand.changeSet_get?] at hv
  split at hv
  · next he =>
    obtain ⟨ms, hms⟩ := hd.setAt hk
    rw [hms] at hv
    simp only [] at hv
    split at hv
    · cases hv
    · next hne =>
      cases hv
      exact ⟨⟨he ▸ hk.not_isClosed, by simpa using hne⟩, he ▸ hr⟩
  · exact hd j v hv

theorem Typed.eraseAll (hd : Typed st d) (keys : List String) : Typed st (KeyCommand.eraseAll d keys).2 := by
  intro j v hv
  rw [KeyCommand.get?_eraseAll] at hv
  split at hv
  · cases hv
  · exact hd j v hv

end Store

/-! ## Commands of the engine -/

/-- What one command of the engine does to a row of a table and its sets, if it does not remove the row. -/
inductive RowStep (t : Table) (key : String) (d : Data) : Data → Prop
  | refl : RowStep t key d d
  | hset {pairs : List (String × Bytes)} (hp : Upsertion.StoredPairs t pairs) :
    RowStep t key d ((KeyCommand.hset false key pairs).run d).2
  | erase {f : Field} (hf : f ∈ t.setFields) : RowStep t key d (KeyCommand.eraseAll d [Key.set key f.name]).2
  | changeSet {f : Field} (hf : f ∈ t.setFields) (g : KeyMap Unit → Reply × KeyMap Unit) :
    RowStep t key d (KeyCommand.changeSet d (Key.set key f.name) g).2

/-- The commands of the engine on a row keep stores of a kind that such steps keep. -/
theorem rowCommands_of_steps {I : Data → Prop} (hI : ∀ d d', I d → RowStep t key d d' → I d') :
    t.RowCommands key (Preserves I) where
  existsKey := ⟨rfl, _, key, Command.runs_existsKey, rfl, fun _ hd => hd⟩
  hmget fields hne := by
    refine ⟨rfl, _, key, Command.runs_hmget hne, rfl, fun d hd => ?_⟩
    have hsame : ((KeyCommand.hmget key fields).run d).2 = d := KeyCommand.readHash_data _
    rw [hsame]
    exact hd
  hmset pairs hne hp := ⟨rfl, _, key, Command.runs_hmset hne, rfl, fun d hd => hI d _ hd (.hset hp)⟩
  del f hf := ⟨rfl, _, _, Command.runs_del (List.cons_ne_nil _ _), rfl, fun d hd => hI d _ hd (.erase hf)⟩
  sadd f hf members hne _ := ⟨rfl, _, _, Command.runs_sadd hne, rfl, fun d hd => hI d _ hd (.changeSet hf _)⟩
  srem f hf members hne := ⟨rfl, _, _, Command.runs_srem hne, rfl, fun d hd => hI d _ hd (.changeSet hf _)⟩

/-- What one command of a statement on the table of a name does to a store: it writes to a row or a set of it, or
deletes a row with its sets, or writes or removes the entry of the table. -/
inductive TableStep (st : Settings) (name : TableName) (d : Data) : Data → Prop
  | row {t : Table} {key : String} {d' : Data} (ht : t.Valid st) (hn : t.tableName = name)
    (hts : t.tablespace ≠ st.systemPrefix) (hp : (t.parts? key).isSome = true) (h : RowStep t key d d') :
    TableStep st name d d'
  | delete {t : Table} {key : String} (ht : t.Valid st) (hn : t.tableName = name) (hts : t.tablespace ≠ st.systemPrefix)
    (hp : (t.parts? key).isSome = true) : TableStep st name d (KeyCommand.eraseAll d (t.footprint key)).2
  | define {t : Table} (ht : t.Valid st) (hn : t.tableName = name) (hts : t.tablespace ≠ st.systemPrefix) :
    TableStep st name d ((KeyCommand.hset false (Catalog.entryKey st name) (Catalog.entry t)).run d).2
  | drop {t : Table} (ht : t.Valid st) (hn : t.tableName = name) (hts : t.tablespace ≠ st.systemPrefix) :
    TableStep st name d (KeyCommand.eraseAll d [Catalog.entryKey st name]).2

/-- Commands of statements do not put the wrong kind of value under a key, or write an entry of the system. -/
theorem TableStep.typed {d' : Data} {name : TableName} (hst : st.Valid) (h : TableStep st name d d') (hd : Typed st d) :
    Typed st d' := by
  cases h with
  | @row t key _ ht hn hts hp h =>
    have hset {f : Field} (hf : f ∈ t.setFields) :
        Key.IsSet (Key.set key f.name) ∧ ¬ Catalog.Reserved st (Key.set key f.name) :=
      ⟨Table.isSet_set ht hf (Table.isClosed_row hp), not_reserved_row hst ht hts hp (Table.set_mem_footprint hf)⟩
    cases h with
    | refl => exact hd
    | hset => exact hd.hset (Table.isClosed_row hp) (not_reserved_row hst ht hts hp List.mem_cons_self)
    | erase hf => exact hd.eraseAll _
    | changeSet hf g => exact hd.changeSet (hset hf).1 (hset hf).2 g
  | delete => exact hd.eraseAll _
  | define ht hn hts =>
    subst hn
    exact hd.hset (Key.isClosed_braced _) (not_reserved_entry hst ht hts)
  | drop => exact hd.eraseAll _

/-- Stores without the wrong kind of value under a key, of a kind that commands of statements on the table of a name
keep. -/
structure Closed (st : Settings) (name : TableName) (I : Data → Prop) : Prop where
  typed : ∀ d, I d → Typed st d
  step : ∀ d d', I d → TableStep st name d d' → I d'

theorem typed_closed (hst : st.Valid) (name : TableName) : Closed st name (Typed st) :=
  ⟨fun _ hd => hd, fun _ _ hd h => h.typed hst hd⟩

/-- Stores of this sort, of a kind that commands of statements on the rows of the table of a name keep. -/
structure RowsClosed (st : Settings) (name : TableName) (I : Data → Prop) : Prop where
  typed : ∀ d, I d → Typed st d
  row : ∀ {t : Table} {key : String} {d d' : Data}, t.Valid st → t.tableName = name → t.tablespace ≠ st.systemPrefix →
    (t.parts? key).isSome = true → RowStep t key d d' → I d → I d'
  deletion : ∀ {t : Table}, t.Valid st → t.tableName = name → t.tablespace ≠ st.systemPrefix → ClosedUnderDeletion t I

theorem RowsClosed.rowCommands {name : TableName} {I : Data → Prop} (h : RowsClosed st name I) (ht : t.Valid st)
    (hn : t.tableName = name) (hts : t.tablespace ≠ st.systemPrefix) (hp : (t.parts? key).isSome = true) :
    t.RowCommands key (Preserves I) :=
  rowCommands_of_steps fun _ _ hd hstep => h.row ht hn hts hp hstep hd

namespace Closed

variable {name : TableName} {I : Data → Prop}

theorem rows (h : Closed st name I) : RowsClosed st name I where
  typed := h.typed
  row ht hn hts hp hstep hd := h.step _ _ hd (.row ht hn hts hp hstep)
  deletion ht hn hts _ _ hp hd := h.step _ _ hd (.delete ht hn hts hp)

/-- Defining the table keeps such stores. -/
theorem create (h : Closed st t.tableName I) (m : Nat) (ifNotExists : Bool) (hd : I d) :
    I (outcome (Store.world m) (Catalog.create st t ifNotExists) d).2 := by
  have hasks : Asks (Preserves I) (fun _ => True) (Catalog.create st t ifNotExists) :=
    asks_create ⟨rfl, _, _, Command.runs_existsKey, rfl, fun _ hd => hd⟩
      (fun hts ht => ⟨rfl, _, _, Command.runs_hmset (List.cons_ne_nil _ _), rfl,
        fun d hd => h.step d _ hd (.define ht rfl hts)⟩) ifNotExists
  exact outcome_preserves hasks hd

end Closed

namespace Upsertion

variable {m : Nat} {topo : Topology} {v : ScanEnv} {u : PreparedUpsertion} {c : Context Simulation Link}

/-- Carrying a checked statement out keeps stores of a kind that the commands on a row keep, wherever it fails. -/
theorem keeps_execute {I : Data → Prop} (ht : t.Valid st)
    (hI : ∀ key, (t.parts? key).isSome = true → t.RowCommands key (Preserves I)) (hu : u.Sound t)
    (hkey : ∀ key, u.key = some key → (t.parts? key).isSome = true) (hv : Scans v st m topo) (hc : Hosts m topo d c)
    (hd : I d) : Hosting m topo I (outcome Context.world (execute v u) c).2 := by
  have hasked {α : Type} {Q : α → Prop} {x : Engine α} (hx : Asks (Preserves I) Q x)
      {c : Context Simulation Link} (hc : Hosts m topo d c) : Hosting m topo I (outcome Context.world x c).2 := by
    obtain ⟨top, hserves⟩ := hc
    obtain ⟨c', h1, h2⟩ := outcome_serves hx (fun _ _ hcmd => hcmd.onSlot) hserves
    rw [h1]
    exact ⟨_, ⟨top, h2⟩, outcome_preserves hx hd⟩
  cases hk : u.key with
  | some key => exact hasked (asks_execute hu hk (hI key (hkey key hk)) v) hc
  | none =>
    have hsame : Hosting m topo I c := ⟨d, hc, hd⟩
    unfold execute
    rw [hk]
    split
    · exact hsame
    · next hk => cases hk
    · next hk => cases hk
    · next hk => cases hk
    · next as hmode _ =>
      obtain ⟨r, c', h1, h2, h3⟩ := targets_hosts ht hu.table hv hc
      cases r with
      | error e =>
        rw [outcome_bind_error h1]
        exact ⟨d, h2, hd⟩
      | ok keys =>
        rw [outcome_bind_ok h1]
        have hrows (key : String) (hkey : key ∈ keys) : t.RowCommands key (Preserves I) :=
          hI key (h3 keys rfl key hkey).2
        exact hasked ((Asks.forM fun key hkey => asks_updateRow (hrows key hkey) (hu.mode as hmode)).bind
          fun _ _ => (.pure trivial : Asks (Preserves I) (fun _ => True) _)) h2
    · exact hsame

end Upsertion

end SlotSql
