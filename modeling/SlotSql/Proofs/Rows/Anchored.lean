import SlotSql.Proofs.Rows.Accounted
import SlotSql.Proofs.Simulation.Hosts
/-!
# Sets beside their rows

A set of a row lies under a key of its own, so it could be left behind when the row goes. Statements do not let
this happen: a row is written before its sets, sets of a row that exists change beside it, and a row is
deleted with all its sets in one command. Nor do they touch the catalog, or leave a key that is not accounted for.
So a row that was there once has no sets when it is gone, wherever a statement failed.

Results:
* `orderly_row`, `orderly_deletion`: what commands on a row do to a store.
* `orderly_execute`, `orderly_delete`: so do statements that write or delete rows.
-/
namespace SlotSql

open Cluster Store Simulation Dialogue
open Session (tableIn valid_of_tableIn tableIn_congr)

variable {m : Nat} {topo : Topology} {t u : Table} {st : Settings} {d d' d'' : Data} {key k : String}
  {name : TableName} {keys : List String} {v : ScanEnv} {c : Context Simulation Link}

/-! ## What commands do to a store -/

/-- The sets of a row lie only beside the row. -/
def Table.Anchored (t : Table) (d : Data) (key : String) : Prop :=
  ∀ f ∈ t.setFields, d.contains (Key.set key f.name) = true → d.contains key = true

theorem Table.anchored_of_contains (h : d.contains key = true) : t.Anchored d key := fun _ _ _ => h

/-- A change of a store that leaves the catalog alone and no set of a table behind without its row, and after which
every key is accounted for if it was before. -/
structure Orderly (st : Settings) (d d' : Data) : Prop where
  catalog : ∀ name, d'.get? (Catalog.entryKey st name) = d.get? (Catalog.entryKey st name)
  anchored : ∀ t key, tableIn st d t.tableName = .ok t → (t.parts? key).isSome = true →
    t.Anchored d key → t.Anchored d' key
  accounted : Accounted st d → Accounted st d'

namespace Orderly

theorem refl (st : Settings) (d : Data) : Orderly st d d := ⟨fun _ => rfl, fun _ _ _ _ h => h, id⟩

theorem tables (h : Orderly st d d') (name : TableName) : tableIn st d' name = tableIn st d name :=
  tableIn_congr (h.catalog name)

theorem trans (h : Orderly st d d') (h' : Orderly st d' d'') : Orderly st d d'' where
  catalog name := (h'.catalog name).trans (h.catalog name)
  anchored t key ht hp ha := h'.anchored t key ((h.tables _).trans ht) hp (h.anchored t key ht hp ha)
  accounted ha := h'.accounted (h.accounted ha)

theorem live (h : Orderly st d d') (ht : Live st d t) : Live st d' t := ⟨(h.tables _).trans ht.table, ht.tablespace⟩

end Orderly

/-- Commands on a row and its sets that do not remove the row, and write sets only beside it. -/
theorem orderly_row (hst : st.Valid) (ht : Live st d t)
    (hp : (t.parts? key).isSome = true) (hout : ∀ j, j ∉ t.footprint key → d'.get? j = d.get? j)
    (hrow : d.contains key = true → d'.contains key = true)
    (hsets : d.contains key = false → ∀ j, j ≠ key → d'.get? j = d.get? j)
    (hacc : Accounted st d → Accounted st d') : Orderly st d d' where
  catalog name := hout _ (entryKey_notMem hst ht.valid ht.tablespace hp)
  accounted := hacc
  anchored u k hu hk ha f hf hset := by
    have hu := (valid_of_tableIn hu).1
    have ht := ht.valid
    by_cases he : k = key
    · subst he
      by_cases hd : d.contains k = true
      · exact hrow hd
      · have hne : Key.set k f.name ≠ k := fun he => by
          rw [← he, hu.parts?_set hf] at hk
          cases hk
        rw [contains_eq (hsets (by simpa using hd) _ hne)] at hset
        exact absurd (ha f hf hset) hd
    · rw [contains_eq (hout _ (set_notMem_footprint ht hu hp hf he))] at hset
      rw [contains_eq (hout _ (notMem_footprint ht hk he))]
      exact ha f hf hset

/-- A row that is deleted goes with its sets. -/
theorem orderly_deletion (hst : st.Valid) (ht : Live st d t) (hp : (t.parts? key).isSome = true) :
    Orderly st d (KeyCommand.eraseAll d (t.footprint key)).2 where
  catalog name := by
    rw [KeyCommand.get?_eraseAll, if_neg (entryKey_notMem hst ht.valid ht.tablespace hp)]
  accounted := accounted_deletion hst ht hp
  anchored u k hu hk ha f hf hset := by
    have huv := (valid_of_tableIn hu).1
    have hout {j : String} (hj : j ∉ t.footprint key) :
        (KeyCommand.eraseAll d (t.footprint key)).2.get? j = d.get? j := by
      rw [KeyCommand.get?_eraseAll, if_neg hj]
    by_cases he : k = key
    · -- The row is of both tables, so they are the same.
      subst he
      rw [tableName_of_parts? hp hk, ht.table] at hu
      cases hu
      rw [KeyMap.contains, KeyCommand.get?_eraseAll, if_pos (Table.set_mem_footprint hf)] at hset
      cases hset
    · rw [contains_eq (hout (set_notMem_footprint ht.valid huv hp hf he))] at hset
      rw [contains_eq (hout (notMem_footprint ht.valid hk he))]
      exact ha f hf hset

/-! ## Writing rows -/

/-- A command on one key that keeps stores of a kind. -/
def Store.Preserves (I : Data → Prop) (g : Target) (cmd : Command) : Prop :=
  g = .active ∧ ∃ kc j, cmd.Runs kc ∧ kc.keys = [j] ∧ ∀ d, I d → I (kc.run d).2

theorem Store.Preserves.onSlot {I : Data → Prop} {g : Target} {cmd : Command} (h : Preserves I g cmd) : OnSlot g cmd := by
  obtain ⟨hg, kc, j, hr, hkeys, -⟩ := h
  exact ⟨hg, kc, slotOf j, hr, hkeys ▸ oneSlot_singleton j⟩

/-- Work that asks for such commands keeps the store that it is done on. -/
theorem Store.outcome_preserves {α : Type} {I : Data → Prop} {Q : α → Prop} {x : Engine α}
    (hx : Asks (Preserves I) Q x) (hd : I d) : I (outcome (Store.world m) x d).2 := by
  refine (Obeys.keeps (w := Store.world m) (I := I) (fun g cmd d' hcmd hd' => ?_) hx hd).2
  obtain ⟨-, kc, j, hr, -, hk⟩ := hcmd
  show I (reply m cmd d').2
  by_cases hl : cmd.length ≤ m
  · rw [reply_runs hr hl]
    exact hk d' hd'
  · rw [reply_long hr (Nat.lt_of_not_le hl)]
    exact hd'

/-- A store that has changed so, and holds some rows. -/
def Beside (st : Settings) (d : Data) (keys : List String) (d' : Data) : Prop :=
  (∀ k ∈ keys, d'.contains k = true) ∧ Orderly st d d'

/-- A table of the catalog of a store, and keys of rows of it. -/
structure RowsOfTable (st : Settings) (d : Data) (t : Table) (keys : List String) : Prop where
  settings : st.Valid
  live : Live st d t
  rows : ∀ key ∈ keys, (t.parts? key).isSome = true

section Beside

variable {d₀ : Data} {kc : KeyCommand} {j : String} {values : List (Field × String)} {pairs : List (String × Bytes)}
  {as : List PreparedAssignment}

/-- A change of one key of a row that is there. -/
theorem Beside.step (h : RowsOfTable st d₀ t keys) (hkey : key ∈ keys) (hd : Beside st d₀ keys d)
    (hj : j ∈ t.footprint key) (hkeys : kc.keys = [j]) (hrow : j = key → (kc.run d).2.contains key = true)
    (hacc : Live st d t → Accounted st d → Accounted st (kc.run d).2) : Beside st d₀ keys (kc.run d).2 := by
  have hlive := hd.2.live h.live
  have hout {i : String} (hi : i ≠ j) : (kc.run d).2.get? i = d.get? i :=
    KeyCommand.run_outside kc (by rw [hkeys]; simpa using hi)
  have hkept : ∀ k ∈ keys, (kc.run d).2.contains k = true := by
    intro k hk
    by_cases hkj : k = j
    · by_cases hne : k = key
      · rw [hne]
        exact hrow (hkj ▸ hne)
      · exact absurd (hkj ▸ hj) (notMem_footprint h.live.valid (h.rows k hk) hne)
    · rw [contains_eq (hout hkj)]
      exact hd.1 k hk
  refine ⟨hkept, hd.2.trans (orderly_row h.settings hlive (h.rows key hkey) (fun i hi => hout ?_)
    (fun _ => hkept key hkey) (fun hno => ?_) (hacc hlive))⟩
  · rintro rfl
    exact hi hj
  · rw [hd.1 key hkey] at hno
    cases hno

/-- The commands of the engine on rows that are there. -/
theorem rowCommands_beside (h : RowsOfTable st d₀ t keys) (hkey : key ∈ keys) :
    t.RowCommands key (Preserves (Beside st d₀ keys)) := by
  have hp := h.rows key hkey
  have hset {f : Field} (hf : f ∈ t.setFields) (kc : KeyCommand) (hkeys : kc.keys = [Key.set key f.name])
      (hacc : ∀ d, d.contains key = true → Live st d t → Accounted st d → Accounted st (kc.run d).2) (d : Data)
      (hd : Beside st d₀ keys d) : Beside st d₀ keys (kc.run d).2 := by
    refine hd.step h hkey (Table.set_mem_footprint hf) hkeys (fun he => ?_) (hacc d (hd.1 key hkey))
    have hp := h.rows key hkey
    rw [← he, parts?_set h.live.valid hf] at hp
    cases hp
  exact {
    existsKey := ⟨rfl, _, key, Command.runs_existsKey, rfl, fun d hd => hd⟩
    hmget := fun fields hne => by
      refine ⟨rfl, _, key, Command.runs_hmget hne, rfl, fun d hd => ?_⟩
      have hsame : ((KeyCommand.hmget key fields).run d).2 = d := KeyCommand.readHash_data _
      rw [hsame]
      exact hd
    hmset := fun pairs hne hpairs => by
      refine ⟨rfl, _, key, Command.runs_hmset hne, rfl, fun d hd =>
        hd.step h hkey List.mem_cons_self rfl (fun _ => contains_hset hne key d) fun hlive ha => ?_⟩
      -- The row is there, so the parts of its key are in stored form.
      obtain ⟨parts, hparts⟩ := Option.isSome_iff_exists.1 hp
      obtain ⟨v, hv⟩ := Option.isSome_iff_exists.1 (hd.1 key hkey)
      obtain ⟨_, hrow⟩ := ha key v hv
      obtain ⟨_, -, hstored, -⟩ := hrow.of_row h.settings hlive hparts
      exact accounted_hset h.settings hlive hparts hstored hne hpairs ha
    del := fun f hf => ⟨rfl, _, _, Command.runs_del (List.cons_ne_nil _ _), rfl,
      hset hf _ rfl fun d _ hlive ha => accounted_del h.settings hlive hp hf ha⟩
    sadd := fun f hf members hne hm => ⟨rfl, _, _, Command.runs_sadd hne, rfl,
      hset hf _ rfl fun d hd hlive ha => accounted_changeSet h.settings hlive hp hd hf _ (fun ms x hx => by
        obtain ⟨w, hw⟩ := Option.isSome_iff_exists.1 (KeyMap.mem_keys_iff.1 hx)
        refine (KeyCommand.mem_of_insertAll hw).symm.imp (fun hold => KeyMap.mem_keys_iff.2 (by rw [hold]; rfl)) fun hnew => ?_
        obtain ⟨y, hy, he⟩ := List.mem_map.1 hnew
        cases he
        exact hm _ hy) ha⟩
    srem := fun f hf members hne => ⟨rfl, _, _, Command.runs_srem hne, rfl,
      hset hf _ rfl fun d hd hlive ha => accounted_changeSet h.settings hlive hp hd hf _ (fun ms x hx => by
        have hx : x ∈ (KeyCommand.eraseAll ms members).2.keys := hx
        rw [KeyCommand.keys_eraseAll] at hx
        exact .inl (List.mem_of_mem_filter hx)) ha⟩ }

/-- The hash of a row is written first: if that fails nothing has changed, and otherwise the row is there. -/
theorem outcome_hmset (h : RowsOfTable st d t [key])
    (hparts : ∀ parts, t.parts? key = some parts → t.keyFields.Forall₂ (fun f x => ∃ v, f.normalize v = .ok x) parts)
    (hne : pairs ≠ []) (hpairs : Upsertion.StoredPairs t pairs) : ∃ r d',
    outcome (Store.world m) (liftM (Asking.hmset key pairs) : Engine Unit) d = (r, d') ∧ Orderly st d d' ∧
      (r = .ok () → d'.contains key = true) := by
  have hp := h.rows key List.mem_cons_self
  have hr := @Command.runs_hmset key pairs hne
  have hcmd := Store.outcome_hmset m key pairs d
  by_cases hl : (Command.hmset key pairs).length ≤ m
  · rw [hcmd, reply_runs hr hl]
    refine ⟨_, _, rfl, ?_, fun _ => contains_hset hne key d⟩
    obtain ⟨parts, hkey⟩ := Option.isSome_iff_exists.1 hp
    exact orderly_row h.settings h.live hp (fun j hj => hset_outside fun he => hj (he ▸ List.mem_cons_self))
      (fun _ => contains_hset hne key d) (fun _ j hj => hset_outside hj)
      (accounted_hset h.settings h.live hkey (hparts parts hkey) hne hpairs)
  · rw [hcmd, reply_long hr (Nat.lt_of_not_le hl)]
    exact ⟨_, d, rfl, .refl st d, by rintro ⟨⟩⟩

namespace Upsertion

/-- Writing a row leaves no set behind without it. -/
theorem orderly_writeRow (h : RowsOfTable st d t [key])
    (hparts : ∀ parts, t.parts? key = some parts → t.keyFields.Forall₂ (fun f x => ∃ v, f.normalize v = .ok x) parts)
    (hv : ∀ fx ∈ values, fx.1 ∈ t.fields ∧ fx.1.Holds fx.2) :
    Orderly st d (outcome (Store.world m) (writeRow key values) d).2 := by
  obtain ⟨hpairs, hne⟩ := hashFields_stored hv
  obtain ⟨r, d', h1, h2, h3⟩ := outcome_hmset (m := m) h hparts hne hpairs
  unfold writeRow
  cases r with
  | error e =>
    rw [outcome_bind_error h1]
    exact h2
  | ok a =>
    rw [outcome_bind_ok h1]
    refine h2.trans (Store.outcome_preserves (I := Beside st d' [key]) (Q := fun _ => True) (.forM fun fx hfx => ?_)
      ⟨by simpa using h3 rfl, .refl st d'⟩).2
    obtain ⟨hmem, hset⟩ := List.mem_filter.1 hfx
    exact asks_replaceSet (rowCommands_beside ⟨h.settings, h2.live h.live, h.rows⟩ List.mem_cons_self) (Table.mem_setFields.2 ⟨(hv fx hmem).1, hset⟩)
      (hv fx hmem).2

/-- Carrying a statement with a full key out leaves no set behind without its row. -/
theorem orderly_execute_row (h : RowsOfTable st d t [key]) {u : PreparedUpsertion} (hu : u.Sound t)
    (hkey : u.key = some key) (v : ScanEnv) : Orderly st d (outcome (Store.world m) (execute v u) d).2 := by
  have hparts (parts : List String) (hp : t.parts? key = some parts) :
      t.keyFields.Forall₂ (fun f x => ∃ v, f.normalize v = .ok x) parts := by
    obtain ⟨ps, hps, hall⟩ := hu.key key hkey
    rw [hps] at hp
    rw [Table.parts?_rowKey h.live.valid hall.length_eq.symm hp]
    exact hall
  have hwrite {α : Type} (o : α) : Orderly st d
      (outcome (Store.world m) (do writeRow key u.values; pure o : Engine α) d).2 := by
    have hrow := orderly_writeRow (m := m) h hparts hu.values
    cases ho : outcome (Store.world m) (writeRow key u.values) d with
    | mk r d' =>
      rw [ho] at hrow
      cases r with
      | error e => rwa [outcome_bind_error ho]
      | ok a => rwa [outcome_bind_ok ho]
  have hexists : ∃ r, outcome (Store.world m) (liftM (Asking.existsKey key) : Engine Bool) d = (r, d) ∧
      ∀ b, r = .ok b → b = d.contains key := (reads_existsKey key).liftM d rfl
  obtain ⟨r, h1, h2⟩ := hexists
  unfold execute
  rw [hkey]
  split
  · exact .refl st d
  · next hk => cases hk; exact hwrite _
  · next hk =>
    cases hk
    cases r with
    | error e =>
      rw [outcome_bind_error h1]
      exact .refl st d
    | ok b =>
      rw [outcome_bind_ok h1]
      split
      · exact .refl st d
      · exact hwrite _
  · next as _ hmode hk =>
    cases hk
    cases r with
    | error e =>
      rw [outcome_bind_error h1]
      exact .refl st d
    | ok b =>
      rw [outcome_bind_ok h1]
      split
      · next hb =>
        -- The row is there, so its sets may change.
        refine (Store.outcome_preserves (I := Beside st d [key]) (Q := fun _ => True)
          ((asks_updateRow (rowCommands_beside h List.mem_cons_self) (hu.mode as hmode)).bind
            fun _ _ => .pure trivial) ⟨?_, .refl st d⟩).2
        rw [List.forall_mem_singleton, ← h2 b rfl]
        exact hb
      · cases hcheck : checkPresent u.table u.values with
        | error e => exact .refl st d
        | ok a => exact hwrite _
  · next hk => cases hk
  · next hk _ _ => cases hk

end Upsertion

end Beside

/-! ## Statements -/

variable {cs : List Condition} {p : Plan} {fs : Plan.Filters}

/-- What makes a plan of a table find nothing but rows of it. -/
theorem parts_of_near (ht : t.Valid st) (hf : Plan.For t cs p fs) (hk : Near p key) {y : Candidate}
    (h : lookupIn (answers m d) p key = .ok (some y)) : (t.parts? key).isSome = true := by
  rcases hk with hk | hk
  · have hacc : accepted? (lookupIn (answers m d) p) key = some y := by
      unfold accepted?
      rw [h]
    obtain ⟨ts, tb, ps, hread, hl⟩ := lookup_parse hacc
    rw [(pattern_parts ht hf hk hread hl).1]
    rfl
  · obtain ⟨parts, hp, -⟩ := direct_parts ht hf hk
    rw [hp]
    rfl

/-- What a scan depends on, apart from the store. -/
structure Scans (v : ScanEnv) (st : Settings) (m : Nat) (topo : Topology) : Prop where
  settings : v.settings = st
  words : 6 ≤ m
  batch : 0 < v.settings.scanBatch
  range : v.settings.scanBatch ≤ Number.max64
  masters : v.masters = topo.masters

namespace Upsertion

/-- The keys that a statement without a full key means are rows of the store. -/
theorem targets_hosts (ht : t.Valid st) {u : PreparedUpsertion} (hu : u.table = t) (hv : Scans v st m topo)
    (hc : Hosts m topo d c) : ∃ r c', outcome Context.world (targets v u) c = (r, c') ∧ Hosts m topo d c' ∧
      ∀ keys, r = .ok keys → ∀ key ∈ keys, d.contains key = true ∧ (t.parts? key).isSome = true := by
  unfold targets
  simp only []
  split
  · next e _ => exact ⟨.error e.toEngine, c, rfl, hc, by rintro keys ⟨⟩⟩
  · next p hp =>
    obtain ⟨fs, hf⟩ := Plan.for_of_build ht (hu ▸ hv.settings ▸ hp)
    let G := grounds (v := v) (p := p) (m := m) (t := topo) (· = d) (fun k => d.contains k = true ∧ Near p k)
      (fun k => d.contains k = true ∧ (t.parts? k).isSome = true) hv.words hv.batch hv.range hv.masters
      (fun d' k hd hk hnear => ⟨hd ▸ hk, hnear⟩) (fun d' k y hd hk hy => ⟨hk.1, parts_of_near ht hf hk.2 hy⟩)
    obtain ⟨r, x', c', h1, ⟨d', h2, h3⟩, h4⟩ := G.matchingKeys p.emptyRows ⟨d, hc, rfl⟩
    exact ⟨r, c', Scanning.outcome_alone h1, h3 ▸ h2, h4⟩

/-- Carrying a checked statement out leaves no set behind without its row, wherever it fails. -/
theorem orderly_execute (hst : st.Valid) (ht : Live st d t)
    {u : PreparedUpsertion} (hu : u.Sound t) (hkey : ∀ key, u.key = some key → (t.parts? key).isSome = true)
    (hv : Scans v st m topo) (hc : Hosts m topo d c) :
    Hosting m topo (Orderly st d) (outcome Context.world (execute v u) c).2 := by
  obtain ⟨top, hserves⟩ := hc
  cases hk : u.key with
  | some key =>
    have hrows : RowsOfTable st d t [key] := ⟨hst, ht, by simpa using hkey key hk⟩
    obtain ⟨c', h1, h2⟩ := outcome_serves (asks_execute hu hk (Table.rowCommands_onSlot t key) v)
      (fun _ _ hcmd => hcmd) hserves
    rw [h1]
    exact ⟨_, ⟨top, h2⟩, orderly_execute_row hrows hu hk v⟩
  | none =>
    have hsame : Hosting m topo (Orderly st d) c := ⟨d, ⟨top, hserves⟩, .refl st d⟩
    unfold execute
    rw [hk]
    split
    · exact hsame
    · next hk => cases hk
    · next hk => cases hk
    · next hk => cases hk
    · next as hmode _ =>
      obtain ⟨r, c', h1, h2, h3⟩ := targets_hosts ht.valid hu.table hv ⟨top, hserves⟩
      cases r with
      | error e =>
        rw [outcome_bind_error h1]
        exact ⟨d, h2, .refl st d⟩
      | ok keys =>
        rw [outcome_bind_ok h1]
        obtain ⟨top', h2⟩ := h2
        have hrows : RowsOfTable st d t keys := ⟨hst, ht, fun key hkey => (h3 keys rfl key hkey).2⟩
        have hasks : Asks (Preserves (Beside st d keys)) (fun _ => True) (do
            keys.forM fun key => updateRow key as
            return .updated keys.length : Engine UpsertOutcome) :=
          (Asks.forM fun _ hkey => asks_updateRow (rowCommands_beside hrows hkey) (hu.mode as hmode)).bind
            fun _ _ => .pure trivial
        obtain ⟨c'', h4, h5⟩ := outcome_serves hasks (fun _ _ hcmd => hcmd.onSlot) h2
        rw [h4]
        exact ⟨_, ⟨top', h5⟩, (Store.outcome_preserves hasks
          ⟨fun key hkey => (h3 keys rfl key hkey).1, .refl st d⟩).2⟩
    · exact hsame

end Upsertion

/-- Deletions of rows of a table ask for nothing else. -/
def DeletesRow (t : Table) (g : Target) (cmd : Command) : Prop :=
  g = .active ∧ ∃ key, (t.parts? key).isSome = true ∧ cmd = .del (t.footprint key)

theorem asks_deleteRows (hp : p.table = t) (hk : ∀ key ∈ keys, (t.parts? key).isSome = true) :
    Asks (DeletesRow t) (fun _ => True) (ScanEnv.deleteRows p keys) := by
  induction keys with
  | nil => exact .pure trivial
  | cons key keys ih =>
    have hrow : Asks (DeletesRow t) (fun _ => True) (ScanEnv.deleteRow p key) := by
      unfold ScanEnv.deleteRow
      rw [hp]
      exact (Engine.asks_liftM (asks_del ⟨rfl, key, hk key List.mem_cons_self, rfl⟩)).bind
        fun _ _ => .pure trivial
    unfold ScanEnv.deleteRows
    exact hrow.bind fun _ _ => (ih fun k hm => hk k (List.mem_cons_of_mem _ hm)).bind fun _ _ => .pure trivial

section Deletion

variable {I : Data → Prop}

/-- Stores of a kind that is kept when rows of a table are removed with their sets. -/
def ClosedUnderDeletion (t : Table) (I : Data → Prop) : Prop :=
  ∀ key d, (t.parts? key).isSome = true → I d → I (KeyCommand.eraseAll d (t.footprint key)).2

/-- Deleting a row keeps such stores. -/
theorem hosting_deleteRow (ht : t.Valid st) (hI : ClosedUnderDeletion t I) {g : Target} {cmd : Command}
    (hcmd : DeletesRow t g cmd) (hc : Hosting m topo I c) : Hosting m topo I (Context.world g cmd c).2 := by
  obtain ⟨rfl, key, hp, rfl⟩ := hcmd
  obtain ⟨d, ⟨top, hc⟩, hd⟩ := hc
  have hr := @Command.runs_del (t.footprint key) (List.cons_ne_nil _ _)
  obtain ⟨c', h1, h2, -⟩ := hc.exec hr (Table.oneSlot_footprint ht hp)
  rw [h1]
  refine ⟨_, ⟨top, h2⟩, ?_⟩
  by_cases hl : (Command.del (t.footprint key)).length ≤ m
  · rw [reply_runs hr hl]
    exact hI key d hp hd
  · rw [reply_long hr (Nat.lt_of_not_le hl)]
    exact hd

/-- So does a deletion, wherever it fails. -/
theorem hosting_delete (ht : t.Valid st) (hf : Plan.For t cs p fs) (htable : p.table = t)
    (hv : Scans v st m topo) (hI : ClosedUnderDeletion t I) (hc : Hosting m topo I c) (offset : Nat)
    (limit : Option Nat) (rows : Rows) : ∃ r x' c',
    Scanning.outcome Context.world (v.delete p offset limit) ⟨{}, rows⟩ c = (r, x', c') ∧ Hosting m topo I c' := by
  let G := grounds (v := v) (p := p) (m := m) (t := topo) I (Near p)
    (fun k => (t.parts? k).isSome = true) hv.words hv.batch hv.range hv.masters (fun _ _ _ _ hnear => hnear)
    (fun d' k y _ hk hy => parts_of_near ht hf hk hy)
  obtain ⟨r, x', c', h1, h2⟩ := G.delete (fun keys s hkeys hs =>
    (Obeys.keeps (P := DeletesRow t) (I := Hosting m topo I) (fun g cmd s hcmd hs =>
      hosting_deleteRow ht hI hcmd hs) (asks_deleteRows htable hkeys) hs).2) limit (v.patience + 1) offset 0
    (Grounds.stands_fresh rows hc)
  exact ⟨r, x', c', h1, h2.calm⟩

end Deletion

/-- A deletion leaves no set behind without its row. -/
theorem orderly_delete (hst : st.Valid) (ht : Live st d t) (hf : Plan.For t cs p fs) (htable : p.table = t)
    (hv : Scans v st m topo) (hc : Hosts m topo d c) (offset : Nat) (limit : Option Nat) (rows : Rows) : ∃ r x' c',
    Scanning.outcome Context.world (v.delete p offset limit) ⟨{}, rows⟩ c = (r, x', c') ∧
      Hosting m topo (Orderly st d) c' :=
  hosting_delete ht.valid hf htable hv
    (fun _ _ hp hd => hd.trans (orderly_deletion hst (hd.live ht) hp)) ⟨d, hc, .refl st d⟩ offset limit rows

end SlotSql
