import SlotSql.Proofs.Rows.Entries
import SlotSql.Proofs.Rows.Sweep
import SlotSql.Proofs.Session.Deletion
import SlotSql.Proofs.Session.Stores
/-!
# Sessions that account for every key

Statements leave every key of the store accounted for, wherever they fail: those that read leave the store as it is,
those that write or delete rows do so one row at a time, a table is defined by its entry alone, and it is dropped with
its entry only after its last row.

Results:
* `execute_accounted`: every statement does, but for raw commands and definitions that replace a table.
* `keys_accounted`: every key of a store that statements made of an empty one is accounted for.
-/
namespace SlotSql.Session

open Cluster Store Simulation Dialogue

variable {α β : Type} {s s' : Session Simulation Link} {top : Nat} {topo : Topology} {d : Data} {t : Table} {p : Plan}
  {st : Settings} {c : Context Simulation Link}

/-! ## Statements that write -/

theorem Follows.over (h : s.Follows topo d s') (hst : s.settings = st) (ha : Accounted st d) : s'.Over st (Accounted st) := by
  obtain ⟨h1, top', d', h2, h3⟩ := h
  exact h2.over (h1.trans hst) (hst ▸ h3.accounted (hst.symm ▸ ha))

theorem upsert_accounted (now : Int) (u : Upsertion) : Stays st (Accounted st) (execute now (.upsert u)) := by
  intro s hs
  obtain ⟨top, topo, d, hready, ha⟩ := hs.ready
  obtain ⟨-, -, -, hm⟩ := bounds hs.valid
  refine (upsert_orderly now hready fun t ht => ?_).over hs.settings ha
  rw [hs.settings] at ht ⊢
  exact (ha.live hs.valid (by omega) ht).tablespace

theorem delete_accounted (now : Int) (del : Deletion) : Stays st (Accounted st) (execute now (.delete del)) := by
  intro s hs
  obtain ⟨top, topo, d, hready, ha⟩ := hs.ready
  obtain ⟨-, -, -, hm⟩ := bounds hs.valid
  refine (delete_orderly now hready fun t ht => ?_).over hs.settings ha
  rw [hs.settings] at ht ⊢
  exact (ha.live hs.valid (by omega) ht).tablespace

/-- A definition whose numbers fit the widths in which they are stored. -/
structure Storable (d : TableDef) : Prop where
  count : d.columns.length ≤ Number.max64
  keys : d.rowKey.length ≤ Number.max32
  names : ∀ c ∈ d.columns, (Utf8.bytes c.name).length ≤ Number.max64
  lengths : ∀ c ∈ d.columns, ∀ n ∈ c.length, n ≤ Number.max32
  scales : ∀ c ∈ d.columns, ∀ n ∈ c.scale, n ≤ Number.max32
  comments : ∀ c ∈ d.columns, ∀ text ∈ c.comment, (Utf8.bytes text).length ≤ Number.max64

theorem Storable.table {d : TableDef} (hd : Storable d) {now : Int} (h : d.toTable now = .ok t) : t.Storable := by
  obtain ⟨-, rfl⟩ := TableDef.toTable_eq_ok h
  refine ⟨by simpa using hd.count, fun f hf => ?_⟩
  obtain ⟨c, hc, rfl⟩ := List.mem_map.1 hf
  refine ⟨hd.names c hc, ?_, ?_, ?_, ?_⟩
  · show c.length.getD c.type.defaultLength ≤ _
    cases hl : c.length with
    | none => exact (by cases c.type <;> decide : c.type.defaultLength ≤ Number.max32)
    | some n => exact hd.lengths c hc n hl
  · show c.scale.getD 0 ≤ _
    cases hl : c.scale with
    | none => exact Nat.zero_le _
    | some n => exact hd.scales c hc n hl
  · show ((d.rowKey.idxOf? c.name).map (· + 1)).getD 0 ≤ _
    cases hi : d.rowKey.idxOf? c.name with
    | none => exact Nat.zero_le _
    | some i =>
      obtain ⟨hlt, -⟩ := List.findIdx?_eq_some_iff_getElem.1 hi
      exact Nat.le_trans hlt hd.keys
  · show (Utf8.bytes (c.comment.getD "")).length ≤ _
    cases hl : c.comment with
    | none => exact Nat.zero_le _
    | some text => exact hd.comments c hc text hl

/-- A definition leaves every key accounted for if it replaces no table. -/
theorem create_accounted (now : Int) {d : TableDef} (hs : s.Over st (Accounted st)) (hd : Storable d)
    (hnew : d.ifNotExists = true ∨ ∀ t, ((table d.table).run s).1 ≠ .ok t) : ((create now d).run s).2.Over st (Accounted st) := by
  obtain ⟨top, topo, data, hready, ha⟩ := hs.ready
  obtain ⟨-, -, -, hm⟩ := bounds hs.valid
  unfold create
  cases ht : d.toTable now with
  | error e => exact hs
  | ok t =>
    have hname := TableDef.tableName_toTable ht
    -- An entry that is there is one of a table.
    have hfree (hvalid : t.Valid st) (hi : d.ifNotExists = false) :
        data.get? (Catalog.entryKey st t.tableName) = none := by
      cases hv : data.get? (Catalog.entryKey st t.tableName) with
      | none => rfl
      | some v =>
        obtain ⟨_, hentry⟩ := ha _ v hv
        obtain ⟨u, hu, hn⟩ := hentry.of_entry hs.valid hvalid
        obtain ⟨s', h1, -⟩ := table_run hready d.table
        rw [hs.settings, ← hname, ← hn, hu.table] at h1
        have hno := hnew.resolve_left (by rw [hi]; exact Bool.false_ne_true) u
        rw [← hname, ← hn, h1] at hno
        exact absurd rfl hno
    have hdefine : (ofExcept (.ok t) : SessionStep Simulation Link Table).run s = (.ok t, s) := rfl
    rw [step_bind_ok hdefine, step_bind_ok (step_get s), hs.settings]
    refine Over.bind ?_ fun _ => .pure _
    obtain ⟨c', h1, h2⟩ := outcome_serves (asks_create_slot st t d.ifNotExists) (fun _ _ h => h) hready.serves
    rw [work_run, h1]
    rw [hs.settings] at h2
    exact hs.context ⟨_, ⟨top, h2⟩, accounted_create hm (hd.table ht) hfree ha⟩

/-- Whether the nodes have cursors left for a page for every key; a cursor is a number of 64 bits. -/
def HasRoom (s : Session Simulation Link) : Prop :=
  ∀ sh ∈ s.context.server.shards, sh.nextCursor + s.context.server.keyCount ≤ Number.max64

/-- The shards of a ready session with room have cursors left. -/
theorem Ready.of_room (hs : s.Ready top topo d) (hroom : s.HasRoom) : ∃ top, s.Ready top topo d ∧
    top + d.size ≤ Number.max64 := by
  have hsize := keyCount_eq hs.serves.healthy hs.serves.holds
  have hle : d.size ≤ Number.max64 := by
    obtain ⟨sh, hsh, -⟩ := hs.serves.healthy.sound.shard (show 0 < 3 by omega)
    have := hroom sh (List.mem_of_getElem? hsh)
    omega
  refine ⟨Number.max64 - d.size, ⟨hs.valid, hs.range, { hs.serves with room := fun sh hsh => ?_ }⟩, by omega⟩
  have := hroom sh hsh
  omega

/-- If deleting all rows of a table succeeds, none of them is left, nor a set of the table beside one. -/
theorem deleteAll_hosts (hst : st.Valid) (ht : t.Valid st) (hp : Plan.ofConditions st t [] = .ok p) {v : ScanEnv}
    (hv : v.settings = st) (hfits : Fits v st.maxArgs topo d) (hc : Serves st.maxArgs top topo d c)
    (hroom : top + d.size ≤ Number.max64) {n : Nat} {x' : Scan} {c' : Context Simulation Link}
    (hrun : Scanning.outcome Context.world (v.delete p 0 none) ⟨{}, p.emptyRows⟩ c = (.ok n, x', c')) :
    ∃ keys : List String, (∀ key, key ∈ keys ↔ d.contains key = true ∧ (t.parts? key).isSome = true) ∧
      Hosts st.maxArgs topo (without d (keys.flatMap t.footprint)) c' := by
  have hsweep := sweeps_of_build ht hp
  obtain ⟨fs, hf⟩ := Plan.for_of_build ht hp
  have hrows : ∀ y ∈ accepted st.maxArgs topo d p, (t.parts? y.key).isSome = true ∧ d.contains y.key = true :=
    fun y hy => ((hsweep.mem_accepted_all ht hf hc).1 (List.mem_map_of_mem hy)).symm
  have hpatience : (accepted st.maxArgs topo d p).length < v.patience + 1 := by
    have := length_accepted_le (p := p) hc
    have := hfits.patience
    omega
  have hlimit : 0 < v.settings.limitMax := by
    obtain ⟨-, hmin, hminmax, -⟩ := bounds hst
    rw [hv]
    omega
  exact ⟨(accepted st.maxArgs topo d p).map Candidate.key, fun key => hsweep.mem_accepted_all ht hf hc, _,
    deletePages_all ht hf hsweep.table hsweep.outputs hsweep.count hlimit
      (ToCome.start p.emptyRows hfits hc hroom (hsweep.sees ht hf)) (accepted_nodup hc) hrows rfl hpatience hrun⟩

/-- The entry of a table is removed, if it is there. -/
theorem drop_outcome {m : Nat} (hm : 2 ≤ m) (hc : Hosts m topo d c) (st : Settings) (name : TableName) : ∃ c',
    outcome Context.world (Catalog.drop st name) c =
      (if d.contains (Catalog.entryKey st name) then .ok () else .error (.notFound (Catalog.title name)), c') ∧
    Hosts m topo (without d [Catalog.entryKey st name]) c' := by
  obtain ⟨top, hc⟩ := hc
  obtain ⟨c', h1, h2, -⟩ := hc.del (oneSlot_singleton (Catalog.entryKey st name)) hm
  have hdel : outcome Context.world (liftM (Asking.del [Catalog.entryKey st name]) : Engine Int) c =
      (.ok ((KeyCommand.eraseAll d [Catalog.entryKey st name]).1 : Int), c') := by
    rw [Engine.outcome_liftM, h1]
    rfl
  refine ⟨c', ?_, top, h2⟩
  unfold Catalog.drop
  rw [outcome_bind_ok hdel, KeyCommand.eraseAll_cons, KeyCommand.eraseAll_nil]
  cases d.contains (Catalog.entryKey st name) <;> rfl

theorem drop_hosts {m : Nat} (hm : 2 ≤ m) (hc : Hosts m topo d c) (st : Settings) (name : TableName) :
    Hosts m topo (without d [Catalog.entryKey st name]) (outcome Context.world (Catalog.drop st name) c).2 := by
  obtain ⟨c', h1, h2⟩ := drop_outcome hm hc st name
  rw [h1]
  exact h2

/-- Dropping a table leaves every key accounted for: the entry is removed after the last row only. -/
theorem drop_accounted (now : Int) (name : TableName) (hs : s.Over st (Accounted st)) (hroom : s.HasRoom) :
    ((drop now name).run s).2.Over st (Accounted st) := by
  obtain ⟨_, topo, d, hready, ha⟩ := hs.ready
  obtain ⟨top, hready, htop⟩ := hready.of_room hroom
  obtain ⟨-, -, -, hm⟩ := bounds hs.valid
  obtain ⟨s₁, h1, h2, h3⟩ := table_run hready name
  rw [hs.settings] at h1 h3
  have hs₁ : s₁.Over st (Accounted st) := h2.over h3 ha
  unfold drop
  cases htable : tableIn st d name with
  | error e =>
    rw [htable] at h1
    rw [step_bind_error h1]
    exact hs₁
  | ok t =>
    rw [htable] at h1
    rw [step_bind_ok h1, step_bind_ok (step_get s₁), h3]
    have ht := ha.live hs.valid (by omega) htable
    obtain ⟨-, rfl⟩ := valid_of_tableIn htable
    split
    · exact hs₁
    · next p hp =>
      have hserves := h2.serves
      have hscans := h2.scans now
      have hfits := h2.fits now
      rw [h3] at hserves hscans hfits
      obtain ⟨fs, hf⟩ := Plan.for_of_build ht.valid hp
      have hplan : p.table = t := by
        obtain ⟨fs', -, h, -⟩ := Plan.build_eq_ok ht.valid hp
        exact h
      obtain ⟨r, x', c', e1, e2⟩ := orderly_delete hs.valid ht hf hplan hscans hserves.hosts 0 none p.emptyRows
      have hscan := scanning_run ⟨{}, p.emptyRows⟩ ((s₁.env now).delete p 0 none) s₁
      rw [e1] at hscan
      cases r with
      | error e =>
        -- Some rows may be gone, but the table is still there.
        rw [step_bind_error hscan]
        obtain ⟨d', hc', hd'⟩ := e2
        exact hs₁.context ⟨d', hc', hd'.accounted ha⟩
      | ok n =>
        rw [step_bind_ok hscan]
        obtain ⟨keys, g1, g2⟩ := deleteAll_hosts hs.valid ht.valid hp h3 hfits hserves htop e1
        have hdrop := drop_hosts (by omega) g2 st t.tableName
        rw [without_append] at hdrop
        refine Over.bind ?_ fun _ => .pure _
        rw [work_run]
        exact hs₁.context ⟨_, hdrop, accounted_drop hs.valid ht (fun key hkey => ((g1 key).1 hkey).2)
          (fun key hkey hd => (g1 key).2 ⟨hd, hkey⟩) ha⟩

/-! ## Sequences of statements -/

/-- What a statement must keep, besides being no raw command: a definition replaces no table, and a table is dropped
while the nodes have cursors left. -/
def Admits (s : Session Simulation Link) : Statement → Prop
  | .create d => Storable d ∧ (d.ifNotExists = true ∨ ∀ t, ((table d.table).run s).1 ≠ .ok t)
  | .drop _ => s.HasRoom
  | .command _ => False
  | _ => True

/-- Every statement leaves every key accounted for, whether or not it fails. -/
theorem execute_accounted (now : Int) {statement : Statement} (hs : s.Over st (Accounted st)) (h : s.Admits statement) :
    ((execute now statement).run s).2.Over st (Accounted st) := by
  cases statement with
  | delete del => exact delete_accounted now del s hs
  | upsert u => exact upsert_accounted now u s hs
  | create d => exact create_accounted now hs h.1 h.2
  | drop name => exact drop_accounted now name hs h
  | command args => exact h.elim
  | _ => exact reading_stays now rfl s hs

/-- A session that began with an empty store and has carried out statements since, whether or not they failed. -/
inductive Reached : Session Simulation Link → Prop
  | start {s : Session Simulation Link} {top : Nat} {topo : Topology} (hs : s.Ready top topo .empty) : Reached s
  | execute {s : Session Simulation Link} (h : Reached s) (now : Int) {statement : Statement}
    (hst : s.Admits statement) : Reached ((execute now statement).run s).2

theorem Reached.over (h : Reached s) : s.Over s.settings (Accounted s.settings) := by
  have hany : ∃ st, s.Over st (Accounted st) := by
    induction h with
    | start hs => exact ⟨_, hs.over rfl fun _ _ hv => by cases hv⟩
    | execute _ now hst ih =>
      obtain ⟨st, hs⟩ := ih
      exact ⟨st, execute_accounted now hs hst⟩
  obtain ⟨st, hs⟩ := hany
  exact hs.settings ▸ hs

/-- **Every key is accounted for.** After any sequence of statements on an empty store, whether or not they failed,
each key of the store is the entry of a table that can be described, or a row of such a table with the parts of its
key and its plain attributes in stored form, or a set of members of a row that is there, and only one of these. -/
theorem keys_accounted (h : Reached s) : ∃ d : Data, (∀ key, s.context.server.value? key = d.get? key) ∧
    (∀ name, ((table name).run s).1 = tableIn s.settings d name) ∧
    ∀ key v, d.get? key = some v → ∃! kind, Accounts s.settings d kind key v := by
  have hs := h.over
  obtain ⟨top, topo, d, hready, ha⟩ := hs.ready
  refine ⟨d, hready.serves.holds, fun name => ?_, fun key v hv => ?_⟩
  · obtain ⟨s', h1, -⟩ := table_run hready name
    rw [h1]
  · obtain ⟨kind, hkind⟩ := ha key v hv
    exact ⟨kind, hkind, fun _ hother => hother.disjoint hs.valid hkind⟩

/-- The definition of the notes. -/
def noteDef : TableDef where
  table := noteTable.tableName
  ifNotExists := true
  columns := [⟨"id", .ub4, none, none, true, none⟩, ⟨"text", .str, some 20, none, false, none⟩,
    ⟨"tags", .set, some 20, none, false, none⟩]
  rowKey := ["id"]
  comment := none

/-- The statement that writes a note with two tags. -/
def firstNote : Upsertion where
  table := noteTable.tableName
  columns := ["id", "text", "tags"]
  source := .values [.literal ⟨"007", false⟩, .literal ⟨"ca", true⟩, .literal ⟨"x, y", true⟩]
  onDuplicate := .overwrite

/-- The session that has defined the notes, and the one that has written the first note as well. -/
def definedSession : Session Simulation Link :=
  ((execute 0 (.create noteDef)).run (noteSession .empty)).2

def firstSession : Session Simulation Link :=
  ((execute 0 (.upsert firstNote)).run definedSession).2

theorem firstSession_reached : Reached firstSession := by
  have hstart : Reached (noteSession .empty) := .start (noteSession_ready .empty)
  have hdef : (noteSession .empty).Admits (.create noteDef) :=
    show Storable noteDef ∧ _ from ⟨by constructor <;> decide +kernel, .inl rfl⟩
  have hnote : definedSession.Admits (.upsert firstNote) := trivial
  exact (hstart.execute 0 hdef).execute 0 hnote

/-- The store of the note holds the entry of its table, its row under the normalized number, and the set of its tags,
and nothing else that is none of these. -/
theorem keys_accounted_notes : ∃ d : Data,
    (∀ key ∈ ["{kvsql.sys::t:notes}", "{t::notes:7}", "{t::notes:7}$tags"], (d.get? key).isSome = true) ∧
    ∀ key v, d.get? key = some v → ∃! kind, Accounts firstSession.settings d kind key v := by
  have h : Reached firstSession := firstSession_reached
  obtain ⟨d, h1, -, h2⟩ := keys_accounted h
  have hthere : ∀ key ∈ ["{kvsql.sys::t:notes}", "{t::notes:7}", "{t::notes:7}$tags"],
      (firstSession.context.server.value? key).isSome = true := by decide +kernel
  exact ⟨d, fun key hkey => (congrArg Option.isSome (h1 key)).symm.trans (hthere key hkey), h2⟩

end SlotSql.Session
