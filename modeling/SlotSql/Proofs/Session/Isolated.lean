import SlotSql.Proofs.Rows.Alike
import SlotSql.Proofs.Session.Typed
/-!
# Tables that do not interfere

A statement on a table changes keys of that table only, and what comes of it depends on keys of that table only,
although its scans page over the keys of all tables.

Results:
* `execute_changed`: what a statement leaves of a store.
* `execute_ends`: what it comes to on two stores that agree on the keys of its table.
* `statements_isolated`: both, for all stores that statements have made.
-/
namespace SlotSql

open Store

variable {st : Settings} {name other : TableName} {d d' : Data}

/-- Changes of a table spare the keys of other tables. -/
theorem Changed.spares (hst : st.Valid) (h : Changed st name d d') (ho : other.Outside st) (hne : other ≠ name)
    {key : String} (hk : Owned st other key) : d'.get? key = d.get? key := by
  rcases h.outside with hn | rfl
  · exact h.frame key fun hown => hne (hk.apart hst ho hn hown)
  · rfl

/-- They spare all entries but that of the table. -/
theorem Changed.spares_entry (hst : st.Valid) (h : Changed st name d d')
    (hne : Catalog.entryKey st other ≠ Catalog.entryKey st name) :
    d'.get? (Catalog.entryKey st other) = d.get? (Catalog.entryKey st other) := by
  rcases h.outside with hn | rfl
  · refine h.frame _ fun hown => ?_
    have hclosed : Key.IsClosed (Catalog.entryKey st other) := Key.isClosed_braced _
    generalize hj : Catalog.entryKey st other = j at hown hne hclosed
    cases hown with
    | row hrow => exact parseRow?_entryKey hst hn (hj ▸ hrow)
    | set hrow hf => exact (Owned.isSet hrow hf).not_isClosed hclosed
    | entry => exact hne rfl
  · rfl

namespace Session

open Cluster Simulation Dialogue

variable {s s₁ s₂ : Session Simulation Link} {topo : Topology} {d₁ d₂ : Data} {α : Type} {now : Int}

/-! ## One store -/

/-- A statement on a table changes keys of the table only. -/
theorem execute_changed (h : Attained s) {statement : Statement} (hname : tableOf statement = some name) (now : Int) :
    ∃ d d', (∀ key, s.context.server.value? key = d.get? key) ∧
      (∀ key, ((execute now statement).run s).2.context.server.value? key = d'.get? key) ∧
      Changed s.settings name d d' := by
  have hs := h.over
  obtain ⟨top, topo, d, hready, htyped⟩ := hs.ready
  have hstatement : IsCommand statement = false := by
    cases statement <;> first | rfl | cases hname
  have hover : s.Over s.settings (Changed s.settings name d) :=
    hready.over rfl ⟨htyped, .inr rfl, fun _ _ => rfl⟩
  obtain ⟨_, _, d', hready', hchanged⟩ := (execute_closed now hstatement (fun other hother => by
    obtain rfl := Option.some.inj (hname.symm.trans hother)
    exact changed_closed hs.valid name d) s hover).ready
  exact ⟨d, d', hready.serves.holds, hready'.serves.holds, hchanged⟩

/-! ## Two stores -/

theorem env_now (s₁ s₂ : Session Simulation Link) (now : Int) : (s₁.env now).now = (s₂.env now).now := rfl

/-- Two sessions on one cluster, over stores that agree on the keys of a table. -/
structure Pair (st : Settings) (topo : Topology) (name : TableName) (d₁ d₂ : Data)
    (s₁ s₂ : Session Simulation Link) : Prop where
  settings₁ : s₁.settings = st
  settings₂ : s₂.settings = st
  ready₁ : ∃ top, s₁.Ready top topo d₁ ∧ top + d₁.size ≤ Number.max64
  ready₂ : ∃ top, s₂.Ready top topo d₂ ∧ top + d₂.size ≤ Number.max64
  alike : Alike st name d₁ d₂

/-- What came of two runs is the same but for the notes, and their stores agree on the keys of a table. -/
def Ends (st : Settings) (topo : Topology) (name : TableName)
    (o₁ o₂ : Except EngineError Executed × Session Simulation Link) : Prop :=
  o₁.1.map Executed.result = o₂.1.map Executed.result ∧ ∃ d₁ d₂, Hosts st.maxArgs topo d₁ o₁.2.context ∧
    Hosts st.maxArgs topo d₂ o₂.2.context ∧ Alike st name d₁ d₂

namespace Pair

theorem begins₁ (h : Pair st topo name d₁ d₂ s₁ s₂) (now : Int) :
    Begins (s₁.env now) st.maxArgs topo d₁ s₁.context := by
  obtain ⟨top, hs, hroom⟩ := h.ready₁
  exact h.settings₁ ▸ ⟨hs.fits now, top, hs.serves, hroom⟩

theorem begins₂ (h : Pair st topo name d₁ d₂ s₁ s₂) (now : Int) :
    Begins (s₂.env now) st.maxArgs topo d₂ s₂.context := by
  obtain ⟨top, hs, hroom⟩ := h.ready₂
  exact h.settings₂ ▸ ⟨hs.fits now, top, hs.serves, hroom⟩

theorem hosts₁ (h : Pair st topo name d₁ d₂ s₁ s₂) : Hosts st.maxArgs topo d₁ s₁.context := (h.begins₁ 0).hosts

theorem hosts₂ (h : Pair st topo name d₁ d₂ s₁ s₂) : Hosts st.maxArgs topo d₂ s₂.context := (h.begins₂ 0).hosts

/-- Statements that come to the same at once. -/
theorem ends (h : Pair st topo name d₁ d₂ s₁ s₂) {r₁ r₂ : Except EngineError Executed}
    (hr : r₁.map Executed.result = r₂.map Executed.result) : Ends st topo name (r₁, s₁) (r₂, s₂) :=
  ⟨hr, d₁, d₂, h.hosts₁, h.hosts₂, h.alike⟩

/-- The table is found in both stores, or in neither. -/
theorem table (h : Pair st topo name d₁ d₂ s₁ s₂) {f₁ f₂ : Table → SessionStep Simulation Link Executed}
    (hf : ∀ t s₁' s₂', t.Valid st → t.tableName = name → Pair st topo name d₁ d₂ s₁' s₂' →
      Ends st topo name ((f₁ t).run s₁') ((f₂ t).run s₂')) :
    Ends st topo name ((Session.table name >>= f₁).run s₁) ((Session.table name >>= f₂).run s₂) := by
  obtain ⟨top₁, hs₁, hroom₁⟩ := h.ready₁
  obtain ⟨top₂, hs₂, hroom₂⟩ := h.ready₂
  obtain ⟨s₁', e1, e2, e3⟩ := table_run hs₁ name
  obtain ⟨s₂', f1, f2, f3⟩ := table_run hs₂ name
  rw [h.settings₁] at e1 e3
  rw [h.settings₂, ← h.alike.table] at f1
  rw [h.settings₂] at f3
  have hpair : Pair st topo name d₁ d₂ s₁' s₂' := ⟨e3, f3, ⟨top₁, e2, hroom₁⟩, ⟨top₂, f2, hroom₂⟩, h.alike⟩
  cases htable : tableIn st d₁ name with
  | error e =>
    rw [htable] at e1 f1
    rw [step_bind_error e1, step_bind_error f1]
    exact hpair.ends rfl
  | ok t =>
    rw [htable] at e1 f1
    rw [step_bind_ok e1, step_bind_ok f1]
    obtain ⟨hvalid, hname⟩ := valid_of_tableIn htable
    exact hf t s₁' s₂' hvalid hname hpair

end Pair

/-- What follows on work of the engine that comes to the same. -/
theorem ends_work {x₁ x₂ : Engine α} {r : Except EngineError α} {c₁ c₂ : Context Simulation Link}
    {f₁ f₂ : α → SessionStep Simulation Link Executed} (e₁ : outcome Context.world x₁ s₁.context = (r, c₁))
    (e₂ : outcome Context.world x₂ s₂.context = (r, c₂)) (h₁ : Hosts st.maxArgs topo d₁ c₁)
    (h₂ : Hosts st.maxArgs topo d₂ c₂) (hd : Alike st name d₁ d₂)
    (hf : ∀ a, Ends st topo name ((f₁ a).run { s₁ with context := c₁ }) ((f₂ a).run { s₂ with context := c₂ })) :
    Ends st topo name ((work x₁ >>= f₁).run s₁) ((work x₂ >>= f₂).run s₂) := by
  have hw₁ := work_run x₁ s₁
  have hw₂ := work_run x₂ s₂
  rw [e₁] at hw₁
  rw [e₂] at hw₂
  cases r with
  | error e =>
    rw [step_bind_error hw₁, step_bind_error hw₂]
    exact ⟨rfl, d₁, d₂, h₁, h₂, hd⟩
  | ok a =>
    rw [step_bind_ok hw₁, step_bind_ok hw₂]
    exact hf a

/-- What follows on steps of a scan that come to the same. -/
theorem ends_scanning {x x₁ x₂ : Scan} {act₁ act₂ : Scanning α} {r : Except EngineError α}
    {c₁ c₂ : Context Simulation Link} {f₁ f₂ : α × Scan → SessionStep Simulation Link Executed}
    (e₁ : Scanning.outcome Context.world act₁ x s₁.context = (r, x₁, c₁))
    (e₂ : Scanning.outcome Context.world act₂ x s₂.context = (r, x₂, c₂)) (h₁ : Hosts st.maxArgs topo d₁ c₁)
    (h₂ : Hosts st.maxArgs topo d₂ c₂) (hd : Alike st name d₁ d₂)
    (hf : ∀ a, Ends st topo name ((f₁ (a, x₁)).run { s₁ with context := c₁ })
      ((f₂ (a, x₂)).run { s₂ with context := c₂ })) :
    Ends st topo name ((scanning x act₁ >>= f₁).run s₁) ((scanning x act₂ >>= f₂).run s₂) := by
  have hw₁ := scanning_run x act₁ s₁
  have hw₂ := scanning_run x act₂ s₂
  rw [e₁] at hw₁
  rw [e₂] at hw₂
  cases r with
  | error e =>
    rw [step_bind_error hw₁, step_bind_error hw₂]
    exact ⟨rfl, d₁, d₂, h₁, h₂, hd⟩
  | ok a =>
    rw [step_bind_ok hw₁, step_bind_ok hw₂]
    exact hf a

section Statements

variable (h : Pair st topo name d₁ d₂ s₁ s₂)
include h

theorem select_ends {q : Query} (hq : q.table = name) (now : Int) :
    Ends st topo name ((select now q).run s₁) ((select now q).run s₂) := by
  unfold select
  rw [hq]
  refine h.table fun t s₁ s₂ ht hname h => ?_
  subst hname
  rw [step_bind_ok (step_get s₁), step_bind_ok (step_get s₂), h.settings₁, h.settings₂]
  cases hp : Plan.ofQuery st t q with
  | error e => exact h.ends rfl
  | ok p =>
    obtain ⟨fs, hf⟩ := Plan.for_of_build ht hp
    cases hcount : p.countOnly with
    | true =>
      obtain ⟨r, x₁, x₂, c₁, c₂, e1, e2, e3, e4⟩ :=
        count_alike ht hf h.alike (env_now s₁ s₂ now) (h.begins₁ now) (h.begins₂ now) p.emptyRows
      simp only [hcount, ↓reduceIte]
      exact ends_scanning e1 e2 e3 e4 h.alike fun _ => ⟨rfl, _, _, e3, e4, h.alike⟩
    | false =>
      obtain ⟨top, hs, -⟩ := h.ready₂
      have hlimit : 0 < st.clampLimit q.selection.limit := by
        obtain ⟨-, h4, h5, -⟩ := bounds (h.settings₂ ▸ hs.valid)
        unfold Settings.clampLimit
        split <;> omega
      obtain ⟨r, x₁, x₂, c₁, c₂, e1, e2, hrows, e3, e4⟩ := next_alike ht hf h.alike (env_now s₁ s₂ now) (h.begins₁ now)
        (h.begins₂ now) (q.selection.offset.getD 0) hlimit (show p.emptyRows.rows = [] from rfl)
      simp only [hcount, Bool.false_eq_true, ↓reduceIte]
      exact ends_scanning e1 e2 e3 e4 h.alike fun _ =>
        ⟨congrArg (fun rows => Except.ok (StatementResult.rows rows)) hrows, _, _, e3, e4, h.alike⟩

/-- Deletions by a plan come to the same. -/
theorem deletion_ends {t : Table} {p : Plan} {cs : List Condition} (ht : t.Valid st) (hname : t.tableName = name)
    (hp : Plan.ofConditions st t cs = .ok p) (now : Int) (offset : Nat) (limit : Option Nat) :
    ∃ r x₁ x₂ c₁ c₂ d₁' d₂',
      Scanning.outcome Context.world ((s₁.env now).delete p offset limit) ⟨{}, p.emptyRows⟩ s₁.context = (r, x₁, c₁) ∧
      Scanning.outcome Context.world ((s₂.env now).delete p offset limit) ⟨{}, p.emptyRows⟩ s₂.context = (r, x₂, c₂) ∧
      Hosts st.maxArgs topo d₁' c₁ ∧ Hosts st.maxArgs topo d₂' c₂ ∧ Alike st name d₁' d₂' := by
  subst hname
  obtain ⟨fs, hf⟩ := Plan.for_of_build ht hp
  obtain ⟨houtputs, hcount⟩ := Plan.build_nil hp
  have hplan : p.table = t := by
    obtain ⟨fs', -, h, -⟩ := Plan.build_eq_ok ht hp
    exact h
  obtain ⟨top, hs, -⟩ := h.ready₂
  have hmax : 0 < s₂.settings.limitMax := by
    have := bounds hs.valid
    omega
  exact delete_alike ht hf hplan houtputs hcount h.alike (env_now s₁ s₂ now) (h.settings₁.trans h.settings₂.symm) hmax
    (h.begins₁ now) (h.begins₂ now) offset limit p.emptyRows

theorem delete_ends {del : Deletion} (hdel : del.table = name) (now : Int) :
    Ends st topo name ((delete now del).run s₁) ((delete now del).run s₂) := by
  unfold delete
  rw [hdel]
  refine h.table fun t s₁ s₂ ht hname h => ?_
  rw [step_bind_ok (step_get s₁), step_bind_ok (step_get s₂), h.settings₁, h.settings₂]
  cases hp : Plan.ofConditions st t del.selection.conditions with
  | error e => exact h.ends rfl
  | ok p =>
    obtain ⟨r, x₁, x₂, c₁, c₂, d₁', d₂', e1, e2, e3, e4, e5⟩ := deletion_ends h ht hname hp now
      (del.selection.offset.getD 0) del.selection.limit
    exact ends_scanning e1 e2 e3 e4 e5 fun _ => ⟨rfl, _, _, e3, e4, e5⟩

theorem upsert_ends {u : Upsertion} (hu : u.table = name) (now : Int) :
    Ends st topo name ((upsert now u).run s₁) ((upsert now u).run s₂) := by
  unfold upsert
  rw [hu]
  refine h.table fun t s₁ s₂ ht hname h => ?_
  subst hname
  rw [step_bind_ok (step_get s₁), step_bind_ok (step_get s₂)]
  cases hp : u.prepare t now with
  | error e => exact h.ends rfl
  | ok pu =>
    have hprepared (s : Session Simulation Link) :
        (ofExcept (.ok pu) : SessionStep Simulation Link PreparedUpsertion).run s = (.ok pu, s) := rfl
    rw [step_bind_ok (hprepared s₁), step_bind_ok (hprepared s₂)]
    obtain ⟨r, c₁, c₂, d₁', d₂', e1, e2, e3, e4, e5⟩ := Upsertion.execute_alike ht (Upsertion.prepare_sound ht hp)
      (fun key hk => Upsertion.prepare_parts ht hp hk) h.alike (env_now s₁ s₂ now) h.settings₁ h.settings₂ (h.begins₁ now)
      (h.begins₂ now)
    refine ends_work e1 e2 e3 e4 e5 fun o => ?_
    cases o <;> exact ⟨rfl, _, _, e3, e4, e5⟩

theorem create_ends {td : TableDef} (htd : td.table = name) (now : Int) :
    Ends st topo name ((create now td).run s₁) ((create now td).run s₂) := by
  unfold create
  cases ht : td.toTable now with
  | error e => exact h.ends rfl
  | ok t =>
    obtain rfl := (TableDef.tableName_toTable ht).trans htd
    have hdefine (s : Session Simulation Link) :
        (ofExcept (.ok t) : SessionStep Simulation Link Table).run s = (.ok t, s) := rfl
    rw [step_bind_ok (hdefine s₁), step_bind_ok (hdefine s₂), step_bind_ok (step_get s₁), step_bind_ok (step_get s₂),
      h.settings₁, h.settings₂]
    obtain ⟨r, c₁, c₂, d₁', d₂', e1, e2, e3, e4, e5⟩ := create_alike t td.ifNotExists h.alike h.hosts₁ h.hosts₂
    exact ends_work e1 e2 e3 e4 e5 fun _ => ⟨rfl, _, _, e3, e4, e5⟩

theorem describe_ends : Ends st topo name ((describe name).run s₁) ((describe name).run s₂) := by
  unfold describe
  refine h.table fun t s₁ s₂ _ _ h => ?_
  cases hrows : tableRows t with
  | error e => exact h.ends rfl
  | ok rows => exact h.ends rfl

theorem drop_ends (now : Int) : Ends st topo name ((drop now name).run s₁) ((drop now name).run s₂) := by
  unfold drop
  refine h.table fun t s₁ s₂ ht hname h => ?_
  rw [step_bind_ok (step_get s₁), step_bind_ok (step_get s₂), h.settings₁, h.settings₂]
  cases hp : Plan.ofConditions st t [] with
  | error e => exact h.ends rfl
  | ok p =>
    obtain ⟨r, x₁, x₂, c₁, c₂, d₁', d₂', e1, e2, e3, e4, e5⟩ := deletion_ends h ht hname hp now 0 none
    refine ends_scanning e1 e2 e3 e4 e5 fun n => ?_
    obtain ⟨r, c₁, c₂, d₁', d₂', e1, e2, e3, e4, e5⟩ := drop_alike e5 e3 e4
    exact ends_work e1 e2 e3 e4 e5 fun _ => ⟨rfl, _, _, e3, e4, e5⟩

/-- A statement on a table comes to the same on stores that agree on its keys. -/
theorem execute_ends {statement : Statement} (hname : tableOf statement = some name) (now : Int) :
    Ends st topo name ((execute now statement).run s₁) ((execute now statement).run s₂) := by
  cases statement with
  | select q =>
    show Ends st topo name ((if q.table.isDual = true then _ else select now q : SessionStep Simulation Link _).run s₁)
      ((if q.table.isDual = true then _ else select now q : SessionStep Simulation Link _).run s₂)
    split
    · cases hrows : dualRows now q with
      | error e => exact h.ends rfl
      | ok rows => exact h.ends rfl
    · exact select_ends h (Option.some.inj hname) now
  | delete del => exact delete_ends h (Option.some.inj hname) now
  | upsert u => exact upsert_ends h (Option.some.inj hname) now
  | create td => exact create_ends h (Option.some.inj hname) now
  | describe other =>
    obtain rfl := Option.some.inj hname
    exact describe_ends h
  | drop other =>
    obtain rfl := Option.some.inj hname
    exact drop_ends h now
  | _ => cases hname

end Statements

/-- **Tables do not interfere.** A statement on a table changes no key that is not one of the table, so no key of another
table and no other entry of the catalog. And on another store that statements have made on the same cluster, and that
agrees with this one on the keys of the table, it comes to the same but for the notes on its plan, and the keys of the
table are the same afterwards. -/
theorem statements_isolated (h : Attained s) {statement : Statement} (hname : tableOf statement = some name)
    (now : Int) {r : Except EngineError Executed} {s' : Session Simulation Link}
    (hrun : (execute now statement).run s = (r, s')) :
    (∀ key, ¬ Owned s.settings name key → s'.context.server.value? key = s.context.server.value? key) ∧
    (∀ other, Catalog.entryKey s.settings other ≠ Catalog.entryKey s.settings name →
      s'.context.server.value? (Catalog.entryKey s.settings other) =
        s.context.server.value? (Catalog.entryKey s.settings other)) ∧
    (∀ other : TableName, other.Outside s.settings → other ≠ name → ∀ key, Owned s.settings other key →
      s'.context.server.value? key = s.context.server.value? key) ∧
    ∀ s₂, Attained s₂ → s₂.settings = s.settings → s₂.context.topology = s.context.topology → s.HasRoom → s₂.HasRoom →
      (∀ key, Owned s.settings name key → s.context.server.value? key = s₂.context.server.value? key) →
      ∃ r₂ s₂', (execute now statement).run s₂ = (r₂, s₂') ∧ r.map Executed.result = r₂.map Executed.result ∧
        ∀ key, Owned s.settings name key → s'.context.server.value? key = s₂'.context.server.value? key := by
  obtain ⟨d, d', hbefore, hafter, hchanged⟩ := execute_changed h hname now
  rw [hrun] at hafter
  have hvalid := h.over.valid
  refine ⟨fun key hk => ?_, fun other hne => ?_, fun other ho hne key hk => ?_, ?_⟩
  · rw [hafter, hbefore, hchanged.frame key hk]
  · rw [hafter, hbefore, hchanged.spares_entry hvalid hne]
  · rw [hafter, hbefore, hchanged.spares hvalid ho hne hk]
  · intro s₂ h₂ hsettings htopology hroom hroom₂ hsame
    obtain ⟨_, topo, d₁, hready, -⟩ := h.over.ready
    obtain ⟨top₁, hready, htop₁⟩ := hready.of_room hroom
    obtain ⟨_, topo₂, d₂, hready₂, -⟩ := h₂.over.ready
    obtain ⟨top₂, hready₂, htop₂⟩ := hready₂.of_room hroom₂
    obtain rfl : topo₂ = topo := hready₂.serves.topology.symm.trans (htopology.trans hready.serves.topology)
    have hpair : Pair s.settings topo₂ name d₁ d₂ s s₂ := ⟨rfl, hsettings, ⟨top₁, hready, htop₁⟩, ⟨top₂, hready₂, htop₂⟩,
      fun key hk => by rw [← hready.serves.holds, ← hready₂.serves.holds, hsame key hk]⟩
    have hends := execute_ends hpair hname now
    rw [hrun] at hends
    obtain ⟨hresult, d₁', d₂', ⟨_, g1⟩, ⟨_, g2⟩, g3⟩ := hends
    exact ⟨_, _, rfl, hresult, fun key hk => (g1.holds key).trans ((g3 key hk).trans (g2.holds key).symm)⟩

/-- The definition of another table beside the notes. -/
def placeDef : TableDef where
  table := ⟨"t", "places"⟩
  ifNotExists := false
  columns := [⟨"id", .ub4, none, none, true, none⟩]
  rowKey := ["id"]
  comment := none

/-- The session with the first note that has defined the places as well. -/
def placedSession : Session Simulation Link := ((execute 0 (.create placeDef)).run firstSession).2

deriving instance DecidableEq for Topology

/-- The notes do not change when the places are defined, so the first note is found and deleted as before. -/
theorem statements_isolated_notes : ∃ r s' r₂ s₂',
    (execute 0 (.delete ⟨noteTable.tableName, ⟨[⟨"id", .eq, ⟨"7", false⟩⟩], none, none⟩⟩)).run firstSession = (r, s') ∧
      (execute 0 (.delete ⟨noteTable.tableName, ⟨[⟨"id", .eq, ⟨"7", false⟩⟩], none, none⟩⟩)).run placedSession =
        (r₂, s₂') ∧ r.map Executed.result = r₂.map Executed.result ∧
      ∀ key, Owned noteSettings noteTable.tableName key → s'.context.server.value? key = s₂'.context.server.value? key := by
  have hplaced : Attained placedSession :=
    firstSession_attained.execute 0 (show IsCommand (.create placeDef) = false from rfl)
  have hfacts : firstSession.HasRoom ∧ placedSession.HasRoom ∧ firstSession.settings = noteSettings ∧
      placedSession.settings = noteSettings ∧ placedSession.context.topology = firstSession.context.topology ∧
      noteTable.Valid noteSettings := by
    simp only [HasRoom]
    decide +kernel
  obtain ⟨hroom, hroom₂, hsettings, hsettings₂, htopology, hvalid⟩ := hfacts
  obtain ⟨-, -, hspared, -⟩ := statements_isolated firstSession_attained
    (show tableOf (.create placeDef) = some placeDef.table from rfl) 0 ((Prod.eta _).symm)
  obtain ⟨-, -, -, htwo⟩ := statements_isolated firstSession_attained
    (show tableOf (.delete ⟨noteTable.tableName, ⟨[⟨"id", .eq, ⟨"7", false⟩⟩], none, none⟩⟩) = some noteTable.tableName
      from rfl) 0 ((Prod.eta _).symm)
  obtain ⟨r₂, s₂', h1, h2, h3⟩ := htwo placedSession hplaced (hsettings₂.trans hsettings.symm) htopology hroom hroom₂
    fun key hk => (hspared noteTable.tableName (hsettings ▸ hvalid.outside (by decide)) (by decide) key hk).symm
  exact ⟨_, _, r₂, s₂', (Prod.eta _).symm, h1, h2, fun key hk => h3 key (hsettings.symm ▸ hk)⟩

end Session
end SlotSql
