import SlotSql.Proofs.Rows.Typed
import SlotSql.Proofs.Session.Accounted
/-!
# Sessions over hashes and sets

No statement puts the wrong kind of value under a key or defines a table of the system, even if it replaces a table by
another one or fails on the way. Only a raw command can.

Results:
* `execute_typed`: every statement keeps the kinds of values apart.
* `Attained.over`: so do sequences of statements on an empty store.
-/
namespace SlotSql.Session

open Cluster Store Simulation Dialogue

variable {s s' : Session Simulation Link} {topo : Topology} {d : Data} {st : Settings} {I : Data → Prop}

/-! ## Statements that write -/

theorem Leads.over (h : s.Leads topo I s') (hst : s.settings = st) : s'.Over st I := by
  obtain ⟨h1, top', d', h2, h3⟩ := h
  exact h2.over (h1.trans hst) h3

/-- The table of a statement that is about one table. -/
def tableOf : Statement → Option TableName
  | .select q => some q.table
  | .delete del => some del.table
  | .upsert u => some u.table
  | .create d => some d.table
  | .describe name => some name
  | .drop name => some name
  | _ => none

section Closed

variable {name : TableName} {u : Upsertion} {del : Deletion}

theorem upsert_closed (now : Int) (hI : RowsClosed st u.table I) : Stays st I (execute now (.upsert u)) := by
  intro s hs
  obtain ⟨top, topo, d, hready, hd⟩ := hs.ready
  obtain ⟨-, -, -, hm⟩ := bounds hs.valid
  refine (upsert_leads now hready hd fun t pu v c ht hp hv hc => ?_).over hs.settings
  rw [hs.settings] at ht hv hc ⊢
  obtain ⟨hvalid, hname⟩ := valid_of_tableIn ht
  exact Upsertion.keeps_execute hvalid
    (fun key hk => hI.rowCommands hvalid hname ((hI.typed d hd).outside (by omega) ht) hk)
    (Upsertion.prepare_sound hvalid hp) (fun key hk => Upsertion.prepare_parts hvalid hp hk) hv hc hd

theorem delete_closed (now : Int) (hI : RowsClosed st del.table I) : Stays st I (execute now (.delete del)) := by
  intro s hs
  obtain ⟨top, topo, d, hready, hd⟩ := hs.ready
  obtain ⟨-, -, -, hm⟩ := bounds hs.valid
  refine (delete_leads now hready hd fun t ht => ?_).over hs.settings
  rw [hs.settings] at ht
  obtain ⟨hvalid, hname⟩ := valid_of_tableIn ht
  exact hI.deletion hvalid hname ((hI.typed d hd).outside (by omega) ht)

theorem create_closed (now : Int) {d : TableDef} (hI : Closed st d.table I) : Stays st I (create now d) := by
  unfold create
  cases ht : d.toTable now with
  | error e => exact .throw e
  | ok t =>
    rw [← TableDef.tableName_toTable ht] at hI
    refine Stays.get_bind (f := fun s => work (Catalog.create s.settings t d.ifNotExists) >>= fun _ => pure _)
      fun s hs => ?_
    obtain ⟨top, topo, data, hready, hd⟩ := hs.ready
    refine Over.bind ?_ fun _ => .pure _
    obtain ⟨c', h1, h2⟩ := outcome_serves (asks_create_slot s.settings t d.ifNotExists) (fun _ _ h => h) hready.serves
    rw [work_run, h1]
    rw [hs.settings] at h2
    exact hs.context ⟨_, ⟨top, h2⟩, hI.create _ _ hd⟩

/-- A statement that drops a table removes its rows and then its entry. It fails before that or not at all. -/
theorem drop_rows (now : Int) (hI : RowsClosed st name I) (hs : s.Over st I) :
    (∃ e s', (drop now name).run s = (.error e, s') ∧ s'.Over st I) ∨
      ∃ (t : Table) (text : String) (s' : Session Simulation Link), t.Valid st ∧ t.tableName = name ∧
        t.tablespace ≠ st.systemPrefix ∧ (∃ d, I d ∧ d.contains (Catalog.entryKey st name) = true) ∧ s'.Over st I ∧
        (drop now name).run s = (do
          work (Catalog.drop st name)
          return { result := .done text } : SessionStep Simulation Link Executed).run s' := by
  obtain ⟨top, topo, d, hready, hd⟩ := hs.ready
  obtain ⟨-, -, -, hm⟩ := bounds hs.valid
  obtain ⟨s₁, h1, h2, h3⟩ := table_run hready name
  rw [hs.settings] at h1 h3
  have hs₁ : s₁.Over st I := h2.over h3 hd
  unfold drop
  cases htable : tableIn st d name with
  | error e =>
    rw [htable] at h1
    rw [step_bind_error h1]
    exact .inl ⟨e, s₁, rfl, hs₁⟩
  | ok t =>
    rw [htable] at h1
    rw [step_bind_ok h1, step_bind_ok (step_get s₁), h3]
    obtain ⟨hvalid, hname⟩ := valid_of_tableIn htable
    have hts := (hI.typed d hd).outside (by omega) htable
    split
    · next e _ => exact .inl ⟨e.toEngine, s₁, rfl, hs₁⟩
    · next p hp =>
      obtain ⟨fs, hf⟩ := Plan.for_of_build hvalid hp
      have hplan : p.table = t := by
        obtain ⟨fs', -, h, -⟩ := Plan.build_eq_ok hvalid hp
        exact h
      have hscans := h2.scans now
      have hserves := h2.serves.hosts
      rw [h3] at hscans hserves
      obtain ⟨r, x', c', e1, e2⟩ := hosting_delete hvalid hf hplan hscans (hI.deletion hvalid hname hts)
        ⟨d, hserves, hd⟩ 0 none p.emptyRows
      have hscan := scanning_run ⟨{}, p.emptyRows⟩ ((s₁.env now).delete p 0 none) s₁
      rw [e1] at hscan
      cases r with
      | error e =>
        rw [step_bind_error hscan]
        exact .inl ⟨e, _, rfl, hs₁.context e2⟩
      | ok n =>
        rw [step_bind_ok hscan]
        exact .inr ⟨t, _, _, hvalid, hname, hts, ⟨d, hd, contains_entry (by omega) htable⟩, hs₁.context e2, rfl⟩

theorem drop_closed (now : Int) (hI : Closed st name I) : Stays st I (drop now name) := by
  intro s hs
  obtain ⟨-, -, -, hm⟩ := bounds hs.valid
  rcases drop_rows now hI.rows hs with ⟨e, s', hrun, hs'⟩ | ⟨t, text, s', hvalid, hname, hts, -, hs', hrun⟩
  · rw [hrun]
    exact hs'
  · rw [hrun]
    refine Over.bind ?_ fun _ => .pure _
    obtain ⟨topo, d, hc, hd⟩ := hs'.hosting
    rw [work_run]
    exact hs'.context ⟨_, drop_hosts (by omega) hc _ _, hI.step d _ hd (.drop hvalid hname hts)⟩

end Closed

/-- A raw command for the store. -/
def IsCommand : Statement → Bool
  | .command _ => true
  | _ => false

/-- Statements keep stores of a kind that the commands on their tables keep, whether or not they fail. -/
theorem execute_closed (now : Int) {statement : Statement} (h : IsCommand statement = false)
    (hI : ∀ name, tableOf statement = some name → Closed st name I) : Stays st I (execute now statement) := by
  cases statement with
  | delete del => exact delete_closed now (hI _ rfl).rows
  | upsert u => exact upsert_closed now (hI _ rfl).rows
  | create d => exact create_closed now (hI _ rfl)
  | drop name => exact drop_closed now (hI _ rfl)
  | command args => cases h
  | _ => exact reading_stays now rfl

/-! ## Sequences of statements -/

/-- Every statement but a raw command keeps the kinds of values apart, whether or not it fails. -/
theorem execute_typed (now : Int) {statement : Statement} (hs : s.Over st (Typed st)) (h : IsCommand statement = false) :
    ((execute now statement).run s).2.Over st (Typed st) :=
  execute_closed now h (fun name _ => typed_closed hs.valid name) s hs

/-- A session that began with an empty store and has carried out statements since, whether or not they failed, but no
raw commands. -/
inductive Attained : Session Simulation Link → Prop
  | start {s : Session Simulation Link} {top : Nat} {topo : Topology} (hs : s.Ready top topo .empty) : Attained s
  | execute {s : Session Simulation Link} (h : Attained s) (now : Int) {statement : Statement}
    (hst : IsCommand statement = false) : Attained ((execute now statement).run s).2

theorem Attained.over (h : Attained s) : s.Over s.settings (Typed s.settings) := by
  have hany : ∃ st, s.Over st (Typed st) := by
    induction h with
    | start hs => exact ⟨_, hs.over rfl typed_empty⟩
    | execute _ now hst ih =>
      obtain ⟨st, hs⟩ := ih
      exact ⟨st, execute_typed now hs hst⟩
  obtain ⟨st, hs⟩ := hany
  exact hs.settings ▸ hs

/-- The session with the first note is one of these. -/
theorem firstSession_attained : Attained firstSession :=
  ((Attained.start (noteSession_ready .empty)).execute 0 (show IsCommand (.create noteDef) = false from rfl)).execute 0
    (show IsCommand (.upsert firstNote) = false from rfl)

end SlotSql.Session
