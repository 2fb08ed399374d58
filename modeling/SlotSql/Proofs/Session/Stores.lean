import SlotSql.Proofs.Session.Interleaving
/-!
# Sessions over stores of a kind

What statements leave of a session: it has its settings, and its context still hosts a store of the kind that they
keep. Statements that read keep stores of any kind, because they leave the store as it is.

Results:
* `Stays`: the steps of a session that keep stores of a kind.
* `reading_stays`: statements that read.
-/
namespace SlotSql.Session

open Cluster Store Simulation Dialogue

variable {α β : Type} {s s' : Session Simulation Link} {top : Nat} {topo : Topology} {d : Data} {st : Settings}
  {I : Data → Prop} {c : Context Simulation Link}

/-- A session of some settings that is ready with a store of some kind. -/
structure Over (st : Settings) (I : Data → Prop) (s : Session Simulation Link) : Prop where
  valid : st.Valid
  range : st.scanBatch ≤ Number.max64
  settings : s.settings = st
  hosting : ∃ topo, Hosting st.maxArgs topo I s.context

theorem Ready.over (hs : s.Ready top topo d) (hst : s.settings = st) (hd : I d) : s.Over st I :=
  ⟨hst ▸ hs.valid, hst ▸ hs.range, hst, topo, d, ⟨top, hst ▸ hs.serves⟩, hd⟩

theorem Over.ready (h : s.Over st I) : ∃ top topo d, s.Ready top topo d ∧ I d := by
  obtain ⟨topo, d, ⟨top, hc⟩, ha⟩ := h.hosting
  exact ⟨top, topo, d, ⟨h.settings.symm ▸ h.valid, h.settings.symm ▸ h.range, h.settings.symm ▸ hc⟩, ha⟩

/-- Another context that hosts such a store, or one of another kind. -/
theorem Over.context {J : Data → Prop} (h : s.Over st I) (hc : Hosting st.maxArgs topo J c) :
    ({ s with context := c } : Session Simulation Link).Over st J :=
  ⟨h.valid, h.range, h.settings, topo, hc⟩

/-! ## Steps -/

/-- A step that leaves a session over such a store, whether or not it fails. -/
def Stays (st : Settings) (I : Data → Prop) (act : SessionStep Simulation Link α) : Prop := ∀ s, s.Over st I → (act.run s).2.Over st I

/-- What follows on a step that has left the session so. -/
theorem Over.bind {act : SessionStep Simulation Link α} {f : α → SessionStep Simulation Link β}
    (h : (act.run s).2.Over st I) (hf : ∀ a, Stays st I (f a)) : ((act >>= f).run s).2.Over st I := by
  rw [step_bind]
  split
  · next a s' he =>
    rw [he] at h
    exact hf a s' h
  · next e s' he =>
    rw [he] at h
    exact h

namespace Stays

theorem pure (a : α) : Stays st I (Pure.pure a : SessionStep Simulation Link α) := fun _ h => h

theorem ofExcept (x : Except EngineError α) : Stays st I (ofExcept x : SessionStep Simulation Link α) := fun _ h => h

theorem throw (e : EngineError) : Stays st I (MonadExcept.throw e : SessionStep Simulation Link α) := fun _ h => h

theorem get : Stays st I (MonadState.get : SessionStep Simulation Link (Session Simulation Link)) := fun _ h => h

theorem bind {act : SessionStep Simulation Link α} {f : α → SessionStep Simulation Link β} (h : Stays st I act)
    (hf : ∀ a, Stays st I (f a)) : Stays st I (act >>= f) := fun s hs => (h s hs).bind hf

/-- What follows on looking at the session. -/
theorem get_bind {f : Session Simulation Link → SessionStep Simulation Link α}
    (h : ∀ s, s.Over st I → ((f s).run s).2.Over st I) : Stays st I (MonadState.get >>= f) := by
  intro s hs
  rw [step_bind_ok (step_get s)]
  exact h s hs

theorem table (name : TableName) : Stays st I (table name) := by
  intro s hs
  obtain ⟨top, topo, d, hready, ha⟩ := hs.ready
  obtain ⟨s', h1, h2, h3⟩ := table_run hready name
  rw [h1]
  exact h2.over (h3.trans hs.settings) ha

end Stays

/-- Work of the engine that reads. -/
theorem Over.work (hs : s.Over st I) {x : Engine α} (hx : ∀ topo d, Hosts st.maxArgs topo d s.context →
    Hosts st.maxArgs topo d (outcome Context.world x s.context).2) : ((work x).run s).2.Over st I := by
  obtain ⟨topo, d, hc, ha⟩ := hs.hosting
  rw [work_run]
  exact hs.context ⟨d, hx topo d hc, ha⟩

/-- Steps of a scan that read. -/
theorem Over.scanning (hs : s.Over st I) {x : Scan} {act : Scanning α} (hx : ∀ topo d, Hosts st.maxArgs topo d s.context →
    Hosts st.maxArgs topo d (Scanning.outcome Context.world act x s.context).2.2) :
    ((scanning x act).run s).2.Over st I := by
  obtain ⟨topo, d, hc, ha⟩ := hs.hosting
  rw [scanning_run]
  exact hs.context ⟨d, hx topo d hc, ha⟩

/-! ## Statements that read -/

theorem planned_stays (p : Plan) (x : Scan) (result : StatementResult) : Stays st I (planned p x result) :=
  .bind .get fun _ => .pure _

/-- A scan of a session changes nothing. -/
theorem Over.grounds (hs : s.Over st I) (now : Int) (p : Plan) {topo : Topology} {d : Data}
    (hc : Hosts st.maxArgs topo d s.context) : ∃ G : Grounds Context.world (s.env now) p, G.Calm s.context ∧
      ∀ c, G.Calm c → Hosts st.maxArgs topo d c := by
  obtain ⟨top, hserves⟩ := id hc
  have hready : s.Ready top topo d :=
    ⟨hs.settings.symm ▸ hs.valid, hs.settings.symm ▸ hs.range, hs.settings.symm ▸ hserves⟩
  have hscans := hready.scans now
  refine ⟨Simulation.grounds (t := topo) (m := st.maxArgs) (· = d) (fun _ => True) (fun _ => True)
    (hs.settings ▸ hscans.words) hscans.batch hscans.range hscans.masters (fun _ _ _ _ _ => trivial)
    (fun _ _ _ _ _ _ => trivial), ⟨d, hc, rfl⟩, ?_⟩
  rintro c ⟨d', h1, rfl⟩
  exact h1

theorem select_stays (now : Int) (q : Query) : Stays st I (select now q) := by
  unfold select
  refine .bind (.table _) fun t => .get_bind fun s hs => ?_
  split
  · exact hs
  · next p _ =>
    split
    · refine (hs.scanning fun topo d hc => ?_).bind fun _ => planned_stays p _ _
      obtain ⟨G, h1, h2⟩ := hs.grounds now p hc
      obtain ⟨r, x', c', h3, h4⟩ := G.count p.emptyRows h1
      rw [h3]
      exact h2 c' h4
    · refine (hs.scanning fun topo d hc => ?_).bind fun _ => planned_stays p _ _
      obtain ⟨G, h1, h2⟩ := hs.grounds now p hc
      obtain ⟨r, x', c', h3, h4, -⟩ := Grounds.next (Grounds.stands_fresh (G := G) p.emptyRows h1)
        (q.selection.offset.getD 0) (s.settings.clampLimit q.selection.limit)
      rw [h3]
      exact h2 c' h4.calm

theorem describe_stays (name : TableName) : Stays st I (describe name) :=
  .bind (.table name) fun _ => .bind (.ofExcept _) fun _ => .pure _

/-- Looking at the entries that a node holds changes nothing. -/
theorem nodeKeys_hosts {m : Nat} (hm : 6 ≤ m) (hp : 0 < st.scanBatch) (hn : st.scanBatch ≤ Number.max64)
    (pattern : String) {node : Nat} (hnode : node ∈ topo.masters) (patience cursor : Nat)
    (hc : Hosts m topo d c) :
    Hosts m topo d (outcome Context.world (Catalog.nodeKeys st pattern node patience cursor) c).2 := by
  induction patience generalizing cursor c with
  | zero => exact hc
  | succ n ih =>
    obtain ⟨r, c', h1, h2, -⟩ := hc.page hm hp hn hnode cursor pattern
    unfold Catalog.nodeKeys
    refine outcome_bind_keeps ?_ fun page c hc => ?_
    · rw [Engine.outcome_liftM, h1]
      exact h2
    · split
      · exact hc
      · exact outcome_bind_keeps (ih page.cursor hc) fun _ _ hc => hc

/-- Nor does looking for the tables on all masters. -/
theorem tables_hosts {m : Nat} (hm : 6 ≤ m) (hp : 0 < st.scanBatch) (hn : st.scanBatch ≤ Number.max64)
    (pattern : String) (patience : Nat) (hc : Hosts m topo d c) :
    Hosts m topo d (outcome Context.world (Catalog.tables st patience topo.masters pattern) c).2 := by
  have hall (nodes : List Nat) (hnodes : ∀ i ∈ nodes, i ∈ topo.masters) (c : Context Simulation Link)
      (hc : Hosts m topo d c) : Hosts m topo d (outcome Context.world
        (nodes.mapM fun node => Catalog.nodeKeys st pattern node patience 0) c).2 := by
    induction nodes generalizing c with
    | nil => exact hc
    | cons i nodes ih =>
      rw [List.mapM_cons]
      refine outcome_bind_keeps (nodeKeys_hosts hm hp hn pattern (hnodes i List.mem_cons_self) patience 0 hc)
        fun _ c hc => ?_
      exact outcome_bind_keeps (ih (fun j hj => hnodes j (List.mem_cons_of_mem _ hj)) c hc) fun _ _ hc => hc
  unfold Catalog.tables
  exact outcome_bind_keeps (hall topo.masters (fun _ h => h) c hc) fun _ _ hc => hc

/-- Looking for tables in a session. -/
theorem Over.tables (hs : s.Over st I) (now : Int) (pattern : String) (g : List (String × String) → α) :
    ((Session.work (do return g (← Catalog.tables (s.env now).settings (s.env now).patience (s.env now).masters pattern) :
      Engine α)).run s).2.Over st I := by
  refine hs.work fun topo d hc => outcome_bind_keeps ?_ fun _ _ hc => hc
  obtain ⟨h1, -, -, h2⟩ := bounds hs.valid
  have hmasters : (s.env now).masters = topo.masters := by
    obtain ⟨top, hc⟩ := hc
    show s.context.topology.masters = _
    rw [hc.topology]
  rw [hmasters, show (s.env now).settings = st from hs.settings]
  exact tables_hosts (by omega) h1 hs.range pattern _ hc

theorem showDatabases_stays : Stays st I showDatabases :=
  .get_bind fun _ hs => (hs.tables 0 _ _).bind fun _ => .bind (.ofExcept _) fun _ => .pure _

theorem showTables_stays (tablespace : String) : Stays st I (showTables tablespace) :=
  .get_bind fun _ hs => (hs.tables 0 _ _).bind fun _ => .bind (.ofExcept _) fun _ => .pure _

theorem info_stays (part : Option String) (node : Option Nat) : Stays st I (info part node) := by
  have hinfo (i : Nat) : Stays st I (step (Context.info i part) : SessionStep Simulation Link Info) := by
    intro s hs
    obtain ⟨topo, d, hc, ha⟩ := hs.hosting
    obtain ⟨-, -, -, hm⟩ := bounds hs.valid
    obtain ⟨r, c', topo', h1, h2⟩ := hc.info (by omega) i part
    rw [context_run, h1]
    exact hs.context ⟨d, h2, ha⟩
  have hnodes (nodes : List Node) (rows : Rows) : Stays st I (nodes.foldlM (fun (r : Rows) n => do
      let i ← step (Context.info n.index part)
      ofExcept (r.add n.addr [some (.text n.addr), some (.text n.role.name), some (.nested (entryRows n.addr i))]))
      rows : SessionStep Simulation Link Rows) := by
    induction nodes generalizing rows with
    | nil => exact .pure _
    | cons n nodes ih =>
      rw [List.foldlM_cons]
      exact .bind (.bind (hinfo n.index) fun _ => .ofExcept _) fun _ => ih _
  unfold info
  exact .bind .get fun _ => .bind (.ofExcept _) fun _ => .bind (hnodes _ _) fun _ => .pure _

/-- A statement that is not meant to change the store. -/
def IsReading : Statement → Bool
  | .delete _ | .upsert _ | .create _ | .drop _ | .command _ => false
  | _ => true

/-- Such statements keep stores of any kind. -/
theorem reading_stays (now : Int) {statement : Statement} (h : IsReading statement = true) :
    Stays st I (execute now statement) := by
  intro s hs
  cases statement with
  | select q =>
    show ((if q.table.isDual = true then _ else select now q : SessionStep Simulation Link Executed).run s).2.Over st I
    split
    · exact Stays.bind (.ofExcept _) (fun _ => .pure _) s hs
    · exact select_stays now q s hs
  | describe name => exact describe_stays name s hs
  | showDatabases => exact showDatabases_stays s hs
  | showTables tablespace => exact showTables_stays tablespace s hs
  | info part node => exact info_stays part node s hs
  | verbose on => exact ⟨hs.valid, hs.range, hs.settings, hs.hosting⟩
  | delimiter c => exact ⟨hs.valid, hs.range, hs.settings, hs.hosting⟩
  | _ => cases h

end SlotSql.Session
