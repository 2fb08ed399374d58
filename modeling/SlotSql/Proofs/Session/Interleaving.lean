import SlotSql.Proofs.Rows.Anchored
import SlotSql.Proofs.Session.Selection
/-!
# Scans between statements

A caller can ask for the rows of a plan call by call, and the session can carry out other statements in between. The
keys of a page that a call did not come to are pending until the next one, and are not asked for again; but
their rows can be gone by then. Looking at such a key finds no attribute, so a plan that filters one passes it over,
and a plan that filters none takes it for a row without attributes.

Results:
* `upsert_orderly`, `delete_orderly`: what statements do to the store between two calls.
* `next_existing`: where the rows come from that a call adds to a result.
-/
namespace SlotSql.Session

open Cluster Store Simulation Dialogue

variable {s : Session Simulation Link} {top : Nat} {topo : Topology} {d : Data} {t : Table} {p : Plan} {g : Progress}
  {I : Data → Prop}

/-! ## Statements between calls -/

/-- A session that is ready with a store of some kind, and that has the settings of another one. -/
def Leads (s : Session Simulation Link) (topo : Topology) (I : Data → Prop) (s' : Session Simulation Link) : Prop :=
  s'.settings = s.settings ∧ ∃ top d', s'.Ready top topo d' ∧ I d'

/-- A session that is ready with what statements made of a store. -/
def Follows (s : Session Simulation Link) (topo : Topology) (d : Data) (s' : Session Simulation Link) : Prop :=
  s.Leads topo (Orderly s.settings d) s'

theorem Ready.follows (hs : s.Ready top topo d) : s.Follows topo d s := ⟨rfl, top, d, hs, .refl _ d⟩

theorem Ready.scans (hs : s.Ready top topo d) (now : Int) : Scans (s.env now) s.settings s.settings.maxArgs topo :=
  ⟨rfl, (hs.fits now).words, (hs.fits now).batch, (hs.fits now).range, (hs.fits now).masters⟩

/-- A session with another context that holds such a store. -/
theorem Leads.context {s' : Session Simulation Link} (hs : s'.Ready top topo d) (h : s'.settings = s.settings)
    {c : Context Simulation Link} (hc : Hosting s.settings.maxArgs topo I c) :
    s.Leads topo I { s' with context := c } := by
  obtain ⟨d', ⟨top', hserves⟩, hd⟩ := hc
  exact ⟨h, top', d', ⟨hs.valid, hs.range, h ▸ hserves⟩, hd⟩

/-- A statement that writes rows leaves the session ready with a store of a kind that writing them keeps. -/
theorem upsert_leads (now : Int) (hs : s.Ready top topo d) (hd : I d) {u : Upsertion}
    (hwork : ∀ t pu v c, tableIn s.settings d u.table = .ok t → u.prepare t now = .ok pu →
      Scans v s.settings s.settings.maxArgs topo → Hosts s.settings.maxArgs topo d c →
        Hosting s.settings.maxArgs topo I (outcome Context.world (Upsertion.execute v pu) c).2) :
    s.Leads topo I ((execute now (.upsert u)).run s).2 := by
  obtain ⟨s₁, h1, h2, h3⟩ := table_run hs u.table
  have hstay : s.Leads topo I s₁ := ⟨h3, top, d, h2, hd⟩
  show s.Leads topo I ((upsert now u).run s).2
  unfold upsert
  cases htable : tableIn s.settings d u.table with
  | error e =>
    rw [htable] at h1
    rw [step_bind_error h1]
    exact hstay
  | ok t =>
    rw [htable] at h1
    rw [step_bind_ok h1, step_bind_ok (step_get s₁)]
    cases hp : u.prepare t now with
    | error e => exact hstay
    | ok pu =>
      have hprep : (ofExcept (.ok pu) : SessionStep Simulation Link PreparedUpsertion).run s₁ =
        (.ok pu, s₁) := rfl
      rw [step_bind_ok hprep]
      have hscans := h2.scans now
      have hserves := h2.serves.hosts
      rw [h3] at hscans hserves
      have hleft := hwork t pu _ _ htable hp hscans hserves
      have hrun := work_run (Upsertion.execute (s₁.env now) pu) s₁
      cases ho : outcome Context.world (Upsertion.execute (s₁.env now) pu) s₁.context with
      | mk r c' =>
        rw [ho] at hrun hleft
        have hnext := Leads.context h2 h3 hleft
        cases r with
        | error e =>
          rw [step_bind_error hrun]
          exact hnext
        | ok o =>
          rw [step_bind_ok hrun]
          cases o <;> exact hnext

/-- What a session reports of an outcome. -/
def report : UpsertOutcome → StatementResult
  | .written n => .affected "upserted" n
  | .updated n => .affected "updated" n
  | .ignored => .ignored

/-- If such a statement succeeds, the table has been found, the values have been checked, and what was prepared has been
carried out by a session that is ready with the same store. -/
theorem upsert_carried (hs : s.Ready top topo d) {now : Int} {u : Upsertion} {e : Executed} {s' : Session Simulation Link}
    (hrun : (execute now (.upsert u)).run s = (.ok e, s')) : ∃ (t : Table) (pu : PreparedUpsertion)
      (s₁ : Session Simulation Link) (o : UpsertOutcome) (c' : Context Simulation Link),
      tableIn s.settings d u.table = .ok t ∧ u.prepare t now = .ok pu ∧ s₁.Ready top topo d ∧ s₁.settings = s.settings ∧
      outcome Context.world (Upsertion.execute (s₁.env now) pu) s₁.context = (.ok o, c') ∧ e.result = report o ∧
      s'.settings = s.settings ∧ s'.context = c' := by
  obtain ⟨s₁, h1, h2, h3⟩ := table_run hs u.table
  have hrun : (upsert now u).run s = (.ok e, s') := hrun
  unfold upsert at hrun
  cases htable : tableIn s.settings d u.table with
  | error e =>
    rw [htable] at h1
    rw [step_bind_error h1] at hrun
    cases hrun
  | ok t =>
    rw [htable] at h1
    rw [step_bind_ok h1, step_bind_ok (step_get s₁)] at hrun
    cases hp : u.prepare t now with
    | error e =>
      rw [hp] at hrun
      cases hrun
    | ok pu =>
      rw [hp] at hrun
      have hprep : (ofExcept (.ok pu) : SessionStep Simulation Link PreparedUpsertion).run s₁ = (.ok pu, s₁) := rfl
      rw [step_bind_ok hprep] at hrun
      have hwork := work_run (Upsertion.execute (s₁.env now) pu) s₁
      cases ho : outcome Context.world (Upsertion.execute (s₁.env now) pu) s₁.context with
      | mk r c' =>
        rw [ho] at hwork
        cases r with
        | error e =>
          rw [step_bind_error hwork] at hrun
          cases hrun
        | ok o =>
          rw [step_bind_ok hwork] at hrun
          refine ⟨t, pu, s₁, o, c', rfl, hp, h2, h3, ho, ?_⟩
          cases o <;> cases hrun <;> exact ⟨rfl, h3, rfl⟩

theorem upsert_ok (hs : s.Ready top topo d) {now : Int} {u : Upsertion} {e : Executed} {s' : Session Simulation Link}
    (hrun : (execute now (.upsert u)).run s = (.ok e, s')) : ∃ t pu v c o c', tableIn s.settings d u.table = .ok t ∧
      u.prepare t now = .ok pu ∧ Scans v s.settings s.settings.maxArgs topo ∧ Hosts s.settings.maxArgs topo d c ∧
      outcome Context.world (Upsertion.execute v pu) c = (.ok o, c') ∧ e.result = report o ∧
      s'.settings = s.settings ∧ s'.context = c' := by
  obtain ⟨t, pu, s₁, o, c', htable, hp, hs₁, hsettings, hrest⟩ := upsert_carried hs hrun
  have hscans := hs₁.scans now
  have hhosts := hs₁.serves.hosts
  rw [hsettings] at hscans hhosts
  exact ⟨t, pu, _, _, o, c', htable, hp, hscans, hhosts, hrest⟩

/-- It leaves no set behind without its row. -/
theorem upsert_orderly (now : Int) (hs : s.Ready top topo d) {u : Upsertion}
    (hu : ∀ t, tableIn s.settings d u.table = .ok t → t.tablespace ≠ s.settings.systemPrefix) :
    s.Follows topo d ((execute now (.upsert u)).run s).2 := by
  refine upsert_leads now hs (.refl _ d) fun t pu v c ht hp hv hc => ?_
  obtain ⟨hvalid, hname⟩ := valid_of_tableIn ht
  exact Upsertion.orderly_execute hs.valid ⟨hname ▸ ht, hu t ht⟩ (Upsertion.prepare_sound hvalid hp)
    (fun key hk => Upsertion.prepare_parts hvalid hp hk) hv hc

/-- A deletion leaves the session ready with a store of a kind that deleting rows keeps. -/
theorem delete_leads (now : Int) (hs : s.Ready top topo d) (hd : I d) {del : Deletion}
    (hI : ∀ t, tableIn s.settings d del.table = .ok t → ClosedUnderDeletion t I) :
    s.Leads topo I ((execute now (.delete del)).run s).2 := by
  obtain ⟨s₁, h1, h2, h3⟩ := table_run hs del.table
  have hstay : s.Leads topo I s₁ := ⟨h3, top, d, h2, hd⟩
  show s.Leads topo I ((delete now del).run s).2
  unfold delete
  cases htable : tableIn s.settings d del.table with
  | error e =>
    rw [htable] at h1
    rw [step_bind_error h1]
    exact hstay
  | ok t =>
    rw [htable] at h1
    rw [step_bind_ok h1, step_bind_ok (step_get s₁)]
    obtain ⟨hvalid, hname⟩ := valid_of_tableIn htable
    have hscans := h2.scans now
    have hserves := h2.serves.hosts
    rw [h3] at hscans hserves
    rw [h3]
    split
    · exact hstay
    · next p hp =>
      obtain ⟨fs, hf⟩ := Plan.for_of_build hvalid hp
      have hplan : p.table = t := by
        obtain ⟨fs', -, h, -⟩ := Plan.build_eq_ok hvalid hp
        exact h
      obtain ⟨r, x', c', e1, e2⟩ := hosting_delete hvalid hf hplan hscans (hI t htable) ⟨d, hserves, hd⟩
        (del.selection.offset.getD 0) del.selection.limit p.emptyRows
      have hscan := scanning_run ⟨{}, p.emptyRows⟩
        ((s₁.env now).delete p (del.selection.offset.getD 0) del.selection.limit) s₁
      rw [e1] at hscan
      have hnext := Leads.context h2 h3 e2
      cases r with
      | error e =>
        rw [step_bind_error hscan]
        exact hnext
      | ok n =>
        rw [step_bind_ok hscan]
        exact hnext

/-- It leaves no set behind without its row. -/
theorem delete_orderly (now : Int) (hs : s.Ready top topo d) {del : Deletion}
    (hdel : ∀ t, tableIn s.settings d del.table = .ok t → t.tablespace ≠ s.settings.systemPrefix) :
    s.Follows topo d ((execute now (.delete del)).run s).2 := by
  refine delete_leads now hs (.refl _ d) fun t ht key d' hp hd => ?_
  obtain ⟨-, hname⟩ := valid_of_tableIn ht
  have hlive : Live s.settings d t := ⟨hname ▸ ht, hdel t ht⟩
  exact hd.trans (orderly_deletion hs.valid (hd.live hlive) hp)

/-! ## Calls -/

/-- A call for the next rows of a plan, and what it leaves of the plan's progress, of the result and of the context. -/
def call (s : Session Simulation Link) (now : Int) (p : Plan) (g : Progress) (rows : Rows) (offset limit : Nat) :
    Except EngineError (Option Nat) × Scan × Context Simulation Link :=
  Scanning.outcome Context.world ((s.env now).next p offset limit) ⟨g, rows⟩ s.context

/-- A plan that has come so far in a session: it has been made, and since then rows were asked for and statements wrote
and deleted rows, in any order, of any tables but those of the system, whether or not they failed. -/
inductive UnderWay (t : Table) (p : Plan) : Progress → Session Simulation Link → Prop
  | fresh {s : Session Simulation Link} {top : Nat} {topo : Topology} {d : Data} {conditions : List Condition}
    {items : List SelectItem} (hs : s.Ready top topo d) (ht : tableIn s.settings d t.tableName = .ok t)
    (hp : Plan.build s.settings t conditions items = .ok p) : UnderWay t p {} s
  | call {g : Progress} {s : Session Simulation Link} (h : UnderWay t p g s) (now : Int) (rows : Rows)
    (offset limit : Nat) : UnderWay t p (s.call now p g rows offset limit).2.1.progress
      { s with context := (s.call now p g rows offset limit).2.2 }
  | upsert {g : Progress} {s : Session Simulation Link} (h : UnderWay t p g s) (now : Int) {u : Upsertion}
    (hu : u.table.tablespace ≠ s.settings.systemPrefix) : UnderWay t p g ((execute now (.upsert u)).run s).2
  | delete {g : Progress} {s : Session Simulation Link} (h : UnderWay t p g s) (now : Int) {del : Deletion}
    (hdel : del.table.tablespace ≠ s.settings.systemPrefix) : UnderWay t p g ((execute now (.delete del)).run s).2

/-- A key that waits to be looked at. -/
def Pending (g : Progress) (key : String) : Prop := ∃ c ∈ g.cursors, key ∈ c.pending

/-- What holds of a plan that is under way: pending keys are ones that it may look at, and a row of its table among
them that is gone has no set left. -/
structure Resumable (t : Table) (p : Plan) (st : Settings) (topo : Topology) (d : Data) (g : Progress) : Prop where
  table : tableIn st d t.tableName = .ok t
  plan : ∃ cs fs, Plan.For t cs p fs
  nodes : ∀ c ∈ g.cursors, c.node ∈ topo.masters
  near : ∀ key, Pending g key → Near p key
  anchored : ∀ key, Pending g key → (t.parts? key).isSome = true → t.Anchored d key

theorem Resumable.follow {st : Settings} (h : Resumable t p st topo d g) {d' : Data} (hd : Orderly st d d') :
    Resumable t p st topo d' g :=
  { h with
    table := (hd.tables _).trans h.table
    anchored := fun key hk hp => hd.anchored t key h.table hp (h.anchored key hk hp) }

/-- Whether a key of a plan's table is there, or else is pending, the plan being one that filters no attribute. -/
def Plausible (p : Plan) (d : Data) (g : Progress) (key : String) : Prop :=
  d.contains key = true ∨ Pending g key ∧ ∀ f ∈ p.fetches, f.chain = []

/-- A call finds nothing else, and what is pending afterwards is as what was pending before. -/
theorem Resumable.call (hs : s.Ready top topo d) (h : Resumable t p s.settings topo d g) (now : Int) (rows : Rows)
    (offset limit : Nat) : ∃ r x' c', s.call now p g rows offset limit = (r, x', c') ∧
      Hosts s.settings.maxArgs topo d c' ∧ Resumable t p s.settings topo d x'.progress ∧
      ∀ row ∈ x'.rows.rows, row ∈ rows.rows ∨ Plausible p d g row.key := by
  obtain ⟨hvalid, -⟩ := valid_of_tableIn h.table
  obtain ⟨cs, fs, hf⟩ := h.plan
  have hscans := hs.scans now
  have hgone (d' : Data) (key : String) (y : Candidate) (hd : d' = d)
      (hk : Near p key ∧ (d.contains key = true ∨ Pending g key))
      (hy : lookupIn (answers s.settings.maxArgs d') p key = .ok (some y)) : Plausible p d g key := by
    subst hd
    by_cases hc : d'.contains key = true
    · exact .inl hc
    · have hpending := hk.2.resolve_left hc
      have hnone {k : String} (hk : ¬ d'.contains k = true) : d'.get? k = none := by
        simpa [KeyMap.contains] using hk
      refine .inr ⟨hpending, unfiltered_of_gone (by have := hscans.words; omega) (hnone hc) (fun n hn => ?_) hy⟩
      obtain ⟨f, hfield, rfl⟩ := List.mem_map.1 (hf.setNames n hn)
      exact hnone fun hset => hc (h.anchored key hpending (parts_of_near hvalid hf hk.1 hy) f hfield hset)
  let G := grounds (v := s.env now) (p := p) (m := s.settings.maxArgs) (t := topo) (· = d)
    (fun key => Near p key ∧ (d.contains key = true ∨ Pending g key)) (Plausible p d g) hscans.words hscans.batch
    hscans.range hscans.masters (fun d' key hd hk hnear => ⟨hnear, .inl (hd ▸ hk)⟩) hgone
  have hstands : G.Stands (fun _ => True) ⟨g, rows⟩ s.context :=
    ⟨⟨d, hs.serves.hosts, rfl⟩, fun c hc => hscans.masters ▸ h.nodes c hc,
      fun c hc k hk => ⟨h.near k ⟨c, hc, hk⟩, .inr ⟨c, hc, hk⟩⟩, fun _ _ => trivial⟩
  obtain ⟨r, x', c', h1, h2, h3⟩ := Grounds.next hstands offset limit
  obtain ⟨d', hhosts, hd⟩ := h2.calm
  have hpending {k : String} (hk : Pending x'.progress k) :
      Near p k ∧ (d.contains k = true ∨ Pending g k) := by
    obtain ⟨c, hc, hk⟩ := hk
    exact h2.pending c hc k hk
  refine ⟨r, x', c', h1, hd ▸ hhosts, ⟨h.table, h.plan, fun c hc => hscans.masters ▸ h2.nodes c hc,
    fun k hk => (hpending hk).1, fun k hk hp => ?_⟩, h3⟩
  rcases (hpending hk).2 with hk | hk
  · exact Table.anchored_of_contains hk
  · exact h.anchored k hk hp

/-- A plan that is under way can be resumed in its session. -/
theorem UnderWay.resumable (h : UnderWay t p g s) : ∃ top topo d, s.Ready top topo d ∧
    Resumable t p s.settings topo d g := by
  have hfollow {s s' : Session Simulation Link} {topo : Topology} {d : Data} {g : Progress}
      (hr : Resumable t p s.settings topo d g) (hs' : s.Follows topo d s') : ∃ top topo d, s'.Ready top topo d ∧
        Resumable t p s'.settings topo d g := by
    obtain ⟨h1, top', d', h2, h3⟩ := hs'
    exact ⟨top', topo, d', h2, h1 ▸ hr.follow h3⟩
  have htablespace {st : Settings} {d : Data} {name : TableName} (h : name.tablespace ≠ st.systemPrefix) (u : Table)
      (hu : tableIn st d name = .ok u) : u.tablespace ≠ st.systemPrefix := by
    rw [← (valid_of_tableIn hu).2] at h
    exact h
  induction h with
  | @fresh s top topo d conditions items hs ht hp =>
    refine ⟨top, topo, d, hs, ht, ?_, by simp, fun _ ⟨c, hc, _⟩ => ?_, fun _ ⟨c, hc, _⟩ => ?_⟩
    · obtain ⟨fs, hf⟩ := Plan.for_of_build (valid_of_tableIn ht).1 hp
      exact ⟨conditions, fs, hf⟩
    · cases hc
    · cases hc
  | @call g s h now rows offset limit ih =>
    obtain ⟨top, topo, d, hs, hr⟩ := ih
    obtain ⟨r, x', c', h1, ⟨top', h2⟩, h3, -⟩ := hr.call hs now rows offset limit
    rw [h1]
    exact ⟨top', topo, d, hs.next h2, h3⟩
  | upsert h now hu ih =>
    obtain ⟨top, topo, d, hs, hr⟩ := ih
    exact hfollow hr (upsert_orderly now hs (htablespace hu))
  | delete h now hdel ih =>
    obtain ⟨top, topo, d, hs, hr⟩ := ih
    exact hfollow hr (delete_orderly now hs (htablespace hdel))

/-- **The rows of a scan exist.** Whatever statements write and delete between the calls of a plan, each row that a
call adds to a result has a key that is in the store at that time, unless the key was pending when the call began
and the plan filters no attribute. The call itself changes nothing. -/
theorem next_existing (h : UnderWay t p g s) (now : Int) (rows : Rows) (offset limit : Nat) : ∃ r x' c',
    s.call now p g rows offset limit = (r, x', c') ∧
      (∀ key, c'.server.value? key = s.context.server.value? key) ∧
      ∀ row ∈ x'.rows.rows, row ∈ rows.rows ∨ (s.context.server.value? row.key).isSome = true ∨
        Pending g row.key ∧ ∀ f ∈ p.fetches, f.chain = [] := by
  obtain ⟨top, topo, d, hs, hr⟩ := h.resumable
  obtain ⟨r, x', c', h1, ⟨top', h2⟩, -, h3⟩ := hr.call hs now rows offset limit
  refine ⟨r, x', c', h1, fun key => (h2.holds key).trans (hs.serves.holds key).symm, fun row hrow => ?_⟩
  refine (h3 row hrow).imp_right fun hp => hp.imp_left fun hd => ?_
  rw [hs.serves.holds]
  exact hd

/-! ## Notes that are deleted between two calls -/

/-- Settings with longer pages. -/
def pagedSettings : Settings := { noteSettings with scanBatch := 10 }

/-- A session on a store of notes with such pages. -/
def pagedSession (d : Data) : Session Simulation Link := { noteSession d with settings := pagedSettings }

theorem pagedSession_ready (d : Data) : (pagedSession d).Ready 1 plainTopology d :=
  ⟨(by decide +kernel : pagedSettings.Valid), (by decide : pagedSettings.scanBatch ≤ Number.max64), serves_plain _ _⟩

/-- The plan for all notes, with their texts. -/
def textPlan : Plan :=
  (Plan.build noteSettings noteTable [] [.column "id", .column "text"]).toOption.getD
    ⟨noteTable, [], [], [], "", none, false⟩

theorem textPlan_eq : Plan.build (pagedSession noteStore).settings noteTable [] [.column "id", .column "text"] =
    .ok textPlan :=
  eq_ok_of_isOk (by decide +kernel) _

/-- A call for one note; the next one on its page is pending. -/
def firstCall : Except EngineError (Option Nat) × Scan × Context Simulation Link :=
  (pagedSession noteStore).call 0 textPlan {} textPlan.emptyRows 0 1

/-- The deletion of the note that is pending. -/
def pendingDeletion : Deletion := ⟨noteTable.tableName, ⟨[⟨"id", .eq, ⟨"2", false⟩⟩], none, none⟩⟩

/-- The session after the call and the deletion. -/
def deletedSession : Session Simulation Link :=
  ((execute 0 (.delete pendingDeletion)).run { pagedSession noteStore with context := firstCall.2.2 }).2

theorem deletedSession_underWay : UnderWay noteTable textPlan firstCall.2.1.progress deletedSession :=
  .delete (.call (.fresh (pagedSession_ready noteStore) (by decide +kernel) textPlan_eq) 0 textPlan.emptyRows 0 1) 0
    (by decide +kernel)

/-- The next call shows the note that was deleted: it was pending, and the plan filters no attribute. -/
theorem next_existing_deleted : ∃ r x' c',
    deletedSession.call 0 textPlan firstCall.2.1.progress textPlan.emptyRows 1 1 = (r, x', c') ∧
      x'.rows.rows.map RowOf.key = ["{t::notes:2}"] ∧ deletedSession.context.server.value? "{t::notes:2}" = none ∧
      Pending firstCall.2.1.progress "{t::notes:2}" ∧ ∀ f ∈ textPlan.fetches, f.chain = [] := by
  obtain ⟨r, x', c', h1, -, h2⟩ := next_existing deletedSession_underWay 0 textPlan.emptyRows 1 1
  have hkeys : (deletedSession.call 0 textPlan firstCall.2.1.progress textPlan.emptyRows 1 1).2.1.rows.rows.map
      RowOf.key = ["{t::notes:2}"] := by decide +kernel
  have hgone : deletedSession.context.server.value? "{t::notes:2}" = none := by decide +kernel
  rw [h1] at hkeys
  obtain ⟨row, hrow, hkey⟩ : ∃ row ∈ x'.rows.rows, row.key = "{t::notes:2}" :=
    List.mem_map.1 (hkeys ▸ List.mem_singleton_self _)
  refine ⟨r, x', c', h1, hkeys, hgone, ?_⟩
  rcases h2 row hrow with h | h | h
  · cases h
  · rw [hkey, hgone] at h
    cases h
  · exact hkey ▸ h

end SlotSql.Session
