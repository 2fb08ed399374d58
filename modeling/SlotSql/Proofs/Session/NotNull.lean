import SlotSql.Proofs.Rows.Present
import SlotSql.Proofs.Rows.Shown
import SlotSql.Proofs.Session.Definition
import SlotSql.Proofs.Session.Selection
import SlotSql.Proofs.Session.Typed
/-!
# Columns that are never null

Before a table is defined, no key of it is in the store. From then on every row has a value in a column that cannot be
absent: statements that write rows leave one, and all others leave rows of the table as they are or remove them whole.
Sets are the exception: a set without members is no value, and the text of a set may list none, so a statement that
drains the set of a row leaves the column without one.

Results:
* `Undefined.over`: before a table is defined, no key of it is in the store.
* `upsert_filled`, `create_filled`: what one statement leaves.
* `Populated.over`: what sequences of statements leave.
* `select_not_null`: a query never shows a null in such a column.
-/
namespace SlotSql

open Cluster Store Simulation Dialogue Session

variable {st : Settings} {t : Table} {f : Field} {d d' : Data} {name other : TableName}

/-- A store of a session without a key of the table of a name. -/
structure Absent (st : Settings) (name : TableName) (d : Data) : Prop where
  typed : Typed st d
  none : name.Outside st → ∀ key, Owned st name key → d.get? key = none

theorem Absent.tableIn_ne (h : Absent st name d) (hm : 6 ≤ st.maxArgs) : tableIn st d name ≠ .ok t := by
  intro ht
  obtain ⟨hvalid, rfl⟩ := valid_of_tableIn ht
  have hentry := contains_entry hm ht
  rw [KeyMap.contains, h.none (hvalid.outside (h.typed.outside hm ht)) _ .entry] at hentry
  cases hentry

/-- Statements on other tables put no key of the table into such a store. -/
theorem absent_closed (hst : st.Valid) (hne : other ≠ name) : Closed st other (Absent st name) where
  typed _ h := h.typed
  step d d' h hd := by
    obtain ⟨hother, hframe⟩ := hd.frame
    exact ⟨hd.typed hst h.typed, fun hout key hkey =>
      (hframe key fun hkey' => hne (hkey'.apart hst hother hout hkey)).trans (h.none hout key hkey)⟩

/-- A table that is defined on such a store has no rows. -/
theorem Absent.define {m : Nat} (hst : st.Valid) (hm : 6 ≤ st.maxArgs) (h : Absent st t.tableName d) {u : Table}
    {ifNotExists : Bool}
    (hrun : outcome (Store.world m) (Catalog.create st u ifNotExists) d = (.ok (), d'))
    (ht : tableIn st d' t.tableName = .ok t) (f : Field) : Filled st t f d' := by
  have htyped : Typed st d' := by
    have hkept := (typed_closed hst u.tableName).create m ifNotExists h.typed
    rwa [hrun] at hkept
  have hvalid := (valid_of_tableIn ht).1
  have hts := htyped.outside hm ht
  obtain ⟨-, -, -, rfl⟩ := yields_create st u ifNotExists d _ d' trivial hrun
  refine ⟨htyped, ht, fun _ key hp hc => ?_⟩
  have hne : key ≠ Catalog.entryKey st u.tableName := fun he =>
    entryKey_notMem hst hvalid hts hp (List.mem_cons.2 (.inl he.symm))
  have hnone := h.none (hvalid.outside hts) key (.footprint hvalid hp List.mem_cons_self)
  have hget := hc.resolve_left List.not_mem_nil
  rw [KeyMap.contains, hset_outside hne, hnone] at hget
  cases hget

namespace Session

variable {s s' : Session Simulation Link} {e : Executed} {now : Int}

/-! ## Before a table is defined -/

/-- A session that began with an empty store and has carried out statements since, none of which defines the table of a
name, and no raw commands. -/
inductive Undefined (name : TableName) : Session Simulation Link → Prop
  | start {s : Session Simulation Link} {top : Nat} {topo : Topology} (hs : s.Ready top topo .empty) : Undefined name s
  | execute {s : Session Simulation Link} (h : Undefined name s) (now : Int) {statement : Statement}
    (hst : IsCommand statement = false) (hdef : ∀ def', statement = .create def' → def'.table ≠ name) :
    Undefined name ((execute now statement).run s).2

/-- A statement that does not define a table puts no key of it into a store that has none. -/
theorem execute_absent (now : Int) {statement : Statement} (hst : IsCommand statement = false)
    (hdef : ∀ def', statement = .create def' → def'.table ≠ name) : Stays st (Absent st name) (execute now statement) := by
  by_cases hname : tableOf statement = some name
  · intro s hs
    obtain ⟨top, topo, d, hready, hd⟩ := hs.ready
    obtain ⟨-, -, -, hm⟩ := bounds hs.valid
    have hno (t : Table) : tableIn s.settings d name ≠ .ok t := hs.settings ▸ hd.tableIn_ne (by omega)
    cases statement with
    | delete del =>
      cases hname
      exact (delete_leads now hready hd fun t ht => absurd ht (hno t)).over hs.settings
    | upsert u =>
      cases hname
      exact (upsert_leads now hready hd fun t pu v c ht => absurd ht (hno t)).over hs.settings
    | create def' =>
      cases hname
      exact absurd rfl (hdef def' rfl)
    | drop n =>
      cases hname
      obtain ⟨s₁, h1, h2, h3⟩ := table_run hready name
      show ((drop now name).run s).2.Over st (Absent st name)
      unfold drop
      cases ht : tableIn s.settings d name with
      | error e =>
        rw [ht] at h1
        rw [step_bind_error h1]
        exact h2.over (h3.trans hs.settings) hd
      | ok t => exact absurd ht (hno t)
    | command args => cases hst
    | _ => exact reading_stays now rfl s hs
  · intro s hs
    refine execute_closed now hst (fun other ho => ?_) s hs
    have hne : other ≠ name := fun he => hname (he ▸ ho)
    exact absent_closed hs.valid hne

/-- Before a table is defined, no key of it is in the store. -/
theorem Undefined.over (h : Undefined name s) : s.Over s.settings (Absent s.settings name) := by
  have hany : ∃ st, s.Over st (Absent st name) := by
    induction h with
    | start hs => exact ⟨_, hs.over rfl ⟨typed_empty, fun _ _ _ => rfl⟩⟩
    | execute _ now hst hdef ih =>
      obtain ⟨st, hs⟩ := ih
      exact ⟨st, execute_absent now hst hdef _ hs⟩
  obtain ⟨st, hs⟩ := hany
  exact hs.settings ▸ hs

/-! ## After that -/

/-- A definition that succeeds leaves a table without rows. -/
theorem create_filled (hs : s.Over st (Absent st t.tableName)) {def' : TableDef} (hdef : def'.table = t.tableName)
    (hrun : (execute now (.create def')).run s = (.ok e, s')) (ht : ((table def'.table).run s').1 = .ok t) (f : Field) :
    s'.Over st (Filled st t f) := by
  obtain ⟨top, topo, d, hready, hd⟩ := hs.ready
  obtain ⟨-, -, -, hm⟩ := bounds hs.valid
  obtain ⟨u, d', -, hout, hready', hsettings⟩ := create_ok hready hrun
  obtain ⟨_, htable, -, -⟩ := table_run hready' def'.table
  rw [htable, hsettings, hs.settings, hdef] at ht
  rw [hs.settings] at hout
  exact hready'.over (hsettings.trans hs.settings)
    (hd.define hs.valid (by omega) hout ht f)

/-- A statement that writes rows leaves each of them with a value, if it succeeds and does not drain the column. -/
theorem upsert_filled (hs : s.Over st (Filled st t f)) (hf : f ∈ t.fields) (hn : f.nullable = false) {u : Upsertion}
    (hu : u.table = t.tableName) (hrun : (execute now (.upsert u)).run s = (.ok e, s'))
    (hno : ∀ d, (∀ key, s.context.server.value? key = d.get? key) → ∀ pu, u.prepare t now = .ok pu →
      ¬ Upsertion.Drains pu t f d) : s'.Over st (Filled st t f) := by
  obtain ⟨top, topo, d, hready, hd⟩ := hs.ready
  obtain ⟨-, -, -, hm⟩ := bounds hs.valid
  obtain ⟨t', pu, v, c, o, c', htable, hprep, hscans, hhosts, hout, -, hsettings, rfl⟩ := upsert_ok hready hrun
  rw [hs.settings] at htable hscans hhosts hsettings
  rw [hu, hd.table] at htable
  cases htable
  exact ⟨hs.valid, hs.range, hsettings, topo, Upsertion.hosting_execute hs.valid (by omega) hd hf hn hprep
    (hno d hready.serves.holds pu hprep) hscans hhosts hout⟩

/-- Deletions, statements that read and statements on other tables leave the rows that stay as they are. -/
theorem other_filled (hf : f ∈ t.fields) (now : Int) {statement : Statement} (hst : IsCommand statement = false)
    (hother : tableOf statement = some t.tableName → IsReading statement = true ∨ ∃ del, statement = .delete del) :
    Stays st (Filled st t f) (execute now statement) := by
  intro s hs
  obtain ⟨-, -, -, hm⟩ := bounds hs.valid
  by_cases hname : tableOf statement = some t.tableName
  · rcases hother hname with hread | ⟨del, rfl⟩
    · exact reading_stays now hread s hs
    · obtain ⟨top, topo, d, hready, hd⟩ := hs.ready
      refine (delete_leads now hready hd fun t' ht => ?_).over hs.settings
      rw [hs.settings, Option.some.inj hname, hd.table] at ht
      cases ht
      exact filled_deletion hs.valid (by omega) hf
  · refine execute_closed now hst (fun other ho => ?_) s hs
    have hne : other ≠ t.tableName := fun he => hname (he ▸ ho)
    exact filled_closed hs.valid (by omega) hf hne

/-- A session that has defined a table once and has carried out statements since, no raw commands. Those that write rows
of the table have succeeded, and none has drained a column; the table has been neither defined again nor dropped. -/
inductive Populated (t : Table) (f : Field) : Session Simulation Link → Prop
  | define {s s' : Session Simulation Link} {now : Int} {def' : TableDef} {e : Executed} (h : Undefined t.tableName s)
    (hdef : def'.table = t.tableName) (hrun : (execute now (.create def')).run s = (.ok e, s'))
    (ht : ((table def'.table).run s').1 = .ok t) : Populated t f s'
  | upsert {s s' : Session Simulation Link} {now : Int} {u : Upsertion} {e : Executed} (h : Populated t f s)
    (hu : u.table = t.tableName) (hrun : (execute now (.upsert u)).run s = (.ok e, s'))
    (hno : ∀ d, (∀ key, s.context.server.value? key = d.get? key) → ∀ pu, u.prepare t now = .ok pu →
      ¬ Upsertion.Drains pu t f d) : Populated t f s'
  | other {s : Session Simulation Link} (h : Populated t f s) (now : Int) {statement : Statement}
    (hst : IsCommand statement = false)
    (hother : tableOf statement = some t.tableName → IsReading statement = true ∨ ∃ del, statement = .delete del) :
    Populated t f ((execute now statement).run s).2

/-- Every row has a value in a column that cannot be absent. -/
theorem Populated.over (h : Populated t f s) (hf : f ∈ t.fields) (hn : f.nullable = false) :
    s.Over s.settings (Filled s.settings t f) := by
  have hany : ∃ st, s.Over st (Filled st t f) := by
    induction h with
    | define h hdef hrun ht => exact ⟨_, create_filled h.over hdef hrun ht f⟩
    | upsert _ hu hrun hno ih =>
      obtain ⟨st, hs⟩ := ih
      exact ⟨st, upsert_filled hs hf hn hu hrun hno⟩
    | other _ now hst hother ih =>
      obtain ⟨st, hs⟩ := ih
      exact ⟨st, other_filled hf now hst hother _ hs⟩
  obtain ⟨st, hs⟩ := hany
  exact hs.settings ▸ hs

/-! ## Queries -/

/-- A call is not written as a name. -/
theorem call_ne_field {st : Settings} (ht : t.Valid st) (hf : f ∈ t.fields) (c : Call) : c.text ≠ f.name := by
  intro he
  refine Table.notMem_name (ht.field hf).1 (show Token.isNameChar '(' = false by decide) ?_
  rw [← he, Call.text]
  simp

/-- The columns of a result that are called like a column of the table are this column, or the number of rows. -/
theorem cells_present {m top : Nat} {topo : Topology} {p : Plan} {items : List SelectItem} {cs : List Condition}
    {ctx : Context Simulation Link} (hm : 2 ≤ m) (hd : Filled st t f d) (hf : f ∈ t.fields) (ht : t.Valid st)
    (hp : Plan.build st t cs items = .ok p) (hc : p.countOnly = false) (hserves : Serves m top topo d ctx) {y : Candidate}
    (hy : y ∈ accepted m topo d p) {row : Row} (hrow : p.row? now p.emptyRows.width y = some row) {i : Nat} {header : Header}
    (hheader : (p.outputs.map Output.header)[i]? = some header) (hname : header.name = f.name) :
    ∃ x, row.cells[i]? = some (some x) := by
  obtain ⟨fs, hfor⟩ := Plan.for_of_build ht hp
  obtain ⟨hcontains, hparts, hlength, hread⟩ := read_of_accepted ht hfor hm hserves hd.typed hy
  have hcells := Plan.row?_cells hrow
  rw [List.getElem?_map] at hheader
  obtain ⟨o, ho, rfl⟩ := Option.map_eq_some_iff.1 hheader
  obtain ⟨hi, rfl⟩ := List.getElem?_eq_some_iff.1 ho
  have hi' : i < row.cells.length := hcells.length_eq ▸ hi
  have hcell := hcells.get hi hi'
  have hsourced := Plan.build_sourced ht hp hc _ (List.getElem_mem hi)
  rw [List.getElem?_eq_getElem hi']
  simp only [List.get_eq_getElem] at hcell
  cases hout : p.outputs[i] with
  | field g source =>
    rw [hout] at hsourced hname hcell
    have hg : g ∈ t.fields := by
      cases source with
      | key j => exact (Table.mem_keyFields.1 (List.mem_of_getElem? hsourced)).1
      | fetch j =>
        obtain ⟨h, hh, rfl⟩ := List.mem_map.1 (List.mem_of_getElem? hsourced)
        exact (hfor.covers.fetched h (hfor.fetches ▸ hh)).1
    obtain rfl : g = f := ht.eq_of_name hg hf hname
    have hpresent : g.isKey = false → fetchedOf d y.key g ≠ .missing := fun hattr =>
      fetchedOf_ne_missing (hd.has hattr hparts hcontains)
    obtain ⟨x, hx⟩ := cell_present ht hlength hg hpresent
    rw [cell_eq ht hfor hsourced hlength hread, hx] at hcell
    exact ⟨x, congrArg some (Except.ok.inj hcell).symm⟩
  | call c source =>
    rw [hout] at hname
    exact absurd hname (call_ne_field ht hf c)
  | count =>
    rw [hout] at hsourced
    exact hsourced.elim

/-- The columns of a query on the pseudo table are calls. -/
theorem dualRows_columns {q : Query} {r : Rows} (h : dualRows now q = .ok r) :
    ∃ calls : List Call, r.columns = calls.map fun c => ⟨c.text, false⟩ := by
  unfold dualRows at h
  obtain ⟨calls, -, h⟩ := except_bind_eq_ok.1 h
  obtain ⟨cells, -, h⟩ := except_bind_eq_ok.1 h
  unfold RowsOf.add RowsOf.insert at h
  split at h
  · cases h
  · cases h
    exact ⟨calls, rfl⟩

/-- A query that succeeds has a plan, unless it is one on the pseudo table. -/
theorem plan_of_select {top : Nat} {topo : Topology} (hs : s.Ready top topo d) {q : Query}
    (ht : tableIn s.settings d q.table = .ok t) (hrun : (select now q).run s = (.ok e, s')) :
    ∃ p, Plan.ofQuery s.settings t q = .ok p := by
  obtain ⟨s₁, h1, -, h2⟩ := table_run hs q.table
  rw [ht] at h1
  unfold select at hrun
  rw [step_bind_ok h1, step_bind_ok (step_get s₁), h2] at hrun
  cases hp : Plan.ofQuery s.settings t q with
  | ok p => exact ⟨p, rfl⟩
  | error err =>
    rw [hp] at hrun
    cases hrun

/-- A query over such a store shows a value in the column, in every row. -/
theorem select_present (hs : s.Over st (Filled st t f)) (hroom : s.HasRoom) (hf : f ∈ t.fields) {q : Query}
    (hq : q.table = t.tableName) (hrun : (execute now (.select q)).run s = (.ok e, s')) {r : Rows}
    (hr : e.result = .rows r) {row : Row} (hrow : row ∈ r.rows) {i : Nat} {header : Header}
    (hheader : r.columns[i]? = some header) (hname : header.name = f.name) : ∃ x, row.cells[i]? = some (some x) := by
  obtain ⟨_, topo, d, hready, hd⟩ := hs.ready
  obtain ⟨-, -, -, hm⟩ := bounds hs.valid
  obtain ⟨top, hready, hroom⟩ := hready.of_room hroom
  have ht := (hd.live (by omega)).valid
  cases hdual : q.table.isDual with
  | true =>
    have hexec : (execute now (.select q) : SessionStep Simulation Link Executed) =
        if q.table.isDual = true then do return { result := .rows (← ofExcept (dualRows now q)) } else select now q := rfl
    rw [hexec, if_pos hdual] at hrun
    cases hrows : dualRows now q with
    | error err =>
      rw [hrows] at hrun
      cases hrun
    | ok rows =>
      rw [hrows] at hrun
      cases hrun
      cases hr
      obtain ⟨calls, hcalls⟩ := dualRows_columns hrows
      rw [hcalls, List.getElem?_map] at hheader
      obtain ⟨c, -, rfl⟩ := Option.map_eq_some_iff.1 hheader
      exact absurd hname (call_ne_field ht hf c)
  | false =>
    rw [execute_select now hdual] at hrun
    have htable : tableIn s.settings d q.table = .ok t := by
      rw [hq, hs.settings]
      exact hd.table
    obtain ⟨p, hp⟩ := plan_of_select hready htable hrun
    cases hc : p.countOnly with
    | true =>
      have houtputs := Plan.build_counts hp hc
      obtain ⟨_, _, h1, -, h2⟩ := count_run now hready hroom htable hp hc houtputs
      rw [h1] at hrun
      cases hrun
      cases hr.symm.trans (h2 e rfl)
      simp only [Plan.emptyRows, houtputs] at hheader
      obtain rfl := List.mem_singleton.1 hrow
      cases i with
      | zero => exact ⟨_, rfl⟩
      | succ i => cases hheader
    | false =>
      obtain ⟨_, _, h1, -, -, -, h2⟩ := select_run now hready hroom htable hp hc
      rw [h1] at hrun
      cases hrun
      cases hr.symm.trans (h2 e rfl)
      obtain ⟨y, hy, hshown⟩ := List.mem_filterMap.1 (List.mem_of_mem_take hrow)
      have hwords : 2 ≤ s.settings.maxArgs := by
        rw [hs.settings]
        omega
      exact cells_present hwords hd hf ht (hs.settings ▸ hp) hc hready.serves (List.mem_of_mem_drop hy) hshown hheader
        hname

/-- **A column that cannot be absent is never null.** After a table has been defined once, and rows of it have been written
and deleted by any sequence of statements of which those that write rows have succeeded, a query on the table shows no null
in a column that cannot be absent. If the column is a set, no statement may have drained it: neither have left a row with a
set that lists no member, nor have taken the last members from one. -/
theorem select_not_null (h : Populated t f s) (hf : f ∈ t.fields) (hn : f.nullable = false) (hroom : s.HasRoom) {q : Query}
    (hq : q.table = t.tableName) (hrun : (execute now (.select q)).run s = (.ok e, s')) {r : Rows}
    (hr : e.result = .rows r) : ∀ row ∈ r.rows, ∀ (i : Nat) (header : Header), r.columns[i]? = some header →
      header.name = f.name → ∃ x, row.cells[i]? = some (some x) :=
  fun _ hrow _ _ hheader hname => select_present (h.over hf hn) hroom hf hq hrun hr hrow hheader hname

/-! ## Pages with tags -/

/-- Pages that have tags. -/
def pageDef : TableDef where
  table := ⟨"t", "pages"⟩
  ifNotExists := false
  columns := [⟨"sid", .ub4, none, none, false, none⟩, ⟨"tags", .set, none, none, true, none⟩]
  rowKey := ["sid"]
  comment := none

/-- The tags of a page. -/
def pageTags : Field := pageDef.field ⟨"tags", .set, none, none, true, none⟩

/-- The table of the pages. -/
def pageTable : Table := ⟨"t", "pages", pageDef.columns.map pageDef.field, 0, ""⟩

/-- The statement that writes a page with a tag. -/
def firstPage : Upsertion where
  table := pageTable.tableName
  columns := ["sid", "tags"]
  source := .values [.literal ⟨"1", false⟩, .literal ⟨"new", true⟩]
  onDuplicate := .overwrite

/-- All pages with their tags. -/
def pageQuery : Query := ⟨[.column "sid", .column "tags"], pageTable.tableName, ⟨[], none, none⟩⟩

/-- The session that has defined the pages, and the one that has written the first page as well. -/
def pagesDefined : Session Simulation Link := ((execute 0 (.create pageDef)).run (noteSession .empty)).2

def pageWritten : Session Simulation Link := ((execute 0 (.upsert firstPage)).run pagesDefined).2

theorem pageWritten_populated : Populated pageTable pageTags pageWritten := by
  obtain ⟨_, hcreate⟩ := run_of_isOk (execute 0 (.create pageDef)) (noteSession .empty) (by decide +kernel)
  obtain ⟨_, hupsert⟩ := run_of_isOk (execute 0 (.upsert firstPage)) pagesDefined (by decide +kernel)
  have hdefined : Populated pageTable pageTags pagesDefined :=
    .define (.start (noteSession_ready .empty)) rfl hcreate (by decide +kernel)
  refine hdefined.upsert rfl hupsert fun d _ pu hpu hdrains => ?_
  have hvalues : (firstPage.prepare pageTable 0).map (fun u => (u.values.map Prod.snd, u.mode)) =
      .ok (["1", "new"], .overwrite) := by decide +kernel
  rw [hpu] at hvalues
  obtain ⟨hvalues, hmode⟩ := Prod.mk.inj (Except.ok.inj hvalues)
  cases hdrains with
  | @written key x _ _ _ hx hnone =>
    have hx := List.mem_map_of_mem (f := Prod.snd) hx
    rw [hvalues] at hx
    have hlisted : ∀ y ∈ ["1", "new"], setMembers y ≠ [] := by decide +kernel
    exact hnone (List.exists_mem_of_ne_nil _ (hlisted x hx))
  | assigned _ hm => cases hm.symm.trans hmode

/-- The names of the columns of a result, if it has columns. -/
def shownColumns : Except EngineError Executed → Option (List String)
  | .ok ⟨.rows r, _⟩ => some (r.columns.map Header.name)
  | _ => none

/-- The query shows two columns, and the nodes have cursors left for its scan. The facts stand together because most of
them need the session with the page. -/
theorem pageQuery_run : pageTags ∈ pageTable.fields ∧ pageTags.nullable = false ∧ pageWritten.HasRoom ∧
    ((execute 0 (.select pageQuery)).run pageWritten).1.isOk = true ∧
    shownColumns ((execute 0 (.select pageQuery)).run pageWritten).1 = some ["sid", "tags"] := by
  unfold HasRoom
  decide +kernel

/-- The page is shown with its tag. -/
theorem select_not_null_page : ∃ e s' r, (execute 0 (.select pageQuery)).run pageWritten = (.ok e, s') ∧
    e.result = .rows r ∧ r.columns.map Header.name = ["sid", "tags"] ∧
      ∀ row ∈ r.rows, ∃ x, row.cells[1]? = some (some x) := by
  obtain ⟨hfield, hpresent, hroom, hok, hcolumns⟩ := pageQuery_run
  obtain ⟨e, hrun⟩ := run_of_isOk (execute 0 (.select pageQuery)) pageWritten hok
  rw [hrun] at hcolumns
  obtain ⟨result, notes⟩ := e
  cases result with
  | rows r =>
    have hnames : r.columns.map Header.name = ["sid", "tags"] := Option.some.inj hcolumns
    refine ⟨_, _, r, hrun, rfl, hnames, fun row hrow => ?_⟩
    have hheader := congrArg (·[1]?) hnames
    rw [List.getElem?_map] at hheader
    obtain ⟨header, hheader, hname⟩ := Option.map_eq_some_iff.1 hheader
    exact select_not_null pageWritten_populated hfield hpresent hroom rfl hrun rfl row hrow 1 header hheader hname
  | _ => cases hcolumns

end Session
end SlotSql
