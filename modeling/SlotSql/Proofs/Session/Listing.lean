import SlotSql.Proofs.Pattern.Entry
import SlotSql.Proofs.Rows.Owned
import SlotSql.Proofs.Session.Typed
import SlotSql.Proofs.Simulation.Listing
/-!
# Tables that are listed

The tables that were defined and not dropped since are those with an entry in the store. They are listed by a scan for
entries, under a pattern with the name of the system tablespace in it as it is. If this name opens a class or takes an
octet its meaning away, the pattern matches none of the entries, and nothing is listed at all; otherwise all tables are.

Results:
* `execute_listed`, `Recorded.over`: what statements leave of the entries.
* `tables_listed`: what is listed.
-/
namespace SlotSql.Session

open Cluster Store Simulation Dialogue

variable {s s' : Session Simulation Link} {top : Nat} {topo : Topology} {d : Data} {st : Settings}
  {live : List TableName} {name : TableName} {e : Executed}

/-! ## Statements -/

/-- The tables that there are after a statement: a definition adds its table and a table that is dropped is taken
away, if they succeed. -/
def tracked (live : List TableName) : Statement → Except EngineError Executed → List TableName
  | .create d, .ok _ => d.table :: live
  | .drop name, .ok _ => live.filter (· ≠ name)
  | _, _ => live

theorem create_listed (now : Int) {d : TableDef} (hs : s.Over st (Listed st live)) :
    ((create now d).run s).2.Over st (Listed st (tracked live (.create d) ((create now d).run s).1)) := by
  obtain ⟨top, topo, data, hready, hd⟩ := hs.ready
  obtain ⟨-, -, -, hm⟩ := bounds hs.valid
  unfold create
  cases ht : d.toTable now with
  | error e => exact hs
  | ok t =>
    have hdefine : (ofExcept (.ok t) : SessionStep Simulation Link Table).run s = (.ok t, s) := rfl
    rw [step_bind_ok hdefine, step_bind_ok (step_get s), hs.settings]
    obtain ⟨c', h1, h2⟩ := outcome_serves (asks_create_slot st t d.ifNotExists) (fun _ _ h => h) hready.serves
    have hwork := work_run (Catalog.create st t d.ifNotExists) s
    rw [hs.settings] at h1 h2
    rcases create_cases hm hd.typed d.ifNotExists with ⟨e, hout⟩ | ⟨hvalid, hts, hout⟩
    · rw [hout] at h1 h2
      rw [h1] at hwork
      rw [step_bind_error hwork]
      exact hs.context ⟨data, ⟨top, h2⟩, hd⟩
    · have hlisted := hd.define hs.valid hvalid hts
      rw [TableDef.tableName_toTable ht] at hout hlisted
      rw [hout] at h1 h2
      rw [h1] at hwork
      rw [step_bind_ok hwork]
      exact hs.context ⟨_, ⟨top, h2⟩, hlisted⟩

theorem drop_listed (now : Int) (hs : s.Over st (Listed st live)) :
    ((drop now name).run s).2.Over st (Listed st (tracked live (.drop name) ((drop now name).run s).1)) := by
  obtain ⟨-, -, -, hm⟩ := bounds hs.valid
  rcases drop_rows now (listed_rows hs.valid name) hs with
    ⟨e, s', hrun, hs'⟩ | ⟨t, text, s', hvalid, rfl, hts, ⟨d₀, hd₀, hentry⟩, hs', hrun⟩
  · rw [hrun]
    exact hs'
  · have hout := hvalid.outside hts
    obtain ⟨topo, d, hc, hd⟩ := hs'.hosting
    obtain ⟨c', h1, h2⟩ := drop_outcome (by omega) hc st t.tableName
    -- The entry is still there when the rows are gone.
    rw [if_pos (hd.entry _ ((hd₀.mem_iff hout).2 hentry))] at h1
    have hwork := work_run (Catalog.drop st t.tableName) s'
    rw [h1] at hwork
    rw [hrun, step_bind_ok hwork]
    exact hs'.context ⟨_, h2, hd.drop hout⟩

/-- Every statement but a raw command leaves the entries of the tables that there are then. -/
theorem execute_listed (now : Int) {statement : Statement} (hs : s.Over st (Listed st live))
    (h : IsCommand statement = false) : ((execute now statement).run s).2.Over st
      (Listed st (tracked live statement ((execute now statement).run s).1)) := by
  cases statement with
  | delete del => exact delete_closed now (listed_rows hs.valid _) s hs
  | upsert u => exact upsert_closed now (listed_rows hs.valid _) s hs
  | create d => exact create_listed now hs
  | drop name => exact drop_listed now hs
  | command args => cases h
  | _ => exact reading_stays now rfl s hs

/-- A session that began with an empty store and has carried out statements since, whether or not they failed, but no
raw commands; and the tables that there are. -/
inductive Recorded : List TableName → Session Simulation Link → Prop
  | start {s : Session Simulation Link} {top : Nat} {topo : Topology} (hs : s.Ready top topo .empty) : Recorded [] s
  | execute {live : List TableName} {s : Session Simulation Link} (h : Recorded live s) (now : Int) {statement : Statement}
    (hst : IsCommand statement = false) : Recorded (tracked live statement ((execute now statement).run s).1)
      ((execute now statement).run s).2

theorem Recorded.over (h : Recorded live s) : s.Over s.settings (Listed s.settings live) := by
  have hany : ∃ st, s.Over st (Listed st live) := by
    induction h with
    | start hs => exact ⟨_, hs.over rfl listed_empty⟩
    | execute _ now hst ih =>
      obtain ⟨st, hs⟩ := ih
      exact ⟨st, execute_listed now hs hst⟩
  obtain ⟨st, hs⟩ := hany
  exact hs.settings ▸ hs

/-! ## Lists of names -/

/-- A result that lists names, a row each. -/
def nameList (title column : String) (names : List String) : Rows :=
  ⟨title, [⟨column, true⟩], names.map fun n => ⟨n, [some (.text n)]⟩⟩

/-- Names of which none is there twice make up a result. -/
theorem nameRows_eq (title column : String) {names : List String} (h : names.Nodup) :
    nameRows title column names = .ok (nameList title column names) := by
  have hfrom (before names : List String) (h : (before ++ names).Nodup) :
      names.foldlM (fun (r : Rows) n => r.add n [some (.text n)]) (nameList title column before) =
        .ok (nameList title column (before ++ names)) := by
    induction names generalizing before with
    | nil => rw [List.append_nil]; rfl
    | cons n names ih =>
      have hsplit : before ++ n :: names = before ++ [n] ++ names := by simp
      have hnew : (nameList title column before).keys.contains n = false := by
        have hn : n ∉ before := fun hm => (List.nodup_append.1 h).2.2 n hm n List.mem_cons_self rfl
        unfold nameList RowsOf.keys
        simpa using hn
      have hadd : (nameList title column before).add n [some (.text n)] = .ok (nameList title column (before ++ [n])) := by
        unfold RowsOf.add RowsOf.insert
        rw [if_neg (by simp only [hnew, Bool.false_eq_true, not_false_eq_true])]
        unfold nameList
        rw [List.map_append]
        rfl
      rw [List.foldlM_cons, hadd, hsplit]
      exact ih (before ++ [n]) (hsplit ▸ h)
  exact hfrom [] names h

/-! ## Listings -/

/-- These names, in order and each once. -/
def Lists (names : List String) (P : String → Prop) : Prop := names.Pairwise (· < ·) ∧ ∀ n, n ∈ names ↔ P n

theorem Lists.nodup {names : List String} {P : String → Prop} (h : Lists names P) : names.Nodup :=
  h.1.imp fun hlt => by
    rintro rfl
    exact String.lt_irrefl _ hlt

theorem lists_sorted {names : List String} {P : String → Prop} (h : ∀ n, n ∈ names ↔ P n) :
    Lists (Catalog.sorted names) P :=
  ⟨Catalog.sorted_pairwise names, fun n => Catalog.mem_sorted.trans (h n)⟩

/-- A ready session with room finds the tables whose entries match. -/
theorem tables_run (hs : s.Ready top topo d) (hroom : top + d.size ≤ Number.max64) (hd : Listed s.settings live d)
    (pattern : String) : ∃ (c' : Context Simulation Link) (found : List (String × String)),
      (∀ ts tb, (ts, tb) ∈ found ↔
        ⟨ts, tb⟩ ∈ live ∧ Glob.matchesKey pattern (Catalog.entryKey s.settings ⟨ts, tb⟩) = true) ∧
      outcome Context.world (Catalog.tables s.settings (s.env 0).patience (s.env 0).masters pattern) s.context =
        (.ok found, c') := by
  obtain ⟨hpos, -, -, hm⟩ := bounds hs.valid
  have hfits := hs.fits 0
  obtain ⟨c', h1, -⟩ := hs.serves.tables (by omega) hpos hs.range hroom (Nat.lt_of_succ_lt hfits.patience) pattern
  rw [← hfits.masters] at h1
  refine ⟨c', _, fun ts tb => hd.found_iff fun k => ?_, h1⟩
  rw [← hs.serves.topology]
  exact mem_scanOrder hs.serves.healthy

/-- It lists the tables of a tablespace. -/
theorem tablesOf_run (hs : s.Ready top topo d) (hroom : top + d.size ≤ Number.max64) (hd : Listed s.settings live d)
    (tablespace : String) : ∃ names s',
      Lists names (fun n => Glob.Faithful s.settings.systemPrefix ∧ ⟨tablespace, n⟩ ∈ live) ∧
      (work (Catalog.tablesOf s.settings (s.env 0).patience (s.env 0).masters tablespace)).run s = (.ok names, s') := by
  obtain ⟨c', found, hfound, hout⟩ := tables_run hs hroom hd
    (Key.systemPattern s.settings.systemPrefix (some (Glob.escape tablespace)))
  have hmatch {n : String} (hlive : ⟨tablespace, n⟩ ∈ live) := Glob.matchesKey_system_tablespace hs.valid.notMem_prefix
    (hs.valid.notMem_structural (by decide)) (hd.outside _ hlive).tablespace n
  have hrun : (work (Catalog.tablesOf s.settings (s.env 0).patience (s.env 0).masters tablespace)).run s =
      (.ok (Catalog.sorted ((found.filter fun t => t.1 = tablespace).map Prod.snd)), { s with context := c' }) := by
    rw [work_run]
    unfold Catalog.tablesOf
    rw [outcome_bind_ok hout]
    rfl
  refine ⟨_, _, lists_sorted fun n => ?_, hrun⟩
  rw [List.mem_map]
  constructor
  · rintro ⟨⟨ts, tb⟩, hmem, rfl⟩
    obtain ⟨hin, hts⟩ := List.mem_filter.1 hmem
    obtain rfl : ts = tablespace := of_decide_eq_true hts
    obtain ⟨hlive, hm⟩ := (hfound ts tb).1 hin
    exact ⟨(hmatch hlive).1 hm, hlive⟩
  · rintro ⟨hfaithful, hlive⟩
    exact ⟨(tablespace, n), List.mem_filter.2 ⟨(hfound _ _).2 ⟨hlive, (hmatch hlive).2 hfaithful⟩,
      decide_eq_true rfl⟩, rfl⟩

/-- And the tablespaces. -/
theorem databases_run (hs : s.Ready top topo d) (hroom : top + d.size ≤ Number.max64) (hd : Listed s.settings live d) :
    ∃ names s', Lists names (fun n => Glob.Faithful s.settings.systemPrefix ∧ ∃ table, ⟨n, table⟩ ∈ live) ∧
      (work (Catalog.databases s.settings (s.env 0).patience (s.env 0).masters)).run s = (.ok names, s') := by
  obtain ⟨c', found, hfound, hout⟩ := tables_run hs hroom hd (Key.systemPattern s.settings.systemPrefix none)
  have hmatch := Glob.matchesKey_system hs.valid.notMem_prefix (hs.valid.notMem_structural (by decide))
  have hrun : (work (Catalog.databases s.settings (s.env 0).patience (s.env 0).masters)).run s =
      (.ok (Catalog.sorted ((found.map Prod.fst).filter (· ≠ s.settings.systemPrefix))), { s with context := c' }) := by
    rw [work_run]
    unfold Catalog.databases
    rw [outcome_bind_ok hout]
    rfl
  refine ⟨_, _, lists_sorted fun n => ?_, hrun⟩
  rw [List.mem_filter, List.mem_map]
  constructor
  · rintro ⟨⟨⟨ts, tb⟩, hmem, rfl⟩, -⟩
    obtain ⟨hlive, hm⟩ := (hfound ts tb).1 hmem
    exact ⟨(hmatch ts tb).1 hm, tb, hlive⟩
  · rintro ⟨hfaithful, table, hlive⟩
    exact ⟨⟨(n, table), (hfound n table).2 ⟨hlive, (hmatch n table).2 hfaithful⟩, rfl⟩,
      decide_eq_true (hd.outside _ hlive).outside⟩

/-- **What is listed.** After any statements but raw commands on an empty store, the tables of a tablespace that are
listed are those that were defined there and not dropped since, and the tablespaces that are listed are those with such
a table, in order and each once, if the name of the system tablespace holds no opening bracket and no backslash. If it
holds one, nothing is ever listed. The nodes must have cursors left for a page for every key. -/
theorem tables_listed (h : Recorded live s) (hroom : s.HasRoom) (now : Int) :
    (∀ tablespace, ∃ names s',
      Lists names (fun n => Glob.Faithful s.settings.systemPrefix ∧ ⟨tablespace, n⟩ ∈ live) ∧
      (work (Catalog.tablesOf s.settings (s.env now).patience (s.env now).masters tablespace)).run s = (.ok names, s') ∧
      (execute now (.showTables tablespace)).run s =
        (.ok { result := .rows (nameList ("tables in " ++ tablespace) "table" names) }, s')) ∧
    ∃ names s',
      Lists names (fun n => Glob.Faithful s.settings.systemPrefix ∧ ∃ table, ⟨n, table⟩ ∈ live) ∧
      (work (Catalog.databases s.settings (s.env now).patience (s.env now).masters)).run s = (.ok names, s') ∧
      (execute now .showDatabases).run s = (.ok { result := .rows (nameList "databases" "database" names) }, s') := by
  obtain ⟨_, topo, d, hready, hd⟩ := h.over.ready
  obtain ⟨top, hready, htop⟩ := hready.of_room hroom
  have hshown (title column : String) {names : List String} {P : String → Prop} (hnames : Lists names P)
      (s' : Session Simulation Link) : (do
        return { result := .rows (← ofExcept (nameRows title column names)) } :
          SessionStep Simulation Link Executed).run s' = (.ok { result := .rows (nameList title column names) }, s') := by
    rw [nameRows_eq title column hnames.nodup]
    rfl
  constructor
  · intro tablespace
    obtain ⟨names, s', hnames, hwork⟩ := tablesOf_run hready htop hd tablespace
    refine ⟨names, s', hnames, hwork, ?_⟩
    show (showTables tablespace).run s = _
    unfold showTables
    rw [step_bind_ok (step_get s)]
    exact (step_bind_ok hwork).trans (hshown _ _ hnames s')
  · obtain ⟨names, s', hnames, hwork⟩ := databases_run hready htop hd
    refine ⟨names, s', hnames, hwork, ?_⟩
    show showDatabases.run s = _
    unfold showDatabases
    rw [step_bind_ok (step_get s)]
    exact (step_bind_ok hwork).trans (hshown _ _ hnames s')

/-- A definition that succeeds is recorded. -/
theorem recorded_create (h : Recorded live s) {now : Int} {d : TableDef}
    (hok : ((execute now (.create d)).run s).1.isOk = true) :
    Recorded (d.table :: live) ((execute now (.create d)).run s).2 := by
  obtain ⟨e, hrun⟩ := run_of_isOk _ _ hok
  have hnext := h.execute now (show IsCommand (.create d) = false from rfl)
  rw [hrun] at hnext ⊢
  exact hnext

/-- The session whose system tablespace has a bracket in its name, on an empty store. -/
def bracketSession : Session Simulation Link :=
  { settings := { noteSettings with systemPrefix := "a[b" }, context := plainContext noteSettings.maxArgs .empty }

theorem bracketSession_ready : bracketSession.Ready 1 plainTopology .empty :=
  ⟨by decide +kernel, by decide, serves_plain _ _⟩

/-- The notes are listed where they were defined, but not if the name of the system tablespace opens a class. -/
theorem tables_listed_notes :
    (∃ s', Recorded [noteTable.tableName] definedSession ∧ (execute 0 (.showTables "t")).run definedSession =
      (.ok { result := .rows (nameList "tables in t" "table" ["notes"]) }, s')) ∧
    ∃ s s', Recorded [noteTable.tableName] s ∧ s.settings.systemPrefix = "a[b" ∧
      (execute 0 (.showTables "t")).run s = (.ok { result := .rows (nameList "tables in t" "table" []) }, s') := by
  have hnames {names names' : List String} {P : String → Prop} (h : Lists names P) (h' : Lists names' P) : names = names' :=
    keys_unique h.1 h'.1 fun n => (h.2 n).trans (h'.2 n).symm
  have hdefined : ((execute 0 (.create noteDef)).run (noteSession .empty)).1.isOk = true ∧ definedSession.HasRoom ∧
      definedSession.settings.systemPrefix = "kvsql.sys" := by
    unfold HasRoom
    decide +kernel
  have hbracket : ((execute 0 (.create noteDef)).run bracketSession).1.isOk = true ∧
      ((execute 0 (.create noteDef)).run bracketSession).2.HasRoom ∧
      ((execute 0 (.create noteDef)).run bracketSession).2.settings.systemPrefix = "a[b" := by
    unfold HasRoom
    decide +kernel
  have h₁ : Recorded [noteTable.tableName] definedSession := recorded_create (.start (noteSession_ready .empty)) hdefined.1
  have h₂ : Recorded [noteTable.tableName] _ := recorded_create (.start bracketSession_ready) hbracket.1
  obtain ⟨names, s₁, hlists, -, hrun⟩ := (tables_listed h₁ hdefined.2.1 0).1 "t"
  obtain ⟨names', s₂, hlists', -, hrun'⟩ := (tables_listed h₂ hbracket.2.1 0).1 "t"
  rw [hdefined.2.2] at hlists
  rw [hbracket.2.2] at hlists'
  obtain rfl : names = ["notes"] := hnames hlists ⟨List.pairwise_singleton _ _, fun n => by
    have hfaithful : Glob.Faithful "kvsql.sys" := by decide
    simp [hfaithful, noteTable, Table.tableName]⟩
  obtain rfl : names' = [] := hnames hlists' ⟨.nil, fun n => by
    have hopen : ¬ Glob.Faithful "a[b" := by decide
    simp [hopen]⟩
  exact ⟨⟨s₁, h₁, hrun⟩, _, s₂, h₂, hbracket.2.2, hrun'⟩

end SlotSql.Session
