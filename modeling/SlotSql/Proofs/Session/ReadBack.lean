import SlotSql.Proofs.Rows.Overwritten
import SlotSql.Proofs.Rows.Shown
import SlotSql.Proofs.Session.Selection
import SlotSql.Proofs.Session.Typed
/-!
# Rows that are written and read back

A statement with a full key leaves just what it names in the row, and a query for all columns of the row shows it. Texts
and integers come back as they were stored; a double comes back as the number that its text writes, and a blob as its
octets.

Results:
* `select_row`: a query for all columns of one row, whatever lies in it.
* `upsert_read_back`: what a statement leaves of its row, and what such a query shows of it afterwards.
* `blob_read_back`: a blob is not shown as the text that was stored.
-/
namespace SlotSql.Session

open Cluster Store Simulation Dialogue

variable {s s' : Session Simulation Link} {top : Nat} {topo : Topology} {d : Data} {t : Table} {q : Query}
  {parts : List String} {e : Executed} {now : Int} {key : String}

/-! ## Queries for one row -/

/-- A query for all columns of a row by the parts of its key. -/
structure AsksForRow (t : Table) (parts : List String) (q : Query) : Prop where
  table : q.table = t.tableName
  items : q.items = [.all]
  conditions : Plan.AsksFor t parts q.selection.conditions
  offset : q.selection.offset.getD 0 = 0

/-- A query for all columns of a row that is there has one row, which shows what lies in it. -/
theorem select_row (now : Int) (hs : s.Ready top topo d) (hroom : top + d.size ≤ Number.max64)
    (hd : Typed s.settings d) (htable : tableIn s.settings d t.tableName = .ok t) (hq : AsksForRow t parts q)
    (hparts : t.keyFields.Forall₂ (fun f x => ∃ v, f.normalize v = .ok x) parts)
    (hp : t.parts? (t.rowKey parts) = some parts) (hc : d.contains (t.rowKey parts) = true)
    (hm : 2 + (t.fields.filter Field.isPlain).length ≤ s.settings.maxArgs) : ∃ e s',
    (select now q).run s = (.ok e, s') ∧ e.result = .rows ⟨t.fullName, t.fields.map fun f => ⟨f.name, f.isKey⟩,
      [⟨t.rowKey parts, t.fields.map (t.cell d (t.rowKey parts) parts)⟩]⟩ := by
  obtain ⟨ht, -⟩ := valid_of_tableIn htable
  obtain ⟨p, hbuild, hshows⟩ := Plan.build_row ht hparts hq.conditions
  obtain ⟨fs, hf⟩ := Plan.for_of_build ht hbuild
  obtain ⟨hsees, haccepted⟩ : (∃ y, lookupIn (answers s.settings.maxArgs d) p (t.rowKey parts) = .ok y) ∧
      accepted s.settings.maxArgs topo d p =
        [⟨t.rowKey parts, parts, p.fetches.map fun g => fetchedOf d (t.rowKey parts) g.field⟩] :=
    accepted_row ht hf hshows (Nat.le_trans (Nat.add_le_add_left (Plan.length_plainNames hf) 2) hm) hd hp hc
  have hrow : p.row? now p.emptyRows.width
      ⟨t.rowKey parts, parts, p.fetches.map fun g => fetchedOf d (t.rowKey parts) g.field⟩ =
        some ⟨t.rowKey parts, t.fields.map (t.cell d (t.rowKey parts) parts)⟩ :=
    row?_row ht hbuild hshows hf (Table.parse_of_parts? hp).2
  have hplan : Plan.ofQuery s.settings t q = .ok p := by
    unfold Plan.ofQuery
    rw [hq.items]
    exact hbuild
  have hfinds : Sees s.settings.maxArgs d p := by
    intro key hkey _
    cases hshows.direct.symm.trans hkey
    exact hsees
  have hshown : ∀ y ∈ accepted s.settings.maxArgs topo d p, p.row? now p.emptyRows.width y ≠ none := by
    intro y hy
    rw [haccepted, List.mem_singleton] at hy
    rw [hy, hrow]
    exact Option.some_ne_none _
  obtain ⟨r, s', hrun, -, -, hok, hresult⟩ := select_run now hs hroom (hq.table ▸ htable) hplan hshows.shows
  obtain ⟨e, rfl⟩ := hok.2 ⟨hfinds, fun _ _ => hshown⟩
  refine ⟨e, s', hrun, (hresult e rfl).trans (congrArg StatementResult.rows ?_)⟩
  have hlimit : 0 < s.settings.clampLimit q.selection.limit := by
    obtain ⟨-, h4, h5, -⟩ := bounds hs.valid
    unfold Settings.clampLimit
    split <;> omega
  have hpiece : piece (p.row? now p.emptyRows.width) (s.settings.clampLimit q.selection.limit)
      (accepted s.settings.maxArgs topo d p) (q.selection.offset.getD 0) =
      [⟨t.rowKey parts, t.fields.map (t.cell d (t.rowKey parts) parts)⟩] := by
    rw [hq.offset, haccepted, piece, List.drop_zero, List.filterMap_cons_some hrow, List.filterMap_nil,
      List.take_of_length_le hlimit]
  rw [hpiece, Plan.emptyRows, hshows.table, hshows.headers]

/-! ## Statements -/

/-- What a statement with a full key leaves behind and reports, if it succeeds; its table is still there, and so is the
row. -/
theorem upsert_effect (hs : s.Ready top topo d) (hd : Typed s.settings d) {u : Upsertion}
    (hrun : (execute now (.upsert u)).run s = (.ok e, s')) (htable : tableIn s.settings d u.table = .ok t)
    {pu : PreparedUpsertion} (hu : u.prepare t now = .ok pu) (hkey : pu.key = some key) : ∃ top' d' o,
    s'.Ready top' topo d' ∧ s'.settings = s.settings ∧ Typed s.settings d' ∧ e.result = report o ∧
      tableIn s.settings d' u.table = .ok t ∧ d'.contains key = true ∧
      (pu.mode = .overwrite ∨ d.contains key = false → o = .written 1 ∧ Upsertion.Overwritten key pu.values d d') ∧
      (pu.mode = .ignore → d.contains key = true → o = .ignored ∧ d' = d) ∧
      ∀ as, pu.mode = .update as → d.contains key = true → o = .updated 1 ∧ Upsertion.Reassigned key as d d' := by
  obtain ⟨-, -, -, hm⟩ := bounds hs.valid
  obtain ⟨hvalid, hname⟩ := valid_of_tableIn htable
  have houtside := hd.outside (by omega) htable
  obtain ⟨t', pu', v, c, o, c', htable', hu', -, hhosts, hout, hresult, hsettings, rfl⟩ := upsert_ok hs hrun
  cases htable.symm.trans htable'
  cases hu.symm.trans hu'
  obtain ⟨d', ⟨top', hserves⟩, htyped, he⟩ := Upsertion.effect_of_execute hs.valid hvalid houtside hd hu hkey hhosts hout
  have hp := Upsertion.prepare_parts hvalid hu hkey
  obtain ⟨hpresent, hexact⟩ := Upsertion.effect_exact hvalid hd htyped hp (Upsertion.prepare_sound hvalid hu)
    (Upsertion.prepare_distinct hu) he
  have hentry : Catalog.entryKey s.settings u.table ∉ t.footprint key := entryKey_notMem hs.valid hvalid houtside hp
  exact ⟨top', d', o, ⟨hsettings ▸ hs.valid, hsettings ▸ hs.range, hsettings ▸ hserves⟩, hsettings, htyped, hresult,
    (tableIn_congr (he.frame _ hentry)).trans htable, hpresent, hexact⟩

/-- **What is written is read back.** In a session that has carried out statements since it began with an empty store, a
statement that writes a row by its full key, and succeeds, leaves just what it names: if it overwrites rows, or there was
none, its values have been written; if it leaves rows as they are, and there was one, nothing has changed; if it assigns
to rows, and there was one, its assignments have been carried out. Afterwards a query for all columns of the row has one
row, which shows each column; its table is not called like the pseudo table, and one command can read all plain
attributes. -/
theorem upsert_read_back (h : Attained s) {u : Upsertion} (hrun : (execute now (.upsert u)).run s = (.ok e, s'))
    (ht : ((table u.table).run s).1 = .ok t) {pu : PreparedUpsertion} (hu : u.prepare t now = .ok pu)
    (hkey : pu.key = some key) : ∃ d d' parts, (∀ j, s.context.server.value? j = d.get? j) ∧
      (∀ j, s'.context.server.value? j = d'.get? j) ∧ t.parts? key = some parts ∧
      (pu.mode = .overwrite ∨ d.contains key = false →
        e.result = .affected "upserted" 1 ∧ Upsertion.Overwritten key pu.values d d') ∧
      (pu.mode = .ignore → d.contains key = true → e.result = .ignored ∧ d' = d) ∧
      (∀ as, pu.mode = .update as → d.contains key = true →
        e.result = .affected "updated" 1 ∧ Upsertion.Reassigned key as d d') ∧
      ∀ now' q, AsksForRow t parts q → q.table.isDual = false → s'.HasRoom →
        2 + (t.fields.filter Field.isPlain).length ≤ s'.settings.maxArgs → ∃ e' s'' cells,
          (execute now' (.select q)).run s' = (.ok e', s'') ∧
            e'.result = .rows ⟨t.fullName, t.fields.map fun f => ⟨f.name, f.isKey⟩, [⟨key, cells⟩]⟩ ∧
            t.fields.Forall₂ (t.Shown d' key parts) cells := by
  obtain ⟨top, topo, d, hs, hd⟩ := h.over.ready
  have htable : tableIn s.settings d u.table = .ok t := by
    obtain ⟨s₁, h1, -⟩ := table_run hs u.table
    rw [h1] at ht
    exact ht
  obtain ⟨hvalid, hname⟩ := valid_of_tableIn htable
  obtain ⟨top', d', o, hs', hsettings, hd', hresult, htable', hc, hwritten, hignored, hupdated⟩ :=
    upsert_effect hs hd hrun htable hu hkey
  obtain ⟨parts, rfl, hparts⟩ := (Upsertion.prepare_sound hvalid hu).key key hkey
  have hp : t.parts? (t.rowKey parts) = some parts := by
    obtain ⟨ps, hps⟩ := Option.isSome_iff_exists.1 (Upsertion.prepare_parts hvalid hu hkey)
    rw [hps, Table.parts?_rowKey hvalid hparts.length_eq.symm hps]
  refine ⟨d, d', parts, hs.serves.holds, hs'.serves.holds, hp, fun hnew => ?_, fun hmode hold => ?_,
    fun as hmode hold => ?_, fun now' q hq hdual hroom hm => ?_⟩
  · obtain ⟨rfl, heffect⟩ := hwritten hnew
    exact ⟨hresult, heffect⟩
  · obtain ⟨rfl, heffect⟩ := hignored hmode hold
    exact ⟨hresult, heffect⟩
  · obtain ⟨rfl, heffect⟩ := hupdated as hmode hold
    exact ⟨hresult, heffect⟩
  · obtain ⟨top'', hs'', hroom⟩ := hs'.of_room hroom
    obtain ⟨e', s'', hselect, hrows⟩ := select_row now' hs'' hroom (hsettings ▸ hd') (by rw [hsettings, hname]; exact htable')
      hq hparts hp hc hm
    refine ⟨e', s'', _, by rw [execute_select now' hdual]; exact hselect, hrows, ?_⟩
    rw [List.forall₂_map_right_iff, List.forall₂_same]
    exact fun f hf => shown_cell hvalid hparts hf

/-! ## Tallies with tags -/

/-- Tallies that have tags. -/
def tallyDef : TableDef where
  table := ⟨"t", "tallies"⟩
  ifNotExists := false
  columns := [⟨"sid", .ub4, none, none, false, none⟩, ⟨"hits", .ub8, none, none, false, none⟩,
    ⟨"tags", .set, none, none, false, none⟩]
  rowKey := ["sid"]
  comment := none

/-- The table of the tallies. -/
def tallyTable : Table := ⟨"t", "tallies", tallyDef.columns.map tallyDef.field, 0, ""⟩

/-- The statement that writes the first tally. -/
def firstTally : Upsertion where
  table := tallyDef.table
  columns := ["sid", "hits", "tags"]
  source := .values [.literal ⟨"1", false⟩, .literal ⟨"5", false⟩, .literal ⟨"new, old", true⟩]
  onDuplicate := .overwrite

/-- The statement that counts three hits and takes a tag from the tally. -/
def moreHits : Upsertion where
  table := tallyDef.table
  columns := ["sid"]
  source := .values [.literal ⟨"1", false⟩]
  onDuplicate := .update [⟨"hits", .add, .literal ⟨"3", false⟩⟩, ⟨"tags", .sub, .literal ⟨"new", true⟩⟩]

/-- The statement with its values checked. -/
def moreHitsPrepared : PreparedUpsertion :=
  (moreHits.prepare tallyTable 0).toOption.getD ⟨tallyTable, [], [], none, "", .overwrite⟩

/-- The query for the tally. -/
def tallyQuery : Query := ⟨[.all], tallyTable.tableName, ⟨[⟨"sid", .eq, ⟨"1", false⟩⟩], none, none⟩⟩

/-- The session that has written the first tally, and the one that has changed it as well. -/
def tallyWritten : Session Simulation Link :=
  ((execute 0 (.upsert firstTally)).run ((execute 0 (.create tallyDef)).run (noteSession .empty)).2).2

def tallyChanged : Session Simulation Link := ((execute 0 (.upsert moreHits)).run tallyWritten).2

theorem tallyWritten_attained : Attained tallyWritten :=
  .execute (.execute (.start (noteSession_ready .empty)) 0 rfl) 0 rfl

/-- The statement is carried out on a tally that is there, and the query shows it behind. The facts stand together because
most of them need the session with the tally. -/
theorem moreHits_run : tallyTable.keyFields.map Field.name = ["sid"] ∧
    tallyTable.parts? "{t::tallies:1}" = some ["1"] ∧ (moreHits.prepare tallyTable 0).isOk = true ∧
    moreHitsPrepared.key = some "{t::tallies:1}" ∧
    (match moreHitsPrepared.mode with
      | .update as => some (as.map PreparedAssignment.op)
      | _ => none) = some [.add, .sub] ∧
    ((table moreHits.table).run tallyWritten).1 = .ok tallyTable ∧
    (tallyWritten.context.server.value? "{t::tallies:1}").isSome = true ∧
    ((execute 0 (.upsert moreHits)).run tallyWritten).1.isOk = true ∧ tallyChanged.HasRoom ∧
    2 + (tallyTable.fields.filter Field.isPlain).length ≤ tallyChanged.settings.maxArgs ∧
    ((execute 0 (.select tallyQuery)).run tallyChanged).1.toOption.map
      (fun e => e.result.shown.map fun r => r.cells.map (Option.map Cell.display)) =
      some [[some "1", some "8", some "old"]] := by
  unfold HasRoom
  decide +kernel

theorem tallyQuery_asks : AsksForRow tallyTable ["1"] tallyQuery where
  table := rfl
  items := rfl
  conditions :=
    { columns := by rw [moreHits_run.1]; exact .refl _
      equations := by simp [tallyQuery]
      literals := by
        obtain ⟨f, hf, -⟩ := List.map_eq_singleton_iff.1 moreHits_run.1
        rw [hf]
        exact .cons (by simp [tallyQuery]) .nil }
  offset := rfl

/-- The hits have been added, the tag is gone, and the tally is shown so. -/
theorem upsert_read_back_tally : ∃ e d d' as, (execute 0 (.upsert moreHits)).run tallyWritten = (.ok e, tallyChanged) ∧
    e.result = .affected "updated" 1 ∧ Upsertion.Reassigned "{t::tallies:1}" as d d' ∧ as.map PreparedAssignment.op = [.add, .sub] ∧
      ∃ e' s'' cells, (execute 0 (.select tallyQuery)).run tallyChanged = (.ok e', s'') ∧
        e'.result.shown = [⟨"{t::tallies:1}", cells⟩] ∧
        cells.map (Option.map Cell.display) = [some "1", some "8", some "old"] := by
  obtain ⟨-, hpart, hprepared, hkey, hops, htable, hthere, hok, hroom, hmax, hcells⟩ := moreHits_run
  obtain ⟨e, hrun⟩ := run_of_isOk (execute 0 (.upsert moreHits)) tallyWritten hok
  obtain ⟨d, d', parts, hd, hd', hparts, -, -, hupdated, hread⟩ := upsert_read_back tallyWritten_attained hrun
    (t := tallyTable) htable (eq_ok_of_isOk hprepared _) hkey
  cases hparts.symm.trans hpart
  have hold : d.contains "{t::tallies:1}" = true := by
    rw [KeyMap.contains, ← hd]
    exact hthere
  obtain ⟨as, hmode, hops⟩ : ∃ as, moreHitsPrepared.mode = .update as ∧ as.map PreparedAssignment.op = [.add, .sub] := by
    cases hm : moreHitsPrepared.mode with
    | update as =>
      rw [hm] at hops
      exact ⟨as, rfl, Option.some.inj hops⟩
    | _ => rw [hm] at hops; cases hops
  obtain ⟨hresult, hleft⟩ := hupdated as hmode hold
  obtain ⟨e', s'', cells, hselect, hrows, -⟩ := hread 0 tallyQuery tallyQuery_asks rfl hroom hmax
  refine ⟨e, d, d', as, hrun, hresult, hleft, hops, e', s'', cells, hselect, by rw [hrows]; rfl, ?_⟩
  rw [show (execute 0 (.select tallyQuery)).run tallyChanged = (.ok e', s'') from hselect] at hcells
  have hcells : (e'.result.shown.map fun r => r.cells.map (Option.map Cell.display)) =
      [[some "1", some "8", some "old"]] := Option.some.inj hcells
  rw [hrows] at hcells
  exact (List.cons.inj hcells).1

/-! ## Files with bodies -/

/-- Files that have bodies. -/
def fileDef : TableDef where
  table := ⟨"t", "files"⟩
  ifNotExists := false
  columns := [⟨"sid", .ub4, none, none, false, none⟩, ⟨"body", .blob, none, none, false, none⟩]
  rowKey := ["sid"]
  comment := none

/-- The statement that writes a file. -/
def firstFile : Upsertion where
  table := fileDef.table
  columns := ["sid", "body"]
  source := .values [.literal ⟨"1", false⟩, .literal ⟨"ab", true⟩]
  onDuplicate := .overwrite

/-- The query for the file. -/
def fileQuery : Query := ⟨[.all], fileDef.table, ⟨[⟨"sid", .eq, ⟨"1", false⟩⟩], none, none⟩⟩

/-- The session that has written the file. -/
def fileWritten : Session Simulation Link :=
  ((execute 0 (.upsert firstFile)).run ((execute 0 (.create fileDef)).run (noteSession .empty)).2).2

/-- The body of a file is stored as it was written, but it is not what is shown of it. -/
theorem blob_read_back : ∃ stored shown,
    (match fileWritten.context.server.value? "{t::files:1}" with
      | some (.hash h) => h.get? "body"
      | _ => none) = some (Utf8.bytes stored) ∧
    ((execute 0 (.select fileQuery)).run fileWritten).1.toOption.map
      (fun e => e.result.shown.map fun r => r.cells.map (Option.map Cell.display)) = some [[some "1", some shown]] ∧
    shown ≠ stored :=
  ⟨"ab", "0x6162", by decide +kernel⟩

end SlotSql.Session
