import SlotSql.Proofs.Rows.Selection
import SlotSql.Proofs.Rows.Written
import SlotSql.Proofs.Session.Pages
/-!
# Conditions of statements

What the conditions of a statement select in a store whose rows statements wrote: the plan that is made of
them leads to the rows that a full scan selects which compares every row with every condition, and such a
scan never fails. It does not matter what else the statement asks for.

Results:
* `matchingKeys_run`, `count_run`: the keys of the rows of a plan, and a query for their number.
* `pushdown_exact`: they are those of the rows that a full scan selects.
-/
namespace SlotSql

open Cluster Store Simulation

/-- The plan without a result: it only finds keys. -/
def Plan.bare (p : Plan) : Plan := { p with outputs := [], countOnly := false }

theorem accepted_bare (m : Nat) (topo : Topology) (d : Data) (p : Plan) :
    accepted m topo d p.bare = accepted m topo d p := rfl

/-- Counting reads no more plain attributes than any other query with the same conditions. -/
theorem plainNames_le {p q : Plan}
    (h : q.fetches.map FetchFilter.field <+: p.fetches.map FetchFilter.field) :
    q.plainNames.length ≤ p.plainNames.length := by
  have hlength (r : Plan) : r.plainNames.length =
      ((r.fetches.map FetchFilter.field).filter fun f => !f.type.isSet).length := by
    unfold Plan.plainNames
    rw [List.length_map, List.filter_map, List.length_map]
    rfl
  rw [hlength, hlength]
  exact (h.filter _).length_le

namespace Session

variable {top : Nat} {topo : Topology} {d : Data} {s : Session Simulation Link} {t : Table} {p : Plan}
  {cs : List Condition} {items : List SelectItem}

/-! ## What statements find -/

/-- A search for keys finds those of the rows that the plan accepts, in order. -/
theorem matchingKeys_run (now : Int) (hs : s.Ready top topo d) (hroom : top + d.size ≤ Number.max64)
    (ho : p.outputs = []) (hc : p.countOnly = false) (hsees : Sees s.settings.maxArgs d p) : ∃ x s',
    (scanning ⟨{}, p.emptyRows⟩ ((s.env now).matchingKeys p)).run s =
        (.ok ((accepted s.settings.maxArgs topo d p).map Candidate.key, x), s') ∧
      s'.Ready (top + d.size) topo d ∧ s'.settings = s.settings := by
  obtain ⟨r, x, c', h1, h2, h3, h4⟩ := matchingKeys_start p.emptyRows (hs.fits now) hs.serves hroom hc
  obtain ⟨keys, rfl⟩ := h4.2 ⟨hsees, fun _ y _ => by
    obtain ⟨row, hrow, -⟩ := p.row?_of_bare ho (s.env now).now 0 y
    rw [hrow]
    exact Option.some_ne_none row⟩
  refine ⟨x, { s with context := c' }, ?_, hs.next h2, rfl⟩
  rw [scanning_run, h1, h3 keys rfl, p.keys_of_bare ho]
  rfl

/-- A query for the number of rows has one row with it, or fails because the one row cannot be read. -/
theorem count_run (now : Int) {q : Query} (hs : s.Ready top topo d) (hroom : top + d.size ≤ Number.max64)
    (ht : tableIn s.settings d q.table = .ok t) (hp : Plan.ofQuery s.settings t q = .ok p)
    (hc : p.countOnly = true) (ho : p.outputs = [.count]) : ∃ r s',
    (select now q).run s = (r, s') ∧ ((∃ e, r = .ok e) ↔ Sees s.settings.maxArgs d p) ∧
      ∀ e, r = .ok e → e.result = .rows { p.emptyRows with
        rows := [countRow (accepted s.settings.maxArgs topo d p).length] } := by
  obtain ⟨s₁, h1, h2, h3⟩ := table_run hs q.table
  rw [ht] at h1
  obtain ⟨r, x, c', g1, -, g2, g3⟩ := count_start p.emptyRows (h2.fits now) h2.serves hroom hc ho
  rw [h3] at g2 g3
  have hscan := scanning_run ⟨{}, p.emptyRows⟩ ((s₁.env now).count p) s₁
  rw [g1] at hscan
  have hselect : (select now q).run s = (do
      let counted ← scanning ⟨{}, p.emptyRows⟩ ((s₁.env now).count p)
      planned p counted.2 (.rows counted.1)).run s₁ := by
    unfold select
    rw [step_bind_ok h1, step_bind_ok (step_get s₁)]
    simp only [h3, hp, hc, ↓reduceIte]
  rw [hselect]
  cases r with
  | error e =>
    refine ⟨.error e, _, step_bind_error hscan, (iff_of_false ?_ ?_).trans g3, ?_⟩
    · rintro ⟨_, ⟨⟩⟩
    · rintro ⟨_, ⟨⟩⟩
    · rintro _ ⟨⟩
  | ok found =>
    refine ⟨_, _, step_bind_ok hscan, iff_of_true ⟨_, rfl⟩ (g3.1 ⟨found, rfl⟩), ?_⟩
    rintro _ ⟨⟩
    exact congrArg StatementResult.rows (g2 found rfl)

/-! ## What conditions select -/

/-- **Key pushdown keeps the meaning of the conditions.** In a store whose rows statements wrote, the keys
that a plan for conditions leads to, by a lookup or by a scan for a pattern, are those of the rows that a
full scan selects, and a query for their number has this number in its one row. -/
theorem pushdown_exact (now : Int) (hs : s.Ready top topo d) (ht : t.Valid s.settings) (hw : t.Written d)
    (hp : Plan.build s.settings t cs items = .ok p) (hm : 2 + p.plainNames.length ≤ s.settings.maxArgs)
    (hroom : top + d.size ≤ Number.max64) (hsize : (d.size : Int) ≤ Number.signedMax 64) : ∃ rows,
    t.select d cs = .ok rows ∧
      (∃ keys x s', (scanning ⟨{}, p.bare.emptyRows⟩ ((s.env now).matchingKeys p.bare)).run s =
        (.ok (keys, x), s') ∧ keys.Perm rows) ∧
      ∀ q : Query, q.table.isDual = false → tableIn s.settings d q.table = .ok t →
        q.selection.conditions = cs → q.items = [.count] → ∃ e s',
          (execute now (.select q)).run s = (.ok e, s') ∧
            e.result.shown = [⟨countColumn, [some (.integer rows.length)]⟩] := by
  have hkept := hw.kept ht
  obtain ⟨fs, hf⟩ := Plan.for_of_build ht hp
  obtain ⟨rows, hrows, hkeys⟩ := accepted_perm ht hf hm hkept hs.serves
  have hsees := sees_of_kept ht hf hm hkept
  refine ⟨rows, hrows, ?_, fun q hdual htable hcs hitems => ?_⟩
  · obtain ⟨x, s', h1, -, -⟩ := matchingKeys_run (p := p.bare) now hs hroom rfl rfl hsees
    exact ⟨_, x, s', h1, hkeys⟩
  · -- The plan of the query for the number may read fewer attributes, but it is for the same conditions.
    obtain ⟨p', hp', -, ho, hc, hfewer⟩ := Plan.build_count hp
    obtain ⟨fs', hf'⟩ := Plan.for_of_build ht hp'
    have hm' : 2 + p'.plainNames.length ≤ s.settings.maxArgs :=
      Nat.le_trans (Nat.add_le_add_left (plainNames_le hfewer) 2) hm
    obtain ⟨rows', hrows', hkeys'⟩ := accepted_perm ht hf' hm' hkept hs.serves
    cases hrows.symm.trans hrows'
    have hplan : Plan.ofQuery s.settings t q = .ok p' := by
      unfold Plan.ofQuery
      rw [hcs, hitems]
      exact hp'
    obtain ⟨r, s', h1, hok, h2⟩ := count_run now hs hroom htable hplan hc ho
    obtain ⟨e, rfl⟩ := hok.2 (sees_of_kept ht hf' hm' hkept)
    refine ⟨e, s', by rw [execute_select now hdual]; exact h1, ?_⟩
    have hlen : (accepted s.settings.maxArgs topo d p').length = rows.length := by
      rw [← hkeys'.length_eq, List.length_map]
    have hle : rows.length ≤ d.size := by
      have := (Table.select_sublist hrows).length_le
      rwa [KeyMap.keys, List.length_map] at this
    rw [h2 e rfl, hlen]
    unfold StatementResult.shown countRow
    rw [Int.min_eq_left (Int.le_trans (Int.ofNat_le.2 hle) hsize)]

/-! ## Notes with tags -/

/-- Results have one row, and so have pages of a scan. -/
def noteSettings : Settings := { scanBatch := 1, limitMin := 1, limitMax := 1 }

/-- Notes with a number, a text and tags. -/
def noteTable : Table where
  tablespace := "t"
  name := "notes"
  fields := [{ name := "id", type := .ub4, length := 4, ordinal := 1, nullable := false },
    { name := "text", type := .str, length := 20 }, { name := "tags", type := .set, length := 20 }]

/-- The store with the catalog entry of the notes only. -/
def noteCatalog : Data :=
  KeyMap.empty.insert (Catalog.entryKey noteSettings noteTable.tableName) (hashOf (Catalog.entry noteTable))

/-- The store with another note. -/
def noted (id text : String) (tags : List String) (d : Data) : Data :=
  (d.insert (noteTable.rowKey [id]) (hashOf [("text", Utf8.bytes text)])).insert
    (Key.set (noteTable.rowKey [id]) "tags") (.set (tags.foldl (fun m x => m.insert x ()) .empty))

/-- The statement that writes a note. -/
def noteUpsertion (id text tags : String) : Upsertion where
  table := noteTable.tableName
  columns := ["id", "text", "tags"]
  source := .values [.literal ⟨id, false⟩, .literal ⟨text, true⟩, .literal ⟨tags, true⟩]
  onDuplicate := .overwrite

/-- A session on a store of notes. -/
def noteSession (d : Data) : Session Simulation Link :=
  { settings := noteSettings, context := plainContext noteSettings.maxArgs d }

theorem noteSession_ready (d : Data) : (noteSession d).Ready 1 plainTopology d :=
  ⟨(by decide +kernel : noteSettings.Valid), (by decide : noteSettings.scanBatch ≤ Number.max64),
    serves_plain _ _⟩

/-- Three notes. -/
def noteStore : Data :=
  noted "3" "ab" ["x"] (noted "2" "bc" ["x"] (noted "1" "ca" ["x", "y"] noteCatalog))

/-- Statements wrote the three notes. -/
theorem noteStore_written : noteTable.Written noteStore := by
  have hvalid : noteTable.Valid noteSettings := by decide +kernel
  have hempty : noteTable.Written noteCatalog := by
    refine .fresh fun key ho => ?_
    have hne : key ≠ Catalog.entryKey noteSettings noteTable.tableName := by
      rintro rfl
      exact hvalid.not_owns (show Key.parseRow? _ = some ("kvsql.sys", "t", ["notes"]) by decide +kernel)
        (by decide) ho
    unfold noteCatalog
    rw [KeyMap.get?_insert, if_neg hne]
    rfl
  have h1 : noteTable.Written (noted "1" "ca" ["x", "y"] noteCatalog) :=
    hempty.run hvalid (noteSession_ready _) (by decide +kernel) (u := noteUpsertion "1" "ca" "x,y")
      (by decide +kernel) 0 (by decide +kernel)
  have h2 : noteTable.Written (noted "2" "bc" ["x"] (noted "1" "ca" ["x", "y"] noteCatalog)) :=
    h1.run hvalid (noteSession_ready _) (by decide +kernel) (u := noteUpsertion "2" "bc" "x")
      (by decide +kernel) 0 (by decide +kernel)
  exact h2.run hvalid (noteSession_ready _) (by decide +kernel) (u := noteUpsertion "3" "ab" "x")
    (by decide +kernel) 0 (by decide +kernel)

-- The entry of the catalog, and for each note its row and its tags.
example : noteStore.size = 1 + 2 * 3 := by decide +kernel

/-- Notes from the first one on that have the tag and whose text holds a letter. -/
def noteConditions : List Condition :=
  [⟨"id", .ge, ⟨"1", false⟩⟩, ⟨"text", .like, ⟨"a", true⟩⟩, ⟨"tags", .eq, ⟨"x", true⟩⟩]

/-- The plan for these notes. -/
def notePlan : Plan :=
  (Plan.build noteSettings noteTable noteConditions []).toOption.getD ⟨noteTable, [], [], [], "", none, false⟩

theorem notePlan_eq : Plan.build noteSettings noteTable noteConditions [] = .ok notePlan :=
  eq_ok_of_isOk (by decide +kernel) _

/-- The query for the number of these notes. -/
def noteCount : Query where
  items := [.count]
  table := noteTable.tableName
  selection := ⟨noteConditions, none, none⟩

/-- Two of the three notes are selected, found and counted. -/
theorem pushdown_exact_notes : noteTable.select noteStore noteConditions = .ok ["{t::notes:1}", "{t::notes:3}"] ∧
    (∃ keys x s', (scanning ⟨{}, notePlan.bare.emptyRows⟩
        (((noteSession noteStore).env 0).matchingKeys notePlan.bare)).run (noteSession noteStore) =
      (.ok (keys, x), s') ∧ keys.Perm ["{t::notes:1}", "{t::notes:3}"]) ∧
    ∃ e s', (execute 0 (.select noteCount)).run (noteSession noteStore) = (.ok e, s') ∧
      e.result.shown = [⟨countColumn, [some (.integer 2)]⟩] := by
  have hselect : noteTable.select noteStore noteConditions = .ok ["{t::notes:1}", "{t::notes:3}"] := by
    decide +kernel
  obtain ⟨rows, hrows, hkeys, hcount⟩ := pushdown_exact 0 (noteSession_ready noteStore)
    (by decide +kernel : noteTable.Valid noteSettings) noteStore_written notePlan_eq (by decide +kernel)
    (by decide +kernel) (by decide +kernel)
  cases hselect.symm.trans hrows
  exact ⟨hselect, hkeys, hcount noteCount (by decide +kernel) (by decide +kernel) rfl rfl⟩

end Session
end SlotSql
