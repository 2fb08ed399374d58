import SlotSql.Proofs.Plan.Build
import SlotSql.Proofs.Session.Steps
import SlotSql.Proofs.Simulation.Spread
/-!
# Pages of separate statements

A query with an offset and a limit is carried out from the beginning: it passes over the rows in front of
its offset, counting each row that the plan accepts, and collects rows behind it, counting only those
that can be shown. So the pages of separate statements are the pieces of the whole result as long as no row
that cannot be shown stands in front of rows of a later page; if one does, these rows come twice.

Results:
* `select_run`: the rows of one statement.
* `pages_tile_iff`: just when the pages of statements are the pieces of the whole result.
-/
namespace SlotSql

/-! ## Pieces of a list -/

section Pieces

variable {α β : Type} (f : α → Option β) (l : Nat)

/-- The page of `l` results that begins behind `o` elements. -/
def piece (xs : List α) (o : Nat) : List β := ((xs.drop o).filterMap f).take l

/-- The first pages, each beginning `l` elements behind the last one. -/
def pieces (xs : List α) (n : Nat) : List β := (List.range n).flatMap fun j => piece f l xs (j * l)

variable {f l} {xs : List α} {n : Nat}

theorem pieces_succ : pieces f l xs (n + 1) = piece f l xs 0 ++ pieces f l (xs.drop l) n := by
  unfold pieces
  rw [List.range_succ_eq_map, List.flatMap_cons, List.flatMap_map, Nat.zero_mul]
  congr 2
  funext j
  unfold piece
  rw [List.drop_drop]
  congr 3
  rw [Nat.succ_mul, Nat.add_comm]

theorem filterMap_block (f : α → Option β) (l : Nat) (xs : List α) :
    xs.filterMap f = (xs.take l).filterMap f ++ (xs.drop l).filterMap f := by
  rw [← List.filterMap_append, List.take_append_drop]

/-- The first page holds no fewer results than its elements have. -/
theorem length_block_le (f : α → Option β) (l : Nat) (xs : List α) : ((xs.take l).filterMap f).length ≤ (piece f l xs 0).length := by
  have h1 := List.length_filterMap_le f (xs.take l)
  have h2 := congrArg List.length (filterMap_block f l xs)
  rw [List.length_append] at h2
  unfold piece
  rw [List.drop_zero, List.length_take]
  have := List.length_take_le l xs
  omega

/-- The pages hold no fewer results than there are. -/
theorem length_le_pieces (h : xs.length ≤ n * l) : (xs.filterMap f).length ≤ (pieces f l xs n).length := by
  induction n generalizing xs with
  | zero =>
    have : xs = [] := List.length_eq_zero_iff.1 (by omega)
    subst this
    exact Nat.zero_le _
  | succ n ih =>
    rw [pieces_succ, filterMap_block f l xs, List.length_append, List.length_append]
    refine Nat.add_le_add (length_block_le f l xs) (ih ?_)
    rw [List.length_drop, Nat.succ_mul] at *
    omega

/-- The first page is its elements' results just when none of them fails, or nothing is shown behind. -/
theorem piece_eq_iff : piece f l xs 0 = (xs.take l).filterMap f ↔
    ((∃ a ∈ xs.take l, f a = none) → (xs.drop l).filterMap f = []) := by
  have hle := List.length_filterMap_le f (xs.take l)
  have htake := List.length_take_le l xs
  have hpiece : piece f l xs 0 = ((xs.take l).filterMap f ++ (xs.drop l).filterMap f).take l := by
    unfold piece
    rw [List.drop_zero, filterMap_block f l xs]
  have hall : ((xs.take l).filterMap f).length = (xs.take l).length ↔
      ¬ ∃ a ∈ xs.take l, f a = none := by
    rw [List.filterMap_length_eq_length]
    constructor
    · rintro h ⟨a, ha, hn⟩
      have := h a ha
      rw [hn] at this
      cases this
    · intro h a ha
      cases hf : f a with
      | none => exact absurd ⟨a, ha, hf⟩ h
      | some b => rfl
  rw [hpiece, List.take_append, List.take_of_length_le (by omega)]
  constructor
  · intro h hfail
    have hshort : ((xs.take l).filterMap f).length ≠ (xs.take l).length := fun he => hall.1 he hfail
    rcases List.take_eq_nil_iff.1 (List.append_right_eq_self.1 h) with h | h
    · omega
    · exact h
  · intro h
    by_cases hfail : ∃ a ∈ xs.take l, f a = none
    · rw [h hfail, List.take_nil, List.append_nil]
    · rw [hall.2 hfail]
      rcases Nat.lt_or_ge xs.length l with hlt | hge
      · rw [List.drop_eq_nil_of_le (Nat.le_of_lt hlt), List.filterMap_nil, List.take_nil, List.append_nil]
      · rw [List.length_take, Nat.min_eq_left hge, Nat.sub_self, List.take_zero, List.append_nil]

/-- The pages are the pieces of the whole result just when no result stands on a later page than an element
that has none. -/
theorem pieces_eq_iff (hl : 0 < l) (h : xs.length ≤ n * l) : pieces f l xs n = xs.filterMap f ↔
    ∀ i k a b, xs[i]? = some a → xs[k]? = some b → f a = none → f b ≠ none → k / l ≤ i / l := by
  induction n generalizing xs with
  | zero =>
    have : xs = [] := List.length_eq_zero_iff.1 (by omega)
    subst this
    simp [pieces]
  | succ n ih =>
    have hrest : (xs.drop l).length ≤ n * l := by
      rw [List.length_drop, Nat.succ_mul] at *
      omega
    -- The first page must be its block's, and the others those of what is behind.
    have hsplit : pieces f l xs (n + 1) = xs.filterMap f ↔
        piece f l xs 0 = (xs.take l).filterMap f ∧ pieces f l (xs.drop l) n = (xs.drop l).filterMap f := by
      rw [pieces_succ, filterMap_block f l xs]
      constructor
      · intro he
        have h1 := length_block_le f l xs
        have h2 := length_le_pieces (f := f) hrest
        have h3 := congrArg List.length he
        rw [List.length_append, List.length_append] at h3
        exact List.append_inj he (by omega)
      · rintro ⟨h1, h2⟩
        rw [h1, h2]
    rw [hsplit, piece_eq_iff, ih hrest]
    constructor
    · rintro ⟨h1, h2⟩ i k a b hi hk ha hb
      rcases Nat.lt_or_ge k l with hkl | hkl
      · rw [Nat.div_eq_of_lt hkl]
        exact Nat.zero_le _
      · have hk' : (xs.drop l)[k - l]? = some b := by
          rw [List.getElem?_drop, Nat.add_sub_cancel' hkl, hk]
        rcases Nat.lt_or_ge i l with hil | hil
        · have hmem : a ∈ xs.take l := by
            refine List.mem_of_getElem? (i := i) ?_
            rw [List.getElem?_take_of_lt hil, hi]
          have hnil := List.filterMap_eq_nil_iff.1 (h1 ⟨a, hmem, ha⟩) b (List.mem_of_getElem? hk')
          exact absurd hnil hb
        · have hi' : (xs.drop l)[i - l]? = some a := by
            rw [List.getElem?_drop, Nat.add_sub_cancel' hil, hi]
          have := h2 _ _ a b hi' hk' ha hb
          rw [Nat.div_eq_sub_div hl hkl, Nat.div_eq_sub_div hl hil]
          omega
    · intro hpages
      refine ⟨?_, fun i k a b hi hk ha hb => ?_⟩
      · rintro ⟨a, ha, hna⟩
        obtain ⟨i, hi, rfl⟩ := List.mem_iff_getElem.1 ha
        rw [List.filterMap_eq_nil_iff]
        intro b hb
        obtain ⟨k, hk, rfl⟩ := List.mem_iff_getElem.1 hb
        by_contra hne
        have hil : i < l := by rw [List.length_take] at hi; omega
        have h1 : xs[i]? = some (xs.take l)[i] := by
          rw [← List.getElem?_take_of_lt hil]; exact List.getElem?_eq_getElem hi
        have h2 : xs[l + k]? = some (xs.drop l)[k] := by
          rw [← List.getElem?_drop]; exact List.getElem?_eq_getElem hk
        have := hpages i (l + k) _ _ h1 h2 hna hne
        rw [Nat.div_eq_of_lt hil, Nat.add_div_left _ hl] at this
        exact Nat.not_succ_le_zero _ this
      · rw [List.getElem?_drop] at hi hk
        have := hpages _ _ a b hi hk ha hb
        rw [Nat.add_div_left _ hl, Nat.add_div_left _ hl] at this
        omega

end Pieces
/-! ## One statement -/

/-- A query with another offset and limit. -/
def Query.page (q : Query) (offset limit : Nat) : Query :=
  { q with selection := { q.selection with offset := some offset, limit := some limit } }

/-- The rows of a result. -/
def StatementResult.shown : StatementResult → List Row
  | .rows r => r.rows
  | _ => []

namespace Session

open Cluster Store Simulation

variable {top : Nat} {t : Topology} {d : Data} {s : Session Simulation Link} {q : Query} {tbl : Table}
  {p : Plan} {now : Int}

/-- The rows of a statement are a page of the rows that its plan accepts. -/
theorem select_run (now : Int) (hs : s.Ready top t d) (hroom : top + d.size ≤ Number.max64)
    (ht : tableIn s.settings d q.table = .ok tbl) (hp : Plan.ofQuery s.settings tbl q = .ok p)
    (hc : p.countOnly = false) : ∃ r s',
    (select now q).run s = (r, s') ∧ s'.Ready (top + d.size) t d ∧ s'.settings = s.settings ∧
      ((∃ e, r = .ok e) ↔ Sees s.settings.maxArgs d p ∧ (p.directKey.isSome = true →
        q.selection.offset.getD 0 = 0 → ∀ y ∈ accepted s.settings.maxArgs t d p,
          p.row? now p.emptyRows.width y ≠ none)) ∧
      ∀ e, r = .ok e → e.result = .rows { p.emptyRows with
        rows := piece (p.row? now p.emptyRows.width) (s.settings.clampLimit q.selection.limit)
          (accepted s.settings.maxArgs t d p) (q.selection.offset.getD 0) } := by
  obtain ⟨s₁, h1, h2, h3⟩ := table_run hs q.table
  rw [ht] at h1
  have hlim : 0 < s.settings.clampLimit q.selection.limit := by
    obtain ⟨-, h4, h5, -⟩ := bounds hs.valid
    unfold Settings.clampLimit
    split <;> omega
  have hblank : p.emptyRows.rows = [] := rfl
  obtain ⟨r, x', c', g1, g2, g3, g4⟩ := next_start (q.selection.offset.getD 0) hlim (h2.fits now) h2.serves
    hroom hblank hc
  rw [h3] at g2 g3 g4
  have hscan := scanning_run ⟨{}, p.emptyRows⟩ ((s₁.env now).next p (q.selection.offset.getD 0)
    (s.settings.clampLimit q.selection.limit)) s₁
  rw [g1] at hscan
  have hready : ({ s₁ with context := c' } : Session Simulation Link).Ready (top + d.size) t d :=
    h2.next (h3 ▸ g2)
  have hselect : (select now q).run s = (do
      let found ← scanning ⟨{}, p.emptyRows⟩ ((s₁.env now).next p (q.selection.offset.getD 0)
        (s.settings.clampLimit q.selection.limit))
      planned p found.2 (.rows found.2.rows)).run s₁ := by
    unfold select
    rw [step_bind_ok h1, step_bind_ok (step_get s₁)]
    simp only [h3, hp, hc, Bool.false_eq_true, ↓reduceIte]
  rw [hselect]
  cases r with
  | error e =>
    refine ⟨.error e, _, step_bind_error hscan, hready, h3, ?_, ?_⟩
    · refine (iff_of_false ?_ ?_).trans g4
      · rintro ⟨_, ⟨⟩⟩
      · rintro ⟨_, ⟨⟩⟩
    · rintro _ ⟨⟩
  | ok n =>
    refine ⟨_, _, step_bind_ok hscan, hready, h3, ?_, ?_⟩
    · refine iff_of_true ⟨_, rfl⟩ (g4.1 ⟨n, rfl⟩)
    · rintro _ ⟨⟩
      show StatementResult.rows x'.rows = _
      rw [g3]
      rfl

/-! ## Statements one after another -/

variable {l : Nat}

theorem execute_select (now : Int) (hq : q.table.isDual = false) :
    (execute now (.select q) : SessionStep Simulation Link Executed) = select now q := by
  show (if q.table.isDual = true then _ else select now q) = select now q
  rw [hq]
  rfl

/-- Statements for pages that begin at any offsets, one after another. -/
theorem selects_run (hq : q.table.isDual = false) (hl : s.settings.limitMin ≤ l ∧ l ≤ s.settings.limitMax)
    (offsets : List Nat) (hs : s.Ready top t d) (hroom : top + offsets.length * d.size ≤ Number.max64)
    (ht : tableIn s.settings d q.table = .ok tbl) (hp : Plan.ofQuery s.settings tbl q = .ok p)
    (hc : p.countOnly = false) (hsees : Sees s.settings.maxArgs d p)
    (hshow : p.directKey.isSome = true →
      ∀ y ∈ accepted s.settings.maxArgs t d p, p.row? now p.emptyRows.width y ≠ none) : ∃ es s',
    (offsets.mapM fun o => execute now (.select (q.page o l))).run s = (.ok es, s') ∧
      es.flatMap (fun e => e.result.shown) = offsets.flatMap
        (piece (p.row? now p.emptyRows.width) l (accepted s.settings.maxArgs t d p)) := by
  induction offsets generalizing s top with
  | nil => exact ⟨[], s, rfl, rfl⟩
  | cons o offsets ih =>
    rw [List.length_cons, Nat.succ_mul] at hroom
    obtain ⟨r, s₁, h1, h2, h3, h4, h5⟩ := select_run (q := q.page o l) now hs (by omega) ht hp hc
    obtain ⟨e, rfl⟩ := h4.2 ⟨hsees, fun h _ => hshow h⟩
    obtain ⟨es, s', g1, g2⟩ := ih (s := s₁) (by rw [h3]; exact hl) h2 (by omega) (by rw [h3]; exact ht)
      (by rw [h3]; exact hp) (by rw [h3]; exact hsees) (by rw [h3]; exact hshow)
    have hexec : (execute now (.select (q.page o l))).run s = (.ok e, s₁) := by
      rw [execute_select now (q := q.page o l) hq]
      exact h1
    have hclamp : s.settings.clampLimit (some l) = l := by
      unfold Settings.clampLimit
      show min (max l s.settings.limitMin) s.settings.limitMax = l
      omega
    refine ⟨e :: es, s', ?_, ?_⟩
    · rw [List.mapM_cons, step_bind_ok hexec, step_bind_ok g1]
      rfl
    · have := congrArg StatementResult.shown (h5 e rfl)
      rw [show (q.page o l).selection.limit = some l from rfl, hclamp] at this
      rw [List.flatMap_cons, List.flatMap_cons, g2, this, h3]
      rfl

/-- The pages of separate statements are the pieces of the result without a limit, row by row, just when no
row that can be shown stands on a later page than a row that the plan accepts and that cannot. -/
theorem pages_tile_iff (hs : s.Ready top t d) (hq : q.table.isDual = false)
    (ht : ((table q.table).run s).1 = .ok tbl) (hp : Plan.ofQuery s.settings tbl q = .ok p)
    (hc : p.countOnly = false) (hl : s.settings.limitMin ≤ l ∧ l ≤ s.settings.limitMax) {n : Nat}
    (hn : (accepted s.settings.maxArgs t d p).length ≤ n * l)
    (hroom : top + (n + 1) * d.size ≤ Number.max64) {x : Scan} {s₁ : Session Simulation Link}
    (hall : (scanning ⟨{}, p.emptyRows⟩ ((s.env now).advance p {})).run s = (.ok ((), x), s₁)) : ∃ es s',
    ((List.range n).mapM fun j => execute now (.select (q.page (j * l) l))).run s = (.ok es, s') ∧
      (es.flatMap (fun e => e.result.shown) = x.rows.rows ↔ ∀ i k a b,
        (accepted s.settings.maxArgs t d p)[i]? = some a → (accepted s.settings.maxArgs t d p)[k]? = some b →
        p.row? now p.emptyRows.width a = none → p.row? now p.emptyRows.width b ≠ none → k / l ≤ i / l) := by
  obtain ⟨_, h1, -, -⟩ := table_run hs q.table
  rw [h1] at ht
  have hpos : 0 < l := by
    have := (bounds hs.valid).2.1
    omega
  rw [Nat.succ_mul] at hroom
  obtain ⟨r, x', c', g1, -, g3, g4⟩ := all_start (hs.fits now) hs.serves (by omega)
    (show p.emptyRows.rows = [] from rfl) hc
  rw [scanning_run, g1] at hall
  have hr : r = .ok () ∧ x' = x := by
    cases r with
    | error e => cases hall
    | ok _ => cases hall; exact ⟨rfl, rfl⟩
  obtain ⟨hsees, hshow⟩ := g4.1 hr.1
  obtain ⟨es, s', e1, e2⟩ := selects_run hq hl ((List.range n).map (· * l)) hs
    (by rw [List.length_map, List.length_range]; omega) ht hp hc hsees hshow
  rw [List.mapM_map] at e1
  refine ⟨es, s', e1, ?_⟩
  rw [e2, ← hr.2, g3, List.flatMap_map]
  exact pieces_eq_iff hpos hn

/-! ## A log with a day that is no date -/

/-- Pages may have one row. -/
def daySettings : Settings := { limitMin := 1 }

/-- A log with a number and a day. -/
def dayLog : Table where
  tablespace := "t"
  name := "logs"
  fields := [{ name := "sid", type := .ub4, length := 4, ordinal := 1, nullable := false },
    { name := "day", type := .str, length := 20 }]

/-- The hash of these fields. -/
def hashOf (fs : List (String × Bytes)) : Value := .hash (fs.foldl (fun m f => m.insert f.1 f.2) .empty)

/-- The log with two rows, the day of the first of which is no date. -/
def dayStore : Data :=
  ((KeyMap.empty.insert (Catalog.entryKey daySettings dayLog.tableName) (hashOf (Catalog.entry dayLog))).insert
    (dayLog.rowKey ["1"]) (hashOf [("day", Utf8.bytes "soon")])).insert
    (dayLog.rowKey ["2"]) (hashOf [("day", Utf8.bytes "2024-05-06")])

/-- The numbers of the log with their dates. -/
def dayQuery : Query where
  items := [.column "sid", .call ⟨.toDate, some (.column "day")⟩]
  table := dayLog.tableName
  selection := ⟨[], none, none⟩

/-- The plan of the query. -/
def dayPlan : Plan :=
  (Plan.ofQuery daySettings dayLog dayQuery).toOption.getD ⟨dayLog, [], [], [], "", none, false⟩

/-- A session on the log. -/
def daySession : Session Simulation Link :=
  { settings := daySettings, context := plainContext daySettings.maxArgs dayStore }

theorem dayPlan_eq : Plan.ofQuery daySettings dayLog dayQuery = .ok dayPlan :=
  eq_ok_of_isOk (by decide +kernel) _

theorem daySession_ready : daySession.Ready 1 plainTopology dayStore :=
  ⟨by decide +kernel, by decide, serves_plain _ _⟩

/-- The pages of one row are not the rows of the log: the second row comes on both of them. -/
theorem pages_tile_iff_dated : ∃ es s' x s₁,
    ((List.range 2).mapM fun j => execute 0 (.select (dayQuery.page (j * 1) 1))).run daySession = (.ok es, s') ∧
      (scanning ⟨{}, dayPlan.emptyRows⟩ ((daySession.env 0).advance dayPlan {})).run daySession =
        (.ok ((), x), s₁) ∧ es.flatMap (fun e => e.result.shown) ≠ x.rows.rows := by
  obtain ⟨a, b, hrows⟩ := List.length_eq_two.1
    (show (accepted 252 plainTopology dayStore dayPlan).length = 2 by decide +kernel)
  have hshown : (accepted 252 plainTopology dayStore dayPlan).map
      (fun c => (dayPlan.row? 0 dayPlan.emptyRows.width c).isSome) = [false, true] := by decide +kernel
  rw [hrows] at hshown
  simp only [List.map_cons, List.map_nil, List.cons.injEq, and_true] at hshown
  have hdirect : dayPlan.directKey = none := by decide +kernel
  have hcount : dayPlan.countOnly = false := by decide +kernel
  obtain ⟨r, x, c, h1, -, -, h2⟩ := all_start (daySession_ready.fits 0) daySession_ready.serves
    (by decide +kernel) (show dayPlan.emptyRows.rows = [] from rfl) hcount
  have hr : r = .ok () := by
    refine h2.2 ⟨fun key hk => ?_, fun h => ?_⟩
    · rw [hdirect] at hk
      cases hk
    · rw [hdirect] at h
      cases h
  subst hr
  have hall := scanning_run ⟨{}, dayPlan.emptyRows⟩ ((daySession.env 0).advance dayPlan {}) daySession
  rw [h1] at hall
  have htable : tableIn daySettings dayStore dayQuery.table = .ok dayLog := by decide +kernel
  obtain ⟨_, hread, -, -⟩ := table_run daySession_ready dayQuery.table
  obtain ⟨es, s', h3, h4⟩ := pages_tile_iff (n := 2) (l := 1) daySession_ready (by decide +kernel)
    ((congrArg Prod.fst hread).trans htable) dayPlan_eq hcount (by decide +kernel)
    (by decide +kernel) (by decide +kernel) hall
  refine ⟨es, s', x, _, h3, hall, fun he => ?_⟩
  -- The first row cannot be shown, and the second one stands a page further on.
  have := h4.1 he 0 1 a b (congrArg (·[0]?) hrows) (congrArg (·[1]?) hrows)
    (Option.isNone_iff_eq_none.1 (by simpa using hshown.1)) (Option.isSome_iff_ne_none.1 hshown.2)
  exact absurd this (by decide)

end Session
end SlotSql
