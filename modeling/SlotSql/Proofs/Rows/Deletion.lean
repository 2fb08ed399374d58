import SlotSql.Proofs.Rows.Selection
import SlotSql.Proofs.Simulation.Deletion
/-!
# Deleting rows

A row is deleted together with its sets, which lie in its slot. A deletion takes the rows of a plan page by
page and deletes each page before it asks for the next one, so the scan goes on in a store without the rows
that it has found. The rows to come are the same as before: this is the invariant of the pages.

Results:
* `deleteRows_serves`: rows are deleted with their sets, and nothing else.
* `ToCome.advance`, `ToCome.lose`: what calls of a plan and deletions leave to come.
* `deletePages_toCome`: what is deleted page by page.
* `deletePages_long`: a deletion whose commands would be too long.
* `deletePages_all`: a deletion of all rows that succeeds leaves none.
-/
namespace SlotSql

open Cluster Store Simulation Dialogue

/-- The error that the keys of a row and of its sets do not fit into one command of `m` words. -/
def Table.longDeletion (t : Table) (m : Nat) : EngineError :=
  (ClusterError.tooManyArgs "DEL" (2 + t.setFields.length) m).toEngine

/-- The keys of a row and of its sets. -/
def Table.footprint (t : Table) (key : String) : List String := key :: t.setFields.map fun f => Key.set key f.name

variable {m top : Nat} {topo : Topology} {t : Table} {st : Settings} {d : Data} {cs : List Condition}
  {p : Plan} {fs : Plan.Filters} {key k : String} {keys : List String} {c c' : Context Simulation Link}

/-! ## Footprints -/

namespace Table

/-- A row lies in one slot with its sets. -/
theorem oneSlot_footprint (ht : t.Valid st) (hp : (t.parts? key).isSome = true) :
    OneSlot (slotOf key) (t.footprint key) := by
  obtain ⟨parts, hp⟩ := Option.isSome_iff_exists.1 hp
  have htag : Key.Tagged key := by
    rw [(Key.parseRow?_eq_some (parse_of_parts? hp).1).1]
    exact Key.tagged_row ht.tablespace t.name parts
  refine ⟨List.cons_ne_nil _ _, fun k hk => ?_⟩
  rcases List.mem_cons.1 hk with rfl | hk
  · rfl
  · obtain ⟨f, -, rfl⟩ := List.mem_map.1 hk
    exact Key.slotOf_set htag f.name

/-- The only row key among the keys of a row and of its sets is its own. -/
theorem eq_of_footprint (ht : t.Valid st) (hk : (t.parts? k).isSome = true) (h : k ∈ t.footprint key) :
    k = key := by
  rcases List.mem_cons.1 h with h | h
  · exact h
  · obtain ⟨f, hf, rfl⟩ := List.mem_map.1 h
    rw [ht.parts?_set hf] at hk
    cases hk

/-- The keys of sets of other rows are not among them. -/
theorem eq_of_set_footprint (ht : t.Valid st) (hp : (t.parts? key).isSome = true) {f : Field}
    (hf : f ∈ t.setFields) (h : Key.set k f.name ∈ t.footprint key) : k = key := by
  have hdollar {g : Field} (hg : g ∈ t.setFields) : '$' ∉ g.name.toList :=
    notMem_name (ht.setField hg).1 (by decide)
  rcases List.mem_cons.1 h with h | h
  · rw [← h, ht.parts?_set hf] at hp
    cases hp
  · obtain ⟨g, hg, he⟩ := List.mem_map.1 h
    exact ((Key.set_inj (hdollar hg) (hdollar hf)).1 he).1.symm

end Table

/-! ## Deleting rows of a list of keys -/

theorem deleteRow_serves (ht : t.Valid st) (hp : p.table = t) (hm : 2 + t.setFields.length ≤ m)
    (hk : (t.parts? key).isSome = true) (hd : d.contains key = true) (hc : Serves m top topo d c) : ∃ c',
    outcome Context.world (ScanEnv.deleteRow p key) c = (.ok true, c') ∧
      Serves m top topo (without d (t.footprint key)) c' ∧ Loses (t.footprint key) c c' := by
  have hl : (t.footprint key).length + 1 ≤ m := by
    unfold Table.footprint
    rw [List.length_cons, List.length_map]
    omega
  obtain ⟨c', h1, h2, h3⟩ := hc.del (t.oneSlot_footprint ht hk) hl
  refine ⟨c', ?_, h2, h3⟩
  have hremoved : (0 : Int) < (KeyCommand.eraseAll d (t.footprint key)).1 := Int.natCast_pos.2 (eraseAll_pos d _ hd)
  have hdel : outcome Context.world (liftM (Asking.del (t.footprint key)) : Engine Int) c =
      (.ok ((KeyCommand.eraseAll d (t.footprint key)).1 : Int), c') := by
    rw [Engine.outcome_liftM, h1]
    rfl
  unfold ScanEnv.deleteRow
  rw [hp]
  refine (outcome_bind_ok hdel).trans ?_
  rw [outcome_pure, decide_eq_true hremoved]

/-- Rows are deleted with their sets, and they are counted. -/
theorem deleteRows_serves (ht : t.Valid st) (hp : p.table = t) (hm : 2 + t.setFields.length ≤ m)
    (hk : ∀ key ∈ keys, (t.parts? key).isSome = true ∧ d.contains key = true) (hn : keys.Nodup)
    (hc : Serves m top topo d c) : ∃ c',
    outcome Context.world (ScanEnv.deleteRows p keys) c = (.ok keys.length, c') ∧
      Serves m top topo (without d (keys.flatMap t.footprint)) c' ∧ Loses (keys.flatMap t.footprint) c c' := by
  induction keys generalizing d c with
  | nil => exact ⟨c, rfl, hc, .refl c⟩
  | cons key keys ih =>
    obtain ⟨h1, h2⟩ := List.nodup_cons.1 hn
    obtain ⟨hrow, hd⟩ := hk key List.mem_cons_self
    obtain ⟨c₁, e1, e2, e3⟩ := deleteRow_serves ht hp hm hrow hd hc
    -- The other rows are still there.
    have hrest : ∀ k ∈ keys, (t.parts? k).isSome = true ∧
        (without d (t.footprint key)).contains k = true := by
      intro k hmem
      obtain ⟨g1, g2⟩ := hk k (List.mem_cons_of_mem _ hmem)
      have hother : k ∉ t.footprint key := by
        intro hin
        rw [t.eq_of_footprint ht g1 hin] at hmem
        exact h1 hmem
      exact ⟨g1, (contains_without d _ hother).trans g2⟩
    obtain ⟨c₂, g1, g2, g3⟩ := ih hrest h2 e2
    rw [without_append] at g2
    refine ⟨c₂, ?_, g2, e3.trans g3⟩
    unfold ScanEnv.deleteRows
    rw [outcome_bind_ok e1, outcome_bind_ok g1, outcome_pure]
    simp [Nat.add_comm]

/-! ## Rows to come -/

/-- Looking at a key comes to what it came to before other rows were deleted. -/
theorem lookupIn_without (ht : t.Valid st) (hf : Plan.For t cs p fs) {rows : List String}
    (hrows : ∀ key ∈ rows, (t.parts? key).isSome = true) (hk : k ∉ rows.flatMap t.footprint) :
    lookupIn (answers m (without d (rows.flatMap t.footprint))) p k = lookupIn (answers m d) p k := by
  refine lookupIn_agree ((get?_without d _ k).trans (if_neg hk)) fun n hn => ?_
  obtain ⟨f, hset, rfl⟩ := List.mem_map.1 (hf.setNames n hn)
  rw [get?_without, if_neg]
  -- A set of another row belongs to that row's footprint only.
  intro hin
  obtain ⟨key, hkey, hfoot⟩ := List.mem_flatMap.1 hin
  rw [t.eq_of_set_footprint ht (hrows key hkey) hset hfoot] at hk
  exact hk (List.mem_flatMap.2 ⟨key, hkey, List.mem_cons_self⟩)

/-- The rows that a plan has to come in a store, in a scan or lookup that has come so far. -/
inductive ToCome (v : ScanEnv) (m top : Nat) (topo : Topology) (p : Plan) (d : Data) (x : Scan)
    (c : Context Simulation Link) : List Candidate → Prop
  /-- The only key has not been looked up. -/
  | lookup {key : String} (hk : p.directKey = some key) (hx : x.progress.started = false) (hsees : Sees m d p)
    (hv : Fits v m topo d) (htop : top ≤ Number.max64) (hc : Serves m top topo d c) :
    ToCome v m top topo p d x c (accepted m topo d p)
  /-- The only key has been looked up. -/
  | done (hk : p.directKey.isSome = true) (hx : x.progress.started = true) (hc : Serves m top topo d c) :
    ToCome v m top topo p d x c []
  /-- A scan is under way, or has not begun. -/
  | scan {n : Nat} {ks : List String} (hk : p.directKey = none) (hm : 6 ≤ m) (hpos : 0 < v.settings.scanBatch)
    (hmax : v.settings.scanBatch ≤ Number.max64) (htop : top ≤ Number.max64) (hn : n < v.patience)
    (ho : (feed m top topo d p v.settings.scanBatch hm hpos hmax htop).Open v n x c ks) :
    ToCome v m top topo p d x c (fresh (lookupIn (answers m d) p) x.progress.seen ks)

namespace ToCome

variable {v : ScanEnv} {x : Scan} {ys : List Candidate}

theorem serves (h : ToCome v m top topo p d x c ys) : Serves m top topo d c := by
  cases h with
  | lookup _ _ _ _ _ hc => exact hc
  | done _ _ hc => exact hc
  | scan _ _ _ _ _ _ ho => exact ho.calm

theorem withRows (h : ToCome v m top topo p d x c ys) (rows : Rows) :
    ToCome v m top topo p d { x with rows } c ys := by
  cases h with
  | lookup hk hx hsees hv htop hc => exact .lookup hk hx hsees hv htop hc
  | done hk hx hc => exact .done hk hx hc
  | scan hk hm hpos hmax htop hn ho => exact .scan hk hm hpos hmax htop hn (ho.withRows rows)

/-- At the beginning all rows that the plan accepts are to come. -/
theorem start (rows : Rows) (hv : Fits v m topo d) (hc : Serves m top topo d c)
    (hroom : top + d.size ≤ Number.max64) (hsees : Sees m d p) :
    ToCome v m (top + d.size) topo p d ⟨{}, rows⟩ c (accepted m topo d p) := by
  cases hk : p.directKey with
  | some key => exact .lookup hk rfl hsees hv hroom (hc.mono (Nat.le_add_right _ _))
  | none =>
    have ho := open_unbegun (p := p) (x := ⟨{}, rows⟩) hc hv.words hv.batch hv.range hroom (Nat.le_refl _)
      hv.masters rfl
    have hkeys : keysFor topo d p = (scanOrder topo d).filter (Glob.matchesKey p.pattern) := by
      unfold keysFor; rw [hk]
    have hrest : fresh (lookupIn (answers m d) p) [] ((scanOrder topo d).filter (Glob.matchesKey p.pattern)) =
        accepted m topo d p := by
      unfold accepted
      rw [hkeys]
      exact fresh_distinct (hkeys ▸ keysFor_nodup hc) (by simp)
    exact hrest ▸ .scan hk hv.words hv.batch hv.range hroom hv.patience ho

/-- Carrying a plan on without columns takes rows off those to come. -/
theorem advance (a : Scan.Aim) (ho : p.outputs = []) (hp : p.countOnly = false) (hcollect : a.collect = true)
    (h : ToCome v m top topo p d x c ys) (hx : x.rows.rows = []) (ha : x.tally.reached a = false) : ∃ x' c',
    Scanning.outcome Context.world (v.advance p a) x c = (.ok (), x', c') ∧
      x'.tally = (Tally.drain p v.now a ys x.tally).1 ∧
      ToCome v m top topo p d x' c' (Tally.drain p v.now a ys x.tally).2 ∧
      (p.directKey.isSome = true → x'.progress.started = true) ∧ (p.directKey = none → x'.Fair) := by
  have hnew (y : Candidate) : y.key ∉ x.tally.rows.keys := by simp [Scan.tally, RowsOf.keys, hx]
  cases h with
  | @lookup key hk hx' hsees hv htop hc =>
    obtain ⟨r, x', c', h1, h2, h3, h4, -, h5⟩ := lookup_serves a hv htop hc hk hx' hx
    have hlen := length_accepted_direct (m := m) (t := topo) (d := d) hk
    have hnil : (Tally.drain p v.now a (accepted m topo d p) x.tally).2 = [] := by
      rcases hys : accepted m topo d p with _ | ⟨y, ys⟩
      · rfl
      · have hys' : ys = [] := by simpa [hys] using hlen
        rw [hys', Tally.drain_cons ha]
        rfl
    refine ⟨x', c', ?_, ?_, hnil ▸ .done (by rw [hk]; rfl) h4 h2, fun _ => h4, fun hn => ?_⟩
    · unfold ScanEnv.advance
      rw [if_pos (by rw [hk]; rfl), h1,
        h5.2 ⟨hsees, fun y _ => Tally.gain_ne_of_bare v.now ho hp hcollect (hnew y)⟩]
    · rw [h3]
      exact foldl_gain ha hlen
    · rw [hk] at hn
      cases hn
  | done hk hx' hc =>
    refine ⟨x, c, ?_, rfl, .done hk hx' hc, fun _ => hx', fun hn => ?_⟩
    · unfold ScanEnv.advance ScanEnv.lookup
      rw [if_pos hk, Scanning.outcome_bind_ok Scanning.outcome_get, if_pos hx']
      rfl
    · rw [hn] at hk
      cases hk
  | scan hk hm hpos hmax htop hn hopen =>
    obtain ⟨ks', x', c', h1, h2, h3, -, h4, -⟩ := Feed.advance_open feed_steady rfl hn hk hopen hx a
    have h3 : Tally.drain p v.now a (fresh (lookupIn (answers m d) p) x.progress.seen _) x.tally =
      (x'.tally, fresh (lookupIn (answers m d) p) x'.progress.seen ks') := h3
    refine ⟨x', c', h1, by rw [h3], ?_, fun hsome => ?_, fun _ => h4⟩
    · rw [h3]
      exact .scan hk hm hpos hmax htop hn h2
    · rw [hk] at hsome
      cases hsome

/-- Rows that have been found can be deleted: the rows to come stay the same. -/
theorem lose (ht : t.Valid st) (hf : Plan.For t cs p fs) {rows : List String}
    (hrows : ∀ key ∈ rows, (t.parts? key).isSome = true) (h : ToCome v m top topo p d x c ys)
    (hstarted : p.directKey.isSome = true → x.progress.started = true)
    (hseen : p.directKey = none → ∀ key ∈ rows, key ∈ x.progress.seen)
    (hl : Loses (rows.flatMap t.footprint) c c')
    (hc : Serves m top topo (without d (rows.flatMap t.footprint)) c') :
    ToCome v m top topo p (without d (rows.flatMap t.footprint)) x c' ys := by
  cases h with
  | lookup hk hx _ _ _ _ =>
    rw [hstarted (by rw [hk]; rfl)] at hx
    cases hx
  | done hk hx _ => exact .done hk hx hc
  | @scan n ks hk hm hpos hmax htop hn hopen =>
    obtain ⟨ks', hopen', hthin⟩ := Open.lose hopen hl hc
    have hsame : fresh (lookupIn (answers m (without d (rows.flatMap t.footprint))) p) x.progress.seen ks' =
        fresh (lookupIn (answers m d) p) x.progress.seen ks := by
      refine fresh_thin (fun k hk => ?_) (fun k hk' => ?_) hthin
      · unfold accepted?
        rw [lookupIn_without ht hf hrows hk]
      · -- A key that is gone is that of a row, which has been found, or that of a set.
        obtain ⟨key, hkey, hfoot⟩ := List.mem_flatMap.1 hk'
        rcases List.mem_cons.1 hfoot with rfl | hset
        · exact .inl (hseen hk _ hkey)
        · obtain ⟨f, hf', rfl⟩ := List.mem_map.1 hset
          have hnone : Key.parseRow? (Key.set key f.name) = none :=
            Key.parseRow?_set (Table.notMem_name (ht.setField hf').1 (by decide))
          refine .inr ⟨?_, ?_⟩
          · rw [accepted?, lookupIn_other m d p hnone]
          · rw [accepted?, lookupIn_other m _ p hnone]
    exact hsame ▸ .scan hk hm hpos hmax htop hn hopen'

/-- A call for the next rows without columns takes them off those to come. -/
theorem next (offset : Nat) {limit : Nat} (hlim : 0 < limit) (ho : p.outputs = []) (hp : p.countOnly = false)
    (h : ToCome v m top topo p d x c ys) (hnew : (ys.map Candidate.key).Nodup) (hx : x.rows.rows = [])
    (ha : x.progress.accepted ≤ offset) :
    let skip := offset - x.progress.accepted
    let page := (ys.drop skip).take limit
    ∃ x' c', Scanning.outcome Context.world (v.next p offset limit) x c =
        (.ok (if page = [] then none else some x'.progress.accepted), x', c') ∧
      x'.rows.keys = page.map Candidate.key ∧
      x'.progress.accepted = x.progress.accepted + min (skip + limit) ys.length ∧
      ToCome v m top topo p d x' c' (ys.drop (skip + limit)) ∧
      (p.directKey.isSome = true → x'.progress.started = true) ∧
      (p.directKey = none → ∀ key ∈ page.map Candidate.key, key ∈ x'.progress.seen) := by
  intro skip page
  have hreached : x.tally.reached { offset, target := some (offset + limit) } = false :=
    decide_eq_false (show ¬ offset + limit ≤ x.progress.accepted by omega)
  obtain ⟨x', c', h1, h2, h3, h4, h5⟩ := h.advance _ ho hp rfl hx hreached
  have hfresh : x.tally.New ys := by
    have : x.tally.rows.keys = [] := by simp [Scan.tally, RowsOf.keys, hx]
    unfold Tally.New
    rw [this]
    exact hnew
  obtain ⟨g1, g2, g3⟩ := Tally.drain_bare (p := p) (t := x.tally)
    (a := { offset, target := some (offset + limit) }) v.now ho hp rfl rfl ha hfresh hx
  rw [← h2] at g1 g2
  rw [g3] at h3
  have hkeys : x'.rows.keys = page.map Candidate.key := g2
  refine ⟨x', c', ?_, hkeys, g1, h3, h4, fun hn key hkey => h5 hn key (hkeys ▸ hkey)⟩
  unfold ScanEnv.next
  rw [Scanning.outcome_bind_ok Scanning.outcome_get, Scanning.outcome_bind_ok h1,
    Scanning.outcome_bind_ok Scanning.outcome_get, Scanning.outcome_pure]
  have hsize : x.rows.size < x'.rows.size ↔ ¬ page = [] := by
    have hlen := congrArg List.length hkeys
    rw [RowsOf.keys, List.length_map, List.length_map] at hlen
    simp only [RowsOf.size, hx, List.length_nil, hlen, List.length_pos_iff]
  congr 2
  by_cases hpage : page = []
  · rw [if_pos hpage, if_neg fun hlt => hsize.1 hlt hpage]
  · rw [if_neg hpage, if_pos (hsize.2 hpage)]

end ToCome

/-! ## Page by page -/

/-- The rows that a deletion takes of those behind its offset. -/
def limited {α : Type} (limit : Option Nat) (ys : List α) : List α :=
  match limit with
  | none => ys
  | some l => ys.take l

section Limited

variable {α : Type} {limit : Option Nat} {size : Nat} {ys : List α}

theorem limited_nil : limited limit ([] : List α) = [] := by
  cases limit with
  | none => rfl
  | some l => exact List.take_nil

/-- What a deletion takes is a page and what it takes behind the page. -/
theorem limited_split (h : ∀ l, limit = some l → size ≤ l) :
    limited limit ys = ys.take size ++ limited (limit.map (· - size)) (ys.drop size) := by
  cases limit with
  | none => exact (List.take_append_drop size ys).symm
  | some l =>
    show ys.take l = ys.take size ++ (ys.drop size).take (l - size)
    rw [← List.take_add, Nat.add_sub_cancel' (h l rfl)]

end Limited

/-- The size of the next page of a deletion, when some rows have been deleted. -/
def pageSize (st : Settings) (limit : Option Nat) (deleted : Nat) : Nat :=
  match limit with
  | none => st.limitMax
  | some l => min (l - deleted) st.limitMax

/-- As long as rows are to be deleted, a deletion takes a page that is not empty and no larger than what is to
be deleted. -/
theorem deletePages_more {v : ScanEnv} (hmax : 0 < v.settings.limitMax) {limit : Option Nat} {deleted : Nat}
    (patience skip : Nat) (h : ¬ limit.any (· ≤ deleted) = true) : ∃ size, size = pageSize v.settings limit deleted ∧
      0 < size ∧ (∀ l, limit.map (· - deleted) = some l → size ≤ l) ∧
      v.deletePages p limit (patience + 1) skip deleted = (do
        let (progress, page) ← ScanEnv.onFreshRows ⟨"", [], []⟩ (v.next p skip size)
        let n ← Scanning.ofEngine (ScanEnv.deleteRows p page.keys)
        match progress with
        | some accepted => v.deletePages p limit patience accepted (deleted + n)
        | none => return deleted + n) := by
  cases limit with
  | none =>
    refine ⟨v.settings.limitMax, rfl, hmax, ?_, rfl⟩
    rintro l ⟨⟩
  | some l =>
    have hl : ¬ l ≤ deleted := by simpa using h
    refine ⟨min (l - deleted) v.settings.limitMax, rfl, by omega, ?_, ?_⟩
    · rintro _ ⟨⟩
      exact Nat.min_le_left _ _
    · exact if_neg h

section Pages

variable {v : ScanEnv} {x : Scan} {ys : List Candidate} {skip size : Nat}

/-- One page is found and deleted. -/
theorem deletePage (ht : t.Valid st) (hf : Plan.For t cs p fs) (htable : p.table = t) (ho : p.outputs = [])
    (hp : p.countOnly = false) (hm : 2 + t.setFields.length ≤ m) (hsize : 0 < size)
    (h : ToCome v m top topo p d x c ys) (hnew : (ys.map Candidate.key).Nodup)
    (hrows : ∀ y ∈ ys, (t.parts? y.key).isSome = true ∧ d.contains y.key = true)
    (ha : x.progress.accepted ≤ skip) {page : List String} {rest : List Candidate}
    (hpage : page = ((ys.drop (skip - x.progress.accepted)).take size).map Candidate.key)
    (hrest : rest = ys.drop (skip - x.progress.accepted + size)) : ∃ found x₁ c₁ c₂,
    Scanning.outcome Context.world (ScanEnv.onFreshRows ⟨"", [], []⟩ (v.next p skip size)) x c =
        (.ok (if page = [] then none else some x₁.progress.accepted, found), x₁, c₁) ∧
      Scanning.outcome Context.world (Scanning.ofEngine (ScanEnv.deleteRows p found.keys)) x₁ c₁ =
        (.ok page.length, x₁, c₂) ∧
      ToCome v m top topo p (without d (page.flatMap t.footprint)) x₁ c₂ rest ∧
      (rest.map Candidate.key).Nodup ∧
      ∀ y ∈ rest, (t.parts? y.key).isSome = true ∧
        (without d (page.flatMap t.footprint)).contains y.key = true := by
  obtain ⟨x₁, c₁, h1, h2, -, h4, h5, h6⟩ :=
    (h.withRows ⟨"", [], []⟩).next skip hsize ho hp hnew rfl ha
  have hleft : ToCome v m top topo p d x₁ c₁ rest := hrest ▸ h4
  have hfound : x₁.rows.keys = page := h2.trans hpage.symm
  have hseen : p.directKey = none → ∀ key ∈ page, key ∈ x₁.progress.seen := hpage ▸ h6
  have hfresh := Scanning.outcome_onFreshRows (x := x) h1
  have hempty : (ys.drop (skip - x.progress.accepted)).take size = [] ↔ page = [] := by
    rw [hpage, List.map_eq_nil_iff]
  -- The rows of the page are other rows than those behind it.
  have hsub : (ys.drop (skip - x.progress.accepted)).Sublist ys := List.drop_sublist _ _
  have hsplit : (ys.drop (skip - x.progress.accepted)).map Candidate.key = page ++ rest.map Candidate.key := by
    rw [hpage, hrest, ← List.drop_drop, ← List.map_append, List.take_append_drop]
  have hnodup := (hsub.map Candidate.key).nodup hnew
  rw [hsplit, List.nodup_append] at hnodup
  obtain ⟨hpagenodup, hrestnodup, hapart⟩ := hnodup
  have hpagerows : ∀ key ∈ page, (t.parts? key).isSome = true ∧ d.contains key = true := by
    intro key hkey
    rw [hpage] at hkey
    obtain ⟨y, hy, rfl⟩ := List.mem_map.1 hkey
    exact hrows y (hsub.subset (List.mem_of_mem_take hy))
  obtain ⟨c₂, e1, e2, e3⟩ := deleteRows_serves ht htable hm hpagerows hpagenodup hleft.serves
  have hleft' := (hleft.lose ht hf (fun key hkey => (hpagerows key hkey).1) h5 hseen e3 e2).withRows x.rows
  refine ⟨x₁.rows, { x₁ with rows := x.rows }, c₁, c₂, ?_, ?_, hleft', hrestnodup, fun y hy => ?_⟩
  · rw [hfresh]
    show (Except.ok (ite _ _ _, _), _) = _
    simp only [hempty]
  · rw [Scanning.outcome_ofEngine, hfound, e1]
  · obtain ⟨g1, g2⟩ := hrows y (List.drop_subset _ _ (hrest ▸ hy))
    have hother : y.key ∉ page.flatMap t.footprint := by
      intro hin
      obtain ⟨key, hkey, hfoot⟩ := List.mem_flatMap.1 hin
      exact hapart key hkey y.key (List.mem_map_of_mem hy) (t.eq_of_footprint ht g1 hfoot).symm
    exact ⟨g1, (contains_without d _ hother).trans g2⟩

/-- Deleting page by page deletes the rows behind those that are skipped, as many as are asked for. -/
theorem deletePages_toCome (ht : t.Valid st) (hf : Plan.For t cs p fs) (htable : p.table = t)
    (ho : p.outputs = []) (hp : p.countOnly = false) (hm : 2 + t.setFields.length ≤ m)
    (hmax : 0 < v.settings.limitMax) (limit : Option Nat) (deleted : Nat) {patience : Nat}
    (h : ToCome v m top topo p d x c ys) (hnew : (ys.map Candidate.key).Nodup)
    (hrows : ∀ y ∈ ys, (t.parts? y.key).isSome = true ∧ d.contains y.key = true)
    (ha : x.progress.accepted ≤ skip) (hn : (ys.drop (skip - x.progress.accepted)).length < patience)
    {gone : List String} (hgone : gone =
      (limited (limit.map (· - deleted)) (ys.drop (skip - x.progress.accepted))).map Candidate.key) : ∃ x' c',
    Scanning.outcome Context.world (v.deletePages p limit patience skip deleted) x c =
        (.ok (deleted + gone.length), x', c') ∧
      Serves m top topo (without d (gone.flatMap t.footprint)) c' := by
  induction patience generalizing skip deleted d x c ys gone with
  | zero => exact absurd hn (Nat.not_lt_zero _)
  | succ patience ih =>
    by_cases hdone : limit.any (· ≤ deleted) = true
    · -- Enough rows have been deleted.
      have hnil : gone = [] := by
        obtain ⟨l, rfl, hl⟩ := (Option.any_eq_true _ _).1 hdone
        have : l - deleted = 0 := Nat.sub_eq_zero_of_le (of_decide_eq_true hl)
        simp [hgone, limited, this]
      have hstop : v.deletePages p limit (patience + 1) skip deleted = pure deleted := by
        unfold ScanEnv.deletePages
        rw [if_pos hdone]
      rw [hstop, hnil]
      exact ⟨x, c, rfl, h.serves⟩
    obtain ⟨size, -, hsize, hle, hmore⟩ := deletePages_more (p := p) hmax patience skip hdone
    obtain ⟨coming, hcoming⟩ : ∃ coming, coming = ys.drop (skip - x.progress.accepted) := ⟨_, rfl⟩
    obtain ⟨page, hpage⟩ : ∃ page, page = (coming.take size).map Candidate.key := ⟨_, rfl⟩
    obtain ⟨found, x₁, c₁, c₂, h1, h2, h3, h4, h5⟩ := deletePage ht hf htable ho hp hm hsize
      h hnew hrows ha (hcoming ▸ hpage) (show coming.drop size = _ by rw [hcoming, List.drop_drop])
    rw [← hcoming, limited_split hle, List.map_append, ← hpage] at hgone
    rw [← hcoming] at hn
    rw [hmore, Scanning.outcome_bind_ok h1]
    by_cases hempty : page = []
    · -- No row is left.
      have hnil : coming = [] := by
        rw [hpage, List.map_eq_nil_iff, List.take_eq_nil_iff] at hempty
        exact hempty.resolve_left (by omega)
      rw [hnil, List.drop_nil, limited_nil, List.map_nil, List.append_nil] at hgone
      simp only [if_pos hempty]
      rw [Scanning.outcome_bind_ok h2, hgone]
      exact ⟨x₁, c₂, rfl, h3.serves⟩
    · simp only [if_neg hempty]
      rw [Scanning.outcome_bind_ok h2]
      -- The page was full, or there is nothing behind it.
      have hlen : page.length = min size coming.length := by rw [hpage, List.length_map, List.length_take]
      have hrest : limited ((limit.map (· - deleted)).map (· - size)) (coming.drop size) =
          limited (limit.map (· - (deleted + page.length)))
            ((coming.drop size).drop (x₁.progress.accepted - x₁.progress.accepted)) := by
        rw [Nat.sub_self, List.drop_zero]
        rcases Nat.lt_or_ge coming.length size with hlt | hge
        · rw [List.drop_eq_nil_of_le (Nat.le_of_lt hlt), limited_nil, limited_nil]
        · have hfull : page.length = size := by omega
          rw [hfull, Option.map_map]
          congr 2
          funext l
          exact Nat.sub_sub l deleted size
      have hpos : 0 < page.length := List.length_pos_iff.2 hempty
      obtain ⟨x', c', e1, e2⟩ := ih _ h3 h4 h5 (Nat.le_refl x₁.progress.accepted)
        (by rw [Nat.sub_self, List.drop_zero, List.length_drop]; omega) (congrArg (List.map Candidate.key) hrest)
      refine ⟨x', c', ?_, ?_⟩
      · rw [e1, hgone, List.length_append, Nat.add_assoc]
      · rw [without_append, ← List.flatMap_append, ← hgone] at e2
        exact e2

/-- A row whose key makes too long a command with those of its sets is not deleted. -/
theorem deleteRow_long (ht : t.Valid st) (hp : p.table = t) (hm : ¬ 2 + t.setFields.length ≤ m)
    (hk : (t.parts? key).isSome = true) (hc : Serves m top topo d c) : ∃ c',
    outcome Context.world (ScanEnv.deleteRow p key) c = (.error (t.longDeletion m), c') ∧ Serves m top topo d c' := by
  have hr := @Command.runs_del (t.footprint key) (List.cons_ne_nil _ _)
  have hname : (Command.del (t.footprint key)).name = "DEL" := by
    unfold Command.del
    rw [Command.name_ofTexts]
    decide +kernel
  have hlength : (Command.del (t.footprint key)).length = 2 + t.setFields.length := by
    show (("DEL" :: t.footprint key).map Utf8.bytes).length = _
    unfold Table.footprint
    simp only [List.length_map, List.length_cons]
    omega
  obtain ⟨c', h1, h2, -⟩ := hc.exec hr (t.oneSlot_footprint ht hk)
  rw [reply_long hr (by omega), hname, hlength] at h1 h2
  have hcmd : outcome Context.world (Asking.command (.del (t.footprint key))) c =
      (.error (.tooManyArgs "DEL" (2 + t.setFields.length) m), c') := h1
  have hdel : outcome Context.world (liftM (Asking.del (t.footprint key)) : Engine Int) c =
      (.error (t.longDeletion m), c') := by
    rw [Engine.outcome_liftM]
    unfold Asking.del
    rw [if_neg (by simp [Table.footprint]), outcome_bind_error hcmd]
    rfl
  refine ⟨c', ?_, h2⟩
  unfold ScanEnv.deleteRow
  rw [hp]
  exact outcome_bind_error hdel

/-- Deleting rows page by page fails at the first row, if its key makes too long a command with those of its sets. -/
theorem deletePages_long (ht : t.Valid st) (htable : p.table = t) (ho : p.outputs = []) (hp : p.countOnly = false)
    (hm : ¬ 2 + t.setFields.length ≤ m) (hmax : 0 < v.settings.limitMax) (limit : Option Nat) {n : Nat}
    (h : ToCome v m top topo p d x c ys) (hnew : (ys.map Candidate.key).Nodup)
    (hrows : ∀ y ∈ ys, (t.parts? y.key).isSome = true) (ha : x.progress.accepted ≤ skip) {gone : List String}
    (hgone : gone = (limited limit (ys.drop (skip - x.progress.accepted))).map Candidate.key) : ∃ x' c',
    Scanning.outcome Context.world (v.deletePages p limit (n + 1) skip 0) x c =
      (if gone = [] then .ok 0 else .error (t.longDeletion m), x', c') ∧ Serves m top topo d c' := by
  by_cases hdone : limit.any (· ≤ 0) = true
  · have hnil : gone = [] := by
      obtain ⟨l, rfl, hl⟩ := (Option.any_eq_true _ _).1 hdone
      obtain rfl : l = 0 := Nat.le_zero.1 (of_decide_eq_true hl)
      simp [hgone, limited]
    have hstop : v.deletePages p limit (n + 1) skip 0 = pure 0 := by
      unfold ScanEnv.deletePages
      rw [if_pos hdone]
    rw [hstop, if_pos hnil]
    exact ⟨x, c, rfl, h.serves⟩
  obtain ⟨size, -, hsize, hle, hmore⟩ := deletePages_more (p := p) hmax n skip hdone
  have hid : limit.map (· - 0) = limit := by
    cases limit <;> rfl
  rw [hid] at hle
  obtain ⟨x₁, c₁, h1, h2, -, h4, -⟩ := (h.withRows ⟨"", [], []⟩).next skip hsize ho hp hnew rfl ha
  have hdelete := Scanning.outcome_ofEngine (w := Context.world) (x := { x₁ with rows := x.rows }) (s := c₁)
    (ScanEnv.deleteRows p x₁.rows.keys)
  rw [hmore, Scanning.outcome_bind_ok (Scanning.outcome_onFreshRows (x := x) h1)]
  change ∃ x' c', Scanning.outcome _ (Scanning.ofEngine (ScanEnv.deleteRows p x₁.rows.keys) >>= fun n => _) _ c₁ = _ ∧ _
  rw [h2] at hdelete ⊢
  have hsub : (ys.drop (skip - x.progress.accepted)).Sublist ys := List.drop_sublist _ _
  revert hgone h1 hdelete hsub
  generalize ys.drop (skip - x.progress.accepted) = coming
  intro hgone h1 hdelete hsub
  rw [limited_split hle] at hgone
  cases coming with
  | nil =>
    rw [List.take_nil, List.map_nil] at hdelete ⊢
    rw [List.take_nil, List.drop_nil, limited_nil, List.append_nil, List.map_nil] at hgone
    rw [Scanning.outcome_bind_ok (a := 0) hdelete, if_pos hgone]
    exact ⟨_, c₁, rfl, h4.serves⟩
  | cons y ys' =>
    -- The first row cannot be deleted.
    obtain ⟨k, rfl⟩ := Nat.exists_eq_add_one_of_ne_zero (Nat.ne_of_gt hsize)
    obtain ⟨c₂, he, hc₂⟩ := deleteRow_long ht htable hm (hrows y (hsub.subset List.mem_cons_self)) h4.serves
    rw [List.take_succ_cons, List.map_cons] at hdelete ⊢
    have hfail : outcome Context.world (ScanEnv.deleteRows p (y.key :: (ys'.take k).map Candidate.key)) c₁ =
        (.error (t.longDeletion m), c₂) := by
      unfold ScanEnv.deleteRows
      exact outcome_bind_error he
    rw [hfail] at hdelete
    rw [Scanning.outcome_bind_error hdelete, if_neg (by simp [hgone])]
    exact ⟨_, c₂, rfl, hc₂⟩

/-- If deleting all rows page by page succeeds, no row is left. -/
theorem deletePages_all (ht : t.Valid st) (hf : Plan.For t cs p fs) (htable : p.table = t) (ho : p.outputs = [])
    (hp : p.countOnly = false) (hmax : 0 < v.settings.limitMax) {patience : Nat}
    (h : ToCome v m top topo p d x c ys) (hnew : (ys.map Candidate.key).Nodup)
    (hrows : ∀ y ∈ ys, (t.parts? y.key).isSome = true ∧ d.contains y.key = true)
    (ha : x.progress.accepted = 0) (hn : ys.length < patience) {n : Nat} {x' : Scan} {c' : Context Simulation Link}
    (hrun : Scanning.outcome Context.world (v.deletePages p none patience 0 0) x c = (.ok n, x', c')) :
    Serves m top topo (without d ((ys.map Candidate.key).flatMap t.footprint)) c' := by
  by_cases hm : 2 + t.setFields.length ≤ m
  · have hpast : (ys.drop (0 - x.progress.accepted)).length < patience := by
      rw [ha]
      exact hn
    obtain ⟨x₁, c₁, h1, h2⟩ := deletePages_toCome ht hf htable ho hp hm hmax none 0 h hnew hrows (Nat.le_of_eq ha)
      hpast rfl
    rw [h1] at hrun
    cases hrun
    rw [ha] at h2
    exact h2
  · obtain ⟨patience, rfl⟩ := Nat.exists_eq_add_one_of_ne_zero (Nat.ne_of_gt (Nat.lt_of_le_of_lt (Nat.zero_le _) hn))
    obtain ⟨x₁, c₁, h1, h2⟩ := deletePages_long ht htable ho hp hm hmax none h hnew (fun y hy => (hrows y hy).1)
      (Nat.le_of_eq ha) rfl
    rw [h1, ha] at hrun
    split at hrun
    · next hnil =>
      cases hrun
      have hnil : ys.map Candidate.key = [] := hnil
      rw [hnil]
      exact h2
    · cases hrun

end Pages

end SlotSql
