import Mathlib.Data.List.Perm.Subperm
import SlotSql.Proofs.Simulation.Order
/-!
# Rows of a store

What carrying out a plan from the beginning comes to in a healthy context: the plan looks at the keys of
its pattern in scan order, or at its one key, and finds the rows of the store that it accepts.

Results:
* `accepted`: the rows of a store that a plan accepts, in order.
* `advance_start`: how many of them a call counts and which it collects, and when it fails.
* `matchingKeys_start`, `count_start`: the keys of all of them, and their number.
-/
namespace SlotSql.Simulation

open SlotSql.Cluster SlotSql.Store Dialogue

/-- The keys that a plan looks at, in order. -/
def keysFor (t : Topology) (d : Data) (p : Plan) : List String :=
  match p.directKey with
  | some key => [key].filter d.contains
  | none => (scanOrder t d).filter (Glob.matchesKey p.pattern)

/-- The rows of a store that a plan accepts, in the order in which it comes to them. -/
def accepted (m : Nat) (t : Topology) (d : Data) (p : Plan) : List Candidate :=
  (keysFor t d p).filterMap (accepted? (lookupIn (answers m d) p))

/-- The row that a plan looks up, if there is one, can be read and compared. -/
def Sees (m : Nat) (d : Data) (p : Plan) : Prop :=
  ∀ key, p.directKey = some key → d.contains key = true → ∃ y, lookupIn (answers m d) p key = .ok y

/-- An environment in which scans of a store end, for commands of no more than `m` words. -/
structure Fits (v : ScanEnv) (m : Nat) (t : Topology) (d : Data) : Prop where
  words : 6 ≤ m
  batch : 0 < v.settings.scanBatch
  range : v.settings.scanBatch ≤ Number.max64
  masters : v.masters = t.masters
  patience : d.size + 1 < v.patience

variable {m top : Nat} {t : Topology} {d : Data} {c : Context Simulation Link} {p : Plan} {v : ScanEnv}
  {key : String} {x : Scan} {a : Scan.Aim}

/-! ## Looking a key up -/

/-- Whether a key exists is answered as by the store. -/
theorem Serves.existsKey (hc : Serves m top t d c) (hm : 2 ≤ m) (key : String) : ∃ c',
    Dialogue.outcome Context.world (Asking.existsKey key) c = (.ok (d.contains key), c') ∧
      Serves m top t d c' ∧ c'.server.shards = c.server.shards := by
  have hr : (Command.existsKey key).Runs (.countKeys [key]) := Command.runs_existsKey
  have hl : (Command.existsKey key).length ≤ m := hm
  obtain ⟨c', h1, h2, h3⟩ := hc.exec hr (oneSlot_singleton key)
  rw [reply_runs hr hl] at h1 h2
  have hsame (d : Data) : ((KeyCommand.countKeys [key]).run d).2 = d := rfl
  rw [reply_runs hr hl, hsame, withData_self] at h3
  refine ⟨c', ?_, h2, h3⟩
  have hcmd : Dialogue.outcome Context.world (Asking.command (.existsKey key)) c =
      (.ok (.integer ([key].filter d.contains).length), c') := h1
  unfold Asking.existsKey
  rw [Dialogue.outcome_bind_ok hcmd]
  cases hk : d.contains key <;> simp [Asking.integerOf, Reply.integer?, hk]

/-- A lookup that has not been done finds the row of its key, and fails if the row cannot be read, compared
or shown. -/
theorem lookup_serves (a : Scan.Aim) (hv : Fits v m t d) (htop : top ≤ Number.max64)
    (hc : Serves m top t d c) (hk : p.directKey = some key) (hx : x.progress.started = false) (hrows : x.rows.rows = []) : ∃ r x' c',
    Scanning.outcome Context.world (v.lookup p a) x c = (r, x', c') ∧ Serves m top t d c' ∧
      x'.tally = (accepted m t d p).foldl (Tally.gain p v.now a) x.tally ∧ x'.progress.started = true ∧
      x'.progress.cursors = x.progress.cursors ∧
      (r = .ok () ↔ Sees m d p ∧ ∀ y ∈ accepted m t d p, x.tally.gain p v.now a y ≠ x.tally) := by
  obtain ⟨c₁, h1, h2, -⟩ := hc.existsKey (Nat.le_trans (by omega) hv.words) key
  have hkeys : keysFor t d p = [key].filter d.contains := by unfold keysFor; rw [hk]
  have hexists : Scanning.outcome Context.world (Scanning.ofEngine (liftM (Asking.existsKey key)))
      { x with progress := { x.progress with started := true } } c =
        (.ok (d.contains key), { x with progress := { x.progress with started := true } }, c₁) := by
    rw [Scanning.outcome_ofEngine, Engine.outcome_liftM, h1]
    rfl
  unfold ScanEnv.lookup
  rw [Scanning.outcome_bind_ok Scanning.outcome_get, if_neg (by rw [hx]; exact Bool.false_ne_true),
    Scanning.outcome_bind_ok Scanning.outcome_set]
  simp only [hk]
  rw [Scanning.outcome_bind_ok hexists]
  have hsees : Sees m d p ↔ (d.contains key = true → ∃ y, lookupIn (answers m d) p key = .ok y) := by
    refine ⟨fun h => h key hk, fun h k hk' => ?_⟩
    cases hk.symm.trans hk'
    exact h
  cases hb : d.contains key with
  | false =>
    have hnone : accepted m t d p = [] := by
      unfold accepted
      rw [hkeys, List.filter_cons_of_neg (by rw [hb]; exact Bool.false_ne_true)]
      rfl
    refine ⟨.ok (), _, c₁, rfl, h2, ?_, rfl, rfl, ?_⟩
    · rw [hnone]
      rfl
    · rw [hsees, hnone, hb]
      simp
  | true =>
    have hsome : accepted m t d p = (accepted? (lookupIn (answers m d) p) key).toList := by
      unfold accepted
      rw [hkeys, List.filter_cons_of_pos hb, List.filter_nil, List.filterMap_cons]
      cases accepted? (lookupIn (answers m d) p) key <;> rfl
    obtain ⟨r, x', c', g1, g5, -, g7, -, ⟨-, -, g3, g4⟩ | ⟨hfails, -⟩⟩ :=
      Feed.process_feed (F := feed m top t d p v.settings.scanBatch hv.words hv.batch hv.range htop)
        (x := { x with progress := { x.progress with started := true } }) v.now a h2
        (by simp [RowsOf.keys, hrows])
    rotate_left
    · exact hfails.elim
    refine ⟨r.mapError RowError.toEngine, x', c', ?_, g7, ?_, by rw [g5], by rw [g5], ?_⟩
    · rw [if_pos rfl, Scanning.outcome_bind_ok ((Scanning.outcome_attempt _).trans (by rw [g1]))]
      cases r <;> rfl
    · rw [g4, hsome]
      show ((accepted? (lookupIn (answers m d) p) key).map (x.tally.gain p v.now a)).getD x.tally = _
      cases accepted? (lookupIn (answers m d) p) key <;> rfl
    · have hr : r.mapError RowError.toEngine = .ok () ↔ r = .ok () := by
        cases r <;> simp [Except.mapError]
      rw [hr, g3, hsees, hb, hsome]
      simp only [forall_const, Option.mem_toList]
      exact Iff.rfl

/-! ## Carrying a plan out from the beginning -/

/-- Keys that are distinct and have not been seen stand for their rows one by one. -/
theorem fresh_distinct {look : String → Except EngineError (Option Candidate)} {seen ks : List String}
    (hd : ks.Nodup) (hs : ∀ k ∈ ks, k ∉ seen) : fresh look seen ks = ks.filterMap (accepted? look) := by
  induction ks generalizing seen with
  | nil => rfl
  | cons k ks ih =>
    rw [List.nodup_cons] at hd
    have hk : seen.contains k = false := by simpa using hs k List.mem_cons_self
    rw [fresh, if_neg (by rw [hk]; exact Bool.false_ne_true), ih hd.2]
    · rw [List.filterMap_cons]
      cases accepted? look k <;> rfl
    · intro j hj hmem
      rcases List.mem_cons.1 hmem with rfl | hmem
      · exact hd.1 hj
      · exact hs j (List.mem_cons_of_mem _ hj) hmem

theorem keysFor_nodup (hc : Serves m top t d c) : (keysFor t d p).Nodup := by
  unfold keysFor
  split
  · exact (List.nodup_singleton _).filter _
  · rw [← hc.topology]
    exact (scanOrder_nodup hc.healthy).filter _

/-- One row at most is gained as it is drained. -/
theorem foldl_gain {now : Int} {tl : Tally} (ha : tl.reached a = false) {cs : List Candidate}
    (hcs : cs.length ≤ 1) : cs.foldl (Tally.gain p now a) tl = (Tally.drain p now a cs tl).1 := by
  match cs, hcs with
  | [], _ => rfl
  | [y], _ => rw [Tally.drain_cons ha]; rfl

theorem length_accepted_direct (hk : p.directKey = some key) : (accepted m t d p).length ≤ 1 := by
  unfold accepted
  refine Nat.le_trans (List.length_filterMap_le _ _) ?_
  unfold keysFor
  rw [hk]
  exact List.length_filter_le _ _

/-- What a call comes to that begins a scan or does a lookup. -/
theorem advance_start (a : Scan.Aim) (hv : Fits v m t d) (hc : Serves m top t d c)
    (hroom : top + d.size ≤ Number.max64) {blank : Rows} (hblank : blank.rows = [])
    (ha : (⟨0, blank⟩ : Tally).reached a = false) : ∃ r x' c',
    Scanning.outcome Context.world (v.advance p a) ⟨{}, blank⟩ c = (r, x', c') ∧
      Serves m (top + d.size) t d c' ∧
      x'.tally = (Tally.drain p v.now a (accepted m t d p) ⟨0, blank⟩).1 ∧
      (r = .ok () ↔ Sees m d p ∧ (p.directKey.isSome = true →
        ∀ y ∈ accepted m t d p, Tally.gain p v.now a ⟨0, blank⟩ y ≠ ⟨0, blank⟩)) := by
  cases hk : p.directKey with
  | some key =>
    obtain ⟨r, x', c', h1, h2, h3, -, -, h4⟩ := lookup_serves a hv (Nat.le_trans (Nat.le_add_right _ _) hroom)
      hc hk (x := ⟨{}, blank⟩) rfl hblank
    refine ⟨r, x', c', ?_, h2.mono (Nat.le_add_right _ _), ?_, ?_⟩
    · unfold ScanEnv.advance
      rw [hk]
      exact h1
    · rw [h3]
      exact foldl_gain ha (length_accepted_direct hk)
    · rw [h4, Option.isSome_some]
      simp only [forall_const]
      exact Iff.rfl
  | none =>
    have ho : (feed m (top + d.size) t d p v.settings.scanBatch hv.words hv.batch hv.range hroom).Open v
        (d.size + 1) ⟨{}, blank⟩ c ((scanOrder t d).filter (Glob.matchesKey p.pattern)) :=
      open_unbegun hc hv.words hv.batch hv.range hroom (Nat.le_refl _) hv.masters rfl
    obtain ⟨ks', x', c', h1, h2, h3, -⟩ := Feed.advance_open feed_steady rfl hv.patience hk ho hblank a
    refine ⟨.ok (), x', c', h1, h2.calm, ?_, ?_⟩
    · have hrest : Feed.rest (feed m (top + d.size) t d p v.settings.scanBatch hv.words hv.batch hv.range hroom)
          ⟨{}, blank⟩ ((scanOrder t d).filter (Glob.matchesKey p.pattern)) = accepted m t d p := by
        have hkeys : keysFor t d p = (scanOrder t d).filter (Glob.matchesKey p.pattern) := by
          unfold keysFor; rw [hk]
        unfold accepted Feed.rest
        rw [hkeys]
        exact fresh_distinct (hkeys ▸ keysFor_nodup hc) (by simp)
      rw [hrest] at h3
      exact (congrArg Prod.fst h3).symm
    · refine ⟨fun _ => ⟨fun key hkey => ?_, by simp⟩, fun _ => rfl⟩
      rw [hk] at hkey
      cases hkey

theorem lookupIn_key {answer : Command → Except ClusterError Reply} {y : Candidate}
    (h : accepted? (lookupIn answer p) key = some y) : y.key = key := by
  unfold accepted? at h
  split at h
  · next hy => exact lookupIn_found (h ▸ hy)
  · cases h

/-- The rows that a plan accepts have distinct keys. -/
theorem accepted_nodup (hc : Serves m top t d c) : ((accepted m t d p).map Candidate.key).Nodup := by
  unfold accepted
  rw [List.map_filterMap]
  refine (List.Nodup.filterMap ?_ (keysFor_nodup hc))
  intro a b k ha hb
  obtain ⟨y, hy, rfl⟩ := Option.map_eq_some_iff.1 (Option.mem_def.1 ha)
  obtain ⟨z, hz, he⟩ := Option.map_eq_some_iff.1 (Option.mem_def.1 hb)
  rw [← lookupIn_key hy, ← lookupIn_key hz, he]

theorem contains_of_keysFor (hc : Serves m top t d c) (hk : key ∈ keysFor t d p) : d.contains key = true := by
  unfold keysFor at hk
  split at hk
  · exact (List.mem_filter.1 hk).2
  · rw [← hc.topology] at hk
    exact (mem_scanOrder hc.healthy).1 (List.mem_of_mem_filter hk)

/-- No more rows are accepted than there are keys. -/
theorem length_accepted_le (hc : Serves m top t d c) : (accepted m t d p).length ≤ d.size := by
  have hsub : (accepted m t d p).map Candidate.key ⊆ d.keys := by
    intro key hkey
    obtain ⟨y, hy, rfl⟩ := List.mem_map.1 hkey
    obtain ⟨k, hk, hacc⟩ := List.mem_filterMap.1 hy
    exact KeyMap.contains_iff.1 (lookupIn_key hacc ▸ contains_of_keysFor hc hk)
  have hlen := ((accepted_nodup hc).subperm hsub).length_le
  rwa [List.length_map, KeyMap.keys, List.length_map] at hlen

variable {blank : Rows}

theorem new_accepted (hc : Serves m top t d c) (hblank : blank.rows = []) :
    (⟨0, blank⟩ : Tally).New (accepted m t d p) := by
  unfold Tally.New
  rw [show (⟨0, blank⟩ : Tally).rows.keys = [] by simp [RowsOf.keys, hblank]]
  exact accepted_nodup hc

theorem not_mem_blank (hblank : blank.rows = []) {k : String} : k ∉ (⟨0, blank⟩ : Tally).rows.keys := by
  simp [RowsOf.keys, hblank]

/-- What a call without a target collects that begins a scan or does a lookup. -/
theorem all_start (hv : Fits v m t d) (hc : Serves m top t d c) (hroom : top + d.size ≤ Number.max64)
    (hblank : blank.rows = []) (hp : p.countOnly = false) : ∃ r x' c',
    Scanning.outcome Context.world (v.advance p {}) ⟨{}, blank⟩ c = (r, x', c') ∧
      Serves m (top + d.size) t d c' ∧
      x'.rows = { blank with rows := (accepted m t d p).filterMap (p.row? v.now blank.width) } ∧
      (r = .ok () ↔ Sees m d p ∧ (p.directKey.isSome = true →
        ∀ y ∈ accepted m t d p, p.row? v.now blank.width y ≠ none)) := by
  obtain ⟨r, x', c', h1, h2, h3, h4⟩ := advance_start {} hv hc hroom hblank rfl
  rw [Tally.drain_all hp rfl rfl (Nat.zero_le _) (new_accepted hc hblank)] at h3
  refine ⟨r, x', c', h1, h2, ?_, ?_⟩
  · have := congrArg Tally.rows h3
    simp only [Tally.push, Scan.tally, hblank, List.nil_append] at this
    exact this
  · rw [h4]
    refine and_congr_right fun _ => forall_congr' fun _ => forall₂_congr fun y _ => ?_
    exact Tally.gain_ne_iff hp (Nat.le_refl 0) rfl (not_mem_blank hblank)

/-- What a call for the next rows collects that begins a scan or does a lookup. -/
theorem next_start (offset : Nat) {limit : Nat} (hl : 0 < limit) (hv : Fits v m t d)
    (hc : Serves m top t d c) (hroom : top + d.size ≤ Number.max64) (hblank : blank.rows = [])
    (hp : p.countOnly = false) : ∃ r x' c',
    Scanning.outcome Context.world (v.next p offset limit) ⟨{}, blank⟩ c = (r, x', c') ∧
      Serves m (top + d.size) t d c' ∧
      x'.rows = { blank with
        rows := (((accepted m t d p).drop offset).filterMap (p.row? v.now blank.width)).take limit } ∧
      ((∃ n, r = .ok n) ↔ Sees m d p ∧ (p.directKey.isSome = true → offset = 0 →
        ∀ y ∈ accepted m t d p, p.row? v.now blank.width y ≠ none)) := by
  obtain ⟨r, x', c', h1, h2, h3, h4⟩ :=
    advance_start { offset, target := some (offset + limit) } hv hc hroom hblank
      (by simp [Tally.reached]; omega)
  have h3 : x'.tally.rows = _ := (congrArg Tally.rows h3).trans
    (Tally.drain_page v.now hp rfl rfl (Nat.zero_le _) (new_accepted hc hblank)).2.1
  refine ⟨r.map fun _ => if blank.size < x'.rows.size then some x'.progress.accepted else none, x', c', ?_,
    h2, ?_, ?_⟩
  · unfold ScanEnv.next
    rw [Scanning.outcome_bind_ok Scanning.outcome_get]
    cases r with
    | ok _ => rw [Scanning.outcome_bind_ok h1]; rfl
    | error e => rw [Scanning.outcome_bind_error h1]; rfl
  · refine h3.trans ?_
    simp only [Tally.push, hblank, List.nil_append, Nat.sub_zero]
  · have hr : (∃ n, r.map (fun _ => if blank.size < x'.rows.size then some x'.progress.accepted else none) =
        .ok n) ↔ r = .ok () := by
      cases r <;> simp [Except.map]
    rw [hr, h4]
    refine and_congr_right fun _ => forall_congr' fun _ => ?_
    by_cases ho : offset = 0
    · subst ho
      simp only [forall_const]
      refine forall₂_congr fun y _ => ?_
      exact Tally.gain_ne_iff hp (Nat.le_refl 0) rfl (not_mem_blank hblank)
    · refine ⟨fun _ h => absurd h ho, fun _ y _ => Tally.gain_ne_of_pass (.inr (.inl ?_))⟩
      show 0 < offset
      omega

/-! ## Keys of rows -/

/-- The keys of all rows of a plan: those that it accepts and can show. -/
theorem matchingKeys_start (rows : Rows) (hv : Fits v m t d) (hc : Serves m top t d c)
    (hroom : top + d.size ≤ Number.max64) (hp : p.countOnly = false) : ∃ r x' c',
    Scanning.outcome Context.world (v.matchingKeys p) ⟨{}, rows⟩ c = (r, x', c') ∧
      Serves m (top + d.size) t d c' ∧
      (∀ keys, r = .ok keys → keys = ((accepted m t d p).filterMap (p.row? v.now 0)).map RowOf.key) ∧
      ((∃ keys, r = .ok keys) ↔ Sees m d p ∧ (p.directKey.isSome = true →
        ∀ y ∈ accepted m t d p, p.row? v.now 0 y ≠ none)) := by
  obtain ⟨r, x', c', h1, h2, h3, h4⟩ := all_start hv hc hroom (show (⟨"", [], []⟩ : Rows).rows = [] from rfl) hp
  have hfresh := Scanning.outcome_onFreshRows (x := ⟨{}, rows⟩) h1
  refine ⟨r.map fun _ => x'.rows.keys, { x' with rows }, c', ?_, h2, ?_, ?_⟩
  · unfold ScanEnv.matchingKeys
    cases r with
    | ok _ => rw [Scanning.outcome_bind_ok hfresh]; rfl
    | error e => rw [Scanning.outcome_bind_error hfresh]; rfl
  · intro keys hkeys
    cases r with
    | error e => cases hkeys
    | ok _ =>
      rw [← Except.ok.inj hkeys, h3]
      rfl
  · have hr : (∃ keys, r.map (fun _ => x'.rows.keys) = .ok keys) ↔ r = .ok () := by
      cases r <;> simp [Except.map]
    rw [hr, h4]
    rfl

/-! ## Counting -/

/-- The result of counting rows of a plan: one row with one cell. -/
def countRow (n : Nat) : Row := ⟨countColumn, [some (.integer (min n (Number.signedMax 64)))]⟩

/-- Counting the rows of a plan: all that it accepts are counted. -/
theorem count_start (rows : Rows) (hv : Fits v m t d) (hc : Serves m top t d c)
    (hroom : top + d.size ≤ Number.max64) (hp : p.countOnly = true) (ho : p.outputs = [.count]) : ∃ r x' c',
    Scanning.outcome Context.world (v.count p) ⟨{}, rows⟩ c = (r, x', c') ∧ Serves m (top + d.size) t d c' ∧
      (∀ found, r = .ok found → found = { p.emptyRows with rows := [countRow (accepted m t d p).length] }) ∧
      ((∃ found, r = .ok found) ↔ Sees m d p) := by
  obtain ⟨r, x', c', h1, h2, h3, h4⟩ := advance_start
    { collect := p.directKey.isSome } hv hc hroom (show (⟨"", [], []⟩ : Rows).rows = [] from rfl) rfl
  rw [Tally.drain_count rfl (.inl hp)] at h3
  have hcount : x'.progress.accepted = (accepted m t d p).length :=
    (congrArg Tally.accepted h3).trans (Nat.zero_add _)
  have hfresh := Scanning.outcome_onFreshRows (x := ⟨{}, rows⟩) h1
  have hsees : r = .ok () ↔ Sees m d p := by
    rw [h4]
    exact and_iff_left fun _ y _ => Tally.gain_ne_of_pass (.inl hp)
  cases r with
  | error e =>
    refine ⟨.error e, { x' with rows }, c', ?_, h2, ?_, ?_⟩
    · unfold ScanEnv.count
      rw [Scanning.outcome_bind_error hfresh]
    · rintro found ⟨⟩
    · rw [← hsees]
      simp
  | ok _ =>
    refine ⟨.ok { p.emptyRows with rows := [countRow (accepted m t d p).length] }, { x' with rows }, c', ?_,
      h2, ?_, ?_⟩
    · unfold ScanEnv.count
      rw [Scanning.outcome_bind_ok hfresh, Scanning.outcome_bind_ok Scanning.outcome_get]
      simp only [Plan.emptyRows, ho]
      rw [hcount]
      rfl
    · rintro found ⟨⟩
      rfl
    · rw [← hsees]
      simp

end SlotSql.Simulation
