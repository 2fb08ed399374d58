import SlotSql.Proofs.Scan.Feed
/-!
# Pages of results

A query takes rows page by page: each call goes on where the last one stopped and collects the next
rows into a result of its own. Whatever the pages of keys are in which the nodes answer, the pages of
rows are the consecutive pieces of one list, the rows of the keys in the order in which they come.

Results:
* `next_feed`: what one call collects, returns and leaves.
* `advance_feed`: what a call without a target collects.
* `resumed_feed`: the calls of a query that is resumed until no row comes.
-/
namespace SlotSql

open Cluster

variable {σ : Type} {w : World σ} {p : Plan} {batch : Nat}

/-! ## The rows of keys -/

section Fresh

variable {look : String → Except EngineError (Option Candidate)} {seen ks : List String}

theorem mem_fresh (hk : ∀ k c, accepted? look k = some c → c.key = k) {c : Candidate}
    (h : c ∈ fresh look seen ks) : c.key ∈ ks ∧ c.key ∉ seen ∧ accepted? look c.key = some c := by
  induction ks generalizing seen with
  | nil => cases h
  | cons key ks ih =>
    rw [fresh] at h
    split at h
    · exact ⟨List.mem_cons_of_mem _ (ih h).1, (ih h).2⟩
    · next hn =>
      rcases List.mem_append.1 h with h | h
      · have hc := Option.mem_toList.1 h
        have hkey := hk key c hc
        exact ⟨hkey ▸ List.mem_cons_self, by simpa [hkey] using hn, hkey ▸ hc⟩
      · obtain ⟨h1, h2, h3⟩ := ih h
        exact ⟨List.mem_cons_of_mem _ h1, fun hs => h2 (List.mem_cons_of_mem _ hs), h3⟩

theorem fresh_nodup (hk : ∀ k c, accepted? look k = some c → c.key = k) :
    ((fresh look seen ks).map Candidate.key).Nodup := by
  induction ks generalizing seen with
  | nil => exact List.nodup_nil
  | cons key ks ih =>
    rw [fresh]
    split
    · exact ih
    · cases hc : accepted? look key with
      | none => exact ih
      | some c =>
        rw [Option.toList_some, List.singleton_append, List.map_cons, List.nodup_cons]
        refine ⟨fun hm => ?_, ih⟩
        obtain ⟨d, hd, he⟩ := List.mem_map.1 hm
        exact (mem_fresh hk hd).2.1 (by rw [he, hk key c hc]; exact List.mem_cons_self)

end Fresh

namespace Feed

variable {F : Feed w p batch} {v : ScanEnv} {n : Nat} {x : Scan} {s : σ} {ks : List String}

/-! ## One call -/

/-- A scan can go on: it has these keys to come, on no more than `n` pages of any node. -/
structure Open (F : Feed w p batch) (v : ScanEnv) (n : Nat) (x : Scan) (s : σ) (ks : List String) : Prop where
  calm : F.Calm s
  remains : F.Remains s n (cursorsOf v x) ks
  nodes : ((cursorsOf v x).map NodeCursor.node).Nodup
  lost : ∀ k, F.Lost s k → k ∈ x.progress.seen

/-- The rows that a scan has to come. -/
def rest (F : Feed w p batch) (x : Scan) (ks : List String) : List Candidate := fresh F.look x.progress.seen ks

theorem fresh_new (F : Feed w p batch) (ks : List String) (hx : x.rows.rows = []) : x.tally.New (F.rest x ks) := by
  have : x.tally.rows.keys = [] := by simp [Scan.tally, RowsOf.keys, hx]
  unfold Tally.New
  rw [this]
  exact fresh_nodup fun k c h => F.accepted?_key h

/-- A call without a direct key, from an open scan. -/
theorem Open.advance (hb : v.settings.scanBatch = batch) (hn : n < v.patience) (hp : p.directKey = none)
    (ho : F.Open v n x s ks) (hf : x.Fair) (a : Scan.Aim) : ∃ r ks' x' s',
    Scanning.outcome w (v.advance p a) x s = (r, x', s') ∧ F.Open v n x' s' ks' ∧
      Advances F v.now a x ks s x' ks' s' ∧ F.Ends a r x' (x'.progress.isExhausted = true ∧ ks' = []) := by
  obtain ⟨r, ks', x', s', e1, e2, e3, e4, e5, e6, e7⟩ :=
    scan_feed a hb hn ho.calm ⟨hf, ho.lost⟩ ho.remains ho.nodes
  refine ⟨r, ks', x', s', ?_, ⟨e2, e3 ▸ e4, by rw [e3, e5]; exact ho.nodes, e6.fair.lost⟩, e6, e7⟩
  unfold ScanEnv.advance
  rw [hp]
  exact e1

/-- A call from an open scan of a steady feed with an empty result. -/
theorem advance_open (hF : F.Steady) (hb : v.settings.scanBatch = batch) (hn : n < v.patience)
    (hp : p.directKey = none) (ho : F.Open v n x s ks) (hx : x.rows.rows = []) (a : Scan.Aim) : ∃ ks' x' s',
    Scanning.outcome w (v.advance p a) x s = (.ok (), x', s') ∧ F.Open v n x' s' ks' ∧
      Tally.drain p v.now a (F.rest x ks) x.tally = (x'.tally, F.rest x' ks') ∧
      (∀ k ∈ x.progress.seen, k ∈ x'.progress.seen) ∧ x'.Fair ∧
      (x'.tally.reached a = true ∨ x'.progress.isExhausted = true ∧ ks' = []) := by
  have hf : x.Fair := by simp [Scan.Fair, RowsOf.keys, hx]
  obtain ⟨r, ks', x', s', h1, h2, h3, ⟨rfl, h4⟩ | ⟨h, -⟩⟩ := ho.advance hb hn hp hf a
  · refine ⟨ks', x', s', h1, h2, ?_, h3.seen, h3.fair.rows, h4⟩
    have hd := h3.drain F.look (fun k _ _ => ⟨fun h => (hF.lost _ _ h).elim, fun _ => rfl⟩) []
    rw [List.append_nil, List.append_nil] at hd
    unfold rest
    rw [hd]
    rcases h4 with h | ⟨-, rfl⟩
    · exact Tally.drain_of_reached h
    · rfl
  · exact absurd h hF.fails

/-- A call without a target collects every row that comes and can be shown. -/
theorem advance_feed (hF : F.Steady) (hb : v.settings.scanBatch = batch) (hn : n < v.patience) (hp : p.directKey = none)
    (hc : p.countOnly = false) (ho : F.Open v n x s ks) (hx : x.rows.rows = []) : ∃ ks' x' s',
    Scanning.outcome w (v.advance p {}) x s = (.ok (), x', s') ∧ F.Open v n x' s' ks' ∧
      x'.rows = { x.rows with rows := (F.rest x ks).filterMap (p.row? v.now x.rows.width) } ∧
      x'.progress.isExhausted = true := by
  obtain ⟨ks', x', s', h1, h2, h3, -, -, h4⟩ := advance_open hF hb hn hp ho hx {}
  refine ⟨ks', x', s', h1, h2, ?_, ?_⟩
  · rw [Tally.drain_all hc rfl rfl (Nat.zero_le _) (F.fresh_new ks hx)] at h3
    have := congrArg (fun t => t.1.rows) h3
    simp only [Tally.push, Scan.tally, hx, List.nil_append] at this
    exact this.symm
  · rcases h4 with h | h
    · exact absurd h (by simp [Tally.reached])
    · exact h.1

/-- A call for the next rows: it passes over the rows in front of the offset, counting them whether or not
they can be shown, and collects the rows behind it that can be shown. -/
theorem next_feed (hF : F.Steady) (limit : Nat) (hb : v.settings.scanBatch = batch) (hn : n < v.patience) (hp : p.directKey = none)
    (hc : p.countOnly = false) (ho : F.Open v n x s ks) (hx : x.rows.rows = []) {offset : Nat}
    (ha : x.progress.accepted ≤ offset) :
    let skip := offset - x.progress.accepted
    let good := ((F.rest x ks).drop skip).filterMap (p.row? v.now x.rows.width)
    ∃ ks' x' s',
      Scanning.outcome w (v.next p offset limit) x s =
        (.ok (if good.take limit = [] then none else some x'.progress.accepted), x', s') ∧
      F.Open v n x' s' ks' ∧ x'.rows = { x.rows with rows := good.take limit } ∧
      x'.progress.accepted =
        x.progress.accepted + min skip (F.rest x ks).length + min limit good.length ∧
      (F.rest x' ks').filterMap (p.row? v.now x.rows.width) = good.drop limit ∧
      F.rest x' ks' <:+ F.rest x ks ∧ (∀ k ∈ x.progress.seen, k ∈ x'.progress.seen) ∧ x'.Fair ∧
      (offset + limit ≤ x'.progress.accepted ∨ x'.progress.isExhausted = true ∧ ks' = []) := by
  intro skip good
  obtain ⟨ks', x', s', h1, h2, h3, h4, h5, h6⟩ :=
    advance_open hF hb hn hp ho hx { offset, target := some (offset + limit) }
  obtain ⟨g1, g2, g3, -, g5⟩ := Tally.drain_page (p := p) (t := x.tally)
    (a := { offset, target := some (offset + limit) }) v.now hc rfl rfl ha (F.fresh_new ks hx)
  rw [h3] at g1 g2 g3 g5
  have hrows : x'.rows = { x.rows with rows := good.take limit } := by
    refine g2.trans ?_
    simp only [Tally.push, Scan.tally, hx, List.nil_append]
    rfl
  refine ⟨ks', x', s', ?_, h2, hrows, g1, g3, g5, h4, h5, ?_⟩
  · unfold ScanEnv.next
    rw [Scanning.outcome_bind_ok Scanning.outcome_get, Scanning.outcome_bind_ok h1,
      Scanning.outcome_bind_ok Scanning.outcome_get, Scanning.outcome_pure]
    have hs : x.rows.size < x'.rows.size ↔ ¬ good.take limit = [] := by
      rw [hrows]
      simp only [RowsOf.size, hx, List.length_nil, List.length_pos_iff]
    congr 2
    by_cases hg : good.take limit = []
    · rw [if_pos hg, if_neg (by rw [hs]; exact fun h => h hg)]
    · rw [if_neg hg, if_pos (hs.2 hg)]
  · refine h6.imp (fun h => ?_) id
    exact of_decide_eq_true h

theorem Open.withRows (ho : F.Open v n x s ks) (rows : Rows) : F.Open v n { x with rows } s ks := by
  have h : cursorsOf v { x with rows } = cursorsOf v x := by
    unfold cursorsOf Scan.start
    simp only []
    split <;> rfl
  exact ⟨ho.calm, h ▸ ho.remains, h ▸ ho.nodes, ho.lost⟩

end Feed

/-! ## Resumed calls -/

/-- A call for the next rows: its limit, the count that it returned and its result. -/
structure PageCall where
  limit : Nat
  count : Option Nat
  rows : Rows

/-- A query is resumed, from an offset and a scan on, until no row comes: each call has a limit of its
own, begins with an empty result and takes as offset the count that the last one returned. -/
inductive Resumed (w : World σ) (v : ScanEnv) (p : Plan) (blank : Rows) :
    (limits : Nat → Nat) → (offset : Nat) → Scan → σ → List PageCall → Scan → σ → Prop
  | stop {limits : Nat → Nat} {offset : Nat} {x x' : Scan} {s s' : σ}
      (h : Scanning.outcome w (v.next p offset (limits 0)) { x with rows := blank } s = (.ok none, x', s')) :
      Resumed w v p blank limits offset x s [⟨limits 0, none, x'.rows⟩] x' s'
  | more {limits : Nat → Nat} {offset m : Nat} {x x' x'' : Scan} {s s' s'' : σ} {calls : List PageCall}
      (h : Scanning.outcome w (v.next p offset (limits 0)) { x with rows := blank } s = (.ok (some m), x', s'))
      (rest : Resumed w v p blank (fun i => limits (i + 1)) m x' s' calls x'' s'') :
      Resumed w v p blank limits offset x s (⟨limits 0, some m, x'.rows⟩ :: calls) x'' s''

/-- The rows of a list of calls, in order. -/
def rowsOf (calls : List PageCall) : List Row := calls.flatMap fun c => c.rows.rows

/-- The calls deliver these rows, `offset` rows having been delivered before: each of them returns how
many rows have been delivered with it, only the last one returns no count, and each call in front of the
last one with rows is full. -/
structure Delivers (limits : Nat → Nat) (offset : Nat) (calls : List PageCall) (rows : List Row) : Prop where
  rows : rowsOf calls = rows
  call : ∀ i c, calls[i]? = some c → c.limit = limits i ∧ c.rows.size ≤ limits i ∧
    (c.rows.rows = [] ↔ i + 1 = calls.length) ∧
    c.count = if i + 1 = calls.length then none
      else some (offset + (rowsOf (calls.take (i + 1))).length)
  full : ∀ i c, i + 2 < calls.length → calls[i]? = some c → c.rows.size = limits i

theorem Delivers.stop {limits : Nat → Nat} {offset : Nat} {r : Rows} (hr : r.rows = []) :
    Delivers limits offset [⟨limits 0, none, r⟩] [] where
  rows := by simp [rowsOf, hr]
  call := by
    rintro (_ | i) c hc
    · cases hc; exact ⟨rfl, by simp [RowsOf.size, hr], by simp [hr], rfl⟩
    · cases hc
  full := by
    intro i c hi _
    simp only [List.length_singleton] at hi
    omega

theorem Delivers.more {limits : Nat → Nat} {offset : Nat} {r : Rows} {calls : List PageCall} {rows : List Row}
    (h : Delivers (fun i => limits (i + 1)) (offset + r.size) calls rows) (hne : calls ≠ [])
    (hr : r.size ≤ limits 0) (hpos : 0 < r.size) (hfull : 1 < calls.length → r.size = limits 0) :
    Delivers limits offset (⟨limits 0, some (offset + r.size), r⟩ :: calls) (r.rows ++ rows) where
  rows := by rw [← h.rows]; rfl
  call := by
    rintro (_ | i) c hc
    · cases hc
      refine ⟨rfl, hr, ?_, ?_⟩
      · simpa [hne] using List.length_pos_iff.1 hpos
      · rw [if_neg (by simpa using hne)]
        simp [rowsOf, RowsOf.size]
    · obtain ⟨h1, h2, h3, h4⟩ := h.call i c hc
      refine ⟨h1, h2, by simpa using h3, h4.trans ?_⟩
      simp only [List.length_cons, Nat.add_right_cancel_iff]
      congr 2
      simp [rowsOf, RowsOf.size, Nat.add_assoc]
  full := by
    rintro (_ | i) c hi hc
    · cases hc
      exact hfull (by simp only [List.length_cons] at hi; omega)
    · exact h.full i c (by simp only [List.length_cons] at hi; omega) hc

namespace Feed

variable {F : Feed w p batch} {v : ScanEnv} {n : Nat} {x : Scan} {s : σ} {ks : List String} {blank : Rows}

/-- A query that is resumed ends, with the scan exhausted; its calls deliver the rows to come that can
be shown. -/
theorem resumed_feed (hF : F.Steady) (hb : v.settings.scanBatch = batch) (hn : n < v.patience) (hp : p.directKey = none)
    (hc : p.countOnly = false) (hblank : blank.rows = []) (limits : Nat → Nat) (hl : ∀ i, 0 < limits i)
    (ho : F.Open v n x s ks) : ∃ calls x' s',
      Resumed w v p blank limits x.progress.accepted x s calls x' s' ∧
      Delivers limits x.progress.accepted calls ((F.rest x ks).filterMap (p.row? v.now blank.width)) ∧
      x'.progress.isExhausted = true := by
  -- The induction is on the number of rows to come: each call but the last one takes at least one.
  generalize hg : ((F.rest x ks).filterMap (p.row? v.now blank.width)).length = size
  induction size using Nat.strongRecOn generalizing x s ks limits with
  | ind size ih =>
    obtain ⟨ks₁, x₁, s₁, h1, h2, h3, h4, h5, -, -, -, h8⟩ :=
      next_feed (x := { x with rows := blank }) hF (limits 0) hb hn hp hc (ho.withRows blank) hblank
        (Nat.le_refl x.progress.accepted)
    have hrest : F.rest { x with rows := blank } ks = F.rest x ks := rfl
    simp only [Nat.sub_self, List.drop_zero, hrest, Nat.zero_min, Nat.add_zero] at h1 h3 h4 h5 h8
    generalize hgood : (F.rest x ks).filterMap (p.row? v.now blank.width) = good at *
    have hlim := hl 0
    by_cases hnil : good.take (limits 0) = []
    · have hgood' : good = [] := by
        rcases List.take_eq_nil_iff.1 hnil with h | h
        · omega
        · exact h
      rw [if_pos hnil] at h1
      refine ⟨_, x₁, s₁, .stop h1, ?_, ?_⟩
      · rw [hgood']
        exact Delivers.stop (by rw [h3, hnil])
      · rcases h8 with h | h
        · rw [h4, hgood'] at h
          simp only [List.length_nil, Nat.min_zero] at h
          omega
        · exact h.1
    · rw [if_neg hnil] at h1
      have hsize : x₁.rows.size = min (limits 0) good.length := by
        rw [h3]; simp [RowsOf.size]
      have hpos : 0 < min (limits 0) good.length := by
        have : good ≠ [] := fun h => hnil (by rw [h, List.take_nil])
        have := List.length_pos_iff.2 this
        omega
      obtain ⟨calls, x', s', e1, e2, e3⟩ := ih (good.drop (limits 0)).length
        (by rw [List.length_drop]; omega) (fun i => limits (i + 1)) (fun i => hl (i + 1)) h2
        (congrArg List.length h5)
      have hcount : x₁.progress.accepted = x.progress.accepted + x₁.rows.size := by rw [h4, hsize]
      have hpart : x₁.rows.rows ++ good.drop (limits 0) = good := by
        rw [h3]; exact List.take_append_drop _ _
      refine ⟨_, x', s', .more h1 e1, ?_, e3⟩
      have hne : calls ≠ [] := by cases e1 <;> simp
      rw [h5, hcount] at e2
      rw [hcount, ← hpart]
      refine Delivers.more e2 hne (by omega) (by omega) fun hlong => ?_
      -- A second call with rows means that the first one left some.
      have : good.drop (limits 0) ≠ [] := by
        intro h
        rw [h] at e2
        obtain ⟨c, cs, rfl⟩ := List.exists_cons_of_ne_nil hne
        have hc := (e2.call 0 c rfl).2.2.1.1 (List.append_eq_nil_iff.1 e2.rows).1
        omega
      rw [hsize]
      have := List.length_pos_iff.2 this
      rw [List.length_drop] at this
      omega

end Feed
end SlotSql
