import SlotSql.Engine.Scan
/-!
# What a scan makes of the rows it meets

Nodes offer keys; a key that is met for the first time may stand for a row that the plan accepts. What
a scan then does with that row depends only on how many rows it has accepted and which it has
collected. Both halves are stated here without the cluster: `fresh` is the list of rows that a list
of keys stands for, and `drain` is what a scan does with a list of rows until it has reached its aim.

Results:
* `drain_page`: a scan with an offset and a target passes over the rows in front of the offset and
  collects the next ones that can be shown.
* `drain_all`, `drain_count`: a scan without a target collects, or counts, all of them.
* `due_drain`: what a scan owes for an offset stays the same, however often it stops on the way.
-/
namespace SlotSql

/-- The row of the result for a row of the table, if all its cells can be computed. -/
def Plan.row? (p : Plan) (now : Int) (width : Nat) (c : Candidate) : Option Row :=
  match p.outputs.mapM (Scan.cell now c) with
  | .error _ => none
  | .ok cells => some (RowOf.resize ⟨c.key, cells⟩ width)

theorem Plan.row?_key {p : Plan} {now : Int} {width : Nat} {c : Candidate} {r : Row}
    (h : p.row? now width c = some r) : r.key = c.key := by
  unfold Plan.row? at h
  split at h
  · cases h
  · cases h; rfl

/-- Every row can be shown if the result has no columns. -/
theorem Plan.row?_of_bare {p : Plan} (hp : p.outputs = []) (now : Int) (width : Nat) (c : Candidate) :
    ∃ r, p.row? now width c = some r ∧ r.key = c.key := by
  unfold Plan.row?
  rw [hp]
  exact ⟨_, rfl, rfl⟩

theorem Plan.keys_of_bare {p : Plan} (hp : p.outputs = []) (now : Int) (width : Nat) (cs : List Candidate) :
    (cs.filterMap (p.row? now width)).map RowOf.key = cs.map Candidate.key := by
  induction cs with
  | nil => rfl
  | cons c cs ih =>
    obtain ⟨r, hr, hk⟩ := p.row?_of_bare hp now width c
    rw [List.filterMap_cons_some hr, List.map_cons, ih, hk]
    rfl

/-- Rows of the result have distinct keys if the rows of the table have. -/
theorem Plan.rows_nodup {p : Plan} {now : Int} {width : Nat} {cs : List Candidate}
    (h : (cs.map Candidate.key).Nodup) : ((cs.filterMap (p.row? now width)).map RowOf.key).Nodup := by
  induction cs with
  | nil => exact List.nodup_nil
  | cons c cs ih =>
    rw [List.map_cons, List.nodup_cons] at h
    cases hr : p.row? now width c with
    | none => rw [List.filterMap_cons_none hr]; exact ih h.2
    | some r =>
      rw [List.filterMap_cons_some hr, List.map_cons, List.nodup_cons]
      refine ⟨fun hm => ?_, ih h.2⟩
      obtain ⟨r', hr', he⟩ := List.mem_map.1 hm
      obtain ⟨d, hd, hd'⟩ := List.mem_filterMap.1 hr'
      refine h.1 (List.mem_map.2 ⟨d, hd, ?_⟩)
      rw [← Plan.row?_key hd', he, Plan.row?_key hr]

/-- How many rows a scan has accepted, and which it has collected. -/
structure Tally where
  accepted : Nat
  rows : Rows

namespace Tally

/-- Whether a scan has reached its aim. -/
def reached (a : Scan.Aim) (t : Tally) : Bool := a.target.any (· ≤ t.accepted)

/-- The tally after a row that the plan accepts. -/
def gain (p : Plan) (now : Int) (a : Scan.Aim) (t : Tally) (c : Candidate) : Tally :=
  match Scan.collected p now a ⟨{ accepted := t.accepted }, t.rows⟩ c with
  | .error _ => t
  | .ok rows => ⟨t.accepted + 1, rows⟩

/-- The tally after the rows of a list, and the rows that are left when the aim is reached. -/
def drain (p : Plan) (now : Int) (a : Scan.Aim) : List Candidate → Tally → Tally × List Candidate
  | [], t => (t, [])
  | c :: cs, t => if t.reached a then (t, c :: cs) else drain p now a cs (t.gain p now a c)

/-- The tally with some more rows collected. -/
def push (t : Tally) (rows : List Row) : Tally :=
  ⟨t.accepted + rows.length, { t.rows with rows := t.rows.rows ++ rows }⟩

variable {p : Plan} {now : Int} {a : Scan.Aim} {t : Tally} {c : Candidate} {cs : List Candidate}

theorem push_nil : t.push [] = t := by simp [push]

theorem push_push (xs ys : List Row) : (t.push xs).push ys = t.push (xs ++ ys) := by
  simp [push, Nat.add_assoc]

theorem keys_push (xs : List Row) : (t.push xs).rows.keys = t.rows.keys ++ xs.map RowOf.key := by
  simp [push, RowsOf.keys]

theorem width_push (xs : List Row) : (t.push xs).rows.width = t.rows.width := rfl

theorem drain_nil : drain p now a [] t = (t, []) := rfl

theorem drain_of_reached (h : t.reached a = true) : drain p now a cs t = (t, cs) := by
  cases cs with
  | nil => rfl
  | cons c cs => rw [drain, if_pos h]

theorem drain_cons (h : t.reached a = false) :
    drain p now a (c :: cs) t = drain p now a cs (t.gain p now a c) := by
  rw [drain, h]; rfl

/-! ## One row -/

theorem gain_of_pass (h : p.countOnly = true ∨ t.accepted < a.offset ∨ a.collect = false) :
    t.gain p now a c = ⟨t.accepted + 1, t.rows⟩ := by
  have : (p.countOnly || decide (t.accepted < a.offset) || !a.collect) = true := by
    rcases h with h | h | h <;> simp [h]
  unfold gain Scan.collected
  rw [if_pos this]

/-- A row behind the offset is collected if it can be shown; if not, it does not count at all. -/
theorem gain_of_collect (now : Int) (hp : p.countOnly = false) (ha : a.offset ≤ t.accepted)
    (hc : a.collect = true) (hk : c.key ∉ t.rows.keys) :
    t.gain p now a c = t.push (p.row? now t.rows.width c).toList := by
  have h : ¬ (p.countOnly || decide (t.accepted < a.offset) || !a.collect) = true := by
    simp [hp, hc]; omega
  unfold gain Scan.collected Plan.row?
  rw [if_neg h]
  cases p.outputs.mapM (Scan.cell now c) with
  | error e => exact push_nil.symm
  | ok cells =>
    have : t.rows.keys.contains c.key = false := by simpa using hk
    simp only [RowsOf.add, RowsOf.insert, this]
    rfl

theorem gain_ne_of_pass (h : p.countOnly = true ∨ t.accepted < a.offset ∨ a.collect = false) :
    t.gain p now a c ≠ t := by
  rw [gain_of_pass h]
  exact fun h => Nat.succ_ne_self _ (congrArg Tally.accepted h)

/-- A row to collect is gained just when it can be shown. -/
theorem gain_ne_iff (hp : p.countOnly = false) (ha : a.offset ≤ t.accepted) (hc : a.collect = true)
    (hk : c.key ∉ t.rows.keys) : t.gain p now a c ≠ t ↔ p.row? now t.rows.width c ≠ none := by
  rw [gain_of_collect now hp ha hc hk]
  cases p.row? now t.rows.width c with
  | none => simp [push_nil]
  | some r => simpa using fun h : t.push [r] = t => Nat.succ_ne_self _ (congrArg Tally.accepted h)

/-! ## Lists of rows -/

/-- A scan that collects nothing counts all the rows. -/
theorem drain_count (ht : a.target = none) (hc : p.countOnly = true ∨ a.collect = false) :
    drain p now a cs t = (⟨t.accepted + cs.length, t.rows⟩, []) := by
  have hr (t : Tally) : t.reached a = false := by simp [reached, ht]
  induction cs generalizing t with
  | nil => rfl
  | cons c cs ih =>
    rw [drain_cons (hr t), gain_of_pass (hc.imp_right .inr), ih, List.length_cons]
    simp only [Nat.add_assoc, Nat.add_comm 1]

/-- Rows in front of the offset are counted only. -/
theorem drain_pass (ht : a.target.all (a.offset ≤ ·) = true) (n : Nat)
    (hn : t.accepted + n ≤ a.offset) (hl : n ≤ cs.length) :
    drain p now a cs t = drain p now a (cs.drop n) ⟨t.accepted + n, t.rows⟩ := by
  induction n generalizing t cs with
  | zero => rfl
  | succ n ih =>
    cases cs with
    | nil => simp at hl
    | cons c cs =>
      have hr : t.reached a = false := by
        unfold reached
        cases h : a.target with
        | none => rfl
        | some m =>
          rw [h] at ht
          simp only [Option.all_some, decide_eq_true_eq] at ht
          simp only [Option.any_some, decide_eq_false_iff_not]; omega
      rw [drain_cons hr, gain_of_pass (.inr (.inl (by omega))), ih (by simp only; omega) (by simpa using hl)]
      simp only [List.drop_succ_cons, Nat.add_assoc, Nat.add_comm 1]

/-- Rows are new to a tally if it has none of their keys and no two of them have the same. -/
def New (t : Tally) (cs : List Candidate) : Prop := (t.rows.keys ++ cs.map Candidate.key).Nodup

theorem New.head (h : t.New (c :: cs)) : c.key ∉ t.rows.keys := by
  have := (List.nodup_append.1 h).2.2
  intro hk
  exact this _ hk _ (by simp) rfl

theorem New.tail (h : t.New (c :: cs)) {width : Nat} :
    (t.push (p.row? now width c).toList).New cs := by
  unfold New at *
  rw [keys_push]
  cases hr : p.row? now width c with
  | none =>
    refine h.sublist ?_
    simp
  | some r => simpa [Plan.row?_key hr] using h

theorem New.drop (h : t.New cs) (n : Nat) : t.New (cs.drop n) := by
  unfold New at *
  refine h.sublist (List.Sublist.append (List.Sublist.refl _) ?_)
  exact (List.drop_sublist n cs).map _

/-- Behind the offset, a scan collects the rows that can be shown until there are enough. -/
theorem drain_collect (now : Int) (hp : p.countOnly = false) (hc : a.collect = true) {n : Nat}
    (ht : a.target = some n) (ha : a.offset ≤ t.accepted) (hk : t.New cs) :
    let good := cs.filterMap (p.row? now t.rows.width)
    let r := drain p now a cs t
    r.1 = t.push (good.take (n - t.accepted)) ∧
      r.2.filterMap (p.row? now t.rows.width) = good.drop (n - t.accepted) ∧
      (r.1.reached a = true ∨ r.2 = []) ∧ r.2 <:+ cs := by
  induction cs generalizing t with
  | nil => simp [drain, push_nil]
  | cons c cs ih =>
    by_cases hr : n ≤ t.accepted
    · have h : t.reached a = true := by simp [reached, ht, hr]
      have h0 : n - t.accepted = 0 := by omega
      rw [drain_of_reached h, h0]
      exact ⟨by simp [push_nil], rfl, .inl h, List.suffix_refl _⟩
    · have h : t.reached a = false := by simp [reached, ht]; omega
      have hstep := gain_of_collect now hp ha hc hk.head
      rw [drain_cons h, hstep]
      obtain ⟨h1, h2, h3, h4⟩ := ih (t := t.push (p.row? now t.rows.width c).toList)
        (by simp only [push]; omega) hk.tail
      rw [width_push] at h1 h2
      refine ⟨?_, ?_, h3, h4.trans (List.suffix_cons c cs)⟩
      · rw [h1, push_push]
        cases hrow : p.row? now t.rows.width c with
        | none => simp [push, hrow]
        | some r =>
          have : n - t.accepted = (n - (t.accepted + 1)) + 1 := by omega
          simp [push, hrow, this]
      · rw [h2]
        cases hrow : p.row? now t.rows.width c with
        | none => simp [push, hrow]
        | some r =>
          have : n - t.accepted = (n - (t.accepted + 1)) + 1 := by omega
          simp [push, hrow, this]

/-- A scan without a target collects every row that can be shown. -/
theorem drain_all (hp : p.countOnly = false) (hc : a.collect = true) (ht : a.target = none)
    (ha : a.offset ≤ t.accepted) (hk : t.New cs) :
    drain p now a cs t = (t.push (cs.filterMap (p.row? now t.rows.width)), []) := by
  have hr (t : Tally) : t.reached a = false := by simp [reached, ht]
  induction cs generalizing t with
  | nil => simp [drain, push_nil]
  | cons c cs ih =>
    rw [drain_cons (hr t), gain_of_collect now hp ha hc hk.head,
      ih (by simp only [push]; omega) hk.tail, push_push, width_push]
    cases hrow : p.row? now t.rows.width c <;> simp [hrow]

/-- A page: rows in front of the offset are counted, whether or not they can be shown, and of the rows
behind it those are collected that can be. -/
theorem drain_page (now : Int) (hp : p.countOnly = false) (hc : a.collect = true) {limit : Nat}
    (ht : a.target = some (a.offset + limit)) (ha : t.accepted ≤ a.offset) (hk : t.New cs) :
    let skip := a.offset - t.accepted
    let good := (cs.drop skip).filterMap (p.row? now t.rows.width)
    let r := drain p now a cs t
    r.1.accepted = t.accepted + min skip cs.length + min limit good.length ∧
      r.1.rows = (t.push (good.take limit)).rows ∧
      r.2.filterMap (p.row? now t.rows.width) = good.drop limit ∧
      (r.1.reached a = true ∨ r.2 = []) ∧ r.2 <:+ cs := by
  intro skip good r
  have hr : r = drain p now a (cs.drop (min skip cs.length)) ⟨t.accepted + min skip cs.length, t.rows⟩ :=
    drain_pass (by simp [ht]) _ (by omega) (Nat.min_le_right _ _)
  rcases Nat.lt_or_ge cs.length skip with hs | hs
  · -- There are too few rows: all of them are counted.
    have hm : min skip cs.length = cs.length := by omega
    have hg : good = [] := by simp [good, List.drop_eq_nil_of_le (Nat.le_of_lt hs)]
    rw [hm, List.drop_length, drain_nil] at hr
    rw [hr, hg, hm]
    simp [push]
  · have hm : min skip cs.length = skip := by omega
    rw [hm] at hr ⊢
    have hn : (a.offset + limit) - (t.accepted + skip) = limit := by omega
    obtain ⟨h1, h2, h3, h4⟩ := drain_collect (t := ⟨t.accepted + skip, t.rows⟩) now hp hc ht
      (by simp only; omega) (hk.drop skip)
    simp only [hn] at h1 h2
    rw [← hr] at h1 h2 h3 h4
    refine ⟨?_, ?_, h2, h3, h4.trans (List.drop_suffix skip cs)⟩
    · rw [h1]; simp [push, good]
    · rw [h1]; rfl

/-- A row that can be shown is gained. -/
theorem gain_ne_of_bare (now : Int) (ho : p.outputs = []) (hp : p.countOnly = false) (hc : a.collect = true)
    (hk : c.key ∉ t.rows.keys) : t.gain p now a c ≠ t := by
  rcases Nat.lt_or_ge t.accepted a.offset with hlt | hge
  · exact gain_ne_of_pass (.inr (.inl hlt))
  · refine (gain_ne_iff hp hge hc hk).2 ?_
    obtain ⟨r, hr, -⟩ := p.row?_of_bare ho now t.rows.width c
    rw [hr]
    exact Option.some_ne_none r

/-- A page of rows all of which can be shown: what is left begins behind it. -/
theorem drain_bare (now : Int) (ho : p.outputs = []) (hp : p.countOnly = false) (hc : a.collect = true)
    {limit : Nat} (ht : a.target = some (a.offset + limit)) (ha : t.accepted ≤ a.offset) (hk : t.New cs)
    (hrows : t.rows.rows = []) :
    let skip := a.offset - t.accepted
    let r := drain p now a cs t
    r.1.accepted = t.accepted + min (skip + limit) cs.length ∧
      r.1.rows.keys = ((cs.drop skip).take limit).map Candidate.key ∧ r.2 = cs.drop (skip + limit) := by
  intro skip r
  obtain ⟨h1, h2, h3, -, h5⟩ := drain_page now hp hc ht ha hk
  have hlength (cs : List Candidate) : (cs.filterMap (p.row? now t.rows.width)).length = cs.length := by
    rw [← List.length_map (f := RowOf.key), p.keys_of_bare ho, List.length_map]
  refine ⟨?_, ?_, ?_⟩
  · have hgood := hlength (cs.drop (a.offset - t.accepted))
    rw [List.length_drop] at hgood
    rw [h1, hgood]
    show _ = t.accepted + min (a.offset - t.accepted + limit) cs.length
    omega
  · have := congrArg (fun rows : Rows => rows.rows.map RowOf.key) h2
    simp only [push, hrows, List.nil_append] at this
    show r.1.rows.rows.map RowOf.key = _
    rw [this, List.map_take, p.keys_of_bare ho, List.map_take]
  · -- What is left is a part of the end, and of the right length.
    have hlen := congrArg List.length h3
    rw [hlength, List.length_drop, hlength, List.length_drop] at hlen
    show _ = cs.drop (a.offset - t.accepted + limit)
    rw [List.suffix_iff_eq_drop.1 h5, hlen, List.drop_eq_drop_iff]
    omega

/-! ## Rows due -/

/-- The rows that a result is to hold for an offset: those that it has, and of the rows to come those behind
the offset that can be shown. -/
def due (p : Plan) (now : Int) (offset : Nat) (cs : List Candidate) (t : Tally) : List Row :=
  t.rows.rows ++ (cs.drop (offset - t.accepted)).filterMap (p.row? now t.rows.width)

theorem width_add {rows rows' : Rows} {key : String} {cells : List (Option Cell)}
    (h : rows.add key cells = .ok rows') : rows'.width = rows.width := by
  unfold RowsOf.add RowsOf.insert at h
  split at h
  · cases h
  · cases h
    rfl

theorem width_gain : (t.gain p now a c).rows.width = t.rows.width := by
  unfold gain
  split
  · rfl
  · next rows h =>
    unfold Scan.collected at h
    split at h
    · cases h
      rfl
    · split at h
      · cases h
      · split at h
        · cases h
        · next hadd =>
          cases h
          exact width_add hadd

theorem width_drain : (drain p now a cs t).1.rows.width = t.rows.width := by
  induction cs generalizing t with
  | nil => rfl
  | cons c cs ih =>
    rw [drain]
    split
    · rfl
    · exact ih.trans width_gain

/-- Rows to come whose keys a result does not have yet; no two of them have the same. -/
structure Apart (t : Tally) (cs : List Candidate) : Prop where
  nodup : (cs.map Candidate.key).Nodup
  new : ∀ c ∈ cs, c.key ∉ t.rows.keys

theorem Apart.pass (h : t.Apart (c :: cs)) (n : Nat) : (⟨n, t.rows⟩ : Tally).Apart cs :=
  ⟨(List.nodup_cons.1 h.nodup).2, fun d hd => h.new d (List.mem_cons_of_mem _ hd)⟩

theorem Apart.tail (h : t.Apart (c :: cs)) {width : Nat} : (t.push (p.row? now width c).toList).Apart cs := by
  obtain ⟨hc, hcs⟩ := List.nodup_cons.1 h.nodup
  refine ⟨hcs, fun d hd hk => ?_⟩
  rw [keys_push] at hk
  rcases List.mem_append.1 hk with hk | hk
  · exact h.new d (List.mem_cons_of_mem _ hd) hk
  · obtain ⟨r, hr, hrk⟩ := List.mem_map.1 hk
    rw [Plan.row?_key (Option.mem_toList.1 hr)] at hrk
    exact hc (hrk ▸ List.mem_map_of_mem hd)

/-- What is due for an offset stays the same while a scan takes rows, and the rows it collects are those
that it counts behind the offset. -/
theorem due_drain (now : Int) (hp : p.countOnly = false) (hc : a.collect = true) (hk : t.Apart cs) :
    let r := drain p now a cs t
    due p now a.offset r.2 r.1 = due p now a.offset cs t ∧
      max r.1.accepted a.offset + t.rows.size = max t.accepted a.offset + r.1.rows.size := by
  induction cs generalizing t with
  | nil => exact ⟨rfl, rfl⟩
  | cons c cs ih =>
    by_cases hr : t.reached a = true
    · rw [drain_of_reached hr]
      exact ⟨rfl, rfl⟩
    · rw [drain_cons (by simpa using hr)]
      rcases Nat.lt_or_ge t.accepted a.offset with hlt | hge
      · -- A row in front of the offset is counted only.
        rw [gain_of_pass (.inr (.inl hlt))]
        obtain ⟨h1, h2⟩ := ih (hk.pass _)
        have hdrop : a.offset - t.accepted = (a.offset - (t.accepted + 1)) + 1 := by omega
        refine ⟨h1.trans ?_, ?_⟩
        · unfold due
          rw [hdrop, List.drop_succ_cons]
        · simp only at h2
          omega
      · rw [gain_of_collect now hp hge hc (hk.new c List.mem_cons_self)]
        obtain ⟨h1, h2⟩ := ih hk.tail
        have h0 : a.offset - t.accepted = 0 := by omega
        have h0' : a.offset - (t.push (p.row? now t.rows.width c).toList).accepted = 0 := by
          simp only [push]
          omega
        refine ⟨h1.trans ?_, ?_⟩
        · unfold due
          rw [h0, h0', List.drop_zero, List.drop_zero, width_push]
          cases hrow : p.row? now t.rows.width c <;> simp [push, hrow]
        · simp only [push, RowsOf.size, List.length_append] at h2 ⊢
          omega

end Tally
end SlotSql
