import SlotSql.Proofs.Scan.Pages
/-!
# Retried calls

A call for the next rows can fail when a page of keys or a row cannot be read. What it has found and how
far it has come is kept, so the call can be made again with the same offset, the same limit and the same
result. A page that did not come is asked for again. But a key whose row could not be read has been taken
off the pending ones and noted as seen, so no later call looks at it again: its row is lost, and counts
neither for an offset nor for a limit.

Results:
* `Open.next`: one call, whether it fails or not, keeps what is due for its offset.
* `Retried.settled`: a query that is retried and resumed delivers what is due, the lost rows left out.
-/
namespace SlotSql

open Cluster

variable {σ : Type} {w : World σ} {p : Plan} {batch : Nat}

/-- What a call for the next rows comes to, by what carrying the plan on comes to. -/
theorem ScanEnv.outcome_next {v : ScanEnv} {offset limit : Nat} {x x' : Scan} {s s' : σ} {r : Except EngineError Unit}
    (h : Scanning.outcome w (v.advance p { offset, target := some (offset + limit) }) x s = (r, x', s')) :
    Scanning.outcome w (v.next p offset limit) x s =
      (r.map fun _ => if x.rows.size < x'.rows.size then some x'.progress.accepted else none, x', s') := by
  unfold ScanEnv.next
  rw [Scanning.outcome_bind_ok Scanning.outcome_get]
  cases r with
  | ok _ => rw [Scanning.outcome_bind_ok h]; rfl
  | error e => rw [Scanning.outcome_bind_error h]; rfl

/-- A query is carried out call by call, from an offset and a scan on. A call that fails is made again, with
the same offset, the same limit and the same result. A call that adds rows to its result is followed by one
that takes the count it returned as offset and begins with an empty result. The query ends with the call
that adds no row; its rows are those of all the results. -/
inductive Retried (w : World σ) (v : ScanEnv) (p : Plan) (blank : Rows) :
    (limits : Nat → Nat) → (offset : Nat) → Scan → σ → List Row → Scan → σ → Prop
  | stop {limits : Nat → Nat} {offset : Nat} {x x' : Scan} {s s' : σ}
      (h : Scanning.outcome w (v.next p offset (limits 0)) x s = (.ok none, x', s')) :
      Retried w v p blank limits offset x s x'.rows.rows x' s'
  | more {limits : Nat → Nat} {offset m : Nat} {x x' x'' : Scan} {s s' s'' : σ} {rows : List Row}
      (h : Scanning.outcome w (v.next p offset (limits 0)) x s = (.ok (some m), x', s'))
      (rest : Retried w v p blank (fun i => limits (i + 1)) m { x' with rows := blank } s' rows x'' s'') :
      Retried w v p blank limits offset x s (x'.rows.rows ++ rows) x'' s''
  | retry {limits : Nat → Nat} {offset : Nat} {e : EngineError} {x x' x'' : Scan} {s s' s'' : σ} {rows : List Row}
      (h : Scanning.outcome w (v.next p offset (limits 0)) x s = (.error e, x', s'))
      (rest : Retried w v p blank limits offset x' s' rows x'' s'') :
      Retried w v p blank limits offset x s rows x'' s''

namespace Retried

variable {v : ScanEnv} {blank : Rows} {limits : Nat → Nat} {offset : Nat} {x x'' : Scan} {s s'' : σ} {rows : List Row}

theorem stop_of (h : (Scanning.outcome w (v.next p offset (limits 0)) x s).1.toOption = some none) :
    Retried w v p blank limits offset x s (Scanning.outcome w (v.next p offset (limits 0)) x s).2.1.rows.rows
      (Scanning.outcome w (v.next p offset (limits 0)) x s).2.1
      (Scanning.outcome w (v.next p offset (limits 0)) x s).2.2 := by
  generalize hr : Scanning.outcome w (v.next p offset (limits 0)) x s = r at h
  obtain ⟨_ | _, x', s'⟩ := r
  · cases h
  · cases h
    exact .stop hr

theorem more_of {m : Nat} (h : (Scanning.outcome w (v.next p offset (limits 0)) x s).1.toOption = some (some m))
    (rest : Retried w v p blank (fun i => limits (i + 1)) m
      { (Scanning.outcome w (v.next p offset (limits 0)) x s).2.1 with rows := blank }
      (Scanning.outcome w (v.next p offset (limits 0)) x s).2.2 rows x'' s'') :
    Retried w v p blank limits offset x s
      ((Scanning.outcome w (v.next p offset (limits 0)) x s).2.1.rows.rows ++ rows) x'' s'' := by
  generalize hr : Scanning.outcome w (v.next p offset (limits 0)) x s = r at h rest
  obtain ⟨_ | _, x', s'⟩ := r
  · cases h
  · cases h
    exact .more hr rest

theorem retry_of (h : (Scanning.outcome w (v.next p offset (limits 0)) x s).1.toOption = none)
    (rest : Retried w v p blank limits offset (Scanning.outcome w (v.next p offset (limits 0)) x s).2.1
      (Scanning.outcome w (v.next p offset (limits 0)) x s).2.2 rows x'' s'') :
    Retried w v p blank limits offset x s rows x'' s'' := by
  generalize hr : Scanning.outcome w (v.next p offset (limits 0)) x s = r at h rest
  obtain ⟨_ | _, x', s'⟩ := r
  · exact .retry hr rest
  · cases h

end Retried

namespace Feed

variable {F : Feed w p batch} {v : ScanEnv} {n offset limit : Nat} {x x' : Scan} {s s' : σ} {ks ks' : List String}
  {look : String → Except EngineError (Option Candidate)}

/-- A lookup whose rows have the keys that they are found at, and which finds at the keys that a scan has
come to see what the scan has found there. -/
structure Agrees (F : Feed w p batch) (look : String → Except EngineError (Option Candidate)) (before after : List String)
    (s : σ) : Prop where
  key : ∀ k c, accepted? look k = some c → c.key = k
  finds : ∀ k ∈ after, k ∉ before → F.Finds s look k

/-- The lookup that finds nothing at the keys whose rows could not be read. -/
noncomputable def found (F : Feed w p batch) (s : σ) (k : String) : Except EngineError (Option Candidate) :=
  open Classical in if F.Lost s k then .ok none else F.look k

theorem accepted?_found (F : Feed w p batch) (s : σ) (k : String) :
    (F.Lost s k → accepted? (F.found s) k = none) ∧ (¬ F.Lost s k → accepted? (F.found s) k = accepted? F.look k) := by
  constructor <;> intro h
  · unfold accepted? found
    rw [if_pos h]
  · unfold accepted? found
    rw [if_neg h]

theorem agrees_found (F : Feed w p batch) (before after : List String) (s : σ) :
    F.Agrees (F.found s) before after s := by
  refine ⟨fun k c h => ?_, fun k _ _ => F.accepted?_found s k⟩
  by_cases hl : F.Lost s k
  · rw [(F.accepted?_found s k).1 hl] at h
    cases h
  · rw [(F.accepted?_found s k).2 hl] at h
    exact F.accepted?_key h

open Classical in
/-- The rows found are those of keys that are not lost. -/
theorem filterMap_found (F : Feed w p batch) (s : σ) (ks : List String) :
    ks.filterMap (accepted? (F.found s)) = (ks.filterMap (accepted? F.look)).filter fun c => ¬ F.Lost s c.key := by
  induction ks with
  | nil => rfl
  | cons k ks ih =>
    obtain ⟨hlost, hkept⟩ := F.accepted?_found s k
    by_cases hl : F.Lost s k
    · rw [List.filterMap_cons_none (hlost hl), ih]
      cases hacc : accepted? F.look k with
      | none => rw [List.filterMap_cons_none hacc]
      | some c => rw [List.filterMap_cons_some hacc, List.filter_cons_of_neg (by simpa [F.accepted?_key hacc] using hl)]
    · cases hacc : accepted? F.look k with
      | none => rw [List.filterMap_cons_none hacc, List.filterMap_cons_none ((hkept hl).trans hacc), ih]
      | some c =>
        rw [List.filterMap_cons_some hacc, List.filterMap_cons_some ((hkept hl).trans hacc), ih,
          List.filter_cons_of_pos (by simpa [F.accepted?_key hacc] using hl)]

/-- A scan has come from `x` to `x'`, whether or not it failed on the way, and owes for an offset the rows that
it owed before. -/
structure Settles (F : Feed w p batch) (now : Int) (offset : Nat) (x : Scan) (ks : List String) (s : σ) (x' : Scan)
    (ks' : List String) (s' : σ) : Prop where
  seen : ∀ k ∈ x.progress.seen, k ∈ x'.progress.seen
  lost : ∀ k ∈ x.progress.seen, (F.Lost s' k ↔ F.Lost s k)
  width : x'.rows.width = x.rows.width
  due : ∀ look, F.Agrees look x.progress.seen x'.progress.seen s' →
    Tally.due p now offset (fresh look x.progress.seen ks) x.tally =
      Tally.due p now offset (fresh look x'.progress.seen ks') x'.tally

theorem apart_fresh (hkey : ∀ k c, accepted? look k = some c → c.key = k) (hf : x.Fair) :
    x.tally.Apart (fresh look x.progress.seen ks) :=
  ⟨fresh_nodup hkey, fun _ hc hk => (mem_fresh hkey hc).2.1 (hf _ hk)⟩

/-- What a scan that collects has come to owes the same as before, and the rows that it has collected are those
that it has counted behind the offset. -/
theorem Advances.settles {now : Int} {a : Scan.Aim} (hp : p.countOnly = false) (hc : a.collect = true) (hf : x.Fair)
    (h : Advances F now a x ks s x' ks' s') : F.Settles now a.offset x ks s x' ks' s' ∧
      max x'.progress.accepted a.offset + x.rows.size = max x.progress.accepted a.offset + x'.rows.size := by
  have hdrain {look : String → Except EngineError (Option Candidate)}
      (hl : F.Agrees look x.progress.seen x'.progress.seen s') :
      Tally.drain p now a (fresh look x.progress.seen ks) x.tally =
        Tally.drain p now a (fresh look x'.progress.seen ks') x'.tally := by
    have := h.drain look hl.finds []
    rwa [List.append_nil, List.append_nil] at this
  have hdue {look : String → Except EngineError (Option Candidate)} (x : Scan) (ks : List String) (hf : x.Fair)
      (hkey : ∀ k c, accepted? look k = some c → c.key = k) :=
    Tally.due_drain (a := a) now hp hc (show x.tally.Apart (fresh look x.progress.seen ks) from apart_fresh hkey hf)
  have hfound := F.agrees_found x.progress.seen x'.progress.seen s'
  refine ⟨⟨h.seen, h.lost, ?_, fun look hl => ?_⟩, ?_⟩
  · have h1 := congrArg (fun r => r.1.rows.width) (hdrain hfound)
    simp only [Tally.width_drain] at h1
    exact h1.symm
  · rw [← (hdue x ks hf hl.key).1, ← (hdue x' ks' h.fair.rows hl.key).1, hdrain hl]
  · have h1 := (hdue x ks hf hfound.key).2
    have h2 := (hdue x' ks' h.fair.rows hfound.key).2
    rw [← hdrain hfound] at h2
    simp only [Scan.tally] at h1 h2
    omega

/-- One call for the next rows: it keeps what is due. If it ends without a row, nothing more is to come; if it
ends with rows, the offset is behind it; if it fails, it can be made again. -/
theorem Open.next (hb : v.settings.scanBatch = batch) (hn : n < v.patience) (hp : p.directKey = none)
    (hc : p.countOnly = false) (hpos : 0 < limit) (ho : F.Open v n x s ks) (hf : x.Fair)
    (hlim : x.progress.accepted < offset + limit) : ∃ r ks' x' s',
    Scanning.outcome w (v.next p offset limit) x s = (r, x', s') ∧ F.Open v n x' s' ks' ∧ x'.Fair ∧
      F.Settles v.now offset x ks s x' ks' s' ∧
      match r with
      | .ok none => ks' = []
      | .ok (some m) => m = x'.progress.accepted ∧ offset < m
      | .error _ => x'.progress.accepted < offset + limit := by
  obtain ⟨r, ks', x', s', h1, h2, h3, h4⟩ :=
    ho.advance hb hn hp hf { offset, target := some (offset + limit) }
  obtain ⟨hsettles, hcount⟩ := h3.settles hc rfl hf
  simp only at hcount
  refine ⟨_, ks', x', s', ScanEnv.outcome_next h1, h2, h3.fair.rows, hsettles, ?_⟩
  have hreached : x'.tally.reached { offset, target := some (offset + limit) } = true ↔
      offset + limit ≤ x'.progress.accepted := decide_eq_true_iff
  rcases h4 with ⟨rfl, h4⟩ | ⟨-, ⟨e, rfl⟩, h4⟩
  · by_cases hmore : x.rows.size < x'.rows.size
    · simp only [Except.map, if_pos hmore]
      exact ⟨trivial, by omega⟩
    · simp only [Except.map, if_neg hmore]
      rw [hreached] at h4
      exact (h4.resolve_left (by omega)).2
  · rw [← Bool.not_eq_true, hreached] at h4
    exact Nat.lt_of_not_le h4

/-- A query that is retried and resumed until a call adds no row delivers what is due to it: the rows of the keys
to come, those whose rows could not be read left out. -/
theorem Retried.settled {blank : Rows} (hb : v.settings.scanBatch = batch) (hn : n < v.patience)
    (hp : p.directKey = none) (hc : p.countOnly = false) (hblank : blank.rows = []) {limits : Nat → Nat}
    {rows : List Row} (h : Retried w v p blank limits offset x s rows x' s') (hl : ∀ i, 0 < limits i)
    (ho : F.Open v n x s ks) (hf : x.Fair) (hlim : x.progress.accepted < offset + limits 0)
    (hwidth : x.rows.width = blank.width) :
    F.Calm s' ∧ (∀ k ∈ x.progress.seen, k ∈ x'.progress.seen) ∧
      (∀ k ∈ x.progress.seen, (F.Lost s' k ↔ F.Lost s k)) ∧
      ∀ look, F.Agrees look x.progress.seen x'.progress.seen s' →
        rows = Tally.due p v.now offset (fresh look x.progress.seen ks) x.tally := by
  induction h generalizing ks with
  | stop h =>
    obtain ⟨r, ks₁, x₁, s₁, g1, g2, -, g3, g4⟩ := ho.next hb hn hp hc (hl 0) hf hlim
    cases h.symm.trans g1
    subst g4
    refine ⟨g2.calm, g3.seen, g3.lost, fun look hlook => ?_⟩
    rw [g3.due look hlook]
    simp [Tally.due, fresh, Scan.tally]
  | @more limits offset m x x₁ x₂ s s₁ s₂ rows h _ ih =>
    obtain ⟨r, ks₁, x₁, s₁, g1, g2, -, g3, g4⟩ := ho.next hb hn hp hc (hl 0) hf hlim
    cases h.symm.trans g1
    obtain ⟨rfl, hoff⟩ := g4
    obtain ⟨e1, e2, e3, e4⟩ := ih (fun i => hl (i + 1)) (g2.withRows blank)
      (by simp [Scan.Fair, RowsOf.keys, hblank]) (Nat.lt_add_of_pos_right (hl 1)) rfl
    refine ⟨e1, fun k hk => e2 k (g3.seen k hk), fun k hk => (e3 k (g3.seen k hk)).trans (g3.lost k hk),
      fun look hlook => ?_⟩
    -- The first call owes what it has collected and, its offset being reached, all that the next one owes.
    rw [g3.due look ⟨hlook.key, fun k hk hn => (hlook.finds k (e2 k hk) hn).of_lost (e3 k hk)⟩,
      e4 look ⟨hlook.key, fun k hk hn => hlook.finds k hk (mt (g3.seen k) hn)⟩]
    have h0 : offset - x₁.progress.accepted = 0 := by omega
    simp only [Tally.due, Scan.tally, hblank, h0, Nat.sub_self, List.nil_append, List.drop_zero, g3.width, hwidth]
  | @retry limits offset e x x₁ x₂ s s₁ s₂ rows h _ ih =>
    obtain ⟨r, ks₁, x₁, s₁, g1, g2, g2', g3, g4⟩ := ho.next hb hn hp hc (hl 0) hf hlim
    cases h.symm.trans g1
    obtain ⟨e1, e2, e3, e4⟩ := ih hl g2 g2' g4 (g3.width.trans hwidth)
    refine ⟨e1, fun k hk => e2 k (g3.seen k hk), fun k hk => (e3 k (g3.seen k hk)).trans (g3.lost k hk),
      fun look hlook => ?_⟩
    rw [g3.due look ⟨hlook.key, fun k hk hn => (hlook.finds k (e2 k hk) hn).of_lost (e3 k hk)⟩,
      e4 look ⟨hlook.key, fun k hk hn => hlook.finds k hk (mt (g3.seen k) hn)⟩]

end Feed
end SlotSql
