import SlotSql.Proofs.Simulation.Scan
import SlotSql.Proofs.Text.Integer
import Mathlib.Data.List.Infix
import Mathlib.Logic.Function.Basic
/-!
# Iterations of scans

Clients go through the keys of a shard by scans: each begins without a cursor, sends the cursor of one page for the next,
and ends with the page that has none. Any number of clients do so at once, each in its own time, while commands change
the data. A cursor stands for the key at which the next page begins. That key can be gone by then; the page begins where
it would be.

So the keys below an open cursor are behind the client, and all others are to come. That is the invariant: the keys that
were found are below the cursor, and those that were always there and match are found or at least as great as it.

Results:
* `scan_others`: a scan leaves the cursors of all others as they are.
* `Orderly.step`: what every step keeps of all iterations.
* `Passed.step`: what every step keeps of a key that is there.
* `scans_safe`: the three promises to each iteration.
-/
namespace SlotSql.Simulation

open SlotSql.Cluster SlotSql.Store

/-! ## Clients -/

/-- Whether a client asks for another page, and with which cursor. -/
inductive Stage where
  | asking (cursor : Nat)
  | ended
  /-- The last reply was not a page. -/
  | refused
  deriving DecidableEq

/-- A client that goes through the keys that match a pattern, and the keys that it has been given. -/
structure Iteration where
  pattern : String
  stage : Stage := .asking 0
  found : List String := []

/-- A client that has not asked for a page yet. -/
def Iteration.Unbegun (it : Iteration) : Prop := it.stage = .asking 0 ∧ it.found = []

/-- The page that a reply holds. -/
def pageOf? : Reply → Option Asking.Page
  | .array [cursor, .array keys] => do
    let cursor ← Number.digits? 10 (← cursor.text?).toList
    some ⟨cursor, keys.filterMap Reply.text?⟩
  | _ => none

/-- A client after the reply to its request. -/
def Iteration.receive (it : Iteration) (r : Reply) : Iteration :=
  match pageOf? r with
  | some q => { it with
      stage := if q.cursor = 0 then .ended else .asking q.cursor
      found := it.found ++ q.keys }
  | none => { it with stage := .refused }

theorem pageOf?_reply (q : Asking.Page) : pageOf? q.reply = some q := by
  have htext (t : String) : (Reply.ofText t).text? = some t := by
    show some (Utf8.decodeLossy (Utf8.bytes t)) = some t
    rw [Utf8.decodeLossy_bytes]
  have hkeys : (q.keys.map Reply.ofText).filterMap Reply.text? = q.keys := by
    rw [List.filterMap_map, show Reply.text? ∘ Reply.ofText = some from funext htext, List.filterMap_some]
  have hcursor : Number.digits? 10 (toString q.cursor).toList = some q.cursor := by
    have : (toString q.cursor).toList = Nat.toDigits 10 q.cursor := Nat.toList_repr
    rw [this, Number.digits?_toDigits (by omega) (by omega)]
  unfold Asking.Page.reply pageOf?
  simp only [htext, Option.bind_eq_bind, Option.bind_some, hcursor, hkeys]

theorem receive_page (it : Iteration) (q : Asking.Page) : it.receive q.reply = { it with
    stage := if q.cursor = 0 then .ended else .asking q.cursor
    found := it.found ++ q.keys } := by
  unfold Iteration.receive
  rw [pageOf?_reply]

/-- A shard and the clients that go through its keys. -/
structure Scanned (ι : Type) where
  shard : Shard
  clients : ι → Iteration

/-- What happens to a shard: a command on its keys, or the request of a client for some keys. -/
inductive Event (ι : Type) where
  | command (c : KeyCommand)
  | request (x : ι) (count : Nat)

namespace Scanned

variable {ι : Type} [DecidableEq ι]

/-- One event. A client that has ended asks for nothing. -/
def step (w : Scanned ι) : Event ι → Scanned ι
  | .command c => { w with shard := { w.shard with data := (c.run w.shard.data).2 } }
  | .request x count =>
    match (w.clients x).stage with
    | .asking cursor =>
      let (r, h) := w.shard.scan { cursor, pattern := (w.clients x).pattern, count }
      ⟨h, Function.update w.clients x ((w.clients x).receive r)⟩
    | _ => w

/-- Events one after another. -/
def run (w : Scanned ι) (es : List (Event ι)) : Scanned ι := es.foldl step w

end Scanned

/-! ## One scan -/

/-- A cursor that stands for a key has been given out. -/
theorem Shard.Fresh.lt {h : Shard} {c : Nat} {k : String} (hf : h.Fresh) (hk : h.cursors.lookup c = some k) :
    c < h.nextCursor := by
  obtain ⟨before, after, he, -⟩ := List.lookup_eq_some_iff.1 hk
  exact (hf.2 (c, k) (he ▸ List.mem_append_right _ List.mem_cons_self)).2

theorem lookup_filter_others {c used : Nat} (hc : c ≠ used) (cs : List (Nat × String)) :
    (cs.filter fun e => e.1 != used).lookup c = cs.lookup c := by
  induction cs with
  | nil => rfl
  | cons e cs ih =>
    obtain ⟨n, k⟩ := e
    by_cases hn : n = used
    · have hne : (c == n) = false := by simpa [hn] using hc
      rw [List.filter_cons_of_neg (by simp [hn]), ih, List.lookup_cons, hne]
    · rw [List.filter_cons_of_pos (by simp [hn]), List.lookup_cons, List.lookup_cons, ih]

/-- A scan leaves the cursors of all others as they are. -/
theorem scan_others {h : Shard} {r : ScanRequest} {c : Nat} (hc : c ≠ r.cursor) (hn : c < h.nextCursor) :
    (h.scan r).2.cursors.lookup c = h.cursors.lookup c := by
  have hadd (key : String) (cs : List (Nat × String)) : ((h.nextCursor, key) :: cs).lookup c = cs.lookup c := by
    have hne : (c == h.nextCursor) = false := by simpa using Nat.ne_of_lt hn
    rw [List.lookup_cons, hne]
  unfold Shard.scan
  by_cases h0 : r.cursor = 0
  · simp only [h0, ↓reduceIte]
    split
    · rfl
    · exact hadd _ _
  · simp only [if_neg h0]
    cases hk : h.cursors.lookup r.cursor with
    | none => rfl
    | some key =>
      simp only [Option.map_some]
      split
      · exact lookup_filter_others hc _
      · exact (hadd _ _).trans (lookup_filter_others hc _)

/-- From a key on, there are the keys that are not below it. -/
theorem mem_keysFrom {d : Data} {j k : String} : j ∈ d.keysFrom k ↔ j ∈ d.keys ∧ ¬ j < k := by
  have h (keys : List String) (hs : keys.Pairwise (· < ·)) : j ∈ keys.dropWhile (· < k) ↔ j ∈ keys ∧ ¬ j < k := by
    induction keys with
    | nil => simp
    | cons a as ih =>
      obtain ⟨h1, h2⟩ := List.pairwise_cons.1 hs
      by_cases ha : a < k
      · rw [List.dropWhile_cons_of_pos (by simpa using ha), ih h2, List.mem_cons]
        exact ⟨fun h => ⟨.inr h.1, h.2⟩, fun h => ⟨h.1.resolve_left fun he => h.2 (he ▸ ha), h.2⟩⟩
      · rw [List.dropWhile_cons_of_neg (by simpa using ha)]
        refine ⟨fun hj => ⟨hj, fun hlt => ha ?_⟩, fun h => h.1⟩
        rcases List.mem_cons.1 hj with rfl | hj
        · exact hlt
        · exact String.lt_trans (h1 j hj) hlt
  exact h d.keys d.keys_sorted

/-! ## All clients -/

namespace Scanned

variable {ι : Type} [DecidableEq ι] {w : Scanned ι} {x y : ι} {c count : Nat} {key : String}

/-- The cursors of the clients are their own, and what a client has found is below its cursor. -/
structure Consistent (w : Scanned ι) : Prop where
  fresh : w.shard.Fresh
  answered : ∀ x, (w.clients x).stage ≠ .refused
  nodup : ∀ x, (w.clients x).found.Nodup
  unbegun : ∀ x, (w.clients x).stage = .asking 0 → (w.clients x).found = []
  below : ∀ x c, (w.clients x).stage = .asking c → c ≠ 0 →
    ∃ k, w.shard.cursors.lookup c = some k ∧ ∀ f ∈ (w.clients x).found, f < k
  apart : ∀ x y c, (w.clients x).stage = .asking c → (w.clients y).stage = .asking c → c ≠ 0 → x = y

/-- What a request changes: the client gets the keys of its next page, and a cursor for those behind them if there are
any. No other cursor is touched. -/
structure Served (w w' : Scanned ι) (x : ι) (c count : Nat) (ks : List String) (q : Asking.Page) : Prop where
  resumes : w.shard.Resumes c ks
  keys : q.keys = (ks.take count).filter (Glob.matchesKey (w.clients x).pattern)
  data : w'.shard.data = w.shard.data
  fresh : w'.shard.Fresh
  clients : w'.clients = Function.update w.clients x { w.clients x with
    stage := if q.cursor = 0 then .ended else .asking q.cursor
    found := (w.clients x).found ++ q.keys }
  others : ∀ c', c' ≠ c → c' < w.shard.nextCursor → w'.shard.cursors.lookup c' = w.shard.cursors.lookup c'
  behind : ks.drop count = [] ∧ q.cursor = 0 ∨ ks.drop count ≠ [] ∧ q.cursor = w.shard.nextCursor ∧ q.cursor ≠ 0 ∧
    ∃ k, w'.shard.cursors.lookup q.cursor = some k ∧ ks.drop count = w.shard.data.keysFrom k

/-- A client that asks is served. -/
theorem Consistent.served (h : w.Consistent) (hx : (w.clients x).stage = .asking c) (count : Nat) :
    ∃ ks q, Served w (w.step (.request x count)) x c count ks q := by
  obtain ⟨ks, hks⟩ : ∃ ks, w.shard.Resumes c ks := by
    by_cases h0 : c = 0
    · exact ⟨_, .inl ⟨h0, rfl⟩⟩
    · obtain ⟨k, hk, -⟩ := h.below x c hx h0
      exact ⟨_, .inr ⟨h0, k, hk, rfl⟩⟩
  obtain ⟨q, h', hscan, hkeys, hfresh, hrest, hbehind⟩ :=
    Shard.scan_resumes h.fresh (r := { cursor := c, pattern := (w.clients x).pattern, count }) hks
  have hdata : h'.data = w.shard.data := by rw [hrest]
  have hstep : w.step (.request x count) = ⟨h', Function.update w.clients x ((w.clients x).receive q.reply)⟩ := by
    unfold step
    simp only [hx, hscan]
  rw [receive_page] at hstep
  refine ⟨ks, q, hks, hkeys, by rw [hstep]; exact hdata, by rw [hstep]; exact hfresh, by rw [hstep], fun c' hc hn => ?_, ?_⟩
  · have := scan_others (r := { cursor := c, pattern := (w.clients x).pattern, count }) hc hn
    rw [hscan] at this
    rw [hstep]
    exact this
  · rw [hstep]
    rcases hbehind with ⟨h1, h2, -⟩ | ⟨h1, h2, -, h3⟩
    · exact .inl ⟨h1, h2⟩
    · have h0 : q.cursor ≠ 0 := by
        rw [h2]
        exact Nat.ne_of_gt h.fresh.1
      obtain ⟨-, k, hk, hdrop⟩ := h3.resolve_left fun h => h0 h.1
      exact .inr ⟨h1, h2, h0, k, hk, hdata ▸ hdrop⟩

namespace Served

variable {w' : Scanned ι} {ks : List String} {q : Asking.Page}

theorem self (hs : Served w w' x c count ks q) : w'.clients x = { w.clients x with
    stage := if q.cursor = 0 then .ended else .asking q.cursor
    found := (w.clients x).found ++ q.keys } := by
  rw [hs.clients, Function.update_self]

theorem other (hs : Served w w' x c count ks q) (hy : y ≠ x) : w'.clients y = w.clients y := by
  rw [hs.clients, Function.update_of_ne hy]

theorem mem_keys (hs : Served w w' x c count ks q) (hf : key ∈ q.keys) : key ∈ ks.take count := by
  rw [hs.keys] at hf
  exact (List.mem_filter.1 hf).1

theorem sublist (hs : Served w w' x c count ks q) : ks.Sublist w.shard.data.keys := hs.resumes.suffix.sublist

/-- What the client had found before is below the keys that were to come. -/
theorem found_lt (h : w.Consistent) (hx : (w.clients x).stage = .asking c) (hs : Served w w' x c count ks q) {f : String}
    (hf : f ∈ (w.clients x).found) (hkey : key ∈ ks) : f < key := by
  rcases hs.resumes with ⟨h0, -⟩ | ⟨h0, k, hk, rfl⟩
  · rw [h.unbegun x (h0 ▸ hx)] at hf
    cases hf
  · obtain ⟨k', hk', hbelow⟩ := h.below x c hx h0
    cases hk.symm.trans hk'
    have hge := (mem_keysFrom.1 hkey).2
    rcases Std.Trichotomous.rel_or_eq_or_rel_swap (r := (· < · : String → String → Prop)) (a := key) (b := k) with h | h | h
    · exact absurd h hge
    · exact h ▸ hbelow f hf
    · exact String.lt_trans (hbelow f hf) h

/-- The client goes on at a key above all that it has found. -/
theorem below (h : w.Consistent) (hx : (w.clients x).stage = .asking c) (hn : 0 < count)
    (hs : Served w w' x c count ks q) (h0 : q.cursor ≠ 0) : ∃ k, w'.shard.cursors.lookup q.cursor = some k ∧
      ks.drop count = w.shard.data.keysFrom k ∧ ∀ f ∈ (w.clients x).found ++ q.keys, f < k := by
  obtain ⟨hdrop, -, -, k, hk, hfrom⟩ := hs.behind.resolve_left fun h => h0 h.2
  have htake : ∀ f ∈ ks.take count, f < k := by
    intro f hf
    have hkey : f ∈ w.shard.data.keys := hs.sublist.subset (List.mem_of_mem_take hf)
    have hnodup : (ks.take count ++ ks.drop count).Nodup := by
      rw [List.take_append_drop]
      exact w.shard.data.keys_nodup.sublist hs.sublist
    by_contra hlt
    have hin : f ∈ ks.drop count := by
      rw [hfrom]
      exact mem_keysFrom.2 ⟨hkey, hlt⟩
    exact (List.nodup_append.1 hnodup).2.2 f hf f hin rfl
  -- A page with keys behind it is not empty.
  obtain ⟨j, hj⟩ : ∃ j, j ∈ ks.take count := by
    refine List.exists_mem_of_ne_nil _ fun he => hdrop ?_
    rcases List.take_eq_nil_iff.1 he with h | h
    · omega
    · rw [h, List.drop_nil]
  refine ⟨k, hk, hfrom, fun f hf => ?_⟩
  rcases List.mem_append.1 hf with hf | hf
  · exact String.lt_trans (hs.found_lt h hx hf (List.mem_of_mem_take hj)) (htake j hj)
  · exact htake f (hs.mem_keys hf)

/-- The cursors of the other clients are what they were. -/
theorem lookup_other (h : w.Consistent) (hx : (w.clients x).stage = .asking c) (hs : Served w w' x c count ks q)
    (hy : y ≠ x) {c' : Nat} (hc : (w.clients y).stage = .asking c') (h0 : c' ≠ 0) :
    c' < w.shard.nextCursor ∧ w'.shard.cursors.lookup c' = w.shard.cursors.lookup c' := by
  obtain ⟨k, hk, -⟩ := h.below y c' hc h0
  have hlt := h.fresh.lt hk
  exact ⟨hlt, hs.others c' (fun he => hy (h.apart y x c' hc (he ▸ hx) h0)) hlt⟩

end Served

/-- A request keeps all clients consistent. -/
theorem Consistent.request (h : w.Consistent) (hn : 0 < count) (hx : (w.clients x).stage = .asking c) :
    (w.step (.request x count)).Consistent := by
  obtain ⟨ks, q, hs⟩ := h.served hx count
  have hself {c' : Nat} (hc : ((w.step (.request x count)).clients x).stage = .asking c') :
      c' = q.cursor ∧ q.cursor ≠ 0 := by
    rw [hs.self] at hc
    by_cases h0 : q.cursor = 0
    · simp [h0] at hc
    · simp only [h0, ↓reduceIte, Stage.asking.injEq] at hc
      exact ⟨hc.symm, h0⟩
  have hfresh {y : ι} {c' : Nat} (hy : y ≠ x) (hc : (w.clients y).stage = .asking c') (h0 : c' ≠ 0)
      (hq : q.cursor ≠ 0) : c' ≠ q.cursor := by
    obtain ⟨-, hnext, -⟩ := hs.behind.resolve_left fun h => hq h.2
    have := (hs.lookup_other h hx hy hc h0).1
    omega
  refine ⟨hs.fresh, fun y => ?_, fun y => ?_, fun y hy => ?_, fun y c' hc h0 => ?_, fun y z c' hy hz h0 => ?_⟩
  · by_cases hy : y = x
    · subst hy
      rw [hs.self]
      dsimp only
      split <;> exact Stage.noConfusion
    · rw [hs.other hy]
      exact h.answered y
  · by_cases hy : y = x
    · subst hy
      rw [hs.self]
      have hkeys : q.keys.Nodup := by
        rw [hs.keys]
        exact (w.shard.data.keys_nodup.sublist ((List.take_sublist _ _).trans hs.sublist)).filter _
      refine List.nodup_append.2 ⟨h.nodup y, hkeys, fun f hf f' hf' he => ?_⟩
      have hlt := hs.found_lt h hx hf (List.mem_of_mem_take (hs.mem_keys hf'))
      exact String.lt_irrefl _ (he ▸ hlt)
    · rw [hs.other hy]
      exact h.nodup y
  · by_cases he : y = x
    · subst he
      exact absurd (hself hy).1.symm (hself hy).2
    · rw [hs.other he] at hy ⊢
      exact h.unbegun y hy
  · by_cases he : y = x
    · subst he
      obtain ⟨rfl, hq⟩ := hself hc
      obtain ⟨k, hk, -, hbelow⟩ := hs.below h hx hn hq
      rw [hs.self]
      exact ⟨k, hk, hbelow⟩
    · rw [hs.other he] at hc ⊢
      rw [(hs.lookup_other h hx he hc h0).2]
      exact h.below y c' hc h0
  · by_cases hyx : y = x
    · by_cases hzx : z = x
      · rw [hyx, hzx]
      · subst hyx
        obtain ⟨rfl, hq⟩ := hself hy
        rw [hs.other hzx] at hz
        exact absurd rfl (hfresh hzx hz h0 hq)
    · by_cases hzx : z = x
      · subst hzx
        obtain ⟨rfl, hq⟩ := hself hz
        rw [hs.other hyx] at hy
        exact absurd rfl (hfresh hyx hy h0 hq)
      · rw [hs.other hyx] at hy
        rw [hs.other hzx] at hz
        exact h.apart y z c' hy hz h0

/-- A client that has ended asks for nothing. -/
theorem step_idle (hx : ∀ c, (w.clients x).stage ≠ .asking c) : w.step (.request x count) = w := by
  simp only [step]

/-- Every request is for at least one key. -/
def Counts (es : List (Event ι)) : Prop := ∀ x n, .request x n ∈ es → 0 < n

/-- Every event keeps all clients consistent. -/
theorem Consistent.step (h : w.Consistent) {e : Event ι} (he : ∀ x n, e = .request x n → 0 < n) :
    (w.step e).Consistent := by
  cases e with
  | command c => exact ⟨h.fresh, h.answered, h.nodup, h.unbegun, h.below, h.apart⟩
  | request x n =>
    cases hx : (w.clients x).stage with
    | asking c => exact h.request (he x n rfl) hx
    | _ =>
      rw [step_idle fun c hc => by rw [hx] at hc; cases hc]
      exact h

/-! ## A key that is there -/

/-- A client that has passed a key has found it. -/
structure Passed (w : Scanned ι) (x : ι) (key : String) : Prop where
  asking : ∀ c k, (w.clients x).stage = .asking c → c ≠ 0 → w.shard.cursors.lookup c = some k → key < k →
    key ∈ (w.clients x).found
  ended : (w.clients x).stage = .ended → key ∈ (w.clients x).found

omit [DecidableEq ι] in
/-- A client that has not begun has passed no key. -/
theorem passed_unbegun (hx : (w.clients x).Unbegun) : w.Passed x key where
  asking c k hc h0 := by
    rw [hx.1] at hc
    cases hc
    exact absurd rfl h0
  ended he := by
    rw [hx.1] at he
    cases he

/-- When a client is served, it finds the keys that it passes. -/
theorem Passed.request (h : w.Consistent) (hp : w.Passed x key) (hx : (w.clients x).stage = .asking c) (hn : 0 < count)
    (hmatch : Glob.matchesKey (w.clients x).pattern key = true) (hkey : key ∈ w.shard.data.keys) :
    (w.step (.request x count)).Passed x key := by
  obtain ⟨ks, q, hs⟩ := h.served hx count
  have hbefore : key ∈ (w.clients x).found ∨ key ∈ ks := by
    rcases hs.resumes with ⟨-, rfl⟩ | ⟨h0, k, hk, rfl⟩
    · exact .inr hkey
    · by_cases hlt : key < k
      · exact .inl (hp.asking c k hx h0 hk hlt)
      · exact .inr (mem_keysFrom.2 ⟨hkey, hlt⟩)
  have hafter : key ∈ (w.clients x).found ++ q.keys ∨ key ∈ ks.drop count := by
    rw [List.mem_append]
    rcases hbefore with hf | hin
    · exact .inl (.inl hf)
    · rw [← List.take_append_drop count ks] at hin
      refine (List.mem_append.1 hin).imp (fun hin => .inr ?_) id
      rw [hs.keys]
      exact List.mem_filter.2 ⟨hin, hmatch⟩
  refine ⟨fun c' k hc h0 hk hlt => ?_, fun hended => ?_⟩
  all_goals rw [hs.self] at *
  · by_cases hq : q.cursor = 0
    · simp [hq] at hc
    · simp only [hq, ↓reduceIte, Stage.asking.injEq] at hc
      subst hc
      obtain ⟨k', hk', hdrop, -⟩ := hs.below h hx hn hq
      cases hk.symm.trans hk'
      exact hafter.resolve_right fun hin => (mem_keysFrom.1 (hdrop ▸ hin)).2 hlt
  · by_cases hq : q.cursor = 0
    · have hdrop : ks.drop count = [] := (hs.behind.resolve_right fun h => h.2.2.1 hq).1
      rw [hdrop] at hafter
      exact hafter.resolve_right List.not_mem_nil
    · simp [hq] at hended

/-- Every event keeps it so while the key is there. -/
theorem Passed.step (h : w.Consistent) (hp : w.Passed x key) {e : Event ι} (he : ∀ x n, e = .request x n → 0 < n)
    (hmatch : Glob.matchesKey (w.clients x).pattern key = true) (hkey : key ∈ w.shard.data.keys) :
    (w.step e).Passed x key := by
  cases e with
  | command c => exact ⟨hp.asking, hp.ended⟩
  | request y n =>
    cases hy : (w.clients y).stage with
    | asking c =>
      by_cases hxy : x = y
      · subst hxy
        exact hp.request h hy (he x n rfl) hmatch hkey
      · obtain ⟨ks, q, hs⟩ := h.served hy n
        refine ⟨fun c' k hc h0 hk => ?_, fun hended => ?_⟩
        all_goals rw [hs.other hxy] at *
        · rw [(hs.lookup_other h hy hxy hc h0).2] at hk
          exact hp.asking c' k hc h0 hk
        · exact hp.ended hended
    | _ =>
      rw [step_idle fun c hc => by rw [hy] at hc; cases hc]
      exact hp

/-! ## Whole runs -/

theorem run_append (es₁ es₂ : List (Event ι)) : w.run (es₁ ++ es₂) = (w.run es₁).run es₂ := List.foldl_append

/-- The pattern of a client is fixed. -/
theorem pattern_step (w : Scanned ι) (e : Event ι) (x : ι) : ((w.step e).clients x).pattern = (w.clients x).pattern := by
  cases e with
  | command c => rfl
  | request y n =>
    simp only [step]
    split
    · by_cases hxy : x = y
      · subst hxy
        simp only [Function.update_self]
        unfold Iteration.receive
        split <;> rfl
      · simp only [Function.update_of_ne hxy]
    · rfl

theorem pattern_run (es : List (Event ι)) (w : Scanned ι) (x : ι) :
    ((w.run es).clients x).pattern = (w.clients x).pattern := by
  induction es generalizing w with
  | nil => rfl
  | cons e es ih => exact (ih _).trans (pattern_step w e x)

theorem Consistent.run (h : w.Consistent) {es : List (Event ι)} (hes : Counts es) : (w.run es).Consistent := by
  induction es generalizing w with
  | nil => exact h
  | cons e es ih =>
    exact ih (h.step fun x n he => hes x n (he ▸ List.mem_cons_self)) fun x n he => hes x n (List.mem_cons_of_mem _ he)

theorem Passed.run (h : w.Consistent) (hp : w.Passed x key) {es : List (Event ι)} (hes : Counts es)
    (hmatch : Glob.matchesKey (w.clients x).pattern key = true)
    (hkey : ∀ before, before <+: es → key ∈ (w.run before).shard.data.keys) : (w.run es).Passed x key := by
  induction es generalizing w with
  | nil => exact hp
  | cons e es ih =>
    have he : ∀ x n, e = .request x n → 0 < n := fun x n he => hes x n (he ▸ List.mem_cons_self)
    exact ih (h.step he) (hp.step h he hmatch (hkey [] List.nil_prefix))
      (fun x n he => hes x n (List.mem_cons_of_mem _ he)) (by rw [pattern_step]; exact hmatch)
      fun before hb => hkey (e :: before) (List.cons_prefix_cons.2 ⟨rfl, hb⟩)

omit [DecidableEq ι] in
/-- Clients that have not begun are consistent. -/
theorem consistent_unbegun (hf : w.shard.Fresh) (hw : ∀ x, (w.clients x).Unbegun) : w.Consistent where
  fresh := hf
  answered x h := by rw [(hw x).1] at h; cases h
  nodup x := by rw [(hw x).2]; exact .nil
  unbegun x _ := (hw x).2
  below x c hc h0 := by
    rw [(hw x).1] at hc
    cases hc
    exact absurd rfl h0
  apart x y c hc _ h0 := by
    rw [(hw x).1] at hc
    cases hc
    exact absurd rfl h0

end Scanned

/-- **Scans are safe.** However the requests of any number of clients and commands on the keys of a shard follow one
another:
* no client is given a key twice, and none is refused;
* a client that has ended has been given every key that matches its pattern and was there from its first request to its
  last;
* the cursor of a client stands for a key and for no other client, and still does so when another client is served. -/
theorem scans_safe {ι : Type} [DecidableEq ι] {w : Scanned ι} (hf : w.shard.Fresh) (hw : ∀ x, (w.clients x).Unbegun)
    {es : List (Event ι)} (hes : Scanned.Counts es) :
    (∀ x, ((w.run es).clients x).found.Nodup ∧ ((w.run es).clients x).stage ≠ .refused) ∧
      (∀ x before during key, es = before ++ during → ((w.run before).clients x).Unbegun →
        ((w.run es).clients x).stage = .ended → Glob.matchesKey (w.clients x).pattern key = true →
        (∀ between, between <+: during → (w.run (before ++ between)).shard.data.contains key = true) →
          key ∈ ((w.run es).clients x).found) ∧
      ∀ x y c n, y ≠ x → ((w.run es).clients y).stage = .asking c → c ≠ 0 →
        ((w.run es).clients x).stage ≠ .asking c ∧ ∃ k, (w.run es).shard.cursors.lookup c = some k ∧
          ((w.run es).step (.request x n)).shard.cursors.lookup c = some k := by
  have hstart := Scanned.consistent_unbegun hf hw
  have hrun := hstart.run hes
  refine ⟨fun x => ⟨hrun.nodup x, hrun.answered x⟩, ?_, ?_⟩
  · rintro x before during key rfl hx hended hmatch hkey
    rw [Scanned.run_append] at hended ⊢
    refine (Scanned.Passed.run (hstart.run fun y n he => hes y n (List.mem_append_left _ he)) (Scanned.passed_unbegun hx)
      (fun y n he => hes y n (List.mem_append_right _ he)) ?_ fun between hb => ?_).ended hended
    · rw [Scanned.pattern_run]
      exact hmatch
    · rw [← Scanned.run_append, KeyMap.mem_keys_iff]
      exact hkey between hb
  · intro x y c n hy hc h0
    obtain ⟨k, hk, -⟩ := hrun.below y c hc h0
    refine ⟨fun hx => hy (hrun.apart y x c hc hx h0), k, hk, ?_⟩
    by_cases hx : ∃ c', ((w.run es).clients x).stage = .asking c'
    · obtain ⟨c', hx⟩ := hx
      obtain ⟨ks, q, hs⟩ := hrun.served hx n
      rw [(hs.lookup_other hrun hx hy hc h0).2, hk]
    · rw [Scanned.step_idle fun c' hc' => hx ⟨c', hc'⟩, hk]

/-- Four keys, and two clients that go through all of them. -/
def fourKeys : Scanned Bool where
  shard := ⟨0, 5460, 0, (KeyCommand.insertAll .empty (["a", "b", "c", "d"].map (·, .set .empty))).2, [], 1⟩
  clients _ := { pattern := "*" }

/-- Both clients have begun when the keys at which their next pages begin are deleted and others come in. -/
def halfway : List (Event Bool) :=
  [.request false 1, .request true 2, .command (.del ["b", "c"]), .command (.sadd "aa" ["x"]), .command (.sadd "cc" ["x"])]

/-- Both go on to the end. -/
def remainder : List (Event Bool) := [.request false 5, .request true 1, .request true 1]

/-- The deleted key is found by the client that had passed it, and the last key by both. -/
theorem scans_safe_halfway :
    ((fourKeys.run (halfway ++ remainder)).clients false).found = ["a", "cc", "d"] ∧
      ((fourKeys.run (halfway ++ remainder)).clients true).found = ["a", "b", "cc", "d"] ∧
      ((fourKeys.run (halfway ++ remainder)).clients true).found.Nodup ∧
      "d" ∈ ((fourKeys.run (halfway ++ remainder)).clients true).found ∧
      ∃ k, ((fourKeys.run halfway).step (.request false 5)).shard.cursors.lookup 2 = some k := by
  have hf : fourKeys.shard.Fresh := ⟨Nat.one_pos, by simp [fourKeys]⟩
  have hw : ∀ x, (fourKeys.clients x).Unbegun := fun _ => ⟨rfl, rfl⟩
  have hcounts (es : List (Event Bool)) (he : es.all (fun e => match e with
      | .request _ n => decide (0 < n)
      | .command _ => true) = true) : Scanned.Counts es := by
    intro x n hmem
    simpa using List.all_eq_true.1 he _ hmem
  obtain ⟨h1, h2, -⟩ := scans_safe hf hw (hcounts (halfway ++ remainder) rfl)
  obtain ⟨-, -, h3⟩ := scans_safe hf hw (hcounts halfway rfl)
  obtain ⟨-, k, -, hk⟩ := h3 false true 2 5 (by decide) (by decide +kernel) (by decide)
  refine ⟨by decide +kernel, by decide +kernel, (h1 true).1, ?_, k, hk⟩
  refine h2 true [] (halfway ++ remainder) "d" rfl (hw true) (by decide +kernel) (by decide +kernel) fun between hb => ?_
  have hthere : ∀ es ∈ (halfway ++ remainder).inits, (fourKeys.run es).shard.data.contains "d" = true := by decide +kernel
  exact hthere between ((List.mem_inits _ _).2 hb)

end SlotSql.Simulation
