import SlotSql.Proofs.Simulation.Node
/-!
# Scanning a shard

A shard names its keys in order. The cursor of a page stands for the first key of the next one, so the
pages that follow a cursor hold the keys from that key on, as long as the data stays as it is.

Results:
* `scan_resumes`: a page holds the next keys, and its cursor leads to the keys behind them.
* `handle_scan`: what a node answers to a scan.
-/
namespace SlotSql

theorem KeyMap.keysFrom_of_suffix {α : Type} {m : KeyMap α} {k : String} {ks : List String}
    (h : (k :: ks) <:+ m.keys) : m.keysFrom k = k :: ks := by
  obtain ⟨pre, hp⟩ := h
  have hs := m.keys_sorted
  rw [← hp, List.pairwise_append] at hs
  unfold keysFrom
  rw [← hp, List.dropWhile_append_of_pos]
  · rw [List.dropWhile_cons_of_neg]
    simp
  · intro j hj
    exact decide_eq_true (hs.2.2 j hj k List.mem_cons_self)

theorem KeyMap.keysFrom_suffix {α : Type} (m : KeyMap α) (k : String) : m.keysFrom k <:+ m.keys :=
  List.dropWhile_suffix _

namespace Simulation

open SlotSql.Cluster SlotSql.Store

/-- From a cursor on, a shard names these keys. -/
def Shard.Resumes (h : Shard) (cursor : Nat) (ks : List String) : Prop :=
  cursor = 0 ∧ ks = h.data.keys ∨
    cursor ≠ 0 ∧ ∃ k, h.cursors.lookup cursor = some k ∧ ks = h.data.keysFrom k

theorem Shard.Resumes.suffix {h : Shard} {cursor : Nat} {ks : List String} (hr : h.Resumes cursor ks) :
    ks <:+ h.data.keys := by
  rcases hr with ⟨-, rfl⟩ | ⟨-, k, -, rfl⟩
  · exact List.suffix_refl _
  · exact h.data.keysFrom_suffix k

/-- The cursors that a shard has given out are positive and behind the next one. -/
def Shard.Fresh (h : Shard) : Prop :=
  0 < h.nextCursor ∧ ∀ c ∈ h.cursors, 0 < c.1 ∧ c.1 < h.nextCursor

/-- A page holds the next keys, and its cursor leads to the keys behind them. -/
theorem Shard.scan_resumes {h : Shard} (hf : h.Fresh) {r : ScanRequest} {ks : List String}
    (hr : h.Resumes r.cursor ks) : ∃ q h', h.scan r = (Asking.Page.reply q, h') ∧
      q.keys = (ks.take r.count).filter (Glob.matchesKey r.pattern) ∧ h'.Fresh ∧
      h' = { h with cursors := h'.cursors, nextCursor := h'.nextCursor } ∧
      (ks.drop r.count = [] ∧ q.cursor = 0 ∧ h'.nextCursor = h.nextCursor ∨
        ks.drop r.count ≠ [] ∧ q.cursor = h.nextCursor ∧ h'.nextCursor = h.nextCursor + 1 ∧
          h'.Resumes q.cursor (ks.drop r.count)) := by
  obtain ⟨hpos, hcur⟩ := hf
  have hstart : ∃ cs, (if r.cursor = 0 then some (h.data.keys, h.cursors)
      else (h.cursors.lookup r.cursor).map fun key =>
        (h.data.keysFrom key, h.cursors.filter fun c => c.1 != r.cursor)) = some (ks, cs) ∧
      ∀ c ∈ cs, c ∈ h.cursors := by
    rcases hr with ⟨h0, rfl⟩ | ⟨h0, k, hk, rfl⟩
    · exact ⟨h.cursors, by rw [if_pos h0], fun _ hc => hc⟩
    · exact ⟨_, by rw [if_neg h0, hk]; rfl, fun c hc => (List.mem_filter.1 hc).1⟩
  obtain ⟨cs, hcs, hsub⟩ := hstart
  have hsuf := (List.drop_suffix r.count ks).trans hr.suffix
  unfold Shard.scan
  simp only [hcs]
  cases hd : ks.drop r.count with
  | nil =>
    refine ⟨⟨0, _⟩, _, rfl, rfl, ⟨hpos, fun c hc => hcur c (hsub c hc)⟩, rfl, .inl ⟨rfl, rfl, rfl⟩⟩
  | cons key rest =>
    refine ⟨⟨h.nextCursor, _⟩, _, rfl, rfl, ⟨Nat.succ_pos _, ?_⟩, rfl,
      .inr ⟨List.cons_ne_nil _ _, rfl, rfl, .inr ⟨Nat.pos_iff_ne_zero.1 hpos, key, ?_, ?_⟩⟩⟩
    · intro c hc
      show 0 < c.1 ∧ c.1 < h.nextCursor + 1
      rcases List.mem_cons.1 hc with rfl | hc
      · exact ⟨hpos, Nat.lt_succ_self _⟩
      · obtain ⟨h1, h2⟩ := hcur c (hsub c hc)
        exact ⟨h1, Nat.lt_succ_of_lt h2⟩
    · simp
    · rw [hd] at hsuf
      exact (KeyMap.keysFrom_of_suffix hsuf).symm

/-! ## The command -/

variable {s : Simulation} {j : Nat}

theorem ScanRequest.read_scan {cursor count : Nat} {pattern : String} (hc : cursor ≤ Number.max64)
    (hp : 0 < count) (hn : count ≤ Number.max64) :
    ScanRequest.read [toString cursor, "MATCH", pattern, "COUNT", toString count] =
      .ok { cursor, pattern, count } := by
  have h1 : Text.asciiUpper "MATCH" = "MATCH" := by decide +kernel
  have h2 : Text.asciiUpper "COUNT" = "COUNT" := by decide +kernel
  unfold ScanRequest.read
  simp only []
  rw [if_neg (by simp)]
  simp only [Number.nat64?_toString hc, ScanRequest.options, h1, h2, Number.nat64?_toString hn, if_pos hp]

/-- What a node answers to a scan, and what becomes of its shard. -/
theorem handle_scan {cursor count : Nat} (pattern : String) (hc : cursor ≤ Number.max64) (hp : 0 < count)
    (hn : count ≤ Number.max64) {n : SimNode} (hj : s.nodes[j]? = some n) {h : Shard}
    (hh : s.shards[n.shard]? = some h) :
    s.handle j (.scan cursor pattern count) = ((h.scan { cursor, pattern, count }).1,
      { s with shards := s.shards.set n.shard (h.scan { cursor, pattern, count }).2 }) := by
  have hname : (Command.scan cursor pattern count).name = "SCAN" :=
    (Command.name_ofTexts ..).trans (by decide +kernel)
  have hargs : (((Command.scan cursor pattern count).words.map fun w => (Utf8.decodeLossy w, w)).drop 1).map
      Prod.fst = [toString cursor, "MATCH", pattern, "COUNT", toString count] := by
    rw [← List.map_drop]
    exact Command.texts_ofTexts ..
  unfold handle
  simp only [hname, hargs]
  rw [if_neg (by decide), if_neg (by decide), if_pos trivial]
  unfold scan
  simp only [ScanRequest.read_scan hc hp hn, hj, Option.map_some, Option.getD_some, hh]

end Simulation
end SlotSql
