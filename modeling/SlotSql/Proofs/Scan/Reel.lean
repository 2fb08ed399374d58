import SlotSql.Proofs.World
import SlotSql.Proofs.Scan.Lookup
import SlotSql.Proofs.Scan.Pages
/-!
# Scans of nodes that answer as they like

Each node has a reel of pages: pages of any size, empty ones included, with keys that may come again on
a later page or on another node. It hands the next page out to whom asks with the cursor of the page
before, zero at first, and its last page has cursor zero. Everything else is answered from a table.

Results:
* `resumed_reels`: a query that is resumed page by page delivers the rows of one call without a limit,
  each once and in the same order, whatever the reels and whatever the limits of the calls.
-/
namespace SlotSql

open Cluster Dialogue

/-- What a node has to answer to scans: the cursor that it expects, and the pages left. -/
structure Reel where
  cursor : Nat := 0
  pages : List Asking.Page

namespace Reel

/-- The last page has cursor zero and no other has; no cursor exceeds the greatest one. -/
def Complete : List Asking.Page → Prop
  | [] => False
  | [q] => q.cursor = 0
  | q :: qs => q.cursor ≠ 0 ∧ q.cursor ≤ Number.max64 ∧ Complete qs

/-- Whether a command is a scan from a cursor on. -/
def asksFrom (cursor : Nat) (c : Command) : Bool :=
  c.words.take 2 == ["SCAN", toString cursor].map Utf8.bytes

/-- The answer of a node to a command, and its reel afterwards. -/
def answer (r : Reel) (c : Command) : Except ClusterError Reply × Reel :=
  match r.pages with
  | q :: qs =>
    if asksFrom r.cursor c then (.ok q.reply, ⟨q.cursor, qs⟩)
    else (.error (.reply "ERR invalid cursor"), r)
  | [] => (.error (.reply "ERR invalid cursor"), r)

/-- A world of nodes with reels; commands to the active node are answered from a table. -/
def world (answers : Command → Except ClusterError Reply) : World (Nat → Reel)
  | .active, c, reels => (answers c, reels)
  | .node i, c, reels =>
    (((reels i).answer c).1, fun j => if j = i then ((reels i).answer c).2 else reels j)

variable {answers : Command → Except ClusterError Reply} {p : Plan} {reels : Nat → Reel} {i : Nat}

theorem asksFrom_scan (cursor : Nat) (pattern : String) (count : Nat) :
    asksFrom cursor (.scan cursor pattern count) = true := by
  simp [asksFrom, Command.scan, Command.ofTexts]

/-- The next page of a node, and what is so afterwards. -/
theorem scan_world (answers : Command → Except ClusterError Reply) (hc : Complete (reels i).pages) (pattern : String) (count : Nat) : ∃ q qs,
    (reels i).pages = q :: qs ∧
      outcome (world answers) (Asking.scan i (reels i).cursor pattern count) reels =
        (.ok q, fun j => if j = i then ⟨q.cursor, qs⟩ else reels j) ∧
      (q.cursor = 0 ∧ qs = [] ∨ q.cursor ≠ 0 ∧ Complete qs) := by
  have hanswer (q : Asking.Page) (qs : List Asking.Page) (hq : (reels i).pages = q :: qs)
      (hle : q.cursor ≤ Number.max64) :
      outcome (world answers) (Asking.scan i (reels i).cursor pattern count) reels =
        (.ok q, fun j => if j = i then ⟨q.cursor, qs⟩ else reels j) := by
    refine Asking.outcome_scan hle ?_
    unfold world answer
    simp only [hq, asksFrom_scan, ↓reduceIte]
  cases hp : (reels i).pages with
  | nil => rw [hp] at hc; exact hc.elim
  | cons q qs =>
    refine ⟨q, qs, rfl, ?_⟩
    rw [hp] at hc
    cases qs with
    | nil =>
      have h0 : q.cursor = 0 := hc
      exact ⟨hanswer q [] hp (by omega), .inl ⟨h0, rfl⟩⟩
    | cons q' qs => exact ⟨hanswer q (q' :: qs) hp hc.2.1, .inr ⟨hc.1, hc.2.2⟩⟩

/-- Nodes with reels are a feed of the keys on their reels. -/
def feed (answers : Command → Except ClusterError Reply) (hm : ∀ c, Mild (answers c)) (p : Plan) (batch : Nat) :
    Feed (world answers) p batch where
  Calm _ := True
  look := lookupIn answers p
  Offers reels node cursor pages ks := (reels node).cursor = cursor ∧ Complete (reels node).pages ∧
    (reels node).pages.length = pages ∧ ks = (reels node).pages.flatMap Asking.Page.keys
  Lost _ _ := False
  Fails := False
  key := lookupIn_found
  candidate := by
    intro s key _
    obtain ⟨s', h1, h2⟩ := candidate_of_answers (w := world answers) (p := p)
      (R := fun s' => s' = s) (fun c s' (_ : ReadsRow p.setNames key .active c) hs => ⟨rfl, hs⟩) (fun c _ => hm c) rfl
    exact ⟨_, s', h1, trivial, fun h => h2 ▸ h, .inl ⟨rfl, rfl⟩⟩
  page := by
    rintro s node cursor pages keys - ⟨rfl, hc, rfl, rfl⟩
    obtain ⟨q, qs, hq, h1, h2⟩ := scan_world answers hc p.pattern batch
    refine ⟨_, _, h1, trivial, rfl, ?_, .inl ⟨q, qs.flatMap Asking.Page.keys, rfl, ?_, ?_⟩⟩
    · intro n c m ks hn h
      simp only [if_neg hn]
      exact h
    · rw [hq, List.flatMap_cons]
    · rcases h2 with ⟨h0, rfl⟩ | ⟨h0, hqs⟩
      · exact .inl ⟨h0, rfl, by rw [hq]; exact Nat.zero_lt_one⟩
      · refine .inr ⟨h0, qs.length, by rw [hq]; exact Nat.lt_succ_self _, ?_⟩
        simp only [↓reduceIte]
        exact ⟨trivial, hqs, trivial, trivial⟩

theorem steady (hm : ∀ c, Mild (answers c)) (batch : Nat) : (feed answers hm p batch).Steady :=
  ⟨id, fun _ _ => id⟩

/-! ## Resumed queries -/

/-- A scan that has not begun. -/
def unbegun (blank : Rows) : Scan := ⟨{}, blank⟩

/-- A scan that has not begun has the keys of all the masters' reels to come. -/
theorem open_unbegun {v : ScanEnv} (hm : ∀ c, Mild (answers c)) (hnodes : v.masters.Nodup)
    (hcur : ∀ i, (reels i).cursor = 0)
    (hc : ∀ i ∈ v.masters, Complete (reels i).pages)
    (hlen : ∀ i, (reels i).pages.length < v.patience) (blank : Rows) :
    (feed answers hm p v.settings.scanBatch).Open v (v.patience - 1) (unbegun blank) reels
      (v.masters.flatMap fun i => (reels i).pages.flatMap Asking.Page.keys) := by
  have hstart : Feed.cursorsOf v (unbegun blank) = v.masters.map fun node => { node } := rfl
  refine ⟨trivial, ⟨v.masters.map fun i => ({ node := i }, (reels i).pages.flatMap Asking.Page.keys), ?_, ?_, ?_⟩, ?_,
    fun _ => False.elim⟩
  · rw [hstart, List.map_map]; rfl
  · rw [List.flatMap_map]
  · intro f hf
    obtain ⟨i, hi, rfl⟩ := List.mem_map.1 hf
    exact .inr ⟨rfl, _, _, Nat.le_sub_one_of_lt (hlen i), ⟨hcur i, hc i hi, rfl, rfl⟩, rfl⟩
  · rw [hstart, List.map_map]
    show (v.masters.map id).Nodup
    rw [List.map_id]
    exact hnodes

/-- **Resumed pagination.** A plan that scans and does not count is carried out by calls with limits of
their own, each with the count that the last one returned as offset and into a result of its own, until no
row comes. The calls come to an end, and deliver exactly the rows that one call without a limit collects,
each once and in the same order: every call returns the number of rows delivered so far, every one but the
last with rows is full, and at the end the scan is exhausted. -/
theorem resumed_reels (hm : ∀ c, Mild (answers c)) (hp : p.directKey = none) (hcount : p.countOnly = false)
    {v : ScanEnv} (hnodes : v.masters.Nodup) (hcur : ∀ i, (reels i).cursor = 0)
    (hc : ∀ i ∈ v.masters, Complete (reels i).pages) (hlen : ∀ i, (reels i).pages.length < v.patience)
    {blank : Rows} (hblank : blank.rows = []) {limits : Nat → Nat} (hl : ∀ i, 0 < limits i) :
    ∃ all reels', Scanning.outcome (world answers) (v.advance p {}) (unbegun blank) reels =
        (.ok (), all, reels') ∧ all.rows.keys.Nodup ∧
      ∃ calls x' reels'', Resumed (world answers) v p blank limits 0 (unbegun blank) reels calls x' reels'' ∧
        Delivers limits 0 calls all.rows.rows ∧ x'.progress.isExhausted = true := by
  have ho := open_unbegun (p := p) hm hnodes hcur hc hlen blank
  have hn : v.patience - 1 < v.patience := by
    have := hlen 0
    omega
  obtain ⟨ks', all, reels', h1, h2, h3, h4⟩ := Feed.advance_feed (steady hm _) rfl hn hp hcount ho hblank
  obtain ⟨calls, x', reels'', g1, g2, g3⟩ := Feed.resumed_feed (steady hm _) rfl hn hp hcount hblank limits hl ho
  refine ⟨all, reels', h1, ?_, calls, x', reels'', g1, ?_, g3⟩
  · rw [h3]
    exact Plan.rows_nodup (fresh_nodup fun k c h => Feed.accepted?_key _ h)
  · rw [h3]
    exact g2

/-- A query on two nodes that name one key twice each, one of them on both nodes, with an empty page in
between; the rows are taken one by one. -/
theorem resumed_reels_two_nodes :
    let p : Plan := { table := ⟨"t", "a", [], 0, ""⟩, keys := [⟨⟨"k", .str, 1, 0, 1, false, ""⟩, none, []⟩]
                      fetches := [], outputs := [], pattern := "*", directKey := none }
    let v : ScanEnv := { settings := {}, masters := [0, 1], patience := 5, now := 0 }
    let reels : Nat → Reel := fun _ =>
      { pages := [⟨7, [Key.row "t" "a" ["1"], Key.row "t" "a" ["2"], Key.row "t" "a" ["1"]]⟩, ⟨9, []⟩,
          ⟨0, [Key.row "t" "a" ["2"]]⟩] }
    ∃ all reels', Scanning.outcome (world fun _ => .ok .nil) (v.advance p {}) (unbegun p.emptyRows) reels =
        (.ok (), all, reels') ∧ all.rows.keys.Nodup ∧
      ∃ calls x' reels'', Resumed (world fun _ => .ok .nil) v p p.emptyRows (fun _ => 1) 0
          (unbegun p.emptyRows) reels calls x' reels'' ∧
        Delivers (fun _ => 1) 0 calls all.rows.rows ∧ x'.progress.isExhausted = true := by
  intro p v reels
  refine resumed_reels ?_ rfl rfl (by decide) (fun _ => rfl) ?_ ?_ rfl (fun _ => Nat.zero_lt_one)
  · rintro c e ⟨⟩
  · intro i _
    exact ⟨by decide, by decide, by decide, by decide, rfl⟩
  · intro i
    show 3 < 5
    omega

end Reel
end SlotSql
