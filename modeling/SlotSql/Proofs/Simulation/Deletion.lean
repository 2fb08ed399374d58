import SlotSql.Proofs.Scan.Feed
import SlotSql.Proofs.Simulation.Rows
/-!
# Deleting keys

Keys are deleted in a healthy context while scans of it are under way. The masters then go on with the
keys that are left: their cursors stand for places in the order of the keys, and there a scan goes on
whether or not the key at the place is there.

A scan looks at what is named, and looking at a key that is gone comes to something else than before. This makes no
difference to the rows that the scan has to come as long as the keys have been seen, or never stood for rows.

Results:
* `fresh_congr`: it matters only for keys that stand for rows whether they have been seen.
* `fresh_thin`: the rows that keys stand for are the same with keys gone.
* `Serves.del`: keys of one slot are deleted together.
* `Open.lose`: a scan that is under way has the keys to come that it had before, but for those deleted.
-/
namespace SlotSql

/-! ## Lists of keys with some of them gone -/

section Thinning

/-- The second list is the first one without some of the keys that are gone. -/
inductive Thinned (gone : List String) : List String → List String → Prop
  | nil : Thinned gone [] []
  | keep {ks ks' : List String} (key : String) (h : Thinned gone ks ks') : Thinned gone (key :: ks) (key :: ks')
  | lose {ks ks' : List String} {key : String} (hk : key ∈ gone) (h : Thinned gone ks ks') :
    Thinned gone (key :: ks) ks'

variable {gone ks ks' seen seen' : List String} {look look' : String → Except EngineError (Option Candidate)}

namespace Thinned

theorem refl (gone ks : List String) : Thinned gone ks ks := by
  induction ks with
  | nil => exact .nil
  | cons key ks ih => exact .keep key ih

theorem append {more more' : List String} (h : Thinned gone ks ks') (h' : Thinned gone more more') :
    Thinned gone (ks ++ more) (ks' ++ more') := by
  induction h with
  | nil => exact h'
  | keep key _ ih => exact .keep key ih
  | lose hk _ ih => exact .lose hk ih

/-- All keys that are gone can be left out. -/
theorem filter (gone ks : List String) : Thinned gone ks (ks.filter fun k => !gone.contains k) := by
  induction ks with
  | nil => exact .nil
  | cons key ks ih =>
    by_cases hk : key ∈ gone
    · rw [List.filter_cons_of_neg (by simpa using hk)]
      exact .lose hk ih
    · rw [List.filter_cons_of_pos (by simpa using hk)]
      exact .keep key ih

end Thinned

/-! ## The rows of keys -/

/-- It matters only for keys that stand for rows whether they have been seen. -/
theorem fresh_congr (h : ∀ k, accepted? look k ≠ none → (k ∈ seen ↔ k ∈ seen')) :
    fresh look seen ks = fresh look seen' ks := by
  induction ks generalizing seen seen' with
  | nil => rfl
  | cons key ks ih =>
    have hcons : ∀ k, accepted? look k ≠ none → (k ∈ key :: seen ↔ k ∈ key :: seen') := fun k hk => by
      rw [List.mem_cons, List.mem_cons, h k hk]
    rw [fresh, fresh]
    cases hacc : accepted? look key with
    | none =>
      -- The key stands for no row, so it may have been seen on one side only.
      have hkey : ∀ k, accepted? look k ≠ none → k ≠ key := by
        rintro k hk rfl
        exact hk hacc
      have hleft : ∀ k, accepted? look k ≠ none → (k ∈ key :: seen ↔ k ∈ seen') := fun k hk => by
        rw [List.mem_cons, or_iff_right (hkey k hk), h k hk]
      have hright : ∀ k, accepted? look k ≠ none → (k ∈ seen ↔ k ∈ key :: seen') := fun k hk => by
        rw [List.mem_cons, or_iff_right (hkey k hk), h k hk]
      split <;> split
      · exact ih h
      · exact ih hright
      · exact ih hleft
      · exact ih hcons
    | some y =>
      have hiff := h key (by rw [hacc]; exact Option.some_ne_none y)
      by_cases hk : key ∈ seen
      · rw [if_pos (by simpa using hk), if_pos (by simpa using hiff.1 hk)]
        exact ih h
      · rw [if_neg (by simpa using hk), if_neg (by simpa using fun h' => hk (hiff.2 h')), ih hcons]

/-- The rows that keys stand for are the same with keys gone that have been seen or stand for no row. -/
theorem fresh_thin (hlook : ∀ k, k ∉ gone → accepted? look' k = accepted? look k)
    (hgone : ∀ k ∈ gone, k ∈ seen ∨ accepted? look k = none ∧ accepted? look' k = none)
    (h : Thinned gone ks ks') : fresh look' seen ks' = fresh look seen ks := by
  induction h generalizing seen with
  | nil => rfl
  | @keep ks ks' key _ ih =>
    rw [fresh, fresh]
    split
    · exact ih hgone
    · next hk =>
      have hsame : accepted? look' key = accepted? look key := by
        by_cases hg : key ∈ gone
        · obtain ⟨h1, h2⟩ := (hgone key hg).resolve_left (by simpa using hk)
          rw [h1, h2]
        · exact hlook key hg
      rw [hsame, ih fun k hg => (hgone k hg).imp_left (List.mem_cons_of_mem _)]
  | @lose ks ks' key hk _ ih =>
    rw [ih hgone, fresh]
    split
    · rfl
    · next hnew =>
      obtain ⟨hacc, -⟩ := (hgone key hk).resolve_left (by simpa using hnew)
      rw [hacc]
      refine fresh_congr fun k hsome => ?_
      rw [List.mem_cons, or_iff_right]
      rintro rfl
      exact hsome hacc

end Thinning

namespace Store

/-- The data without some keys. -/
def without (d : Data) (ks : List String) : Data := (KeyCommand.eraseAll d ks).2

variable (d : Data) (ks : List String)

theorem get?_without (k : String) : (without d ks).get? k = if k ∈ ks then none else d.get? k :=
  KeyCommand.get?_eraseAll d ks k

theorem keys_without : (without d ks).keys = d.keys.filter fun k => !ks.contains k :=
  KeyCommand.keys_eraseAll d ks

theorem without_append (more : List String) : without (without d ks) more = without d (ks ++ more) := by
  unfold without
  induction ks generalizing d with
  | nil => rfl
  | cons k ks ih => rw [List.cons_append, KeyCommand.eraseAll_cons, KeyCommand.eraseAll_cons, ih]

theorem contains_without {k : String} (hk : k ∉ ks) : (without d ks).contains k = d.contains k := by
  unfold KeyMap.contains
  rw [get?_without, if_neg hk]

/-- Some key of several is there if the first one is. -/
theorem eraseAll_pos {k : String} (hk : d.contains k = true) : 0 < (KeyCommand.eraseAll d (k :: ks)).1 := by
  rw [KeyCommand.eraseAll_cons, if_pos hk]
  omega

end Store

namespace Simulation

open SlotSql.Cluster SlotSql.Store Dialogue

variable {m top slot i : Nat} {t : Topology} {d d' : Data} {c c' c'' : Context Simulation Link} {p : Plan}
  {gone gone' ks : List String} {pattern : String}

/-! ## Cursors -/

/-- Keys in order from a place on are those that are left from there on. -/
theorem dropWhile_filter {keys : List String} (hs : keys.Pairwise (· < ·)) (k : String) (q : String → Bool) :
    (keys.filter q).dropWhile (· < k) = (keys.dropWhile (· < k)).filter q := by
  induction keys with
  | nil => rfl
  | cons j keys ih =>
    obtain ⟨h1, h2⟩ := List.pairwise_cons.1 hs
    by_cases hj : j < k
    · rw [List.dropWhile_cons, if_pos (decide_eq_true hj), ← ih h2, List.filter_cons]
      split
      · rw [List.dropWhile_cons, if_pos (decide_eq_true hj)]
      · rfl
    · rw [List.dropWhile_cons, if_neg (by simpa using hj)]
      -- All keys behind are at the place or behind it.
      have hbehind : ∀ l ∈ (j :: keys).filter q, ¬ l < k := by
        intro l hl hlt
        rcases List.mem_cons.1 (List.mem_filter.1 hl).1 with rfl | hl
        · exact hj hlt
        · exact hj (String.lt_trans (h1 l hl) hlt)
      cases hf : (j :: keys).filter q with
      | nil => rfl
      | cons l ls =>
        rw [List.dropWhile_cons, if_neg]
        simpa using hbehind l (hf ▸ List.mem_cons_self)

/-- The second shard has no keys that are gone, and is the first one otherwise. -/
structure Shard.Loses (gone : List String) (h h' : Shard) : Prop where
  cursors : h'.cursors = h.cursors
  next : h'.nextCursor = h.nextCursor
  keys : h'.data.keys = h.data.keys.filter fun k => !gone.contains k

theorem Shard.Resumes.lose {h h' : Shard} {cursor : Nat} {all : List String} (hr : h.Resumes cursor all)
    (hl : h.Loses gone h') : h'.Resumes cursor (all.filter fun k => !gone.contains k) := by
  rcases hr with ⟨h0, rfl⟩ | ⟨h0, k, hk, rfl⟩
  · exact .inl ⟨h0, hl.keys.symm⟩
  · refine .inr ⟨h0, k, hl.cursors ▸ hk, ?_⟩
    unfold KeyMap.keysFrom
    rw [hl.keys, dropWhile_filter h.data.keys_sorted]

/-! ## Contexts -/

/-- Every shard of the second context has no keys that are gone, and is that of the first one otherwise. -/
structure Loses (gone : List String) (c c' : Context Simulation Link) : Prop where
  topology : c'.topology = c.topology
  shard : ∀ (j : Nat) (h : Shard), c.server.shards[j]? = some h → ∃ h', c'.server.shards[j]? = some h' ∧ h.Loses gone h'

theorem Loses.refl (c : Context Simulation Link) : Loses [] c c :=
  ⟨rfl, fun _ h hh => ⟨h, hh, rfl, rfl, (List.filter_eq_self.2 fun _ _ => rfl).symm⟩⟩

theorem Loses.trans (h : Loses gone c c') (h' : Loses gone' c' c'') : Loses (gone ++ gone') c c'' := by
  refine ⟨h'.topology.trans h.topology, fun j sh hsh => ?_⟩
  obtain ⟨sh', g1, g2, g3, g4⟩ := h.shard j sh hsh
  obtain ⟨sh'', e1, e2, e3, e4⟩ := h'.shard j sh' g1
  refine ⟨sh'', e1, e2.trans g2, e3.trans g3, ?_⟩
  rw [e4, g4, List.filter_filter]
  congr 1
  funext k
  by_cases h1 : k ∈ gone <;> by_cases h2 : k ∈ gone' <;> simp [h1, h2]

/-- A shard names what is left of the keys that it would have named. -/
theorem Offers.lose {cursor pages : Nat} (ho : Offers top pattern c i cursor pages ks)
    (hl : Loses gone c c') : ∃ pages' ≤ pages,
      Offers top pattern c' i cursor pages' (ks.filter fun k => !gone.contains k) := by
  obtain ⟨n, j, h, all, h1, h2, h3, h4, h5, rfl, rfl, h6⟩ := ho
  obtain ⟨h', g1, g2⟩ := hl.shard j h h4
  have hlen := List.length_filter_le (fun k => !gone.contains k) all
  refine ⟨_, Nat.succ_le_succ hlen, n, j, h', _, hl.topology ▸ h1, h2, h3, g1, h5.lose g2, ?_, rfl, ?_⟩
  · rw [List.filter_filter, List.filter_filter]
    congr 1
    funext k
    exact Bool.and_comm _ _
  · rw [g2.next]
    omega

variable {batch n : Nat} {v : ScanEnv} {x : Scan} {hm : 6 ≤ m} {hpos : 0 < batch}
  {hmax : batch ≤ Number.max64} {htop : top ≤ Number.max64}

/-- A scan that is under way goes on with what is left of the keys that it had to come. -/
theorem Open.lose (ho : (feed m top t d p batch hm hpos hmax htop).Open v n x c ks) (hl : Loses gone c c')
    (hc : Serves m top t d' c') : ∃ ks', (feed m top t d' p batch hm hpos hmax htop).Open v n x c' ks' ∧
      Thinned gone ks ks' := by
  obtain ⟨-, ⟨flows, hcur, rfl, hcoming⟩, hnodes, -⟩ := ho
  suffices ∃ flows' : List (NodeCursor × List String), flows'.map Prod.fst = flows.map Prod.fst ∧
      (∀ f ∈ flows', (feed m top t d' p batch hm hpos hmax htop).Coming c' n f.1 f.2) ∧
      Thinned gone (flows.flatMap Prod.snd) (flows'.flatMap Prod.snd) by
    obtain ⟨flows', h1, h2, h3⟩ := this
    exact ⟨_, ⟨hc, ⟨flows', by rw [hcur, h1], rfl, h2⟩, hnodes, fun _ => False.elim⟩, h3⟩
  clear hcur
  induction flows with
  | nil => exact ⟨[], rfl, by simp, .nil⟩
  | cons f flows ih =>
    obtain ⟨flows', h1, h2, h3⟩ := ih fun g hg => hcoming g (List.mem_cons_of_mem _ hg)
    -- The pending keys of the node stay, those that it has yet to name are thinned.
    obtain ⟨ks', hks', hthin⟩ : ∃ ks',
        (feed m top t d' p batch hm hpos hmax htop).Coming c' n f.1 ks' ∧ Thinned gone f.2 ks' := by
      rcases hcoming f List.mem_cons_self with ⟨hdone, hk⟩ | ⟨hdone, pages, rest, hle, hoffers, hk⟩
      · exact ⟨f.2, .inl ⟨hdone, hk⟩, .refl _ _⟩
      · obtain ⟨pages', hle', hoffers'⟩ := Offers.lose hoffers hl
        refine ⟨_, .inr ⟨hdone, pages', _, Nat.le_trans hle' hle, hoffers', rfl⟩, ?_⟩
        rw [hk]
        exact (Thinned.refl gone f.1.pending).append (.filter gone rest)
    refine ⟨(f.1, ks') :: flows', by rw [List.map_cons, List.map_cons, h1], ?_, ?_⟩
    · rintro g (_ | ⟨_, hg⟩)
      · exact hks'
      · exact h2 g hg
    · rw [List.flatMap_cons, List.flatMap_cons]
      exact hthin.append h3

/-! ## One command -/

/-- Keys of one slot are deleted together. -/
theorem Serves.del (hc : Serves m top t d c) (hk : OneSlot slot ks) (hl : ks.length + 1 ≤ m) : ∃ c',
    outcome Context.world (Asking.del ks) c = (.ok ((KeyCommand.eraseAll d ks).1 : Int), c') ∧
      Serves m top t (without d ks) c' ∧ Loses ks c c' := by
  have hr : (Command.del ks).Runs (.del ks) := Command.runs_del hk.1
  have hlen : (Command.del ks).length ≤ m := by
    show ((("DEL" :: ks).map Utf8.bytes).length : Nat) ≤ m
    rw [List.length_map, List.length_cons]
    exact hl
  obtain ⟨c', h1, h2, h3⟩ := hc.exec hr hk
  rw [reply_runs hr hlen] at h1 h2
  rw [reply_runs hr hlen] at h3
  refine ⟨c', ?_, h2, h2.topology.trans hc.topology.symm, fun j h hh => ?_⟩
  · have hcmd : outcome Context.world (Asking.command (.del ks)) c =
        (.ok (.integer (KeyCommand.eraseAll d ks).1), c') := h1
    unfold Asking.del
    rw [if_neg (by simpa using hk.1), outcome_bind_ok hcmd]
    rfl
  · rw [h3]
    simp only [Simulation.withData, List.getElem?_modify, hh, Option.map_eq_map, Option.map_some]
    split
    · next hj =>
      subst hj
      refine ⟨_, rfl, rfl, rfl, ?_⟩
      show (without (c.server.dataOf (home slot)) ks).keys = _
      rw [keys_without, keys_dataOf _ hh]
    · next hj =>
      refine ⟨h, rfl, rfl, rfl, (List.filter_eq_self.2 fun k hmem => ?_).symm⟩
      have hhome := hc.healthy.sound.placed j h hh k hmem
      simp only [Bool.not_eq_true', List.contains_eq_mem, decide_eq_false_iff_not]
      intro hin
      exact hj (by rw [← hhome, hk.2 k hin])

end Simulation
end SlotSql
