import SlotSql.Proofs.Simulation.Feed
import Mathlib.Data.List.Nodup
/-!
# Scan order

The masters of a healthy context share the keys of a store by the slots of the keys. A scan names them
master by master, and the keys of one master in order, each key of the store once.

Results:
* `keys_shard`: the keys of a shard are those of the store whose slots it has.
* `mem_scanOrder`, `scanOrder_nodup`: a scan names every key of the store once.
* `open_unbegun`: a scan that has not begun has these keys to come.
-/
namespace SlotSql.Simulation

open SlotSql.Cluster SlotSql.Store

/-- The node of the cluster at a place of the configuration. -/
def nodeOf (t : Topology) (i : Nat) : Nat :=
  ((t.config.nodes[i]?).map NodeConfig.port).getD 0 - basePort

/-- The keys of a store in the order in which a scan of the masters names them. -/
def scanOrder (t : Topology) (d : Data) : List String :=
  t.masters.flatMap fun i => d.keys.filter fun k => home (slotOf k) == nodeOf t i

variable {m top : Nat} {t : Topology} {d : Data} {c : Context Simulation Link} {i j : Nat} {k : String}

/-! ## Keys of a shard -/

/-- Keys in order are determined by which they are. -/
theorem keys_unique {l₁ l₂ : List String} (h₁ : l₁.Pairwise (· < ·)) (h₂ : l₂.Pairwise (· < ·))
    (h : ∀ k, k ∈ l₁ ↔ k ∈ l₂) : l₁ = l₂ := by
  have hnodup {l : List String} (hl : l.Pairwise (· < ·)) : l.Nodup :=
    hl.imp fun h he => by subst he; exact absurd h (String.lt_irrefl _)
  refine List.Perm.eq_of_pairwise (fun a b _ _ hab hba => ?_) h₁ h₂ ?_
  · exact absurd (String.lt_trans hab hba) (String.lt_irrefl _)
  · exact (List.perm_ext_iff_of_nodup (hnodup h₁) (hnodup h₂)).2 h

/-- The keys of a shard are those of the store whose slots it has. -/
theorem keys_shard {s : Simulation} (hs : s.Sound) (hd : s.Holds d) (j : Nat) :
    (s.dataOf j).keys = d.keys.filter fun k => home (slotOf k) == j := by
  refine keys_unique (KeyMap.keys_sorted _) (d.keys_sorted.filter _) fun k => ?_
  rw [List.mem_filter, KeyMap.mem_keys_iff, KeyMap.mem_keys_iff, ← hd k, hs.value?, beq_iff_eq]
  constructor
  · intro h
    by_cases hk : home (slotOf k) = j
    · exact ⟨hk.symm ▸ h, hk⟩
    · rw [hs.dataOf_get? hk] at h
      cases h
  · rintro ⟨h, hk⟩
    rw [← hk]
    exact h

theorem Healthy.master (hc : Healthy c) (hi : i ∈ c.topology.masters) : ∃ (n : NodeConfig) (h : Shard),
    c.topology.config.nodes[i]? = some n ∧ n.port = basePort + nodeOf c.topology i ∧
      nodeOf c.topology i < 3 ∧ c.server.shards[nodeOf c.topology i]? = some h := by
  obtain ⟨j, hj, hp⟩ := (hc.masters.2 i).1 hi
  have hnode : nodeOf c.topology i = j := by
    unfold nodeOf
    rw [hp, Option.getD_some]
    omega
  obtain ⟨n, hn, hport⟩ := Option.map_eq_some_iff.1 hp
  obtain ⟨h, hh, -⟩ := hc.sound.shard hj
  exact ⟨n, h, hn, hnode.symm ▸ hport, hnode.symm ▸ hj, hnode.symm ▸ hh⟩

/-! ## All keys -/

theorem mem_scanOrder (hc : Healthy c) : k ∈ scanOrder c.topology d ↔ (d.get? k).isSome = true := by
  unfold scanOrder
  simp only [List.mem_flatMap, List.mem_filter, KeyMap.mem_keys_iff, beq_iff_eq]
  constructor
  · rintro ⟨i, -, h, -⟩
    exact h
  · intro h
    obtain ⟨i, hi⟩ := hc.listed (home (slotOf k)) (home_lt _)
    unfold Config.find? at hi
    obtain ⟨hlt, hp, -⟩ := List.findIdx?_eq_some_iff_getElem.1 hi
    simp only [Bool.and_eq_true, beq_iff_eq] at hp
    have hport : (c.topology.config.nodes[i]?).map NodeConfig.port = some (basePort + home (slotOf k)) := by
      rw [List.getElem?_eq_getElem hlt, Option.map_some, hp.1]
    refine ⟨i, (hc.masters.2 i).2 ⟨_, home_lt _, hport⟩, h, ?_⟩
    unfold nodeOf
    rw [hport, Option.getD_some]
    omega

theorem scanOrder_nodup (hc : Healthy c) : (scanOrder c.topology d).Nodup := by
  unfold scanOrder
  refine List.nodup_flatMap.2 ⟨fun i _ => d.keys_nodup.filter _, ?_⟩
  refine hc.masters.1.imp_of_mem fun {a b} ha hb hab => ?_
  refine List.disjoint_left.2 ?_
  intro k hk hk'
  rw [List.mem_filter, beq_iff_eq] at hk hk'
  obtain ⟨n, -, h1, h2, -, -⟩ := hc.master ha
  obtain ⟨n', -, g1, g2, -, -⟩ := hc.master hb
  refine hab ((List.getElem?_inj ?_ hc.ports).1 ?_)
  · simpa using (List.getElem?_eq_some_iff.1 h1).1
  · rw [List.getElem?_map, List.getElem?_map, h1, g1, Option.map_some, Option.map_some, h2, g2, ← hk.2,
      ← hk'.2]

theorem keys_dataOf (s : Simulation) {h : Shard} (hh : s.shards[j]? = some h) : s.dataOf j = h.data := by
  unfold Simulation.dataOf
  rw [hh]
  rfl

/-- The cluster has as many keys as the store. -/
theorem keyCount_eq (hc : Healthy c) (hd : c.server.Holds d) : c.server.keyCount = d.size := by
  have hsize (d : Data) : d.size = d.keys.length := (List.length_map _).symm
  have hmap : c.server.shards.map (fun h => h.data.size) = [0, 1, 2].map fun j =>
      (d.keys.filter fun k => home (slotOf k) == j).length := by
    refine List.ext_getElem? fun j => ?_
    rw [List.getElem?_map]
    by_cases hj : j < 3
    · obtain ⟨h, hh, -⟩ := hc.sound.shard hj
      rw [hh, Option.map_some, hsize, ← keys_dataOf _ hh, keys_shard hc.sound hd]
      have : ∀ j, j < 3 → ([0, 1, 2] : List Nat)[j]? = some j := by decide
      rw [List.getElem?_map, this j hj]
      rfl
    · rw [List.getElem?_eq_none (by rw [hc.sound.length_shards]; omega),
        List.getElem?_eq_none (by simpa using Nat.le_of_not_lt hj)]
      rfl
  have hcount (ks : List String) : (ks.filter fun k => home (slotOf k) == 0).length +
      ((ks.filter fun k => home (slotOf k) == 1).length +
        (ks.filter fun k => home (slotOf k) == 2).length) = ks.length := by
    induction ks with
    | nil => rfl
    | cons k ks ih =>
      have := home_lt (slotOf k)
      simp only [List.filter_cons, List.length_cons]
      obtain h | h | h : home (slotOf k) = 0 ∨ home (slotOf k) = 1 ∨ home (slotOf k) = 2 := by omega
      all_goals simp only [h]; simp; omega
  have hfold : c.server.keyCount = (c.server.shards.map fun h => h.data.size).foldl (· + ·) 0 :=
    List.foldl_map.symm
  rw [hfold, hmap, hsize, ← hcount d.keys, ← Nat.add_assoc]
  simp

/-! ## Scans that have not begun -/

variable {p : Plan} {batch : Nat} {v : ScanEnv} {x : Scan}

/-- A healthy context has no cursor from a higher number on either. -/
theorem Serves.mono {top₀ : Nat} (hc : Serves m top₀ t d c) (h : top₀ ≤ top) : Serves m top t d c :=
  { hc with room := fun sh hsh => Nat.le_trans (hc.room sh hsh) h }

/-- Before a scan begins, a master has its keys to name that match the pattern. -/
theorem Serves.offers {top₀ : Nat} (hc : Serves m top₀ t d c) (hroom : top₀ + d.size ≤ top) (hi : i ∈ t.masters)
    (pattern : String) : ∃ pages, pages ≤ d.size + 1 ∧ Offers top pattern c i 0 pages
      ((d.keys.filter fun k => home (slotOf k) == nodeOf t i).filter (Glob.matchesKey pattern)) := by
  have hht := hc.topology
  subst hht
  obtain ⟨n, h, h1, h2, h3, h4⟩ := hc.healthy.master hi
  have hkeys : h.data.keys = d.keys.filter fun k => home (slotOf k) == nodeOf c.topology i := by
    rw [← keys_dataOf _ h4, keys_shard hc.healthy.sound hc.holds]
  have hlen : h.data.keys.length ≤ d.size := by
    rw [hkeys]
    exact Nat.le_trans (List.length_filter_le _ _) (Nat.le_of_eq (List.length_map _))
  refine ⟨h.data.keys.length + 1, by omega, n, _, h, h.data.keys, h1, h2, h3, h4, .inl ⟨rfl, rfl⟩, ?_, rfl, ?_⟩
  · rw [hkeys]
  · have := hc.room h (List.mem_of_getElem? h4)
    omega

/-- A scan that has not begun has the keys to come that match the pattern. -/
theorem open_unbegun {top₀ : Nat} (hc : Serves m top₀ t d c) (hm : 6 ≤ m) (hpos : 0 < batch)
    (hmax : batch ≤ Number.max64) (htop : top ≤ Number.max64) (hroom : top₀ + d.size ≤ top)
    (hv : v.masters = t.masters) (hx : x.progress.started = false) :
    (feed m top t d p batch hm hpos hmax htop).Open v (d.size + 1) x c
      ((scanOrder t d).filter (Glob.matchesKey p.pattern)) := by
  have hcur : Feed.cursorsOf v x = t.masters.map fun node => { node } := by
    unfold Feed.cursorsOf Scan.start
    rw [hx, ← hv]
    rfl
  refine ⟨hc.mono (by omega), ?_, ?_, fun _ => False.elim⟩
  · refine ⟨t.masters.map fun i => ({ node := i }, (d.keys.filter fun k =>
      home (slotOf k) == nodeOf t i).filter (Glob.matchesKey p.pattern)), ?_, ?_, ?_⟩
    · rw [hcur, List.map_map]
      rfl
    · unfold scanOrder
      rw [List.flatMap_map, List.filter_flatMap]
    · intro f hf
      obtain ⟨i, hi, rfl⟩ := List.mem_map.1 hf
      obtain ⟨pages, h1, h2⟩ := hc.offers hroom hi p.pattern
      exact .inr ⟨rfl, pages, _, h1, h2, rfl⟩
  · rw [hcur, List.map_map]
    show (t.masters.map id).Nodup
    rw [List.map_id, ← hc.topology]
    exact hc.healthy.masters.1

end SlotSql.Simulation
