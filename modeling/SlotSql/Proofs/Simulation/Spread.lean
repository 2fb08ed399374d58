import SlotSql.Proofs.Simulation.Rows
/-!
# A cluster for every store

The keys of any store can be spread over three masters. A context without connections over that
cluster is healthy and holds the store.

Results:
* `sound_spread`, `holds_spread`: the cluster of a store is sound and holds it.
* `serves_plain`: so does a context over it.
-/
namespace SlotSql

deriving instance DecidableEq for KeyMap
deriving instance DecidableEq for Store.Value

/-- The entries of a map whose keys satisfy a condition. -/
def KeyMap.restrict {α : Type} (m : KeyMap α) (f : String → Bool) : KeyMap α :=
  ⟨m.entries.filter fun e => f e.1, m.sorted.filter _⟩

theorem KeyMap.get?_restrict {α : Type} (m : KeyMap α) (f : String → Bool) (k : String) :
    (m.restrict f).get? k = if f k = true then m.get? k else none := by
  unfold restrict get?
  simp only []
  induction m.entries with
  | nil => simp
  | cons e es ih =>
    by_cases he : f e.1 = true
    · rw [List.filter_cons_of_pos (by exact he), lookup_cons_if, lookup_cons_if, ih]
      by_cases hk : k = e.1
      · subst hk; simp [he]
      · simp [hk]
    · rw [List.filter_cons_of_neg (by exact he), ih, lookup_cons_if]
      by_cases hk : k = e.1
      · subst hk; simp [he]
      · simp [hk]

namespace Simulation

open SlotSql.Cluster SlotSql.Store

/-- Three masters that share the keys of a store. -/
def spread (d : Data) : Simulation :=
  { new with shards := new.shards.mapIdx fun i h =>
      { h with data := d.restrict fun k => home (slotOf k) == i } }

/-- The topology of three masters. -/
def plainTopology : Topology := { config := new.config, nodes := freshNodes new.config }

/-- A context without connections over the cluster of a store. -/
def plainContext (m : Nat) (d : Data) : Context Simulation Link :=
  { Context.new (spread d) plainTopology with maxArgs := m }

variable {d : Data} {i : Nat}

theorem shards_spread (d : Data) : (spread d).shards =
    [⟨0, 5460, 0, d.restrict fun k => home (slotOf k) == 0, [], 1⟩,
      ⟨5461, 10922, 1, d.restrict fun k => home (slotOf k) == 1, [], 1⟩,
      ⟨10923, 16383, 2, d.restrict fun k => home (slotOf k) == 2, [], 1⟩] := rfl

theorem nodes_spread (d : Data) : (spread d).nodes =
    [⟨7000, 0, true, false, [], []⟩, ⟨7001, 1, true, false, [], []⟩, ⟨7002, 2, true, false, [], []⟩] := rfl

theorem dataOf_spread (hi : i < 3) :
    (spread d).dataOf i = d.restrict fun k => home (slotOf k) == i := by
  unfold Simulation.dataOf
  rw [shards_spread]
  match i, hi with
  | 0, _ | 1, _ | 2, _ => rfl

/-- The cluster of a store is sound. -/
theorem sound_spread (d : Data) : (spread d).Sound where
  shards := rfl
  masters := rfl
  nodes := by rw [nodes_spread]; exact Nat.le_refl 3
  node := by
    intro i n hn
    rw [nodes_spread] at hn
    match i, hn with
    | 0, hn | 1, hn | 2, hn => cases hn; exact ⟨rfl, rfl, rfl, by decide, by decide, fun _ => rfl⟩
  placed := by
    intro i h hh k hk
    have hi : i < 3 := (List.getElem?_eq_some_iff.1 hh).1
    rw [← keys_dataOf _ hh, dataOf_spread hi, KeyMap.mem_keys_iff, KeyMap.get?_restrict] at hk
    split at hk
    · next he => exact beq_iff_eq.1 he
    · cases hk
  cursors := by
    intro h hh
    rw [shards_spread] at hh
    simp only [List.mem_cons, List.not_mem_nil, or_false] at hh
    rcases hh with rfl | rfl | rfl <;> exact ⟨Nat.one_pos, by simp⟩

/-- The cluster of a store holds it. -/
theorem holds_spread (d : Data) : (spread d).Holds d := by
  intro k
  rw [(sound_spread d).value?, dataOf_spread (home_lt _), KeyMap.get?_restrict, if_pos (beq_self_eq_true _)]

/-- So does every sound cluster whose shards have the same data. -/
theorem Sound.holds_of_data {s : Simulation} (hs : s.Sound)
    (h : s.shards.map Shard.data = (spread d).shards.map Shard.data) : s.Holds d := by
  have hdata (j : Nat) : s.dataOf j = (spread d).dataOf j := by
    unfold Simulation.dataOf
    rw [← List.getElem?_map, ← List.getElem?_map, h]
  intro k
  rw [hs.value?, hdata, ← (sound_spread d).value?, holds_spread]

theorem find?_plain : ∀ j, j < 3 → plainTopology.config.find? host (basePort + j) = some j := by decide

theorem port_plain : ∀ i, i < 3 →
    (plainTopology.config.nodes[i]?).map NodeConfig.port = some (basePort + i) := by decide

theorem masters_plain : plainTopology.masters = [0, 1, 2] := by decide

/-- A context without connections over the cluster of a store is healthy. -/
theorem healthy_plain (m : Nat) (d : Data) : Healthy (plainContext m d) where
  sound := sound_spread d
  node := by
    intro i n hn
    match i, hn with
    | 0, hn | 1, hn | 2, hn => cases hn; exact ⟨rfl, _, (by decide : _ < 3), rfl⟩
  listed := fun j hj => ⟨j, find?_plain j hj⟩
  ports := (by decide : (plainTopology.config.nodes.map NodeConfig.port).Nodup)
  masters := by
    show plainTopology.masters.Nodup ∧ ∀ i, i ∈ plainTopology.masters ↔
      ∃ j, j < 3 ∧ (plainTopology.config.nodes[i]?).map NodeConfig.port = some (basePort + j)
    rw [masters_plain]
    refine ⟨by decide, fun i => ⟨fun hi => ?_, ?_⟩⟩
    · have hlt : i < 3 := by
        simp only [List.mem_cons, List.not_mem_nil, or_false] at hi
        omega
      exact ⟨i, hlt, port_plain i hlt⟩
    · rintro ⟨j, -, hp⟩
      obtain ⟨n, hn, -⟩ := Option.map_eq_some_iff.1 hp
      have hi : i < 3 := (List.getElem?_eq_some_iff.1 hn).1
      simp only [List.mem_cons, List.not_mem_nil, or_false]
      omega
  size := rfl
  link := by
    intro i l n hl
    match i, hl with
    | 0, hl | 1, hl | 2, hl => cases hl
  trusted := .inl rfl
  active := (by decide : 0 < 3)

/-- A context without connections over the cluster of a store serves it. -/
theorem serves_plain (m : Nat) (d : Data) : Serves m 1 plainTopology d (plainContext m d) where
  healthy := healthy_plain m d
  topology := rfl
  holds := holds_spread d
  maxArgs := rfl
  room := by
    intro h hh
    have hsh : h ∈ (spread d).shards := hh
    rw [shards_spread] at hsh
    simp only [List.mem_cons, List.not_mem_nil, or_false] at hsh
    rcases hsh with rfl | rfl | rfl <;> exact Nat.le_refl 1

end Simulation
end SlotSql
