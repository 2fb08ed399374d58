import SlotSql.Proofs.World
import SlotSql.Proofs.Store.Words
import SlotSql.Proofs.Text.Pieces
import SlotSql.Simulation.Node
/-!
# Healthy nodes

In a sound simulated cluster the slots are shared as at the beginning, each key lies on the shard of its
slot, no node is down and none has replies to answer instead of its own. There a command on keys of
one slot is carried out by the master of the slot on the data of its shard, and any other node answers
with the address of that master.

Results:
* `handle_master`, `handle_other`: the two answers to a command on keys.
* `Sound.run`: a cluster stays sound when a command is carried out.
* `redirect?_moved`: the address in a redirection is read back.
-/
namespace SlotSql.Simulation

open SlotSql.Cluster SlotSql.Store

/-- The shard of a slot, as the slots are shared at the beginning. -/
def home (slot : Nat) : Nat := if slot ≤ 5460 then 0 else if slot ≤ 10922 then 1 else 2

theorem home_lt (slot : Nat) : home slot < 3 := by
  unfold home; split
  · omega
  · split <;> omega

/-- A cluster without failures: three shards with a master each, and replicas. -/
structure Sound (s : Simulation) : Prop where
  shards : s.shards.map (fun h => (h.firstSlot, h.lastSlot)) = slotRanges
  masters : s.shards.map Shard.master = [0, 1, 2]
  nodes : 3 ≤ s.nodes.length
  node : ∀ i n, s.nodes[i]? = some n → n.port = basePort + i ∧ n.down = false ∧ n.injected = [] ∧
    n.shard < 3 ∧ (n.isMaster = true ↔ i < 3) ∧ (i < 3 → n.shard = i)
  placed : ∀ i h, s.shards[i]? = some h → ∀ k ∈ h.data.keys, home (slotOf k) = i
  cursors : ∀ h ∈ s.shards, 0 < h.nextCursor ∧ ∀ c ∈ h.cursors, 0 < c.1 ∧ c.1 < h.nextCursor

/-- What lies under a key. -/
def value? (s : Simulation) (k : String) : Option Value := (s.dataOf (s.shardOf (slotOf k))).get? k

variable {s : Simulation}

namespace Sound

theorem length_shards (hs : s.Sound) : s.shards.length = 3 := by
  have := congrArg List.length hs.masters
  simpa using this

theorem shard (hs : s.Sound) {i : Nat} (hi : i < 3) : ∃ h, s.shards[i]? = some h ∧ h.master = i := by
  have hl : i < s.shards.length := hs.length_shards.symm ▸ hi
  refine ⟨s.shards[i], List.getElem?_eq_getElem hl, ?_⟩
  have h := congrArg (·[i]?) hs.masters
  simp only [List.getElem?_map, List.getElem?_eq_getElem hl, Option.map_some] at h
  have : ∀ j, j < 3 → ([0, 1, 2] : List Nat)[j]? = some j := by decide
  rw [this i hi] at h
  exact Option.some.inj h

theorem shardOf (hs : s.Sound) {slot : Nat} (h : slot < slotCount) : s.shardOf slot = home slot := by
  have hsh := hs.shards
  have hlen := hs.length_shards
  match hs' : s.shards, hlen with
  | [a, b, c], _ =>
    rw [hs'] at hsh
    simp only [List.map_cons, List.map_nil, slotRanges, List.cons.injEq, Prod.mk.injEq] at hsh
    obtain ⟨⟨a1, a2⟩, ⟨b1, b2⟩, ⟨c1, c2⟩, -⟩ := hsh
    unfold slotCount at h
    unfold Simulation.shardOf home
    rw [hs']
    simp only [List.findIdx?_cons, a1, a2, b1, b2, c1, c2, Nat.zero_le, decide_true, Bool.true_and]
    by_cases h1 : slot ≤ 5460
    · simp [h1]
    · by_cases h2 : slot ≤ 10922
      · simp [h1, h2, show 5461 ≤ slot by omega]
      · simp [h1, h2, show 10923 ≤ slot by omega, show slot ≤ 16383 by omega]

theorem shardOf_key (hs : s.Sound) (k : String) : s.shardOf (slotOf k) = home (slotOf k) :=
  hs.shardOf (keySlot_lt _)

theorem value? (hs : s.Sound) (k : String) : s.value? k = (s.dataOf (home (slotOf k))).get? k := by
  unfold Simulation.value?
  rw [hs.shardOf_key]

theorem dataOf_get? (hs : s.Sound) {i : Nat} {k : String} (h : home (slotOf k) ≠ i) :
    (s.dataOf i).get? k = none := by
  unfold Simulation.dataOf
  cases hi : s.shards[i]? with
  | none => rfl
  | some sh =>
    cases hk : sh.data.get? k with
    | none => exact hk
    | some v => exact absurd (hs.placed i sh hi k (KeyMap.mem_keys_iff.2 (by rw [hk]; rfl))) h

end Sound

/-! ## Redirections -/

/-- The reply that names the master of a slot. -/
def moved (slot i : Nat) : Reply :=
  .error ("MOVED " ++ toString slot ++ " " ++ addrText host (basePort + i))

theorem addr_table : ∀ i, i < 3 →
    (addrText host (basePort + i)).toList =
      '1' :: "27.0.0.1:".toList ++ (toString (basePort + i)).toList ∧
    (addrText host (basePort + i)).toList.any Text.isBlank = false ∧
    Text.cutLast? ':' (addrText host (basePort + i)).toList =
      some (host.toList, (toString (basePort + i)).toList) ∧
    Number.nat16? (toString (basePort + i)) = some (basePort + i) := by
  decide +kernel

/-- The address in a redirection is read back. -/
theorem redirect?_moved {slot i : Nat} (hslot : slot < slotCount) (hi : i < 3) :
    (moved slot i).redirect? = some ⟨slot, host, basePort + i⟩ := by
  obtain ⟨h1, h2, h3, h4⟩ := addr_table i hi
  have hs : (toString slot).toList = Nat.toDigits 10 slot := Nat.toList_repr
  obtain ⟨d, ds, hd, -, -⟩ := Number.toDigits_head (b := 10) (by omega) (by omega) slot
  have hdb := Text.isBlank_toDigits (b := 10) (by omega) (by omega) slot
  have hmax : Number.max16 = 65535 := by decide
  have hslot' : Number.nat16? (toString slot) = some slot :=
    Number.natural?_toString (by unfold slotCount at hslot; omega)
  have hw : Text.words ("MOVED " ++ toString slot ++ " " ++ addrText host (basePort + i)).toList =
      ["MOVED".toList, (toString slot).toList, (addrText host (basePort + i)).toList] := by
    have hsplit : ("MOVED " ++ toString slot ++ " " ++ addrText host (basePort + i)).toList =
        "MOVED".toList ++ ' ' :: ((toString slot).toList ++ ' ' :: (addrText host (basePort + i)).toList) := by
      simp only [String.toList_append]
      simp
    have haddr : (addrText host (basePort + i)).toList ≠ [] := by rw [h1]; simp
    have hmoved : "MOVED".toList.any Text.isBlank = false := by decide +kernel
    have hno {cs : List Char} (h : cs.any Text.isBlank = false) (c : Char) (hc : c ∈ cs) :
        Text.isBlank c = false := by
      simpa using List.any_eq_false.1 h c hc
    rw [hsplit, hs, Text.words_cons (by decide) (hno hmoved),
      Text.words_cons Nat.toDigits_ne_nil hdb, Text.words_word haddr (hno h2)]
    · rw [h1]; rintro c hc; cases hc; decide
    · rw [hd] at hdb ⊢
      rintro c hc
      cases hc
      exact hdb d List.mem_cons_self
  unfold moved Reply.redirect?
  simp only [hw, List.map_cons, List.map_nil, String.ofList_toList]
  simp only [hslot', h3, Option.bind_eq_bind, Option.bind_some, String.ofList_toList, h4]

/-! ## Commands on keys -/

/-- Keys of one slot, at least one. -/
def OneSlot (slot : Nat) (ks : List String) : Prop := ks ≠ [] ∧ ∀ k ∈ ks, slotOf k = slot

theorem OneSlot.lt {slot : Nat} {ks : List String} (h : OneSlot slot ks) : slot < slotCount := by
  obtain ⟨k, ks, rfl⟩ := List.exists_cons_of_ne_nil h.1
  exact h.2 k List.mem_cons_self ▸ keySlot_lt _

theorem oneSlot_singleton (key : String) : OneSlot (slotOf key) [key] :=
  ⟨by simp, fun j hj => by rw [List.mem_singleton.1 hj]⟩

/-- The cluster with other data on a shard. -/
def withData (s : Simulation) (i : Nat) (d : Data) : Simulation :=
  { s with shards := s.shards.modify i fun h => { h with data := d } }

variable {cmd : Command} {kc : KeyCommand} {slot j : Nat} {ks : List String}

theorem route_master (hs : s.Sound) (hk : OneSlot slot ks) {n : SimNode}
    (hj : s.nodes[home slot]? = some n) : s.route (home slot) ks = .ok (home slot) := by
  have hlt := hk.lt
  obtain ⟨hne, hall⟩ := hk
  obtain ⟨k, ks, rfl⟩ := List.exists_cons_of_ne_nil hne
  have hslot : slotOf k = slot := hall k List.mem_cons_self
  obtain ⟨-, -, -, -, h1, h2⟩ := hs.node _ _ hj
  have hsame : (ks.any fun k => slotOf k != slot) = false := by
    rw [List.any_eq_false]
    intro k hk
    simp [hall k (List.mem_cons_of_mem _ hk)]
  unfold route
  simp only [hslot, hsame, hs.shardOf hlt, hj, Bool.false_eq_true, ↓reduceIte]
  rw [if_pos ⟨h2 (home_lt slot), h1.2 (home_lt slot)⟩]

theorem route_other (hs : s.Sound) (hk : OneSlot slot ks) {n : SimNode} (hj : s.nodes[j]? = some n)
    (hne : j ≠ home slot) : s.route j ks = .error (moved slot (home slot)) := by
  have hlt := hk.lt
  obtain ⟨hnil, hall⟩ := hk
  obtain ⟨k, ks, rfl⟩ := List.exists_cons_of_ne_nil hnil
  have hslot : slotOf k = slot := hall k List.mem_cons_self
  obtain ⟨-, -, -, -, h1, h2⟩ := hs.node _ _ hj
  have hsame : (ks.any fun k => slotOf k != slot) = false := by
    rw [List.any_eq_false]
    intro k hk
    simp [hall k (List.mem_cons_of_mem _ hk)]
  obtain ⟨h, hh, hm⟩ := hs.shard (home_lt slot)
  have hmaster : (home slot) < s.nodes.length := Nat.lt_of_lt_of_le (home_lt slot) hs.nodes
  obtain ⟨hp, -⟩ := hs.node _ _ (List.getElem?_eq_getElem hmaster)
  unfold route
  simp only [hslot, hsame, hs.shardOf hlt, hj, Bool.false_eq_true, ↓reduceIte]
  rw [if_neg fun h => hne ((h2 (h1.1 h.2)).symm.trans h.1)]
  simp only [hh, hm, List.getElem?_eq_getElem hmaster, Option.bind_eq_bind, Option.bind_some,
    Option.getD_some, SimNode.addr, hp]
  rfl

/-- A command whose name is that of one on keys is run on keys, whatever its arguments are. -/
theorem handle_onKeys (hname : cmd.name ∈ KeyCommand.manyKeyNames ++ KeyCommand.oneKeyNames) :
    s.handle j cmd = s.onKeys j cmd.name cmd.args := by
  have hin : KeyCommand.manyKeyNames.contains cmd.name ∨ KeyCommand.oneKeyNames.contains cmd.name := by
    simpa using hname
  have hne (n : String) (hn : n ∉ KeyCommand.manyKeyNames ++ KeyCommand.oneKeyNames) : cmd.name ≠ n :=
    fun h => hn (h ▸ hname)
  have hargs : (cmd.words.map fun w => (Utf8.decodeLossy w, w)).drop 1 = cmd.args := List.map_drop.symm
  unfold handle
  simp only [hargs]
  rw [if_neg (hne _ (by decide)), if_neg (hne _ (by decide)), if_neg (hne _ (by decide)), if_pos hin]

theorem handle_eq_onKeys (hr : cmd.About ks) : s.handle j cmd = s.onKeys j cmd.name cmd.args :=
  handle_onKeys hr.name

/-- The master of the keys' slot carries a command out on the data of its shard. -/
theorem handle_master (hs : s.Sound) (hr : cmd.Runs kc) (hk : OneSlot slot kc.keys) {n : SimNode}
    (hj : s.nodes[home slot]? = some n) :
    s.handle (home slot) cmd = ((kc.run (s.dataOf (home slot))).1,
      s.withData (home slot) (kc.run (s.dataOf (home slot))).2) := by
  rw [handle_eq_onKeys hr.toAbout]
  unfold onKeys
  rw [if_neg (by simpa using hr.args), hr.keys, route_master hs hk hj]
  simp only [hr.read]
  rfl

/-- Any other node names the master of the slot. -/
theorem handle_other (hs : s.Sound) (hr : cmd.About ks) (hk : OneSlot slot ks) {n : SimNode}
    (hj : s.nodes[j]? = some n) (hne : j ≠ home slot) :
    s.handle j cmd = (moved slot (home slot), s) := by
  rw [handle_eq_onKeys hr]
  unfold onKeys
  rw [if_neg (by simpa using hr.args), hr.keys, route_other hs hk hj hne]

theorem dataOf_withData (hi : j < s.shards.length) (d : Data) (i : Nat) :
    (s.withData j d).dataOf i = if i = j then d else s.dataOf i := by
  unfold withData Simulation.dataOf
  simp only [List.getElem?_modify, Option.map_eq_map, Option.map_map]
  by_cases h : i = j
  · subst h
    simp [List.getElem?_eq_getElem hi]
  · have hf : (Shard.data ∘ fun a : Shard => if j = i then { a with data := d } else a) = Shard.data := by
      funext a
      simp only [Function.comp, if_neg (Ne.symm h)]
    rw [if_neg h, hf]

theorem Sound.withData (hs : s.Sound) {d : Data} (hd : ∀ k ∈ d.keys, home (slotOf k) = j) :
    (s.withData j d).Sound := by
  have hmap {α : Type} (f : Shard → α) (hf : ∀ h, f { h with data := d } = f h) :
      (s.withData j d).shards.map f = s.shards.map f := by
    refine List.ext_getElem? fun i => ?_
    simp only [Simulation.withData, List.getElem?_map, List.getElem?_modify, Option.map_eq_map,
      Option.map_map]
    congr 1
    funext a
    simp only [Function.comp]
    split
    · exact hf a
    · rfl
  have hmem : ∀ i h, (s.withData j d).shards[i]? = some h → ∃ h₀, s.shards[i]? = some h₀ ∧
      h = if j = i then { h₀ with data := d } else h₀ := by
    intro i h hh
    simp only [Simulation.withData, List.getElem?_modify, Option.map_eq_map] at hh
    obtain ⟨h₀, h1, h2⟩ := Option.map_eq_some_iff.1 hh
    refine ⟨h₀, h1, ?_⟩
    rw [← h2]
  refine ⟨(hmap _ fun _ => rfl).trans hs.shards, (hmap _ fun _ => rfl).trans hs.masters, hs.nodes, hs.node,
    ?_, ?_⟩
  · intro i h hh k hk
    obtain ⟨h₀, h1, rfl⟩ := hmem i h hh
    split at hk
    · next he => exact he ▸ hd k hk
    · exact hs.placed i h₀ h1 k hk
  · intro h hh
    obtain ⟨i, hi, he⟩ := List.mem_iff_getElem.1 hh
    obtain ⟨h₀, h1, rfl⟩ := hmem i h (he ▸ List.getElem?_eq_getElem hi)
    have := hs.cursors h₀ (List.mem_of_getElem? h1)
    split <;> exact this

theorem Sound.value?_withData (hs : s.Sound) {d : Data} (hd : ∀ k ∈ d.keys, home (slotOf k) = j)
    (hj : j < 3) (k : String) :
    (s.withData j d).value? k = if home (slotOf k) = j then d.get? k else s.value? k := by
  rw [(hs.withData hd).value?, dataOf_withData (hs.length_shards.symm ▸ hj), hs.value?]
  split <;> rfl

/-- The keys of a shard after a command on keys of its own. -/
theorem Sound.run_placed (hs : s.Sound) (hk : OneSlot slot kc.keys) :
    ∀ k ∈ (kc.run (s.dataOf (home slot))).2.keys, home (slotOf k) = home slot := by
  intro k hmem
  by_cases hin : k ∈ kc.keys
  · rw [hk.2 k hin]
  · rw [KeyMap.mem_keys_iff, KeyCommand.run_outside kc hin] at hmem
    by_cases h : home (slotOf k) = home slot
    · exact h
    · rw [hs.dataOf_get? h] at hmem
      cases hmem

/-- A cluster stays sound when a command is carried out. -/
theorem Sound.run (hs : s.Sound) (hk : OneSlot slot kc.keys) :
    (s.withData (home slot) (kc.run (s.dataOf (home slot))).2).Sound :=
  hs.withData (hs.run_placed hk)

/-- The cluster holds what a store holds. -/
def Holds (s : Simulation) (d : Data) : Prop := ∀ k, s.value? k = d.get? k

theorem Holds.agree {d : Data} (hs : s.Sound) (h : s.Holds d) (hk : OneSlot slot ks) :
    KeyCommand.Agree ks (s.dataOf (home slot)) d := fun k hin => by
  rw [← h k, hs.value?, hk.2 k hin]

/-- A command that is carried out on a shard does to the cluster what it does to the store. -/
theorem Holds.run {d : Data} (hs : s.Sound) (h : s.Holds d) (hk : OneSlot slot kc.keys) :
    (kc.run (s.dataOf (home slot))).1 = (kc.run d).1 ∧
      (s.withData (home slot) (kc.run (s.dataOf (home slot))).2).Holds (kc.run d).2 := by
  have ha := h.agree hs hk
  refine ⟨KeyCommand.run_reply kc ha, fun k => ?_⟩
  rw [hs.value?_withData (hs.run_placed hk) (home_lt slot)]
  by_cases hin : k ∈ kc.keys
  · rw [hk.2 k hin, if_pos rfl]
    exact KeyCommand.run_inside kc ha k hin
  · rw [KeyCommand.run_outside kc hin, KeyCommand.run_outside kc hin, ← h k]
    split
    · next he => rw [hs.value?, he]
    · rfl

end SlotSql.Simulation
