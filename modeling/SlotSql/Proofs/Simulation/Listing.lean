import SlotSql.Engine.Catalog
import SlotSql.Proofs.Simulation.Order
/-!
# Looking for entries

Tables are looked for by asking each master for pages until it has no more. In a healthy context this names every key of
the store that matches, so what is found depends on the keys of the store alone, not on how they are spread or how large
a page is.

Results:
* `Serves.nodeKeys`: a master is asked until it has named all its keys that match.
* `Serves.tables`: the entries that are found.
* `Catalog.mem_sorted`, `Catalog.sorted_pairwise`: names in order, each once.
-/
namespace SlotSql

open Cluster Store Dialogue

/-! ## Names in order -/

namespace Catalog

variable {names : List String} {n : String}

theorem mem_sorted : n ∈ sorted names ↔ n ∈ names := by
  rw [sorted, List.mem_eraseDups, List.mem_mergeSort]

/-- Names in order without those that were there before are in strict order. -/
theorem eraseDups_pairwise (h : names.Pairwise (· ≤ ·)) : names.eraseDups.Pairwise (· < ·) := by
  induction hn : names.length using Nat.strongRecOn generalizing names with
  | _ k ih =>
    subst hn
    cases names with
    | nil => exact .nil
    | cons a names =>
      obtain ⟨hfirst, hrest⟩ := List.pairwise_cons.1 h
      rw [List.eraseDups_cons]
      refine List.pairwise_cons.2 ⟨fun b hb => ?_,
        ih _ (Nat.lt_succ_of_le (List.length_filter_le _ _)) (hrest.filter _) rfl⟩
      obtain ⟨hmem, hne⟩ := List.mem_filter.1 (List.mem_eraseDups.1 hb)
      rw [Bool.not_eq_true', beq_eq_false_iff_ne] at hne
      by_contra hlt
      exact hne (String.le_antisymm (String.not_lt.1 hlt) (hfirst b hmem))

theorem sorted_pairwise (names : List String) : (sorted names).Pairwise (· < ·) := by
  refine eraseDups_pairwise ((List.pairwise_mergeSort (fun a b c hab hbc => ?_) (fun a b => ?_) names).imp ?_)
  · simp only [decide_eq_true_eq] at *
    exact String.le_trans hab hbc
  · simpa using String.le_total a b
  · simp

end Catalog

namespace Simulation

variable {m top : Nat} {t : Topology} {d : Data} {c : Context Simulation Link} {i cursor pages patience : Nat}
  {pattern : String} {st : Settings} {ks : List String}

/-! ## Keys of the masters -/

/-- A master is asked for pages until it has named all keys that match. -/
theorem Serves.nodeKeys (hc : Serves m top t d c) (hm : 6 ≤ m) (hpos : 0 < st.scanBatch)
    (hmax : st.scanBatch ≤ Number.max64) (htop : top ≤ Number.max64) (ho : Offers top pattern c i cursor pages ks)
    (hpages : pages ≤ patience) : ∃ c',
      outcome Context.world (Catalog.nodeKeys st pattern i patience cursor) c = (.ok ks, c') ∧ Serves m top t d c' ∧
        ∀ {n c₀ k l}, n ≠ i → Offers top pattern c n c₀ k l → Offers top pattern c' n c₀ k l := by
  induction patience generalizing cursor pages ks c with
  | zero =>
    obtain ⟨_, _, _, _, -, -, -, -, -, -, rfl, -⟩ := ho
    omega
  | succ patience ih =>
    obtain ⟨page, c₁, rest, h1, h2, rfl, h4, h5⟩ := hc.page hm hpos hmax htop ho
    have hpage : outcome Context.world (liftM (Asking.scan i cursor pattern st.scanBatch) : Engine Asking.Page) c =
        (.ok page, c₁) := by
      rw [Engine.outcome_liftM, h1]
      rfl
    unfold Catalog.nodeKeys
    rw [outcome_bind_ok hpage]
    rcases h4 with ⟨h0, rfl, -⟩ | ⟨h0, k, hk, hnext⟩
    · rw [if_pos h0, List.append_nil]
      exact ⟨c₁, rfl, h2, h5⟩
    · obtain ⟨c₂, g1, g2, g3⟩ := ih h2 hnext (by omega)
      rw [if_neg h0, outcome_bind_ok g1]
      exact ⟨c₂, rfl, g2, fun hn ho => g3 hn (h5 hn ho)⟩

/-- Masters are asked one after the other. -/
theorem Serves.allKeys (hc : Serves m top t d c) (hm : 6 ≤ m) (hpos : 0 < st.scanBatch)
    (hmax : st.scanBatch ≤ Number.max64) (htop : top ≤ Number.max64) {keys : Nat → List String} {nodes : List Nat}
    (hnodes : nodes.Nodup) (ho : ∀ i ∈ nodes, ∃ pages, pages ≤ patience ∧ Offers top pattern c i 0 pages (keys i)) :
    ∃ c', outcome Context.world (nodes.mapM fun node => Catalog.nodeKeys st pattern node patience 0) c =
      (.ok (nodes.map keys), c') ∧ Serves m top t d c' := by
  induction nodes generalizing c with
  | nil => exact ⟨c, rfl, hc⟩
  | cons i nodes ih =>
    obtain ⟨hi, hnodes⟩ := List.nodup_cons.1 hnodes
    obtain ⟨pages, hpages, hoffers⟩ := ho i List.mem_cons_self
    obtain ⟨c₁, h1, h2, h3⟩ := hc.nodeKeys hm hpos hmax htop hoffers hpages
    obtain ⟨c₂, g1, g2⟩ := ih h2 hnodes fun j hj => by
      obtain ⟨pages, hpages, hoffers⟩ := ho j (List.mem_cons_of_mem _ hj)
      exact ⟨pages, hpages, h3 (fun he => hi (he ▸ hj)) hoffers⟩
    rw [List.mapM_cons, outcome_bind_ok h1, outcome_bind_ok g1]
    exact ⟨c₂, rfl, g2⟩

/-- The entries that are found are those of the store that match. -/
theorem Serves.tables (hc : Serves m top t d c) (hm : 6 ≤ m) (hpos : 0 < st.scanBatch) (hmax : st.scanBatch ≤ Number.max64)
    (hroom : top + d.size ≤ Number.max64) (hpatience : d.size < patience) (pattern : String) : ∃ c',
      outcome Context.world (Catalog.tables st patience t.masters pattern) c =
        (.ok (((scanOrder t d).filter (Glob.matchesKey pattern)).filterMap (Key.parseSystem? st.systemPrefix)), c') ∧
      Serves m (top + d.size) t d c' := by
  have hmasters : t.masters.Nodup := hc.topology ▸ hc.healthy.masters.1
  obtain ⟨c', h1, h2⟩ := (hc.mono (Nat.le_add_right top d.size)).allKeys hm hpos hmax hroom hmasters fun i hi => by
    obtain ⟨pages, hpages, hoffers⟩ := hc.offers (Nat.le_refl _) hi pattern
    exact ⟨pages, hpages.trans hpatience, hoffers⟩
  refine ⟨c', ?_, h2⟩
  unfold Catalog.tables
  rw [outcome_bind_ok h1]
  show (Except.ok _, c') = _
  rw [← List.flatMap_def, scanOrder, List.filter_flatMap]

end Simulation
end SlotSql
