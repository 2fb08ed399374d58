import Mathlib.Data.List.Nodup
import SlotSql.Cluster.Topology
/-!
# Replication links

A check links masters and replicas from both sides: a master names its replicas, a replica its master. The reports come
from different moments, so one of them may name a replica that has since gone over to another master. A link that is
made is noted with both nodes, but the note that the former master keeps of a replica is not struck out.

Results:
* `getElem?_applyCheck`: what a check that is accepted knows of each node, in terms of the links that are named.
* `links_mutual_iff`: a master is always known to its replica's list and no list has a repetition; the nodes know of each
  other both ways just when no replica is named with two masters.
-/
namespace SlotSql.Cluster

/-! ## One link -/

/-- What a node knows after a link between a master and a replica that are different nodes. -/
def Node.join (i : Nat) (n : Node) (l : Nat × Nat) : Node :=
  { n with
    slaves := if l.1 = i ∧ l.2 ∉ n.slaves then n.slaves ++ [l.2] else n.slaves
    master := if l.2 = i then some l.1 else n.master }

theorem getElem?_link {m s : Nat} (h : m ≠ s) (nodes : List Node) (i : Nat) :
    (link nodes m s)[i]? = (nodes[i]?).map fun n => n.join i (m, s) := by
  unfold link
  rw [if_neg h]
  simp only [List.getElem?_modify]
  cases nodes[i]? with
  | none => rfl
  | some n =>
    by_cases hm : m = i
    · subst hm
      by_cases hs : s ∈ n.slaves <;> simp [Node.join, Ne.symm h, hs]
    · by_cases hs : s = i <;> simp [Node.join, hm, hs]

section Join

variable {i : Nat} {ls : List (Nat × Nat)} {n : Node}

theorem role_joins : (ls.foldl (Node.join i) n).role = n.role := by
  induction ls generalizing n with
  | nil => rfl
  | cons l ls ih => exact ih

theorem mem_slaves_joins {s : Nat} : s ∈ (ls.foldl (Node.join i) n).slaves ↔ s ∈ n.slaves ∨ (i, s) ∈ ls := by
  induction ls generalizing n with
  | nil => simp
  | cons l ls ih =>
    rw [List.foldl_cons, ih, List.mem_cons, ← or_assoc]
    refine or_congr_left ?_
    obtain ⟨m, x⟩ := l
    simp only [Node.join, Prod.mk.injEq]
    split
    · next h =>
      rw [List.mem_append, List.mem_singleton]
      exact or_congr_right ⟨fun hs => ⟨h.1.symm, hs⟩, And.right⟩
    · next h =>
      refine ⟨.inl, fun hs => hs.elim id ?_⟩
      rintro ⟨rfl, rfl⟩
      exact not_not.1 fun hx => h ⟨rfl, hx⟩

theorem nodup_slaves_joins (h : n.slaves.Nodup) : (ls.foldl (Node.join i) n).slaves.Nodup := by
  induction ls generalizing n with
  | nil => exact h
  | cons l ls ih =>
    refine ih ?_
    simp only [Node.join]
    split
    · next hl =>
      refine List.nodup_append.2 ⟨h, List.nodup_singleton _, fun a ha b hb => ?_⟩
      rintro rfl
      exact hl.2 (List.mem_singleton.1 hb ▸ ha)
    · exact h

/-- The master of a node is the one that was named last. -/
theorem master_joins : (ls.foldl (Node.join i) n).master =
    ((ls.filter fun l => l.2 = i).getLast?.map Prod.fst).or n.master := by
  induction ls generalizing n with
  | nil => rfl
  | cons l ls ih =>
    rw [List.foldl_cons, ih, List.filter_cons]
    simp only [Node.join]
    by_cases hl : l.2 = i
    · simp only [hl, decide_true, ↓reduceIte, List.getLast?_cons]
      cases (ls.filter fun l => l.2 = i).getLast? <;> rfl
    · simp only [hl, decide_false, Bool.false_eq_true, ↓reduceIte]

end Join

/-! ## Links that are named -/

/-- The role that a report gives its node. -/
def NodeReport.role (r : NodeReport) : Role := ((r.replication.get? "role").map Role.parse).getD .unknown

/-- The role of a node after some reports: the one that its last report gives. -/
def roleAfter (reports : List NodeReport) (i : Nat) : Role :=
  ((reports.filter fun r => r.index = i).getLast?.map NodeReport.role).getD .unknown

/-- The links that a report of a node of the given role names, as a master and a replica. Addresses that are not
configured are passed over, and so is a node that names itself. -/
def NodeReport.links (c : Config) (role : Role) (r : NodeReport) : List (Nat × Nat) :=
  let named := match role with
    | .unknown => []
    | .master => (r.replication.replicas.filterMap fun (h, p) => c.find? h p).map fun s => (r.index, s)
    | .slave => (r.replication.masterAddr?.bind fun (h, p) => c.find? h p).toList.map fun m => (m, r.index)
  named.filter fun l => l.1 ≠ l.2

/-- All links that the reports of a check name, in order. -/
def namedLinks (c : Config) (reports : List NodeReport) : List (Nat × Nat) :=
  reports.flatMap fun r => r.links c (roleAfter reports r.index)

/-- Makes links one after the other. -/
def linkAll (nodes : List Node) (ls : List (Nat × Nat)) : List Node := ls.foldl (fun ns l => link ns l.1 l.2) nodes

theorem linkAll_filter (nodes : List Node) (ls : List (Nat × Nat)) :
    linkAll nodes (ls.filter fun l => l.1 ≠ l.2) = linkAll nodes ls := by
  unfold linkAll
  induction ls generalizing nodes with
  | nil => rfl
  | cons l ls ih =>
    rw [List.filter_cons, List.foldl_cons]
    by_cases hl : l.1 = l.2
    · have hself : link nodes l.1 l.2 = nodes := if_pos hl
      simp only [hl, ne_eq, not_true_eq_false, decide_false, Bool.false_eq_true, ↓reduceIte] at hself ⊢
      rw [hself]
      exact ih nodes
    · simp only [hl, ne_eq, not_false_eq_true, decide_true, ↓reduceIte, List.foldl_cons]
      exact ih _

theorem getElem?_linkAll {ls : List (Nat × Nat)} (h : ∀ l ∈ ls, l.1 ≠ l.2) (nodes : List Node) (i : Nat) :
    (linkAll nodes ls)[i]? = (nodes[i]?).map fun n => ls.foldl (Node.join i) n := by
  unfold linkAll
  induction ls generalizing nodes with
  | nil => simp
  | cons l ls ih =>
    obtain ⟨hl, hls⟩ := List.forall_mem_cons.1 h
    rw [List.foldl_cons, ih hls, getElem?_link hl, Option.map_map]
    rfl

/-! ## A check -/

namespace Topology

variable {t t' : Topology} {r : NodeReport} {reports : List NodeReport} {nodes nodes' : List Node}

theorem noteRole_eq_ok (h : t.noteRole nodes r = .ok nodes') :
    r.index < t.size ∧ nodes' = nodes.modify r.index fun n => { n with role := r.role } := by
  unfold noteRole node at h
  split at h
  · next n hn =>
    have hlt := (List.getElem?_eq_some_iff.1 hn).1
    simp only [bind, Except.bind] at h
    split at h
    · cases h
    · unfold NodeReport.role
      cases hr : ((r.replication.get? "role").map Role.parse).getD .unknown with
      | unknown => rw [hr] at h; cases h
      | master => rw [hr] at h; cases h; exact ⟨hlt, rfl⟩
      | slave => rw [hr] at h; cases h; exact ⟨hlt, rfl⟩
  · cases h

theorem foldlM_noteRole (h : reports.foldlM t.noteRole nodes = .ok nodes') :
    (∀ r ∈ reports, r.index < t.size) ∧ ∀ i : Nat, nodes'[i]? = (nodes[i]?).map fun n =>
      { n with role := ((reports.filter fun r => r.index = i).getLast?.map NodeReport.role).getD n.role } := by
  induction reports generalizing nodes with
  | nil => cases h; simp
  | cons r reports ih =>
    rw [List.foldlM_cons] at h
    cases hmid : t.noteRole nodes r with
    | error e => rw [hmid] at h; cases h
    | ok mid =>
      rw [hmid] at h
      obtain ⟨hlt, rfl⟩ := noteRole_eq_ok hmid
      obtain ⟨hreports, hnodes⟩ := ih h
      refine ⟨List.forall_mem_cons.2 ⟨hlt, hreports⟩, fun i => ?_⟩
      rw [hnodes, List.getElem?_modify, List.filter_cons]
      -- A later report of the node decides, then this one, then what was known before.
      by_cases hi : r.index = i
      · simp only [hi, decide_true, ↓reduceIte, List.getLast?_cons]
        cases nodes[i]? <;> cases (reports.filter fun r => r.index = i).getLast? <;> rfl
      · simp only [hi, decide_false, Bool.false_eq_true, ↓reduceIte]
        cases nodes[i]? <;> rfl

/-- The role that is known of a node. -/
def roleIn (nodes : List Node) (i : Nat) : Role := ((nodes[i]?).map Node.role).getD .unknown

theorem linkReport_eq (c : Config) (nodes : List Node) (r : NodeReport) :
    linkReport c nodes r = linkAll nodes (r.links c (roleIn nodes r.index)) := by
  unfold NodeReport.links
  rw [linkAll_filter]
  unfold linkReport roleIn
  cases (nodes[r.index]?).map Node.role with
  | none => rfl
  | some role =>
    cases role with
    | unknown => rfl
    | master =>
      show _ = linkAll nodes (List.map (fun s => (r.index, s)) _)
      unfold linkAll
      rw [List.foldl_map]
    | slave =>
      simp only []
      split
      · next hm => rw [hm]; rfl
      · next hm => rw [hm]; rfl

theorem links_apart {c : Config} {role : Role} {l : Nat × Nat} (h : l ∈ r.links c role) : l.1 ≠ l.2 :=
  of_decide_eq_true (List.mem_filter.1 h).2

theorem roleIn_linkAll {ls : List (Nat × Nat)} (h : ∀ l ∈ ls, l.1 ≠ l.2) (nodes : List Node) :
    roleIn (linkAll nodes ls) = roleIn nodes := by
  funext i
  unfold roleIn
  rw [getElem?_linkAll h, Option.map_map]
  congr 2
  funext n
  exact role_joins

theorem foldl_linkReport (c : Config) (reports : List NodeReport) (nodes : List Node) :
    reports.foldl (linkReport c) nodes =
      linkAll nodes (reports.flatMap fun r => r.links c (roleIn nodes r.index)) := by
  induction reports generalizing nodes with
  | nil => rfl
  | cons r reports ih =>
    rw [List.foldl_cons, ih, linkReport_eq, roleIn_linkAll fun l => links_apart, List.flatMap_cons]
    exact (List.foldl_append ..).symm

theorem namedLinks_apart {c : Config} : ∀ l ∈ namedLinks c reports, l.1 ≠ l.2 := fun _ hl =>
  let ⟨_, _, h⟩ := List.mem_flatMap.1 hl
  links_apart h

/-- What a check that is accepted knows of each node: the role is that of the last report, and the named links are made
in order. -/
theorem getElem?_applyCheck (h : t.applyCheck reports = .ok t') :
    t'.config = t.config ∧ (∀ r ∈ reports, r.index < t.size) ∧ ∀ i : Nat, t'.nodes[i]? = (t.config.nodes[i]?).map fun n =>
      (namedLinks t.config reports).foldl (Node.join i) { index := i, config := n, role := roleAfter reports i } := by
  unfold applyCheck at h
  cases hroles : reports.foldlM t.noteRole (freshNodes t.config) with
  | error e => rw [hroles] at h; cases h
  | ok nodes =>
    rw [hroles] at h
    cases h
    obtain ⟨hlt, hnodes⟩ := foldlM_noteRole hroles
    have hnode (i : Nat) : nodes[i]? = (t.config.nodes[i]?).map fun n =>
        ({ index := i, config := n, role := roleAfter reports i } : Node) := by
      rw [hnodes, freshNodes, List.getElem?_mapIdx, Option.map_map]
      rfl
    have hrole : ∀ r ∈ reports, roleIn nodes r.index = roleAfter reports r.index := by
      intro r hr
      unfold roleIn
      rw [hnode, List.getElem?_eq_getElem (hlt r hr)]
      rfl
    have hlinks : (reports.flatMap fun r => r.links t.config (roleIn nodes r.index)) = namedLinks t.config reports :=
      List.flatMap_congr fun r hr => by rw [hrole r hr]
    refine ⟨rfl, hlt, fun i => ?_⟩
    show (reports.foldl (linkReport t.config) nodes)[i]? = _
    rw [foldl_linkReport, hlinks, getElem?_linkAll namedLinks_apart, hnode, Option.map_map]
    rfl

/-- The replicas that a node knows of. -/
def slavesOf (t : Topology) (m : Nat) : List Nat := ((t.nodes[m]?).map Node.slaves).getD []

/-- The master that a node knows of. -/
def masterOf? (t : Topology) (s : Nat) : Option Nat := (t.nodes[s]?).bind Node.master

/-- No replica is named with two masters. -/
def Agreed (c : Config) (reports : List NodeReport) : Prop :=
  ∀ l ∈ namedLinks c reports, ∀ k ∈ namedLinks c reports, l.2 = k.2 → l.1 = k.1

instance (c : Config) (reports : List NodeReport) : Decidable (Agreed c reports) :=
  inferInstanceAs (Decidable (∀ l ∈ _, ∀ k ∈ _, _))

theorem lt_of_find? {c : Config} {host : String} {port i : Nat} (h : c.find? host port = some i) : i < c.nodes.length :=
  (List.findIdx?_eq_some_iff_getElem.1 h).1

/-- Links are named between configured nodes. -/
theorem lt_of_links {c : Config} {role : Role} {l : Nat × Nat} (hr : r.index < c.nodes.length) (h : l ∈ r.links c role) :
    l.1 < c.nodes.length ∧ l.2 < c.nodes.length := by
  replace h := (List.mem_filter.1 h).1
  cases role with
  | unknown => cases h
  | master =>
    obtain ⟨s, hs, rfl⟩ := List.mem_map.1 h
    obtain ⟨_, -, hfind⟩ := List.mem_filterMap.1 hs
    exact ⟨hr, lt_of_find? hfind⟩
  | slave =>
    obtain ⟨m, hm, rfl⟩ := List.mem_map.1 h
    obtain ⟨_, -, hfind⟩ := Option.bind_eq_some_iff.1 (Option.mem_toList.1 hm)
    exact ⟨lt_of_find? hfind, hr⟩

theorem mem_slavesOf (h : t.applyCheck reports = .ok t') {m s : Nat} :
    s ∈ t'.slavesOf m ↔ (m, s) ∈ namedLinks t.config reports := by
  obtain ⟨-, hlt, hnodes⟩ := getElem?_applyCheck h
  unfold slavesOf
  rw [hnodes]
  cases hm : t.config.nodes[m]? with
  | some n => exact mem_slaves_joins.trans (or_iff_right (List.not_mem_nil))
  | none =>
    refine ⟨fun hs => by simp at hs, fun hl => ?_⟩
    obtain ⟨r, hr, hl⟩ := List.mem_flatMap.1 hl
    exact absurd (lt_of_links (hlt r hr) hl).1 (Nat.not_lt.2 (List.getElem?_eq_none_iff.1 hm))

theorem masterOf?_eq (h : t.applyCheck reports = .ok t') (s : Nat) :
    t'.masterOf? s = ((namedLinks t.config reports).filter fun l => l.2 = s).getLast?.map Prod.fst := by
  obtain ⟨-, hlt, hnodes⟩ := getElem?_applyCheck h
  unfold masterOf?
  rw [hnodes]
  cases hs : t.config.nodes[s]? with
  | some n => exact master_joins.trans (Option.or_none ..)
  | none =>
    have hnone : (namedLinks t.config reports).filter (fun l => l.2 = s) = [] := by
      refine List.filter_eq_nil_iff.2 fun l hl he => ?_
      obtain ⟨r, hr, hl⟩ := List.mem_flatMap.1 hl
      have := (lt_of_links (hlt r hr) hl).2
      rw [of_decide_eq_true he] at this
      exact absurd this (Nat.not_lt.2 (List.getElem?_eq_none_iff.1 hs))
    rw [hnone]
    rfl

theorem named_of_masterOf? (h : t.applyCheck reports = .ok t') {m s : Nat} (hm : t'.masterOf? s = some m) :
    (m, s) ∈ namedLinks t.config reports := by
  rw [masterOf?_eq h] at hm
  obtain ⟨l, hl, rfl⟩ := Option.map_eq_some_iff.1 hm
  obtain ⟨hmem, hs⟩ := List.mem_filter.1 (List.mem_of_getLast? hl)
  rwa [← of_decide_eq_true hs]

theorem exists_masterOf? (h : t.applyCheck reports = .ok t') {m s : Nat} (hl : (m, s) ∈ namedLinks t.config reports) :
    ∃ m', t'.masterOf? s = some m' := by
  rw [masterOf?_eq h]
  have hmem : (m, s) ∈ (namedLinks t.config reports).filter fun l => l.2 = s :=
    List.mem_filter.2 ⟨hl, decide_eq_true rfl⟩
  rw [List.getLast?_eq_some_getLast (List.ne_nil_of_mem hmem)]
  exact ⟨_, rfl⟩

theorem nodup_slavesOf (h : t.applyCheck reports = .ok t') (m : Nat) : (t'.slavesOf m).Nodup := by
  unfold slavesOf
  rw [(getElem?_applyCheck h).2.2]
  cases t.config.nodes[m]? with
  | none => exact List.nodup_nil
  | some n => exact nodup_slaves_joins List.nodup_nil

/-- After a check that is accepted, a node's replicas are those that are named for it, and its master is the one that was
named last. So the master of a node has it in its list, no node is linked to itself and no list has a repetition. All
links are known to both nodes just when no replica is named with two masters. -/
theorem links_mutual_iff (h : t.applyCheck reports = .ok t') :
    (∀ m s, s ∈ t'.slavesOf m ↔ (m, s) ∈ namedLinks t.config reports) ∧
    (∀ s, t'.masterOf? s = ((namedLinks t.config reports).filter fun l => l.2 = s).getLast?.map Prod.fst) ∧
    (∀ m s, t'.masterOf? s = some m → s ∈ t'.slavesOf m) ∧
    (∀ m, m ∉ t'.slavesOf m ∧ t'.masterOf? m ≠ some m) ∧ (∀ m, (t'.slavesOf m).Nodup) ∧
    ((∀ m s, s ∈ t'.slavesOf m ↔ t'.masterOf? s = some m) ↔ Agreed t.config reports) := by
  have hlisted {m s : Nat} (hm : t'.masterOf? s = some m) : s ∈ t'.slavesOf m :=
    (mem_slavesOf h).2 (named_of_masterOf? h hm)
  refine ⟨fun _ _ => mem_slavesOf h, masterOf?_eq h, fun _ _ => hlisted, fun m => ⟨fun hm => ?_, fun hm => ?_⟩,
    nodup_slavesOf h, fun hmutual => ?_, fun hagreed m s => ⟨fun hs => ?_, hlisted⟩⟩
  · exact namedLinks_apart _ ((mem_slavesOf h).1 hm) rfl
  · exact namedLinks_apart _ (named_of_masterOf? h hm) rfl
  · rintro ⟨m, s⟩ hl ⟨m', s'⟩ hk rfl
    have hm := (hmutual m s).1 ((mem_slavesOf h).2 hl)
    exact Option.some.inj (hm.symm.trans ((hmutual m' s).1 ((mem_slavesOf h).2 hk)))
  · obtain ⟨m', hm'⟩ := exists_masterOf? h ((mem_slavesOf h).1 hs)
    have hsame : m = m' := hagreed _ ((mem_slavesOf h).1 hs) _ (named_of_masterOf? h hm') rfl
    rwa [hsame]

/-- Three nodes about which nothing is known. -/
def threeNodes : Topology :=
  let config : Config := { nodes := [⟨"a", 1, none, 1, 1⟩, ⟨"b", 2, none, 1, 1⟩, ⟨"c", 3, none, 1, 1⟩] }
  { config, nodes := freshNodes config }

/-- The reports of three nodes after the third one has gone over from the first to the second, which the first one has not
noticed. -/
def goneOver : List NodeReport :=
  let enabled := Info.parse "cluster_enabled:1"
  [⟨0, enabled, .parse "role:master\nconnected_slaves:1\nslave0:ip=c,port=3"⟩,
    ⟨1, enabled, .parse "role:master\nconnected_slaves:1\nslave0:ip=c,port=3"⟩,
    ⟨2, enabled, .parse "role:slave\nmaster_host:b\nmaster_port:2"⟩]

theorem links_mutual_iff_goneOver : threeNodes.config.Valid ∧ ∃ t', threeNodes.applyCheck goneOver = .ok t' ∧
    2 ∈ t'.slavesOf 0 ∧ 2 ∈ t'.slavesOf 1 ∧ t'.masterOf? 2 = some 1 ∧
    ¬ ∀ m s, s ∈ t'.slavesOf m ↔ t'.masterOf? s = some m := by
  have hnamed : namedLinks threeNodes.config goneOver = [(0, 2), (1, 2), (1, 2)] := by decide +kernel
  refine ⟨by unfold Config.Valid; decide +kernel, ?_⟩
  cases h : threeNodes.applyCheck goneOver with
  | error e =>
    have hok : (threeNodes.applyCheck goneOver).isOk = true := by decide +kernel
    rw [h] at hok
    cases hok
  | ok t' =>
    obtain ⟨hslaves, hmaster, -, -, -, hmutual⟩ := links_mutual_iff h
    rw [hnamed] at hslaves hmaster
    refine ⟨t', rfl, (hslaves 0 2).2 (by decide), (hslaves 1 2).2 (by decide), (hmaster 2).trans (by decide), fun hm => ?_⟩
    have hagreed := hmutual.1 hm
    unfold Agreed at hagreed
    rw [hnamed] at hagreed
    exact absurd hagreed (by decide)

end Topology
end SlotSql.Cluster
