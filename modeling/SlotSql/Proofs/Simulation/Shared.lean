import SlotSql.Proofs.Simulation.Feed
import SlotSql.Proofs.Simulation.Order
import SlotSql.Proofs.Simulation.Routing
/-!
# Contexts over one cluster

Any number of contexts can be open over one cluster, each with connections and an active node of its own. Whichever of
them a command on keys is issued through, and whichever node is active there, the cluster answers as one store would, and
its shards together hold what that store holds. The exception are commands on keys of several slots: no node carries them
out.

Results:
* `NoneEmpty.run`: no command leaves an empty hash or set behind.
* `Coherent.exec`: one command, through any of the contexts.
* `sharding_invisible`: the replies to a sequence of commands, and what lies on the shards afterwards.
-/
namespace SlotSql

open Cluster Store

/-! ## One store -/

/-- The keys that a command is about. -/
def Cluster.Command.keys (c : Command) : List String := KeyCommand.keysOf c.name (c.args.map Prod.fst)

/-- The name of a command is that of one on keys; its arguments may be anything. -/
def Cluster.Command.OnKeys (c : Command) : Prop := c.name ∈ KeyCommand.manyKeyNames ++ KeyCommand.oneKeyNames

namespace Store

/-- The reply to a command on keys of several slots. -/
def crossSlot : Reply := .error "CROSSSLOT Keys in request don't hash to the same slot"

/-- Keys of no more than one slot. -/
def Together (ks : List String) : Prop := ∀ j ∈ ks, ∀ k ∈ ks, slotOf j = slotOf k

instance (ks : List String) : Decidable (Together ks) := inferInstanceAs (Decidable (∀ j ∈ ks, ∀ k ∈ ks, _))

/-- What one store answers to a command on keys, and the store afterwards. Keys of several slots are refused. -/
def serve (cmd : Command) (d : Data) : Except ClusterError Reply × Data :=
  if Together cmd.keys then reply cmd.length cmd d else (crossSlot.answer, d)

/-- What one store answers to commands on keys, and the store afterwards. -/
def serveAll : List Command → Data → List (Except ClusterError Reply) × Data
  | [], d => ([], d)
  | cmd :: cmds, d =>
    let (r, d) := serve cmd d
    let (rs, d) := serveAll cmds d
    (r :: rs, d)

/-- No key has an empty hash or set. -/
def NoneEmpty (d : Data) : Prop := ∀ k v, d.get? k = some v → v.isEmpty = false

namespace NoneEmpty

variable {d : Data}

theorem put (h : NoneEmpty d) (key : String) (v : Value) : NoneEmpty (put d key v) := by
  intro k u hu
  rw [get?_put] at hu
  split at hu
  · split at hu
    · cases hu
    · next he =>
      cases hu
      exact Bool.eq_false_iff.2 he
  · exact h k u hu

theorem changeHash (h : NoneEmpty d) (key : String) (f : KeyMap Bytes → Reply × KeyMap Bytes) :
    NoneEmpty (KeyCommand.changeHash d key f).2 := by
  unfold KeyCommand.changeHash
  split
  · exact h.put _ _
  · exact h

theorem changeSet (h : NoneEmpty d) (key : String) (f : KeyMap Unit → Reply × KeyMap Unit) :
    NoneEmpty (KeyCommand.changeSet d key f).2 := by
  unfold KeyCommand.changeSet
  split
  · exact h.put _ _
  · exact h

/-- No command leaves an empty hash or set behind. -/
theorem run (h : NoneEmpty d) (kc : KeyCommand) : NoneEmpty (kc.run d).2 := by
  cases kc with
  | countKeys ks => exact h
  | del ks =>
    intro k v hv
    have hv : (KeyCommand.eraseAll d ks).2.get? k = some v := hv
    rw [KeyCommand.get?_eraseAll] at hv
    split at hv
    · cases hv
    · exact h k v hv
  | hset _ key _ | hdel key _ => exact h.changeHash _ _
  | sadd key _ | srem key _ => exact h.changeSet _ _
  | hmget key _ | hgetall key => exact (KeyCommand.readHash_data _).symm ▸ h
  | smembers key | scard key => exact (KeyCommand.readSet_data _).symm ▸ h

theorem serve (h : NoneEmpty d) (cmd : Command) : NoneEmpty (serve cmd d).2 := by
  unfold Store.serve reply
  split
  · split
    · exact h
    · split
      · exact h
      · exact h.run _
  · exact h

end NoneEmpty
end Store

namespace Simulation

/-- Without arguments no command is read. -/
theorem read_bare (name : String) : KeyCommand.read name [] = .error (wrongArity name) := by
  unfold KeyCommand.read
  dsimp only [List.map_nil]
  split
  case h_11 => rfl
  all_goals contradiction

variable {s : Simulation} {c : Context Simulation Link} {cmd : Command} {i j : Nat} {d : Data}

/-! ## Commands through one context -/

/-- Every node of the cluster answers a context without asking for the password. -/
def AllTrusted (c : Context Simulation Link) : Prop := ∀ i j, IsNode c i j → Trusted c i

/-- A context knows the cluster as it did before, and is trusted as it was. -/
structure Proceeds (c c' : Context Simulation Link) : Prop extends Continues c c' where
  trusted : ∀ k, Trusted c k → Trusted c' k

theorem Proceeds.trans {c₁ c₂ : Context Simulation Link} (h : Proceeds c c₁) (h' : Proceeds c₁ c₂) : Proceeds c c₂ :=
  ⟨h.toContinues.trans h'.toContinues, fun k hk => h'.trusted k (h.trusted k hk)⟩

theorem Continues.isNode {c' : Context Simulation Link} (h : Continues c c') : IsNode c' i j ↔ IsNode c i j := by
  unfold IsNode
  rw [h.nodes, h.topology]

theorem Proceeds.allTrusted {c' : Context Simulation Link} (h : Proceeds c c') (ht : AllTrusted c) : AllTrusted c' :=
  fun i j hi => h.trusted i (ht i j (h.isNode.1 hi))

/-- A node answers a command over a connection that it trusts. -/
theorem Configured.send_answer (hc : Configured c) (hi : IsNode c i j) (ht : Trusted c i) (hname : cmd.name ≠ "AUTH")
    {r : Reply} (hh : (c.server.noted j cmd).handle j cmd = (r, s)) (hs : s.Sound)
    (hl : s.nodes.length = c.server.nodes.length) (hp : s.password = c.server.password) : ∃ c',
    (Context.send i cmd).run c = (.ok r, c') ∧ Proceeds c c' ∧ c'.server = s := by
  have hlj := hc.node_linkTo hi
  have hme := List.getElem?_eq_getElem hi.1
  obtain ⟨-, hdown, hinj, -⟩ := hc.sound.node j _ hme
  have hexec : execute (linkTo c i j) cmd c.server = (.ok r, linkTo c i j, s) := by
    rw [execute_ready (hlj.symm ▸ hme) hdown hinj hname ((hc.trusted_iff hi).1 ht), hlj, hh]
  refine ⟨_, hc.send hi hexec, ⟨hc.continues hi hs hl hp hlj, fun k hk => ?_⟩, rfl⟩
  have hset : ({ c with server := s }.setConnection i (some (linkTo c i j))).connections =
      c.connections.set i (some (linkTo c i j)) := rfl
  by_cases he : k = i
  · subst he
    refine ((hc.trusted_iff hi).1 hk).imp (fun h => hp.trans h) fun h => ⟨_, ?_, h⟩
    rw [hset, List.getElem?_set_self (hi.lt hc)]
  · refine hk.imp (fun h => hp.trans h) fun ⟨l, h1, h2⟩ => ⟨l, ?_, h2⟩
    rw [hset, List.getElem?_set_ne (Ne.symm he), h1]

/-- A reply that is neither a redirection nor a demand for the password is the result. -/
theorem Configured.deliver_answer (hc : Configured c) (hi : IsNode c i j) (ht : Trusted c i) (hname : cmd.name ≠ "AUTH")
    {r : Reply} (hh : (c.server.noted j cmd).handle j cmd = (r, s)) (hs : s.Sound)
    (hl : s.nodes.length = c.server.nodes.length) (hp : s.password = c.server.password) (hr : r.redirect? = none)
    (hn : r.isNoAuth = false) (track m a : Bool) : ∃ c', (Context.deliver track m a i cmd).run c = (r.answer, c') ∧
      Proceeds c c' ∧ c'.server = s := by
  obtain ⟨c', h1, h2, h3⟩ := hc.send_answer hi ht hname hh hs hl hp
  exact ⟨c', Context.deliver_of_answer h1 hr hn, h2, h3⟩

/-- A context with a sound cluster of as many nodes and the same password still knows it. -/
theorem Configured.over (hc : Configured c) (hs : s.Sound) (hl : s.nodes.length = c.server.nodes.length)
    (hp : s.password = c.server.password) : Configured { c with server := s } := by
  have hnode {k m : Nat} : IsNode { c with server := s } k m ↔ IsNode c k m := by
    show (m < s.nodes.length ∧ _) ↔ _
    rw [hl]
    exact Iff.rfl
  refine ⟨hs, hc.valid, fun m hm => ?_, fun k m hk => ?_, hc.size, fun k m l hk => hc.link k m l (hnode.1 hk), ?_⟩
  · obtain ⟨k, hk⟩ := hc.listed m (hl ▸ hm)
    exact ⟨k, hnode.2 hk⟩
  · show s.password = none ∨ _ = s.password
    rw [hp]
    exact hc.password k m (hnode.1 hk)
  · obtain ⟨m, hm⟩ := hc.active
    exact ⟨m, hnode.2 hm⟩

theorem name_ne_auth_of_onKeys (h : cmd.OnKeys) : cmd.name ≠ "AUTH" := fun he => by
  unfold Command.OnKeys at h
  rw [he] at h
  exact absurd h (by decide)

theorem validate_onKeys (h : cmd.OnKeys) {m : Nat} (hl : cmd.length ≤ m) : cmd.validate m = .ok () := by
  unfold Command.validate
  rw [if_neg, if_neg (Nat.not_lt.2 hl)]
  intro he
  unfold Command.OnKeys Command.name at h
  rw [List.isEmpty_iff.1 he] at h
  exact absurd h (by decide +kernel)

theorem serve_together (ht : Together cmd.keys) (h : cmd.OnKeys) (d : Data) : serve cmd d =
    match KeyCommand.read cmd.name cmd.args with
    | .error r => (r.answer, d)
    | .ok k => ((k.run d).1.answer, (k.run d).2) := by
  unfold serve reply
  cases KeyCommand.read cmd.name cmd.args <;> rw [if_pos ht, validate_onKeys h (Nat.le_refl _)]

/-- A command without arguments is wrong for every node. -/
theorem handle_bare (h : cmd.OnKeys) (ha : cmd.args = []) :
    s.handle j cmd = (wrongArity cmd.name, s) ∧ serve cmd d = ((wrongArity cmd.name).answer, d) := by
  have hkeys : cmd.keys = [] := by
    unfold Command.keys KeyCommand.keysOf
    rw [ha]
    split <;> rfl
  constructor
  · rw [handle_onKeys h, ha]
    rfl
  · rw [serve_together (by rw [hkeys]; exact fun j hj => absurd hj List.not_mem_nil) h, ha, read_bare]

/-- Every node refuses a command on keys of several slots. -/
theorem handle_apart (h : cmd.OnKeys) (ht : ¬ Together cmd.keys) : s.handle j cmd = (crossSlot, s) := by
  have ha : cmd.args ≠ [] := by
    intro ha
    refine ht ?_
    unfold Command.keys KeyCommand.keysOf
    rw [ha]
    split <;> exact fun j hj => absurd hj List.not_mem_nil
  rw [handle_onKeys h]
  unfold onKeys
  rw [if_neg (by simpa using ha)]
  have hroute : s.route j cmd.keys = .error crossSlot := by
    unfold route
    split
    · next hk =>
      rw [hk] at ht
      exact absurd (fun j hj => absurd hj List.not_mem_nil) ht
    · next k ks hk =>
      have hany : (ks.any fun k' => slotOf k' != slotOf k) = true := by
        by_contra hall
        refine ht ?_
        have hsame : ∀ k' ∈ k :: ks, slotOf k' = slotOf k := by
          simpa using hall
        rw [hk]
        exact fun a ha b hb => (hsame a ha).trans (hsame b hb).symm
      simp only [hany, ↓reduceIte]
      rfl
  unfold Command.keys at hroute
  rw [hroute]

/-- With arguments there are keys. -/
theorem oneSlot_keys (ha : cmd.args ≠ []) (ht : Together cmd.keys) : ∃ slot, OneSlot slot cmd.keys := by
  have hne : cmd.keys ≠ [] := by
    unfold Command.keys KeyCommand.keysOf
    split <;> simpa using ha
  obtain ⟨k, ks, hks⟩ := List.exists_cons_of_ne_nil hne
  exact ⟨slotOf k, hne, fun k' hk' => ht k' hk' k (hks ▸ List.mem_cons_self)⟩

/-- The master of the keys' slot answers as a store does that holds what the cluster holds. -/
theorem handle_serves (hs : s.Sound) (hd : s.Holds d) (hr : cmd.About cmd.keys) {slot : Nat} (hk : OneSlot slot cmd.keys) :
    ∃ r s', s.handle (home slot) cmd = (r, s') ∧ r.redirect? = none ∧ r.isNoAuth = false ∧ s'.Sound ∧
      s'.nodes = s.nodes ∧ s'.password = s.password ∧ r.answer = (serve cmd d).1 ∧ s'.Holds (serve cmd d).2 := by
  obtain ⟨n, hn⟩ : ∃ n, s.nodes[home slot]? = some n :=
    ⟨_, List.getElem?_eq_getElem (Nat.lt_of_lt_of_le (home_lt slot) hs.nodes)⟩
  rw [serve_together (fun a ha b hb => (hk.2 a ha).trans (hk.2 b hb).symm) hr.name]
  cases hread : KeyCommand.read cmd.name cmd.args with
  | error r =>
    have hhandle : s.handle (home slot) cmd = (r, s) := by
      rw [handle_eq_onKeys hr]
      unfold onKeys
      rw [if_neg (by simpa using hr.args), hr.keys, route_master hs hk hn]
      simp only [hread]
    obtain ⟨h1, h2⟩ := KeyCommand.wrongArity_plain cmd.name
    rw [← KeyCommand.error_of_read hread] at h1 h2
    exact ⟨r, s, hhandle, h1, h2, hs, rfl, rfl, rfl, hd⟩
  | ok kc =>
    have hkeys : kc.keys = cmd.keys := KeyCommand.keys_of_read hread
    have hruns : cmd.Runs kc := ⟨hkeys ▸ hr, hread⟩
    rw [← hkeys] at hk
    obtain ⟨h1, h2⟩ := run_plain kc (s.dataOf (home slot))
    obtain ⟨hreply, hholds⟩ := hd.run hs hk
    exact ⟨_, _, handle_master hs hruns hk hn, h1, h2, hs.run hk, rfl, rfl, congrArg Reply.answer hreply, hholds⟩

/-- The master of the keys' slot answers as the store does. -/
theorem Configured.deliver_master (hc : Configured c) (hall : AllTrusted c) (hd : c.server.Holds d)
    (hr : cmd.About cmd.keys) {slot : Nat} (hk : OneSlot slot cmd.keys) {t : Nat} (ht : IsNode c t (home slot)) (m : Bool) :
    ∃ c', (Context.deliver true m false t cmd).run c = ((serve cmd d).1, c') ∧ Proceeds c c' ∧
      c'.server.Holds (serve cmd d).2 := by
  obtain ⟨r, s', h1, h2, h3, h4, h5, h6, h7, h8⟩ :=
    handle_serves (hc.sound.noted (home slot) cmd) (hd.of_shards rfl) hr hk
  obtain ⟨c', g1, g2, rfl⟩ := hc.deliver_answer ht (hall _ _ ht) (name_ne_auth hr) h1 h4 (by rw [h5, length_noted]) h6 h2 h3
    true m false
  exact ⟨c', by rw [g1, h7], g2, h8⟩

/-- Whichever node is active, a command on keys of one slot comes to its master. -/
theorem Configured.deliver_together (hc : Configured c) (hall : AllTrusted c) (hd : c.server.Holds d)
    (hr : cmd.About cmd.keys) {slot : Nat} (hk : OneSlot slot cmd.keys) : ∃ c',
    (Context.deliver true false false c.active cmd).run c = ((serve cmd d).1, c') ∧ Proceeds c c' ∧
      c'.server.Holds (serve cmd d).2 := by
  obtain ⟨j, hj⟩ := hc.active
  by_cases hm : j = home slot
  · exact hc.deliver_master hall hd hr hk (hm ▸ hj) false
  · -- The node names the master, which the configuration lists.
    obtain ⟨t, ht⟩ := hc.listed _ (Nat.lt_of_lt_of_le (home_lt slot) hc.sound.nodes)
    have hget := List.getElem?_eq_getElem ((length_noted j cmd).symm ▸ hj.1)
    obtain ⟨c₁, h1, h2, h3⟩ := hc.send_answer hj (hall _ _ hj) (name_ne_auth hr)
      (handle_other (hc.sound.noted j cmd) hr hk hget hm) (hc.sound.noted j cmd) (length_noted j cmd) rfl
    have hfind : c₁.topology.config.find? host (basePort + home slot) = some t := by
      rw [h2.topology]
      exact ht.find? hc
    have hc₁ : Proceeds c { c₁ with active := t } := ⟨h2.activate ⟨_, h2.isNode.2 ht⟩, h2.trusted⟩
    obtain ⟨c', g1, g2, g3⟩ := Configured.deliver_master (c := { c₁ with active := t }) (d := d) hc₁.configured
      (hc₁.allTrusted hall) (hd.of_shards (by rw [h3]; rfl)) hr hk (hc₁.isNode.2 ht) true
    exact ⟨c', (Context.deliver_of_redirect h1 (redirect?_moved hk.lt (home_lt slot)) hfind).trans g1, hc₁.trans g2, g3⟩

/-- A command that every node answers alike is answered by the active one. -/
theorem Configured.deliver_anywhere (hc : Configured c) (hall : AllTrusted c) (hname : cmd.name ≠ "AUTH")
    {r : Reply} (hh : ∀ (s : Simulation) j, s.handle j cmd = (r, s)) (hr : r.redirect? = none) (hn : r.isNoAuth = false) :
    ∃ c', (Context.deliver true false false c.active cmd).run c = (r.answer, c') ∧ Proceeds c c' ∧
      c'.server.shards = c.server.shards := by
  obtain ⟨j, hj⟩ := hc.active
  obtain ⟨c', g1, g2, g3⟩ := hc.deliver_answer hj (hall _ _ hj) hname (hh _ j) (hc.sound.noted j cmd) (length_noted j cmd) rfl
    hr hn true false false
  exact ⟨c', g1, g2, by rw [g3]; rfl⟩

/-- A command on keys is answered as by one store, and does to the cluster what it does to the store. -/
theorem Configured.deliver_serves (hc : Configured c) (hall : AllTrusted c) (hd : c.server.Holds d)
    (hn : cmd.OnKeys) : ∃ c', (Context.deliver true false false c.active cmd).run c = ((serve cmd d).1, c') ∧
      Proceeds c c' ∧ c'.server.Holds (serve cmd d).2 := by
  have hauth := name_ne_auth_of_onKeys hn
  by_cases ha : cmd.args = []
  · have hserve : serve cmd d = ((wrongArity cmd.name).answer, d) := (handle_bare (s := c.server) (j := 0) hn ha).2
    obtain ⟨h1, h2⟩ := KeyCommand.wrongArity_plain cmd.name
    obtain ⟨c', g1, g2, g3⟩ := hc.deliver_anywhere hall hauth (fun _ _ => (handle_bare (d := d) hn ha).1) h1 h2
    rw [hserve]
    exact ⟨c', g1, g2, hd.of_shards g3⟩
  by_cases ht : Together cmd.keys
  · obtain ⟨slot, hk⟩ := oneSlot_keys ha ht
    exact hc.deliver_together hall hd ⟨hn, ha, rfl⟩ hk
  · obtain ⟨h1, h2⟩ : crossSlot.redirect? = none ∧ crossSlot.isNoAuth = false := by decide +kernel
    obtain ⟨c', g1, g2, g3⟩ := hc.deliver_anywhere hall hauth (fun _ _ => handle_apart hn ht) h1 h2
    have hserve : serve cmd d = (crossSlot.answer, d) := if_neg ht
    rw [hserve]
    exact ⟨c', g1, g2, hd.of_shards g3⟩

/-- The same of a command of acceptable length that a context is asked to carry out. -/
theorem Configured.exec_serves (hc : Configured c) (hall : AllTrusted c) (hd : c.server.Holds d)
    (hn : cmd.OnKeys) (hl : cmd.length ≤ c.maxArgs) : ∃ c', (Context.exec cmd).run c = ((serve cmd d).1, c') ∧
      Proceeds c c' ∧ c'.server.Holds (serve cmd d).2 := by
  unfold Context.exec Context.dispatch
  rw [Context.step_bind_ok (Context.step_get c), Context.step_bind_ok (Context.step_get c), validate_onKeys hn hl,
    Context.step_bind_ok (Context.step_lift _ _)]
  exact hc.deliver_serves hall hd hn

/-! ## Contexts over one cluster -/

/-- Contexts over one cluster. The cluster is kept once; what the contexts have in its place does not count. -/
structure Shared (ι : Type) where
  server : Simulation
  contexts : ι → Context Simulation Link

namespace Shared

variable {ι : Type} {w : Shared ι} {x y : ι}

/-- A context with the cluster as it is. -/
def view (w : Shared ι) (x : ι) : Context Simulation Link := { w.contexts x with server := w.server }

/-- Each context knows the cluster and is trusted by it, and the cluster holds what a store holds. -/
structure Coherent (d : Data) (w : Shared ι) : Prop where
  sound : w.server.Sound
  contexts : ∀ x, Configured (w.view x)
  trusted : ∀ x, AllTrusted (w.view x)
  holds : w.server.Holds d
  filled : NoneEmpty d

variable [DecidableEq ι]

/-- The contexts after a step of one of them. -/
def after (w : Shared ι) (x : ι) (c : Context Simulation Link) : Shared ι := ⟨c.server, Function.update w.contexts x c⟩

/-- Issues a command through one of the contexts. -/
def exec (w : Shared ι) (x : ι) (cmd : Command) : Except ClusterError Reply × Shared ι :=
  let (r, c) := (Context.exec cmd).run (w.view x)
  (r, w.after x c)

/-- Issues commands one after another, each through one of the contexts. -/
def run (w : Shared ι) : List (ι × Command) → List (Except ClusterError Reply) × Shared ι
  | [] => ([], w)
  | (x, cmd) :: es =>
    let (r, w) := w.exec x cmd
    let (rs, w) := w.run es
    (r :: rs, w)

theorem after_self : (w.after x c).contexts x = c := Function.update_self ..

theorem after_other (hy : y ≠ x) : (w.after x c).contexts y = w.contexts y := Function.update_of_ne hy ..

theorem Coherent.after (h : w.Coherent d) (hc : Proceeds (w.view x) c) {d' : Data} (hd : c.server.Holds d')
    (hf : NoneEmpty d') : (w.after x c).Coherent d' where
  sound := hc.configured.sound
  contexts y := by
    unfold view
    by_cases hy : y = x
    · subst hy
      rw [after_self]
      exact hc.configured
    · rw [after_other hy]
      exact (h.contexts y).over hc.configured.sound hc.nodes hc.password
  trusted y := by
    unfold view
    by_cases hy : y = x
    · subst hy
      rw [after_self]
      exact hc.allTrusted (h.trusted y)
    · rw [after_other hy]
      intro i j hi
      have hnode : IsNode (w.view y) i j := by
        obtain ⟨hj, hn⟩ := hi
        exact ⟨hc.nodes ▸ hj, hn⟩
      exact (h.trusted y i j hnode).imp (fun hp => hc.password.trans hp) id
  holds := hd
  filled := hf

/-- A command is answered as by one store, through whichever context it is issued. -/
theorem Coherent.exec (h : w.Coherent d) (hn : cmd.OnKeys) (hl : cmd.length ≤ (w.contexts x).maxArgs) : ∃ w',
    w.exec x cmd = ((serve cmd d).1, w') ∧ w'.Coherent (serve cmd d).2 ∧
      ∀ y, (w'.contexts y).maxArgs = (w.contexts y).maxArgs := by
  obtain ⟨c', h1, h2, h3⟩ := (h.contexts x).exec_serves (h.trusted x) h.holds hn hl
  refine ⟨w.after x c', ?_, h.after h2 h3 (h.filled.serve cmd), fun y => ?_⟩
  · unfold Shared.exec
    rw [h1]
  · by_cases hy : y = x
    · subst hy
      rw [after_self]
      exact h2.maxArgs
    · rw [after_other hy]

/-- Commands on keys are answered as by one store, through whichever contexts they are issued. -/
theorem Coherent.run {es : List (ι × Command)} (h : w.Coherent d)
    (hes : ∀ e ∈ es, e.2.OnKeys ∧ e.2.length ≤ (w.contexts e.1).maxArgs) : ∃ w',
    w.run es = ((serveAll (es.map Prod.snd) d).1, w') ∧ w'.Coherent (serveAll (es.map Prod.snd) d).2 := by
  induction es generalizing w d with
  | nil => exact ⟨w, rfl, h⟩
  | cons e es ih =>
    obtain ⟨x, cmd⟩ := e
    obtain ⟨hn, hl⟩ := hes (x, cmd) List.mem_cons_self
    obtain ⟨w₁, h1, h2, h3⟩ := h.exec hn hl
    obtain ⟨w', g1, g2⟩ := ih h2 fun e he => (h3 e.1).symm ▸ hes e (List.mem_cons_of_mem _ he)
    refine ⟨w', ?_, g2⟩
    simp only [Shared.run, h1, g1, List.map_cons, serveAll]

end Shared

/-! ## What lies on the shards -/

theorem home_range {slot : Nat} (h : slot < slotCount) : ∃ r, slotRanges[home slot]? = some r ∧ r.1 ≤ slot ∧ slot ≤ r.2 := by
  unfold slotCount at h
  unfold home
  split
  · exact ⟨(0, 5460), rfl, by omega⟩
  · split
    · exact ⟨(5461, 10922), rfl, by omega⟩
    · exact ⟨(10923, 16383), rfl, by omega⟩

/-- The shard of a key owns its slot. -/
theorem Sound.owns (hs : s.Sound) {h : Shard} (hh : s.shards[i]? = some h) {k : String} (hk : k ∈ h.data.keys) :
    h.firstSlot ≤ slotOf k ∧ slotOf k ≤ h.lastSlot ∧ s.shardOf (slotOf k) = i := by
  have hi := hs.placed i h hh k hk
  have hlt : slotOf k < slotCount := keySlot_lt _
  obtain ⟨r, hr, h1, h2⟩ := home_range hlt
  have hrange : slotRanges[i]? = some (h.firstSlot, h.lastSlot) := by
    rw [← hs.shards, List.getElem?_map, hh]
    rfl
  rw [hi, hrange] at hr
  cases hr
  exact ⟨h1, h2, (hs.shardOf_key k).trans hi⟩

/-- A sound cluster that holds what a store holds is the union of its shards. -/
theorem Holds.union (hs : s.Sound) (hd : s.Holds d) (k : String) (v : Value) :
    d.get? k = some v ↔ ∃ h ∈ s.shards, h.data.get? k = some v := by
  rw [← hd k, hs.value?]
  constructor
  · intro hv
    obtain ⟨h, hh, -⟩ := hs.shard (home_lt (slotOf k))
    rw [keys_dataOf s hh] at hv
    exact ⟨h, List.mem_of_getElem? hh, hv⟩
  · rintro ⟨h, hmem, hv⟩
    obtain ⟨i, hi, rfl⟩ := List.mem_iff_getElem.1 hmem
    have hh := List.getElem?_eq_getElem hi
    have hplace := hs.placed i _ hh k (KeyMap.mem_keys_iff.2 (by rw [hv]; rfl))
    rw [hplace, keys_dataOf s hh]
    exact hv

/-- **Sharding is invisible.** Through whichever contexts over one cluster commands on keys are issued, the replies are
those of one store that carries them out in the same order, and that refuses commands on keys of several slots.
Afterwards each key lies only on the shard that owns its slot, no key has an empty hash or set, and the shards together
are the store. -/
theorem sharding_invisible {ι : Type} [DecidableEq ι] {w : Shared ι} {es : List (ι × Command)} (h : w.Coherent d)
    (hes : ∀ e ∈ es, e.2.OnKeys ∧ e.2.length ≤ (w.contexts e.1).maxArgs) : ∃ w',
    w.run es = ((serveAll (es.map Prod.snd) d).1, w') ∧
      (∀ i sh, w'.server.shards[i]? = some sh → ∀ k ∈ sh.data.keys,
        sh.firstSlot ≤ slotOf k ∧ slotOf k ≤ sh.lastSlot ∧ w'.server.shardOf (slotOf k) = i) ∧
      (∀ sh ∈ w'.server.shards, NoneEmpty sh.data) ∧
      ∀ k v, (serveAll (es.map Prod.snd) d).2.get? k = some v ↔ ∃ sh ∈ w'.server.shards, sh.data.get? k = some v := by
  obtain ⟨w', hrun, hw'⟩ := h.run hes
  have hunion := hw'.holds.union hw'.sound
  exact ⟨w', hrun, fun i sh hsh k hk => hw'.sound.owns hsh hk,
    fun sh hsh k v hv => hw'.filled k v ((hunion k v).2 ⟨sh, hsh, hv⟩), hunion⟩

/-! ## Two contexts over six nodes -/

/-- A context whose configuration lists just the nodes of a sound cluster knows it. -/
theorem configured_config (hs : c.server.Sound) (hconfig : c.topology.config = c.server.config)
    (hvalid : c.server.config.Valid) (hsize : c.connections.length = c.server.nodes.length)
    (hlink : ∀ i (l : Link), c.connections[i]? = some (some l) → l.node = i) (hactive : c.active < c.server.nodes.length) :
    Configured c := by
  have hget (i : Nat) : c.topology.config.nodes[i]? = (c.server.nodes[i]?).map fun n => { host, port := n.port } := by
    rw [hconfig]
    exact List.getElem?_map
  have hnode {j : Nat} (hj : j < c.server.nodes.length) : IsNode c j j := by
    refine ⟨hj, _, (hget j).trans (congrArg _ (List.getElem?_eq_getElem hj)), rfl, ?_⟩
    exact (hs.node j _ (List.getElem?_eq_getElem hj)).1
  have hsame {i j : Nat} (h : IsNode c i j) : i = j := by
    obtain ⟨-, n, h1, -, h2⟩ := h
    rw [hget] at h1
    obtain ⟨m, hm, rfl⟩ := Option.map_eq_some_iff.1 h1
    exact Nat.add_left_cancel ((hs.node i m hm).1.symm.trans h2)
  refine ⟨hs, hconfig ▸ hvalid, fun j hj => ⟨j, hnode hj⟩, fun i j h => ?_, ?_, fun i j l h hl => ?_, _, hnode hactive⟩
  · obtain ⟨-, n, h1, -⟩ := h
    have hown : n.password = none := by
      rw [hget] at h1
      obtain ⟨m, -, rfl⟩ := Option.map_eq_some_iff.1 h1
      rfl
    right
    unfold Config.passwordFor
    rw [h1, hconfig]
    simp only [Option.bind_some, hown]
    rfl
  · rw [hsize, hconfig]
    exact (List.length_map _).symm
  · rw [hlink i l hl, hsame h]

/-- Three masters with a replica each. -/
def sixNodes : Simulation := new.withReplicas

/-- A context over the six nodes with the given connections. -/
def sixContext (links : List (Option Link)) (active : Nat) : Context Simulation Link where
  server := sixNodes
  topology := { config := sixNodes.config, nodes := freshNodes sixNodes.config }
  connections := links
  active := active

/-- Two contexts over the six nodes: one has no connections yet, the other one to a replica, which is active. -/
def twoContexts : Shared Bool where
  server := sixNodes
  contexts second := if second then sixContext [none, none, none, none, some ⟨4, false⟩, none] 4
    else sixContext (List.replicate 6 none) 0

theorem sound_sixNodes : sixNodes.Sound where
  shards := rfl
  masters := rfl
  nodes := by decide
  node := by
    intro i n hn
    have hi : i < 6 := (List.getElem?_eq_some_iff.1 hn).1
    match i, hi, hn with
    | 0, _, hn | 1, _, hn | 2, _, hn | 3, _, hn | 4, _, hn | 5, _, hn =>
      cases hn
      exact ⟨rfl, rfl, rfl, by decide, by decide, by decide⟩
  placed := by
    intro i h hh k hk
    have hempty : ∀ h ∈ sixNodes.shards, h.data.keys = [] := by decide
    rw [hempty h (List.mem_of_getElem? hh)] at hk
    cases hk
  cursors := by decide

theorem holds_sixNodes : sixNodes.Holds .empty := by
  intro k
  obtain ⟨h, hh, -⟩ := sound_sixNodes.shard (home_lt (slotOf k))
  have hempty : ∀ h ∈ sixNodes.shards, h.data.entries = [] := by decide
  rw [sound_sixNodes.value?, keys_dataOf _ hh]
  show h.data.entries.lookup k = none
  rw [hempty h (List.mem_of_getElem? hh)]
  rfl

theorem configured_sixContext (links : List (Option Link)) (active : Nat) (hlen : links.length = 6)
    (hlink : ∀ i, i < 6 → ((links[i]?).bind id).all fun l => l.node == i) (hactive : active < 6) :
    Configured (sixContext links active) := by
  refine configured_config sound_sixNodes rfl (by decide +kernel : sixNodes.config.fault? = none) hlen (fun i l h => ?_)
    hactive
  have h : links[i]? = some (some l) := h
  have hi : i < 6 := hlen ▸ (List.getElem?_eq_some_iff.1 h).1
  simpa [h] using hlink i hi

theorem coherent_twoContexts : twoContexts.Coherent .empty where
  sound := sound_sixNodes
  trusted _ _ _ _ := .inl rfl
  contexts
    | false => configured_sixContext (List.replicate 6 none) 0 rfl (by decide) (by decide)
    | true => configured_sixContext [none, none, none, none, some ⟨4, false⟩, none] 4 rfl (by decide) (by decide)
  holds := holds_sixNodes
  filled := by intro k v hv; cases hv

/-- A hash is written, and two keys of different slots are to be deleted; the hash takes no members of a set, and its last
field is deleted. -/
def visits : List (Bool × Command) :=
  [(false, .ofTexts ["hset", "foo", "f", "v"]), (true, .del ["foo", "bar"]), (false, .sadd "foo" ["m"]),
    (true, .hgetall "foo"), (true, .ofTexts ["HDEL", "foo", "f", "g"]), (false, .existsKey "foo")]

/-- The replies through the two contexts, and that nothing is left. -/
theorem sharding_invisible_visits : ∃ w', twoContexts.run visits = ((serveAll (visits.map Prod.snd) .empty).1, w') ∧
    (serveAll (visits.map Prod.snd) .empty).1.map (fun r => r.toOption.map Reply.display) =
      [some "(integer) 1", none, none, some "1) \"f\"\n2) \"v\"", some "(integer) 1", some "(integer) 0"] ∧
    ∀ sh ∈ w'.server.shards, ∀ k, sh.data.get? k = none := by
  have hvisits : ∀ e ∈ visits, e.2.OnKeys ∧ e.2.length ≤ (twoContexts.contexts e.1).maxArgs := by
    unfold Command.OnKeys
    decide +kernel
  obtain ⟨w', hrun, -, -, hunion⟩ := sharding_invisible coherent_twoContexts hvisits
  refine ⟨w', hrun, by decide +kernel, fun sh hsh k => Option.eq_none_iff_forall_ne_some.2 fun v hv => ?_⟩
  have hleft : (serveAll (visits.map Prod.snd) .empty).2.entries.isEmpty = true := by decide +kernel
  have hget := (hunion k v).2 ⟨sh, hsh, hv⟩
  unfold KeyMap.get? at hget
  rw [List.isEmpty_iff.1 hleft] at hget
  cases hget

end Simulation
end SlotSql
