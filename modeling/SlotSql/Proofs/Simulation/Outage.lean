import SlotSql.Proofs.Simulation.Routing
/-!
# Nodes that are down

While some nodes of a cluster are down, a context gets the answers that it would get with all nodes up, as
long as it does not need a node that is down. If it does, the command fails as its connection does, nothing
on the shards has changed, and the context still knows the cluster: the connection is dropped, to be opened
again later.

Results:
* `execute_withDown`: a node that is up answers as if all nodes were.
* `send_down`, `send_up`: a command that is sent to a node.
* `deliver_down`, `deliver_up`: a command that a node has an answer to.
* `deliver_routed_troubled`: a command on keys of one slot.
-/
namespace SlotSql.Simulation

open SlotSql.Cluster SlotSql.Store

variable {s : Simulation} {c c' : Context Simulation Link} {cmd : Command} {ks : List String} {slot i j : Nat}
  {f : Nat → Bool}

/-! ## Nodes -/

/-- The cluster while just these nodes are down. -/
def withDown (f : Nat → Bool) (s : Simulation) : Simulation :=
  { s with nodes := s.nodes.mapIdx fun i n => { n with down := f i } }

@[simp] theorem shards_withDown (f : Nat → Bool) (s : Simulation) : (s.withDown f).shards = s.shards := rfl

@[simp] theorem password_withDown (f : Nat → Bool) (s : Simulation) : (s.withDown f).password = s.password := rfl

theorem node_withDown (f : Nat → Bool) (s : Simulation) (i : Nat) :
    (s.withDown f).nodes[i]? = (s.nodes[i]?).map fun n => { n with down := f i } := List.getElem?_mapIdx

theorem withDown_withDown (f g : Nat → Bool) (s : Simulation) : (s.withDown f).withDown g = s.withDown g := by
  unfold withDown
  simp only [List.mapIdx_mapIdx]
  rfl

theorem Sound.withDown_none (hs : s.Sound) : s.withDown (fun _ => false) = s := by
  unfold withDown
  have : (s.nodes.mapIdx fun _ n => { n with down := false }) = s.nodes := by
    refine List.ext_getElem? fun i => ?_
    rw [List.getElem?_mapIdx]
    cases hn : s.nodes[i]? with
    | none => rfl
    | some n =>
      obtain ⟨-, hdown, -⟩ := hs.node i n hn
      rw [Option.map_some, ← hdown]
  rw [this]

theorem nodeAt?_withDown (f : Nat → Bool) (s : Simulation) (addr : String) :
    (s.withDown f).nodeAt? addr = s.nodeAt? addr := by
  obtain ⟨nodes, _, _, _⟩ := s
  unfold nodeAt? withDown
  simp only []
  induction nodes generalizing f with
  | nil => rfl
  | cons n ns ih =>
    rw [List.mapIdx_cons, List.findIdx?_cons, List.findIdx?_cons, ih fun i => f (i + 1)]
    rfl

theorem route_withDown (f : Nat → Bool) (s : Simulation) (j : Nat) (ks : List String) :
    (s.withDown f).route j ks = s.route j ks := by
  cases ks with
  | nil => rfl
  | cons k ks =>
    unfold route
    simp only [node_withDown, shards_withDown]
    rw [show (s.withDown f).shardOf (slotOf k) = s.shardOf (slotOf k) from rfl]
    cases s.nodes[j]? with
    | none => rfl
    | some me =>
      simp only [Option.map_some]
      congr 3
      cases s.shards[s.shardOf (slotOf k)]? with
      | none => rfl
      | some h =>
        simp only [Option.bind_eq_bind, Option.bind_some, SimNode.addr]
        cases s.nodes[h.master]? <;> rfl

/-- A node handles a command as if all nodes were up; only the status of a node is not looked at here. -/
theorem handle_withDown (f : Nat → Bool) (s : Simulation) (j : Nat) (hname : cmd.name ≠ "INFO") :
    (s.withDown f).handle j cmd = ((s.handle j cmd).1, (s.handle j cmd).2.withDown f) := by
  unfold handle
  simp only [if_neg hname]
  split
  · rfl
  split
  · -- Scans look at the shard of the node only.
    unfold scan
    split
    · rfl
    · simp only [node_withDown, shards_withDown, Option.map_map]
      rw [show (SimNode.shard ∘ fun n : SimNode => { n with down := f j }) = SimNode.shard from rfl]
      split <;> rfl
  split
  · unfold onKeys
    rw [route_withDown]
    split
    · rfl
    · split
      · rfl
      · split <;> rfl
  · rfl

theorem noted_withDown (f : Nat → Bool) (s : Simulation) (j : Nat) (cmd : Command) :
    (s.withDown f).noted j cmd = (s.noted j cmd).withDown f := by
  unfold noted withDown
  congr 1
  refine List.ext_getElem? fun i => ?_
  simp only [List.getElem?_modify, List.getElem?_mapIdx, Option.map_eq_map, Option.map_map]
  congr 1
  funext n
  by_cases hi : j = i <;> simp [hi]

/-- What a node that is up makes of a command. -/
theorem execute_up {l : Link} {me : SimNode} (hme : s.nodes[l.node]? = some me) (hdown : me.down = false)
    (hinj : me.injected = []) : execute l cmd s =
      if cmd.name = "AUTH" then
        let r := s.auth ((cmd.words.drop 1).map Utf8.decodeLossy)
        (.ok r.1, { l with authenticated := l.authenticated || r.2 }, s.noted l.node cmd)
      else if s.password.isSome ∧ l.authenticated = false then (.ok noAuth, l, s.noted l.node cmd)
      else (.ok ((s.noted l.node cmd).handle l.node cmd).1, l, ((s.noted l.node cmd).handle l.node cmd).2) := by
  unfold execute
  rw [hme]
  simp only []
  rw [if_neg (by rw [hdown]; exact Bool.false_ne_true)]
  split
  · next h => rw [hinj] at h; cases h
  · rw [← noted_eq hme]
    rfl

/-- A node that is up answers a command as if all nodes were. -/
theorem execute_withDown {l : Link} (hs : s.Sound) (hl : l.node < s.nodes.length) (hf : f l.node = false)
    (hname : cmd.name ≠ "INFO") :
    execute l cmd (s.withDown f) =
      ((execute l cmd s).1, (execute l cmd s).2.1, (execute l cmd s).2.2.withDown f) := by
  have hme := List.getElem?_eq_getElem hl
  obtain ⟨-, hdown, hinj, -⟩ := hs.node _ _ hme
  have hme' : (s.withDown f).nodes[l.node]? = some { s.nodes[l.node] with down := f l.node } := by
    rw [node_withDown, hme]
    rfl
  rw [execute_up hme hdown hinj, execute_up hme' hf hinj, noted_withDown, handle_withDown _ _ _ hname, password_withDown, show (s.withDown f).auth = s.auth from rfl]
  split
  · rfl
  · split <;> rfl

/-! ## Contexts -/

/-- The context while just these nodes of its cluster are down. -/
def troubled (f : Nat → Bool) (c : Context Simulation Link) : Context Simulation Link :=
  { c with server := c.server.withDown f }

/-- A step comes to what it comes to with all nodes up. -/
def Unmoved {α : Type} (f : Nat → Bool) (x : Step Simulation Link α) (c : Context Simulation Link) : Prop :=
  x.run (troubled f c) = ((x.run c).1, troubled f (x.run c).2)

/-- A step fails as a connection does; the context continues, with the shards as they were. -/
def Interrupted {α : Type} (f : Nat → Bool) (x : Step Simulation Link α) (c : Context Simulation Link) : Prop :=
  ∃ e c', x.run (troubled f c) = (.error e, troubled f c') ∧ e.isConnectionError = true ∧ Continues c c' ∧
    c'.server.shards = c.server.shards

theorem Unmoved.run {α : Type} {x : Step Simulation Link α} {r : Except ClusterError α} (h : Unmoved f x c)
    (hx : x.run c = (r, c')) : x.run (troubled f c) = (r, troubled f c') := by
  rw [show x.run (troubled f c) = _ from h, hx]

theorem Unmoved.of_run {α : Type} {x : Step Simulation Link α} {r : Except ClusterError α}
    (h : x.run c = (r, c')) (h' : x.run (troubled f c) = (r, troubled f c')) : Unmoved f x c := by
  unfold Unmoved
  rw [h, h']

theorem Unmoved.congr {α : Type} {x y : Step Simulation Link α} (h : x.run c = y.run c')
    (h' : x.run (troubled f c) = y.run (troubled f c')) (hy : Unmoved f y c') : Unmoved f x c := by
  unfold Unmoved
  rw [h, h']
  exact hy

theorem Interrupted.congr {α : Type} {x y : Step Simulation Link α} (h' : x.run (troubled f c) = y.run (troubled f c'))
    (hc : Continues c c') (hsh : c'.server.shards = c.server.shards) (hy : Interrupted f y c') :
    Interrupted f x c := by
  obtain ⟨e, c'', h1, h2, h3, h4⟩ := hy
  exact ⟨e, c'', h'.trans h1, h2, hc.trans h3, h4.trans hsh⟩

theorem Configured.refl (hc : Configured c) : Continues c c := ⟨hc, rfl, rfl, rfl, rfl⟩

/-- A context that has dropped a connection continues. -/
theorem Configured.drop (hc : Configured c) (i : Nat) : Continues c (c.setConnection i none) := by
  refine ⟨⟨hc.sound, hc.valid, hc.listed, hc.password, (List.length_set ..).trans hc.size, ?_, hc.active⟩, rfl, rfl,
    rfl, rfl⟩
  intro k m l hk hl
  have hl' : (c.connections.set i none)[k]? = some (some l) := hl
  rw [List.getElem?_set] at hl'
  split at hl'
  · split at hl' <;> cases hl'
  · exact hc.link k m l hk hl'

/-- The connection to a node that is down is refused, or found to be closed. -/
theorem send_down (hc : Configured c) (hi : IsNode c i j) (hf : f j = true) (cmd : Command) :
    Interrupted f (Context.send i cmd) c := by
  obtain ⟨hj, n, h1, h2, h3⟩ := id hi
  have hnode : (c.topology.node i : Except ClusterError NodeConfig) = .ok n := by
    unfold Topology.node
    rw [h1]
  have hme := List.getElem?_eq_getElem hj
  obtain ⟨link, hci⟩ : ∃ link, c.connections[i]? = some link := ⟨_, List.getElem?_eq_getElem (hi.lt hc)⟩
  cases link with
  | none =>
    have haddr : n.addr = addrText host (basePort + j) := by
      unfold NodeConfig.addr
      rw [h2, h3]
    have hrefused : (Server.connect n (c.server.withDown f) : Except ClusterError Link × Simulation) =
        (.error (.connectionFailed n.addr "connection refused"), c.server.withDown f) := by
      show connect n (c.server.withDown f) = _
      unfold connect
      simp only [nodeAt?_withDown, haddr, hc.sound.nodeAt? hj, node_withDown, hme, Option.map_some, hf, ↓reduceIte]
    refine ⟨.connectionFailed n.addr "connection refused", c, ?_, rfl, hc.refl, rfl⟩
    unfold Context.send
    rw [Context.step_bind_error]
    unfold Context.connection
    rw [Context.step_bind_ok (Context.step_get _),
      show (troubled f c).topology.node i = .ok n from hnode, Context.step_bind_ok (Context.step_lift _ _),
      show (troubled f c).connections[i]? = some none from hci]
    simp only []
    rw [show (troubled f c).server = c.server.withDown f from rfl, hrefused]
    rfl
  | some l =>
    have hl : l.node = j := hc.link i j l hi hci
    have hclosed : (Server.execute l cmd (c.server.withDown f) : Except ClusterError Reply × Link × Simulation) =
        (.error (.closed (SimNode.addr c.server.nodes[j])), l, c.server.withDown f) := by
      show execute l cmd (c.server.withDown f) = _
      unfold execute
      rw [hl, node_withDown, hme]
      simp only [Option.map_some, hf, ↓reduceIte]
      rfl
    have hcon : (Context.connection i).run (troubled f c) = (.ok l, troubled f c) := by
      unfold Context.connection
      rw [Context.step_bind_ok (Context.step_get _),
        show (troubled f c).topology.node i = .ok n from hnode, Context.step_bind_ok (Context.step_lift _ _),
        show (troubled f c).connections[i]? = some (some l) from hci]
      rfl
    refine ⟨.closed (SimNode.addr c.server.nodes[j]), c.setConnection i none, ?_, rfl, hc.drop i, rfl⟩
    have hsend := Context.send_of_execute hcon hclosed
    exact hsend

/-- A node that is up gets a command and answers it as if all nodes were up. -/
theorem send_up (hc : Configured c) (hi : IsNode c i j) (hf : f j = false) (hname : cmd.name ≠ "INFO") :
    Unmoved f (Context.send i cmd) c := by
  obtain ⟨hj, n, h1, h2, h3⟩ := id hi
  have hnode : (c.topology.node i : Except ClusterError NodeConfig) = .ok n := by
    unfold Topology.node
    rw [h1]
  have hme := List.getElem?_eq_getElem hj
  obtain ⟨-, hdown, -⟩ := hc.sound.node j _ hme
  obtain ⟨link, hci⟩ : ∃ link, c.connections[i]? = some link := ⟨_, List.getElem?_eq_getElem (hi.lt hc)⟩
  -- Either way the connection is the same, and leads to the node.
  obtain ⟨l, c₁, hl, hserver, hcon, hcon'⟩ : ∃ l c₁, l.node = j ∧ c₁.server = c.server ∧
      (Context.connection i).run c = (.ok l, c₁) ∧
        (Context.connection i).run (troubled f c) = (.ok l, troubled f c₁) := by
    unfold Context.connection
    rw [Context.step_bind_ok (Context.step_get _), Context.step_bind_ok (Context.step_get _),
      show (troubled f c).topology.node i = .ok n from hnode, hnode, Context.step_bind_ok (Context.step_lift _ _),
      Context.step_bind_ok (Context.step_lift _ _),
      show (troubled f c).connections[i]? = c.connections[i]? from rfl, hci]
    cases link with
    | some l =>
      exact ⟨l, c, hc.link i j l hi hci, rfl, rfl, rfl⟩
    | none =>
      have haddr : n.addr = addrText host (basePort + j) := by
        unfold NodeConfig.addr
        rw [h2, h3]
      have hopen : (Server.connect n c.server : Except ClusterError Link × Simulation) =
          (.ok { node := j }, c.server) := by
        show connect n c.server = _
        unfold connect
        simp only [haddr, hc.sound.nodeAt? hj, hme, hdown, Bool.false_eq_true, ↓reduceIte]
      have hopen' : (Server.connect n (c.server.withDown f) : Except ClusterError Link × Simulation) =
          (.ok { node := j }, c.server.withDown f) := by
        show connect n (c.server.withDown f) = _
        unfold connect
        simp only [nodeAt?_withDown, haddr, hc.sound.nodeAt? hj, node_withDown, hme, Option.map_some, hf,
          Bool.false_eq_true, ↓reduceIte]
      refine ⟨{ node := j }, c.setConnection i (some { node := j }), rfl, rfl, ?_, ?_⟩
      · simp only []
        rw [hopen]
        rfl
      · simp only []
        rw [show (troubled f c).server = c.server.withDown f from rfl, hopen']
        rfl
  have hexec : execute l cmd (c₁.server.withDown f) = ((execute l cmd c₁.server).1, (execute l cmd c₁.server).2.1,
      (execute l cmd c₁.server).2.2.withDown f) := by
    rw [hserver]
    exact execute_withDown hc.sound (by rw [hl]; exact hj) (by rw [hl, hf]) hname
  have hcalm : execute l cmd c₁.server = (_, _, _) := rfl
  have hsend := Context.send_of_execute hcon hcalm
  have hsend' := Context.send_of_execute hcon' hexec
  exact .of_run hsend hsend'

/-! ## What becomes of a command -/

theorem Unmoved.bind {α β : Type} {x : Step Simulation Link α} {g : α → Step Simulation Link β} (hx : Unmoved f x c)
    (hg : ∀ a c', x.run c = (.ok a, c') → Unmoved f (g a) c') : Unmoved f (x >>= g) c := by
  unfold Unmoved
  rw [Context.step_bind, Context.step_bind, show x.run (troubled f c) = _ from hx]
  rcases hr : x.run c with ⟨_ | a, c'⟩
  · rfl
  · exact hg a c' hr

theorem authenticate_up (hc : Configured c) (hi : IsNode c i j) (hf : f j = false) :
    Unmoved f (Context.authenticate i) c := by
  unfold Unmoved Context.authenticate
  rw [Context.step_bind_ok (Context.step_get _), Context.step_bind_ok (Context.step_get _),
    show (troubled f c).topology = c.topology from rfl]
  split
  · rfl
  · next p _ =>
    refine Unmoved.bind (send_up hc hi hf (by rw [name_auth]; decide)) fun r c' _ => ?_
    cases r <;> rfl

/-- A command for a node that is down fails as the connection does. -/
theorem deliver_down (hc : Configured c) (hi : IsNode c i j) (hf : f j = true) (cmd : Command) (track m a : Bool) :
    Interrupted f (Context.deliver track m a i cmd) c := by
  obtain ⟨e, c', h1, h2⟩ := send_down hc hi hf cmd
  exact ⟨e, c', Context.deliver_of_error h1, h2⟩

/-- A node that is up and has an answer to a command meets it as if all nodes were up. -/
theorem deliver_up (hc : Configured c) (hi : IsNode c i j) (hf : f j = false) (hname : cmd.name ≠ "AUTH")
    (hinfo : cmd.name ≠ "INFO") {r : Reply} {after : List Shard} (hans : Answers c.server.shards j cmd r after)
    (hd : r.redirect? = none) (hn : r.isNoAuth = false) (track m a : Bool) :
    Unmoved f (Context.deliver track m a i cmd) c := by
  have htrusted {c : Context Simulation Link} (hc : Configured c) (hi : IsNode c i j) (ht : Trusted c i)
      (hans : Answers c.server.shards j cmd r after) (a : Bool) :
      Unmoved f (Context.deliver track m a i cmd) c := by
    obtain ⟨s', h1, -⟩ := hans c.server (linkTo c i j) hc.sound rfl (hc.node_linkTo hi) ((hc.trusted_iff hi).1 ht)
    have hsend := hc.send hi h1
    exact .of_run (Context.deliver_of_answer hsend hd hn)
      (Context.deliver_of_answer ((send_up hc hi hf hinfo).run hsend) hd hn)
  by_cases ht : Trusted c i
  · exact htrusted hc hi ht hans a
  · obtain ⟨c₁, h1, h2, h3⟩ := send_refused hc hi ht hname
    have h1' := (send_up hc hi hf hinfo).run h1
    cases a with
    | true =>
      exact .of_run (Context.deliver_of_refusal_again h1 isNoAuth_noAuth.2)
        (Context.deliver_of_refusal_again h1' isNoAuth_noAuth.2)
    | false =>
      obtain ⟨c₂, g1, g2, g3⟩ := authenticate_run h2.configured (h2.isNode.2 hi) h3
      have g1' := (authenticate_up h2.configured (h2.isNode.2 hi) hf).run g1
      have h := h2.trans g2
      refine .congr (Context.deliver_of_refusal h1 isNoAuth_noAuth.2 isNoAuth_noAuth.1 g1)
        (Context.deliver_of_refusal h1' isNoAuth_noAuth.2 isNoAuth_noAuth.1 g1') ?_
      exact htrusted h.configured (h.isNode.2 hi) g3 (h.shards.symm ▸ hans) true

/-- A node that is up sends a command on to the master of the slot as if all nodes were up. -/
theorem deliver_moved_up (hc : Configured c) (hi : IsNode c i j) (hf : f j = false) (ht : Trusted c i)
    (hr : cmd.About ks) (hinfo : cmd.name ≠ "INFO") (hk : OneSlot slot ks) (hne : j ≠ home slot) {t : Nat}
    (htarget : IsNode c t (home slot)) (a : Bool) : ∃ c', Sent i c c' ∧
      (Context.deliver true false a i cmd).run c = (Context.deliver true true a t cmd).run { c' with active := t } ∧
      (Context.deliver true false a i cmd).run (troubled f c) =
        (Context.deliver true true a t cmd).run (troubled f { c' with active := t }) := by
  obtain ⟨c', h1, h2⟩ := send_moved hc hi ht hr hk hne
  have hfind : c'.topology.config.find? host (basePort + home slot) = some t := by
    rw [h2.topology]
    exact htarget.find? hc
  have h1' := (send_up hc hi hf hinfo).run h1
  have hredirect := redirect?_moved hk.lt (home_lt slot)
  exact ⟨c', h2, Context.deliver_of_redirect h1 hredirect hfind, Context.deliver_of_redirect h1' hredirect hfind⟩

/-- A command on keys of one slot fails as a connection does, or comes to what it comes to with all nodes up. -/
theorem deliver_routed_troubled (f : Nat → Bool) (hc : Configured c) (hr : cmd.About ks) (hinfo : cmd.name ≠ "INFO")
    (hk : OneSlot slot ks) {t : Nat} (ht : IsNode c t (home slot)) {r : Reply} {after : List Shard}
    (hans : Answers c.server.shards (home slot) cmd r after) (hd : r.redirect? = none) (hn : r.isNoAuth = false) :
    Interrupted f (Context.deliver true false false c.active cmd) c ∨
      Unmoved f (Context.deliver true false false c.active cmd) c := by
  obtain ⟨j, hj⟩ := hc.active
  have hname := name_ne_auth hr
  cases hf : f j with
  | true => exact .inl (deliver_down hc hj hf cmd true false false)
  | false =>
    by_cases hm : j = home slot
    · subst hm
      exact .inr (deliver_up hc hj hf hname hinfo hans hd hn true false false)
    · -- The active node sends the command on, at the latest when it has the password.
      have hmoved {c₁ : Context Simulation Link} (h : Sent c.active c c₁) (ht₁ : Trusted c₁ c.active) (a : Bool) :
          Interrupted f (Context.deliver true false a c.active cmd) c₁ ∨
            Unmoved f (Context.deliver true false a c.active cmd) c₁ := by
        obtain ⟨c₂, g1, g2, g3⟩ := deliver_moved_up h.configured (h.isNode.2 hj) hf ht₁ hr hinfo hk hm
          (h.isNode.2 ht) a
        have hc₂ := g1.activate ⟨_, g1.isNode.2 (h.isNode.2 ht)⟩
        have ht₂ : IsNode { c₂ with active := t } t (home slot) := g1.isNode.2 (h.isNode.2 ht)
        have hans₂ : Answers c₂.server.shards (home slot) cmd r after := by
          rw [g1.shards, h.shards]
          exact hans
        cases hf' : f (home slot) with
        | true => exact .inl (.congr g3 hc₂ g1.shards (deliver_down hc₂.configured ht₂ hf' cmd true true a))
        | false =>
          exact .inr (.congr g2 g3 (deliver_up hc₂.configured ht₂ hf' hname hinfo hans₂ hd hn true true a))
      by_cases htr : Trusted c c.active
      · exact hmoved (.refl hc c.active) htr false
      · obtain ⟨c₁, h1, h2, h3⟩ := send_refused hc hj htr hname
        obtain ⟨c₂, g1, g2, g3⟩ := authenticate_run h2.configured (h2.isNode.2 hj) h3
        have h1' := (send_up hc hj hf hinfo).run h1
        have g1' := (authenticate_up h2.configured (h2.isNode.2 hj) hf).run g1
        have h := h2.trans g2
        exact (hmoved h g3 true).imp
          (.congr (Context.deliver_of_refusal h1' isNoAuth_noAuth.2 isNoAuth_noAuth.1 g1') h.toContinues h.shards)
          (.congr (Context.deliver_of_refusal h1 isNoAuth_noAuth.2 isNoAuth_noAuth.1 g1)
            (Context.deliver_of_refusal h1' isNoAuth_noAuth.2 isNoAuth_noAuth.1 g1'))

end SlotSql.Simulation
