import SlotSql.Proofs.Simulation.Context
/-!
# Routing and authentication

A context over a cluster without failures sends a command on a key to its active node. Any other node than
the master of the key's slot names that master, and a node asks for a password before anything else if the
connection to it is not trusted. A context meets one demand for a password per command and follows one
redirection. So the command reaches the master, unless the context must ask both nodes for trust: then
the master's demand for the password is the result.

Results:
* `Config.Valid.find?`: a configured address is found.
* `handle_owner`: what the master of a slot answers depends on the shards only, and is neither a
  redirection nor a demand for a password.
* `deliver_refused`, `deliver_moved`, `deliver_owner`: the three replies, and what becomes of the command.
* `exec_routed`: what a command on a key comes to, from every state of the connections.
-/
namespace SlotSql

open SlotSql.Cluster SlotSql.Store

/-! ## Configured addresses -/

namespace Cluster.Config

/-- Two nodes have the same address. -/
def SameAddress (m n : NodeConfig) : Prop := m.host = n.host ∧ m.port = n.port

theorem apart_of_nodesFault? {before ns : List NodeConfig} (h : nodesFault? before ns = none) :
    (∀ n ∈ ns, ∀ m ∈ before, ¬ SameAddress m n) ∧ ns.Pairwise fun m n => ¬ SameAddress m n := by
  induction ns generalizing before with
  | nil => exact ⟨by simp, .nil⟩
  | cons n ns ih =>
    unfold nodesFault? at h
    split at h
    · cases h
    · next hn =>
      obtain ⟨h1, h2⟩ := ih h
      have hfirst : ∀ m ∈ before, ¬ SameAddress m n := by
        intro m hm hsame
        unfold nodeFault? at hn
        split at hn
        · cases hn
        split at hn
        · cases hn
        split at hn
        · cases hn
        · next hany =>
          refine hany (List.any_eq_true.2 ⟨m, hm, ?_⟩)
          rw [hsame.1, hsame.2]
          simp
      refine ⟨fun k hk m hm => ?_, List.pairwise_cons.2 ⟨fun k hk => ?_, h2⟩⟩
      · rcases List.mem_cons.1 hk with rfl | hk
        · exact hfirst m hm
        · exact h1 k hk m (List.mem_append_left _ hm)
      · exact h1 k hk n (List.mem_append_right _ (List.mem_singleton.2 rfl))

/-- A configured address is found. -/
theorem Valid.find? {c : Config} (hc : c.Valid) {i : Nat} {n : NodeConfig} (hi : c.nodes[i]? = some n) :
    c.find? n.host n.port = some i := by
  have hfault : nodesFault? [] c.nodes = none := by
    have h : c.fault? = none := hc
    unfold fault? at h
    split at h
    · cases h
    split at h
    · cases h
    · exact h
  obtain ⟨-, hpair⟩ := apart_of_nodesFault? hfault
  obtain ⟨hlt, rfl⟩ := List.getElem?_eq_some_iff.1 hi
  unfold Config.find?
  refine List.findIdx?_eq_some_iff_getElem.2 ⟨hlt, by simp, fun k hk => ?_⟩
  have := List.pairwise_iff_getElem.1 hpair k i (Nat.lt_trans hk hlt) hlt hk
  intro hsame
  simp only [Bool.and_eq_true, beq_iff_eq] at hsame
  exact this ⟨hsame.2, hsame.1⟩

end Cluster.Config

namespace Store.KeyCommand

/-- A command is about the keys that its name and its arguments say. -/
theorem keys_of_read {name : String} {args : List (String × Bytes)} {kc : KeyCommand}
    (h : read name args = .ok kc) : kc.keys = keysOf name (args.map Prod.fst) := by
  unfold read at h
  dsimp only at h
  generalize args.map Prod.fst = texts at h ⊢
  split at h
  case h_10 =>
    split at h
    · next hn =>
      split at h <;> cases h
      rcases hn with rfl | rfl <;> rfl
    · cases h
  case h_11 => cases h
  all_goals
    cases h
    rfl

/-- Words that are wrong for a command are too many or too few. -/
theorem error_of_read {name : String} {args : List (String × Bytes)} {r : Reply}
    (h : read name args = .error r) : r = wrongArity name := by
  unfold read at h
  dsimp only at h
  split at h
  case h_10 =>
    split at h
    · split at h <;> cases h
      rfl
    · cases h
      rfl
  case h_11 =>
    cases h
    rfl
  all_goals cases h

/-- A reply to wrong words is neither a redirection nor a demand for the password. -/
theorem wrongArity_plain (name : String) :
    (wrongArity name).redirect? = none ∧ (wrongArity name).isNoAuth = false := by
  have hlist : ("ERR wrong number of arguments for '" ++ Text.asciiLower name ++ "' command").toList =
      "ERR".toList ++ ' ' ::
        ("wrong number of arguments for '".toList ++ (Text.asciiLower name).toList ++ "' command".toList) := by
    simp only [String.toList_append]
    rfl
  have hwords : ∃ ws, Text.words
      ("ERR wrong number of arguments for '" ++ Text.asciiLower name ++ "' command").toList =
        "ERR".toList :: ws := by
    rw [hlist]
    refine ⟨_, Text.words_cons (by simp) (fun c hc => ?_) fun c hc => ?_⟩
    · have : "ERR".toList.any Text.isBlank = false := by decide +kernel
      simpa using List.any_eq_false.1 this c hc
    · cases hc
      decide
  obtain ⟨ws, hws⟩ := hwords
  unfold wrongArity
  constructor
  · unfold Reply.redirect?
    simp only [hws, List.map_cons, String.ofList_toList]
    rfl
  · unfold Reply.isNoAuth
    simp only [hlist]
    rfl
end Store.KeyCommand

namespace Simulation

variable {s : Simulation} {c c' : Context Simulation Link} {cmd : Command} {ks : List String} {slot i j : Nat}

/-! ## Answers of a node -/

/-- What the master of a slot answers to a command on keys of it depends on the shards only, and is neither a
redirection nor a demand for the password. -/
theorem handle_owner (hs : s.Sound) (hr : cmd.About ks) (hk : OneSlot slot ks) : ∃ r s',
    s.handle (home slot) cmd = (r, s') ∧ r.redirect? = none ∧ r.isNoAuth = false ∧ s'.Sound ∧
      s'.nodes = s.nodes ∧ s'.password = s.password ∧
      ∀ s₁ : Simulation, s₁.Sound → s₁.shards = s.shards →
        (s₁.handle (home slot) cmd).1 = r ∧ (s₁.handle (home slot) cmd).2.shards = s'.shards := by
  have hnode {s : Simulation} (hs : s.Sound) : ∃ n, s.nodes[home slot]? = some n :=
    ⟨_, List.getElem?_eq_getElem (Nat.lt_of_lt_of_le (home_lt slot) hs.nodes)⟩
  cases hread : KeyCommand.read cmd.name cmd.args with
  | error r =>
    -- The words are wrong: the reply says so, and nothing changes.
    have hanswer {s : Simulation} (hs : s.Sound) : s.handle (home slot) cmd = (r, s) := by
      obtain ⟨n, hn⟩ := hnode hs
      rw [handle_eq_onKeys hr]
      unfold onKeys
      rw [if_neg (by simpa using hr.args), hr.keys, route_master hs hk hn]
      simp only [hread]
    obtain ⟨h1, h2⟩ := KeyCommand.wrongArity_plain cmd.name
    rw [← KeyCommand.error_of_read hread] at h1 h2
    refine ⟨r, s, hanswer hs, h1, h2, hs, rfl, rfl, fun s₁ hs₁ hsh => ?_⟩
    rw [hanswer hs₁]
    exact ⟨rfl, hsh⟩
  | ok kc =>
    have hkeys : kc.keys = ks := (KeyCommand.keys_of_read hread).trans hr.keys
    subst hkeys
    have hruns : cmd.Runs kc := ⟨hr, hread⟩
    obtain ⟨n, hn⟩ := hnode hs
    obtain ⟨h1, h2⟩ := run_plain kc (s.dataOf (home slot))
    refine ⟨_, _, handle_master hs hruns hk hn, h1, h2, hs.run hk, rfl, rfl, fun s₁ hs₁ hsh => ?_⟩
    obtain ⟨n₁, hn₁⟩ := hnode hs₁
    have hdata : s₁.dataOf (home slot) = s.dataOf (home slot) := by
      unfold Simulation.dataOf
      rw [hsh]
    rw [handle_master hs₁ hruns hk hn₁, hdata]
    exact ⟨rfl, congrArg (List.modify · (home slot) _) hsh⟩

/-- The reply of a node that asks for the password. -/
def noAuth : Reply := .error "NOAUTH Authentication required."

theorem isNoAuth_noAuth : noAuth.isNoAuth = true ∧ noAuth.redirect? = none := by decide +kernel

/-- A node asks a client that it does not trust for the password. -/
theorem execute_refused {l : Link} (hs : s.Sound) (hj : l.node < s.nodes.length) (hname : cmd.name ≠ "AUTH")
    (hp : s.password ≠ none) (ha : l.authenticated = false) :
    execute l cmd s = (.ok noAuth, l, s.noted l.node cmd) := by
  have hme := List.getElem?_eq_getElem hj
  obtain ⟨-, hdown, hinj, -⟩ := hs.node _ _ hme
  unfold execute
  rw [hme]
  simp only []
  rw [if_neg (by rw [hdown]; exact Bool.false_ne_true)]
  split
  · next h => rw [hinj] at h; cases h
  · rw [if_neg hname, if_pos ⟨Option.isSome_iff_ne_none.2 hp, ha⟩, ← noted_eq hme]
    rfl

theorem name_auth (p : String) : (Command.auth p).name = "AUTH" := by
  unfold Command.auth
  rw [Command.name_ofTexts]
  decide +kernel

/-- A node that gets the right password trusts the connection. -/
theorem execute_auth {l : Link} {p : String} (hs : s.Sound) (hj : l.node < s.nodes.length)
    (hp : s.password = some p) :
    execute l (.auth p) s = (.ok .ok, { l with authenticated := true }, s.noted l.node (.auth p)) := by
  have hme := List.getElem?_eq_getElem hj
  obtain ⟨-, hdown, hinj, -⟩ := hs.node _ _ hme
  have hargs : ((Command.auth p).words.drop 1).map Utf8.decodeLossy = [p] := by
    simp [Command.auth, Command.ofTexts, Utf8.decodeLossy_bytes]
  have hauth : (s.noted l.node (.auth p)).auth [p] = (.ok, true) := by
    unfold auth noted
    simp [hp]
  unfold execute
  rw [hme]
  simp only []
  rw [if_neg (by rw [hdown]; exact Bool.false_ne_true)]
  split
  · next h => rw [hinj] at h; cases h
  · rw [if_pos (name_auth p), hargs, ← noted_eq hme, hauth]
    simp

/-- A node gives this reply on these shards to who is trusted, and leaves those. -/
def Answers (shards : List Shard) (j : Nat) (cmd : Command) (r : Reply) (after : List Shard) : Prop :=
  ∀ (s : Simulation) (l : Link), s.Sound → s.shards = shards → l.node = j →
    (s.password = none ∨ l.authenticated = true) → ∃ s', execute l cmd s = (.ok r, l, s') ∧
      s'.shards = after ∧ s'.Sound ∧ s'.nodes.length = s.nodes.length ∧ s'.password = s.password

/-- The master of a slot has an answer to every command on keys of it. -/
theorem answers_owner (hs : s.Sound) (hr : cmd.About ks) (hk : OneSlot slot ks) : ∃ r after,
    Answers s.shards (home slot) cmd r after ∧ r.redirect? = none ∧ r.isNoAuth = false := by
  obtain ⟨r, s', -, h1, h2, -, -, -, hall⟩ := handle_owner hs hr hk
  refine ⟨r, s'.shards, fun s₁ l hs₁ hsh hl ha => ?_, h1, h2⟩
  have hlt : home slot < s₁.nodes.length := Nat.lt_of_lt_of_le (home_lt slot) hs₁.nodes
  have hme := List.getElem?_eq_getElem hlt
  obtain ⟨-, hdown, hinj, -⟩ := hs₁.node _ _ hme
  obtain ⟨r₁, s₁', g1, -, -, g2, g3, g4, -⟩ := handle_owner (hs₁.noted (home slot) cmd) hr hk
  obtain ⟨e1, e2⟩ := hall _ (hs₁.noted (home slot) cmd) hsh
  rw [g1] at e1 e2
  refine ⟨s₁', ?_, e2, g2, ?_, g4⟩
  · rw [execute_ready (hl.symm ▸ hme) hdown hinj (name_ne_auth hr) ha, hl, g1, e1]
  · rw [g3, length_noted]

/-! ## Contexts that know the cluster -/

/-- The configured node `i` is the node `j` of the cluster. -/
def IsNode (c : Context Simulation Link) (i j : Nat) : Prop :=
  j < c.server.nodes.length ∧
    ∃ n, c.topology.config.nodes[i]? = some n ∧ n.host = host ∧ n.port = basePort + j

/-- A node answers over the connection to it without asking for the password. -/
def Trusted (c : Context Simulation Link) (i : Nat) : Prop :=
  c.server.password = none ∨ ∃ l, c.connections[i]? = some (some l) ∧ l.authenticated = true

/-- A context over a cluster without failures, whose configuration lists the nodes and has their password.
Its connections are in any state. -/
structure Configured (c : Context Simulation Link) : Prop where
  sound : c.server.Sound
  valid : c.topology.config.Valid
  listed : ∀ j, j < c.server.nodes.length → ∃ i, IsNode c i j
  password : ∀ i j, IsNode c i j →
    c.server.password = none ∨ c.topology.config.passwordFor i = c.server.password
  size : c.connections.length = c.topology.config.nodes.length
  link : ∀ i j l, IsNode c i j → c.connections[i]? = some (some l) → l.node = j
  active : ∃ j, IsNode c c.active j

/-- A context knows the cluster as it did before; what lies on the shards, the connections and the active node
may have changed. -/
structure Continues (c c' : Context Simulation Link) : Prop where
  configured : Configured c'
  nodes : c'.server.nodes.length = c.server.nodes.length
  password : c'.server.password = c.server.password
  topology : c'.topology = c.topology
  maxArgs : c'.maxArgs = c.maxArgs

/-- Sending to the node `i` has changed the connection to it and what the nodes have noted, nothing else. -/
structure Sent (i : Nat) (c c' : Context Simulation Link) : Prop extends Continues c c' where
  shards : c'.server.shards = c.server.shards
  active : c'.active = c.active
  others : ∀ k, k ≠ i → c'.connections[k]? = c.connections[k]?

theorem IsNode.node_unique {j' : Nat} (h : IsNode c i j) (h' : IsNode c i j') : j = j' := by
  obtain ⟨-, n, h1, -, h2⟩ := h
  obtain ⟨-, n', g1, -, g2⟩ := h'
  cases Option.some.inj (h1.symm.trans g1)
  omega

theorem IsNode.find? (hc : Configured c) (h : IsNode c i j) :
    c.topology.config.find? host (basePort + j) = some i := by
  obtain ⟨-, n, h1, h2, h3⟩ := h
  rw [← h2, ← h3]
  exact hc.valid.find? h1

theorem IsNode.index_unique {i' : Nat} (hc : Configured c) (h : IsNode c i j) (h' : IsNode c i' j) : i = i' :=
  Option.some.inj ((h.find? hc).symm.trans (h'.find? hc))

theorem IsNode.lt (hc : Configured c) (h : IsNode c i j) : i < c.connections.length := by
  obtain ⟨-, n, h1, -⟩ := h
  rw [hc.size]
  exact (List.getElem?_eq_some_iff.1 h1).1

namespace Continues

theorem trans {c₁ c₂ : Context Simulation Link} (h : Continues c c₁) (h' : Continues c₁ c₂) : Continues c c₂ where
  configured := h'.configured
  nodes := h'.nodes.trans h.nodes
  password := h'.password.trans h.password
  topology := h'.topology.trans h.topology
  maxArgs := h'.maxArgs.trans h.maxArgs

theorem activate (h : Continues c c') {t : Nat} (ht : ∃ j, IsNode c' t j) : Continues c { c' with active := t } :=
  ⟨{ h.configured with active := ht }, h.nodes, h.password, h.topology, h.maxArgs⟩

end Continues

namespace Sent

theorem isNode (h : Sent i c c') {k : Nat} : IsNode c' k j ↔ IsNode c k j := by
  unfold IsNode
  rw [h.nodes, h.topology]

theorem trusted (h : Sent i c c') {k : Nat} (hk : k ≠ i) : Trusted c' k ↔ Trusted c k := by
  unfold Trusted
  rw [h.password, h.others k hk]

theorem refl (hc : Configured c) (i : Nat) : Sent i c c := ⟨⟨hc, rfl, rfl, rfl, rfl⟩, rfl, rfl, fun _ _ => rfl⟩

theorem trans {c₁ c₂ : Context Simulation Link} (h : Sent i c c₁) (h' : Sent i c₁ c₂) : Sent i c c₂ where
  toContinues := h.toContinues.trans h'.toContinues
  shards := h'.shards.trans h.shards
  active := h'.active.trans h.active
  others k hk := (h'.others k hk).trans (h.others k hk)

end Sent

namespace Configured

/-- With the answer of a node and the connection to it, a context still knows the cluster. -/
theorem keep (hc : Configured c) (hi : IsNode c i j) (hs : s.Sound)
    (hl : s.nodes.length = c.server.nodes.length) (hp : s.password = c.server.password) {l : Link}
    (hlj : l.node = j) : Configured ({ c with server := s }.setConnection i (some l)) := by
  have hnode {k m : Nat} : IsNode ({ c with server := s }.setConnection i (some l)) k m ↔ IsNode c k m := by
    show (m < s.nodes.length ∧ _) ↔ _
    rw [hl]
    exact Iff.rfl
  refine ⟨hs, hc.valid, fun m hm => ?_, fun k m hk => ?_, ?_, fun k m l' hk hl' => ?_, ?_⟩
  · obtain ⟨k, hk⟩ := hc.listed m (hl ▸ hm)
    exact ⟨k, hnode.2 hk⟩
  · show s.password = none ∨ _ = s.password
    rw [hp]
    exact hc.password k m (hnode.1 hk)
  · exact (List.length_set ..).trans hc.size
  · have hl'' : (c.connections.set i (some l))[k]? = some (some l') := hl'
    by_cases he : i = k
    · subst he
      rw [List.getElem?_set_self (hi.lt hc)] at hl''
      cases hl''
      exact hlj.trans (hi.node_unique (hnode.1 hk))
    · rw [List.getElem?_set_ne he] at hl''
      exact hc.link k m l' (hnode.1 hk) hl''
  · obtain ⟨m, hm⟩ := hc.active
    exact ⟨m, hnode.2 hm⟩

theorem continues (hc : Configured c) (hi : IsNode c i j) (hs : s.Sound)
    (hl : s.nodes.length = c.server.nodes.length) (hp : s.password = c.server.password) {l : Link}
    (hlj : l.node = j) : Continues c ({ c with server := s }.setConnection i (some l)) :=
  ⟨hc.keep hi hs hl hp hlj, hl, hp, rfl, rfl⟩

theorem sent (hc : Configured c) (hi : IsNode c i j) (hs : s.Sound)
    (hl : s.nodes.length = c.server.nodes.length) (hp : s.password = c.server.password)
    (hsh : s.shards = c.server.shards) {l : Link} (hlj : l.node = j) :
    Sent i c ({ c with server := s }.setConnection i (some l)) where
  toContinues := hc.continues hi hs hl hp hlj
  shards := hsh
  active := rfl
  others _ hk := List.getElem?_set_ne (Ne.symm hk)

theorem node_linkTo (hc : Configured c) (hi : IsNode c i j) : (linkTo c i j).node = j := by
  unfold linkTo
  cases h : c.connections[i]? with
  | none => rfl
  | some k =>
    cases k with
    | none => rfl
    | some l => exact hc.link i j l hi h

theorem trusted_iff (hc : Configured c) (hi : IsNode c i j) :
    Trusted c i ↔ c.server.password = none ∨ (linkTo c i j).authenticated = true := by
  unfold Trusted linkTo
  refine or_congr_right ?_
  have hlt := hi.lt hc
  rw [List.getElem?_eq_getElem hlt]
  cases c.connections[i] with
  | none => simp
  | some l => simp

theorem send (hc : Configured c) (hi : IsNode c i j) {r : Reply} {l : Link}
    (h : execute (linkTo c i j) cmd c.server = (.ok r, l, s)) :
    (Context.send i cmd).run c = (.ok r, { c with server := s }.setConnection i (some l)) := by
  obtain ⟨hj, n, h1, h2, h3⟩ := id hi
  exact send_run hc.sound h1 h2 h3 hj (hi.lt hc) h

end Configured

/-! ## What becomes of a command -/

/-- The context has sent the password to a node. -/
theorem authenticate_run (hc : Configured c) (hi : IsNode c i j) (ht : ¬ Trusted c i) : ∃ c',
    (Context.authenticate i).run c = (.ok (), c') ∧ Sent i c c' ∧ Trusted c' i := by
  obtain ⟨hp, -⟩ := not_or.1 ht
  obtain ⟨p, hpw⟩ := Option.ne_none_iff_exists'.1 hp
  have hlj := hc.node_linkTo hi
  have hexec := execute_auth hc.sound (hlj.symm ▸ hi.1) hpw
  rw [hlj] at hexec
  have hsent := hc.sent (l := { node := j, authenticated := true }) hi
    (hc.sound.noted j (.auth p)) (length_noted ..) rfl rfl rfl
  have hlt := hi.lt hc
  refine ⟨_, ?_, hsent, .inr ⟨_, List.getElem?_set_self hlt, rfl⟩⟩
  unfold Context.authenticate
  rw [Context.step_bind_ok (Context.step_get c), (hc.password i j hi).resolve_left hp, hpw]
  simp only []
  rw [Context.step_bind_ok (hc.send hi hexec)]
  rfl

/-- A node that does not trust the connection asks for the password. -/
theorem send_refused (hc : Configured c) (hi : IsNode c i j) (ht : ¬ Trusted c i) (hname : cmd.name ≠ "AUTH") :
    ∃ c', (Context.send i cmd).run c = (.ok noAuth, c') ∧ Sent i c c' ∧ ¬ Trusted c' i := by
  obtain ⟨hp, ha⟩ := not_or.1 (mt (hc.trusted_iff hi).2 ht)
  have hlj := hc.node_linkTo hi
  have hexec := execute_refused hc.sound (hlj.symm ▸ hi.1) hname hp (Bool.eq_false_iff.2 ha)
  rw [hlj] at hexec
  refine ⟨_, hc.send hi hexec, hc.sent hi (hc.sound.noted j cmd) (length_noted ..) rfl rfl hlj, ?_⟩
  rintro (h | ⟨l, h1, h2⟩)
  · exact hp h
  · have h1' : (c.connections.set i (some (linkTo c i j)))[i]? = some (some l) := h1
    rw [List.getElem?_set_self (hi.lt hc)] at h1'
    cases h1'
    exact ha h2

/-- The first demand for the password is met, and the command is sent once more. -/
theorem deliver_refused (hc : Configured c) (hi : IsNode c i j) (ht : ¬ Trusted c i) (hname : cmd.name ≠ "AUTH")
    (track m : Bool) : ∃ c',
    (Context.deliver track m false i cmd).run c = (Context.deliver track m true i cmd).run c' ∧ Sent i c c' ∧
      Trusted c' i := by
  obtain ⟨c₁, h1, h2, h3⟩ := send_refused hc hi ht hname
  obtain ⟨c₂, g1, g2, g3⟩ := authenticate_run h2.configured (h2.isNode.2 hi) h3
  exact ⟨c₂, Context.deliver_of_refusal h1 isNoAuth_noAuth.2 isNoAuth_noAuth.1 g1, h2.trans g2, g3⟩

/-- A second demand for the password is the result. -/
theorem deliver_refused_again (hc : Configured c) (hi : IsNode c i j) (ht : ¬ Trusted c i)
    (hname : cmd.name ≠ "AUTH") (track m : Bool) : ∃ c',
    (Context.deliver track m true i cmd).run c = (noAuth.answer, c') ∧ Sent i c c' := by
  obtain ⟨c₁, h1, h2, -⟩ := send_refused hc hi ht hname
  exact ⟨c₁, Context.deliver_of_refusal_again h1 isNoAuth_noAuth.2, h2⟩

/-- A node that is not the master of the slot names it. -/
theorem send_moved (hc : Configured c) (hi : IsNode c i j) (ht : Trusted c i) (hr : cmd.About ks)
    (hk : OneSlot slot ks) (hne : j ≠ home slot) : ∃ c',
    (Context.send i cmd).run c = (.ok (moved slot (home slot)), c') ∧ Sent i c c' := by
  have hlj := hc.node_linkTo hi
  have hme := List.getElem?_eq_getElem hi.1
  obtain ⟨-, hdown, hinj, -⟩ := hc.sound.node j _ hme
  have hs := hc.sound.noted j cmd
  have hget := List.getElem?_eq_getElem ((length_noted j cmd).symm ▸ hi.1)
  have hexec : execute (linkTo c i j) cmd c.server =
      (.ok (moved slot (home slot)), linkTo c i j, c.server.noted j cmd) := by
    rw [execute_ready (hlj.symm ▸ hme) hdown hinj (name_ne_auth hr) ((hc.trusted_iff hi).1 ht), hlj,
      handle_other hs hr hk hget hne]
  exact ⟨_, hc.send hi hexec, hc.sent hi hs (length_noted ..) rfl rfl hlj⟩

/-- A command for a node that is not the master of the slot is sent to the master. -/
theorem deliver_moved (hc : Configured c) (hi : IsNode c i j) (ht : Trusted c i) (hr : cmd.About ks)
    (hk : OneSlot slot ks) (hne : j ≠ home slot) {t : Nat} (htarget : IsNode c t (home slot)) (a : Bool) : ∃ c',
    (Context.deliver true false a i cmd).run c = (Context.deliver true true a t cmd).run { c' with active := t } ∧
      Sent i c c' := by
  obtain ⟨c', h1, h2⟩ := send_moved hc hi ht hr hk hne
  have hfind : c'.topology.config.find? host (basePort + home slot) = some t := by
    rw [h2.topology]
    exact htarget.find? hc
  exact ⟨c', Context.deliver_of_redirect h1 (redirect?_moved hk.lt (home_lt slot)) hfind, h2⟩

/-- A node that has an answer to a command gives it if it trusts the connection. -/
theorem deliver_owner (hc : Configured c) (hi : IsNode c i j) (ht : Trusted c i) {r : Reply}
    {after : List Shard} (hans : Answers c.server.shards j cmd r after) (hr : r.redirect? = none)
    (hn : r.isNoAuth = false) (track m a : Bool) : ∃ c',
    (Context.deliver track m a i cmd).run c = (r.answer, c') ∧ Continues c c' ∧ c'.active = c.active ∧
      c'.server.shards = after := by
  have hlj := hc.node_linkTo hi
  obtain ⟨s', h1, h2, h3, h4, h5⟩ := hans c.server (linkTo c i j) hc.sound rfl hlj
    ((hc.trusted_iff hi).1 ht)
  exact ⟨_, Context.deliver_of_answer (hc.send hi h1) hr hn, hc.continues hi h3 h4 h5 hlj, rfl, h2⟩

/-- A node that has an answer to a command meets it in one of two ways: it answers, or asks for the password
again. -/
theorem deliver_home (hc : Configured c) (hi : IsNode c i j) (hname : cmd.name ≠ "AUTH") {r : Reply}
    {after : List Shard} (hans : Answers c.server.shards j cmd r after) (hd : r.redirect? = none)
    (hn : r.isNoAuth = false) (track m a : Bool) : ∃ res c', (Context.deliver track m a i cmd).run c = (res, c') ∧
      Continues c c' ∧ c'.active = c.active ∧
      (¬ (a = true ∧ ¬ Trusted c i) → res = r.answer ∧ c'.server.shards = after) ∧
      (a = true ∧ ¬ Trusted c i → res = noAuth.answer ∧ c'.server.shards = c.server.shards) := by
  by_cases ht : Trusted c i
  · obtain ⟨c', h1, h2, h3, h4⟩ := deliver_owner hc hi ht hans hd hn track m a
    exact ⟨_, c', h1, h2, h3, fun _ => ⟨rfl, h4⟩, fun h => absurd ht h.2⟩
  · cases a with
    | true =>
      obtain ⟨c', h1, h2⟩ := deliver_refused_again hc hi ht hname track m
      exact ⟨_, c', h1, h2.toContinues, h2.active, fun h => absurd ⟨rfl, ht⟩ h, fun _ => ⟨rfl, h2.shards⟩⟩
    | false =>
      obtain ⟨c₁, h1, h2, h3⟩ := deliver_refused hc hi ht hname track m
      obtain ⟨c', g1, g2, g3, g4⟩ := deliver_owner h2.configured (h2.isNode.2 hi) h3 (h2.shards.symm ▸ hans)
        hd hn track m true
      exact ⟨_, c', h1.trans g1, h2.toContinues.trans g2, g3.trans h2.active, fun _ => ⟨rfl, g4⟩, fun h => Bool.noConfusion h.1⟩

/-- Any other node sends a command on to the master of the slot, at the latest when it has the password. -/
theorem deliver_away (hc : Configured c) (hi : IsNode c i j) (hr : cmd.About ks) (hk : OneSlot slot ks)
    (hne : j ≠ home slot) {t : Nat} (htarget : IsNode c t (home slot)) : ∃ a c',
    (Context.deliver true false false i cmd).run c = (Context.deliver true true a t cmd).run { c' with active := t } ∧
      Sent i c c' ∧ (a = true ↔ ¬ Trusted c i) := by
  by_cases ht : Trusted c i
  · obtain ⟨c', h1, h2⟩ := deliver_moved hc hi ht hr hk hne htarget false
    exact ⟨false, c', h1, h2, fun h => Bool.noConfusion h, fun h => absurd ht h⟩
  · obtain ⟨c₁, h1, h2, h3⟩ := deliver_refused hc hi ht (name_ne_auth hr) true false
    obtain ⟨c', g1, g2⟩ := deliver_moved h2.configured (h2.isNode.2 hi) h3 hr hk hne (h2.isNode.2 htarget) true
    exact ⟨true, c', h1.trans g1, h2.trans g2, fun _ => ht, fun _ => rfl⟩

/-- The active node and the node `t` are two, and both have yet to be given the password. -/
def Stranded (c : Context Simulation Link) (t : Nat) : Prop :=
  c.active ≠ t ∧ ¬ Trusted c c.active ∧ ¬ Trusted c t

theorem deliver_routed (hc : Configured c) (hr : cmd.About ks) (hk : OneSlot slot ks) {t : Nat}
    (ht : IsNode c t (home slot)) {r : Reply} {after : List Shard}
    (hans : Answers c.server.shards (home slot) cmd r after) (hd : r.redirect? = none) (hn : r.isNoAuth = false) :
    ∃ res c', (Context.deliver true false false c.active cmd).run c = (res, c') ∧ Continues c c' ∧ c'.active = t ∧
      (¬ Stranded c t → res = r.answer ∧ c'.server.shards = after) ∧
      (Stranded c t → res = noAuth.answer ∧ c'.server.shards = c.server.shards) := by
  obtain ⟨j, hj⟩ := hc.active
  by_cases hm : j = home slot
  · -- The active node is the master: one demand for the password is met.
    have hactive : c.active = t := (hm ▸ hj).index_unique hc ht
    obtain ⟨res, c', h1, h2, h3, h4, -⟩ := deliver_home hc (hm ▸ hj) (name_ne_auth hr) hans hd hn true false false
    exact ⟨res, c', h1, h2, h3.trans hactive, fun _ => h4 fun h => Bool.noConfusion h.1,
      fun h => absurd hactive h.1⟩
  · have hother : t ≠ c.active := fun h => hm (hj.node_unique (h ▸ ht))
    obtain ⟨a, c₁, h1, h2, h3⟩ := deliver_away hc hj hr hk hm ht
    have hc₁ : Continues c { c₁ with active := t } := h2.activate ⟨home slot, h2.isNode.2 ht⟩
    have hans₁ : Answers c₁.server.shards (home slot) cmd r after := h2.shards.symm ▸ hans
    obtain ⟨res, c', g1, g2, g3, g4, g5⟩ := deliver_home (c := { c₁ with active := t }) hc₁.configured (h2.isNode.2 ht)
      (name_ne_auth hr) hans₁ hd hn true true a
    have htrust : Trusted { c₁ with active := t } t ↔ Trusted c t := h2.trusted hother
    have hstranded : a = true ∧ ¬ Trusted { c₁ with active := t } t ↔ Stranded c t := by
      rw [h3, htrust]
      exact ⟨fun h => ⟨Ne.symm hother, h⟩, fun h => h.2⟩
    rw [hstranded] at g4 g5
    exact ⟨res, c', h1.trans g1, hc₁.trans g2, g3, g4, fun h => ⟨(g5 h).1, (g5 h).2.trans h2.shards⟩⟩

/-- A command on a key comes to what the master of the key's slot answers to it on a trusted connection; it
changes the shards as that one execution does, and leaves that master active. Only if the context is
stranded from the master, the demand for the password is the result, and the shards stay as they are. -/
theorem exec_routed {key : String} (hc : Configured c) (hr : cmd.About [key]) (hl : cmd.length ≤ c.maxArgs) :
    ∃ t r l s, IsNode c t (home (slotOf key)) ∧
      execute { node := home (slotOf key), authenticated := true } cmd c.server = (.ok r, l, s) ∧
      ∃ res c', (Context.exec cmd).run c = (res, c') ∧ Configured c' ∧ c'.active = t ∧
        (¬ Stranded c t → res = r.answer ∧ c'.server.shards = s.shards) ∧
        (Stranded c t → res = .error (.reply "NOAUTH Authentication required.") ∧
          c'.server.shards = c.server.shards) := by
  have hk := oneSlot_singleton key
  have hlt : home (slotOf key) < c.server.nodes.length := Nat.lt_of_lt_of_le (home_lt _) hc.sound.nodes
  obtain ⟨t, ht⟩ := hc.listed _ hlt
  obtain ⟨r, after, hans, hd, hn⟩ := answers_owner hc.sound hr hk
  obtain ⟨s, h1, h2, -⟩ := hans c.server { node := home (slotOf key), authenticated := true } hc.sound rfl rfl
    (.inr rfl)
  obtain ⟨res, c', g1, g2, g3, g4, g5⟩ := deliver_routed hc hr hk ht hans hd hn
  refine ⟨t, r, _, s, ht, h1, res, c', ?_, g2.configured, g3, fun h => ⟨(g4 h).1, (g4 h).2.trans h2.symm⟩, g5⟩
  unfold Context.exec Context.dispatch
  rw [Context.step_bind_ok (Context.step_get c), Context.step_bind_ok (Context.step_get c), validate_about hr,
    if_neg (Nat.not_lt.2 hl), Context.step_bind_ok (Context.step_lift _ _)]
  exact g1

/-- Three masters with a replica each that ask for a password. -/
def lockedCluster : Simulation := { new.withReplicas with password := some "secret" }

/-- A context over that cluster with the given connections. -/
def lockedContext (links : List (Option Link)) (active : Nat) : Context Simulation Link where
  server := lockedCluster
  topology := { config := lockedCluster.config, nodes := freshNodes lockedCluster.config }
  connections := links
  active := active

theorem sound_locked : lockedCluster.Sound where
  shards := rfl
  masters := rfl
  nodes := by decide
  node := by
    have h : ∀ i, i < 6 → ∀ n, lockedCluster.nodes[i]? = some n → n.port = basePort + i ∧ n.down = false ∧
        n.injected = [] ∧ n.shard < 3 ∧ (n.isMaster = true ↔ i < 3) ∧ (i < 3 → n.shard = i) := by
      intro i hi n hn
      rcases i with _ | _ | _ | _ | _ | _ | i
      all_goals first
        | omega
        | cases hn; exact ⟨rfl, rfl, rfl, by decide, by decide, by decide⟩
    intro i n hn
    exact h i (List.getElem?_eq_some_iff.1 hn).1 n hn
  placed := by
    intro i h hh k hk
    have hempty : ∀ h ∈ lockedCluster.shards, h.data.keys = [] := by decide
    rw [hempty h (List.mem_of_getElem? hh)] at hk
    cases hk
  cursors := by decide

theorem node_locked : ∀ j, j < 6 →
    lockedCluster.config.nodes[j]? = some { host := host, port := basePort + j } := by decide

theorem configured_locked {links : List (Option Link)} {active : Nat} (hlen : links.length = 6)
    (hlink : ∀ i (l : Link), links[i]? = some (some l) → l.node = i) (hactive : active < 6) :
    Configured (lockedContext links active) := by
  have hlt {i j : Nat} (h : IsNode (lockedContext links active) i j) : i < 6 ∧ i = j := by
    obtain ⟨hj, n, h1, -, h2⟩ := h
    have hi : i < 6 := (List.getElem?_eq_some_iff.1 h1).1
    have h1' : lockedCluster.config.nodes[i]? = some n := h1
    rw [node_locked i hi] at h1'
    cases h1'
    exact ⟨hi, Nat.add_left_cancel h2⟩
  have hnode {i : Nat} (hi : i < 6) : IsNode (lockedContext links active) i i :=
    ⟨hi, _, node_locked i hi, rfl, rfl⟩
  refine ⟨sound_locked, (by decide +kernel : lockedCluster.config.fault? = none), fun j hj => ⟨j, hnode hj⟩, ?_, hlen,
    fun i j l h hl => (hlink i l hl).trans (hlt h).2, active, hnode hactive⟩
  intro i j h
  have hpassword : ∀ i, i < 6 → lockedCluster.config.passwordFor i = some "secret" := by decide
  exact .inr (hpassword i (hlt h).1)

/-- Writing a field of a key of the third master. -/
def writeFoo : Command := .hmset "foo" [("f", Utf8.bytes "v")]

theorem execute_writeFoo : ∃ s, execute { node := 2, authenticated := true } writeFoo lockedCluster =
    (.ok (.status "OK"), { node := 2, authenticated := true }, s) ∧ s.hget? "foo" "f" = some (Utf8.bytes "v") := by
  have hruns : writeFoo.Runs (.hset false "foo" [("f", Utf8.bytes "v")]) := Command.runs_hmset (by simp)
  have hslot : home (slotOf "foo") = 2 := by decide +kernel
  have hk : OneSlot (slotOf "foo") (KeyCommand.hset false "foo" [("f", Utf8.bytes "v")]).keys :=
    oneSlot_singleton "foo"
  have hme : lockedCluster.nodes[2]? = some ⟨7002, 2, true, false, [], []⟩ := rfl
  have hget : (lockedCluster.noted 2 writeFoo).nodes[home (slotOf "foo")]? =
      some ⟨7002, 2, true, false, [], [writeFoo.name]⟩ := by
    rw [hslot]
    rfl
  have hhandle := handle_master (sound_locked.noted 2 writeFoo) hruns hk hget
  have hexec : execute { node := 2, authenticated := true } writeFoo lockedCluster = _ :=
    execute_ready hme rfl rfl (name_ne_auth hruns.toAbout) (.inr rfl)
  rw [hslot] at hhandle
  rw [hhandle] at hexec
  refine ⟨_, hexec, ?_⟩
  have : (execute { node := 2, authenticated := true } writeFoo lockedCluster).2.2.hget? "foo" "f" =
      some (Utf8.bytes "v") := by decide +kernel
  rw [hexec] at this
  exact this

/-- A context whose active node trusts it writes a field of a key of the third master; one whose connections
are all closed is told to give the password. -/
theorem exec_routed_locked :
    (∃ c', (Context.exec writeFoo).run (lockedContext [none, none, none, some ⟨3, true⟩, none, none] 3) =
        (.ok (.status "OK"), c') ∧ c'.active = 2 ∧ c'.server.hget? "foo" "f" = some (Utf8.bytes "v")) ∧
    ∃ c', (Context.exec writeFoo).run (lockedContext (List.replicate 6 none) 0) =
        (.error (.reply "NOAUTH Authentication required."), c') ∧
      c'.active = 2 ∧ c'.server.hget? "foo" "f" = none := by
  have hslot : home (slotOf "foo") = 2 := by decide +kernel
  have hr : writeFoo.About ["foo"] := (Command.runs_hmset (by simp)).toAbout
  have hhget {s₁ s₂ : Simulation} (h : s₁.shards = s₂.shards) : s₁.hget? "foo" "f" = s₂.hget? "foo" "f" := by
    unfold Simulation.hget? Simulation.shardOf Simulation.dataOf
    rw [h]
  have htwo {links : List (Option Link)} {active t : Nat}
      (ht : IsNode (lockedContext links active) t (home (slotOf "foo"))) : t = 2 := by
    obtain ⟨-, n, h1, -, h2⟩ := ht
    have hi : t < 6 := (List.getElem?_eq_some_iff.1 h1).1
    rw [show (lockedContext links active).topology.config = lockedCluster.config from rfl, node_locked t hi] at h1
    cases h1
    rw [hslot] at h2
    exact Nat.add_left_cancel h2
  obtain ⟨s₀, hanswer, hwritten⟩ := execute_writeFoo
  constructor
  · have hc : Configured (lockedContext [none, none, none, some ⟨3, true⟩, none, none] 3) :=
      configured_locked rfl (by
        intro i l h
        rcases i with _ | _ | _ | _ | _ | _ | i
        all_goals cases h
        rfl) (by decide)
    obtain ⟨t, r, l, s, ht, hexec, res, c', h1, -, h2, h3, -⟩ := exec_routed hc hr (by decide)
    rw [hslot] at hexec
    cases hanswer.symm.trans hexec
    obtain ⟨rfl, hsh⟩ := h3 fun h => h.2.1 (.inr ⟨_, rfl, rfl⟩)
    exact ⟨c', h1, h2.trans (htwo ht), (hhget hsh).trans hwritten⟩
  · have hc : Configured (lockedContext (List.replicate 6 none) 0) :=
      configured_locked rfl (by
        intro i l h
        rw [List.getElem?_replicate] at h
        split at h <;> cases h) (by decide)
    obtain ⟨t, r, l, s, ht, -, res, c', h1, -, h2, -, h3⟩ := exec_routed hc hr (by decide)
    have hclosed (i : Nat) : ¬ Trusted (lockedContext (List.replicate 6 none) 0) i := by
      rintro (h | ⟨l, h, -⟩)
      · cases h
      · have h' : (List.replicate 6 (none : Option Link))[i]? = some (some l) := h
        rw [List.getElem?_replicate] at h'
        split at h' <;> cases h'
    obtain ⟨rfl, hsh⟩ := h3 ⟨by rw [htwo ht]; decide, hclosed _, hclosed _⟩
    exact ⟨c', h1, h2.trans (htwo ht), (hhget hsh).trans (by decide +kernel)⟩

end Simulation
end SlotSql
