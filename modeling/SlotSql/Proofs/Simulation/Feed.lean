import SlotSql.Proofs.Scan.Lookup
import SlotSql.Proofs.Scan.Pages
import SlotSql.Proofs.Simulation.Context
/-!
# Scans of a healthy cluster

In a healthy context the masters name the keys of their shards in order, and looking at a key comes to
what it comes to on one store that holds all the data. So a scan that has not begun has all keys of the
cluster to come that match the pattern, each once.

Results:
* `feed`: a healthy context is a feed, with the store to look keys up in.
* `open_unbegun`: the keys that a scan has to come before it begins.
-/
namespace SlotSql.Simulation

open SlotSql.Cluster SlotSql.Store

variable {s : Simulation} {c : Context Simulation Link} {d : Data} {i j : Nat} {p : Plan}

/-! ## Pages -/

/-- A shard with other cursors. -/
theorem Sound.setShard (hs : s.Sound) {h h' : Shard} (hh : s.shards[j]? = some h) (hf : h'.Fresh)
    (he : h' = { h with cursors := h'.cursors, nextCursor := h'.nextCursor }) :
    { s with shards := s.shards.set j h' }.Sound := by
  have hlt : j < s.shards.length := (List.getElem?_eq_some_iff.1 hh).1
  have hmap {α : Type} (f : Shard → α) (hf : f h' = f h) : (s.shards.set j h').map f = s.shards.map f := by
    rw [List.map_set, hf]
    refine List.ext_getElem? fun i => ?_
    rw [List.getElem?_set]
    split
    · next hi => subst hi; rw [if_pos (by simpa using hlt), List.getElem?_map, hh]; rfl
    · rfl
  have hget : ∀ i g, (s.shards.set j h')[i]? = some g → i = j ∧ g = h' ∨ s.shards[i]? = some g := by
    intro i g hg
    by_cases hi : j = i
    · subst hi
      rw [List.getElem?_set_self hlt] at hg
      exact .inl ⟨rfl, (Option.some.inj hg).symm⟩
    · rw [List.getElem?_set_ne hi] at hg
      exact .inr hg
  refine ⟨(hmap _ ?_).trans hs.shards, (hmap _ ?_).trans hs.masters, hs.nodes, hs.node, ?_, ?_⟩
  · rw [he]
  · rw [he]
  · intro i g hg k hk
    rcases hget i g hg with ⟨rfl, rfl⟩ | hg
    · rw [he] at hk
      exact hs.placed _ h hh k hk
    · exact hs.placed i g hg k hk
  · intro g hg
    obtain ⟨i, hi, hgi⟩ := List.mem_iff_getElem.1 hg
    rcases hget i g (hgi ▸ List.getElem?_eq_getElem hi) with ⟨-, rfl⟩ | hg
    · exact hf
    · exact hs.cursors g (List.mem_of_getElem? hg)

/-- A scan that is sent to a master gets the next page of its shard. -/
theorem execOn_scan (hc : Healthy c) {n : NodeConfig} (hi : c.topology.config.nodes[i]? = some n)
    (hn : n.port = basePort + j) (hj : j < 3) {h : Shard} (hh : c.server.shards[j]? = some h)
    {cursor count : Nat} {pattern : String} (hcur : cursor ≤ Number.max64) (hpos : 0 < count)
    (hcount : count ≤ Number.max64) (hm : 6 ≤ c.maxArgs) {q : Asking.Page} {h' : Shard}
    (hscan : h.scan { cursor, pattern, count } = (q.reply, h')) (hf : h'.Fresh)
    (he : h' = { h with cursors := h'.cursors, nextCursor := h'.nextCursor }) : ∃ c',
    (Context.execOn i (.scan cursor pattern count)).run c = (.ok q.reply, c') ∧ Healthy c' ∧
      c'.server.shards = c.server.shards.set j h' ∧ c'.topology = c.topology ∧ c'.maxArgs = c.maxArgs := by
  have hlt : j < c.server.nodes.length := Nat.lt_of_lt_of_le hj hc.sound.nodes
  have hs := hc.sound.noted j (.scan cursor pattern count)
  have hlen : (c.server.noted j (.scan cursor pattern count)).nodes.length = c.server.nodes.length :=
    length_noted _ _
  have hget := List.getElem?_eq_getElem (hlen ▸ hlt)
  have hshard := (hs.node j _ hget).2.2.2.2.2 hj
  have hname : (Command.scan cursor pattern count).name = "SCAN" :=
    (Command.name_ofTexts ..).trans (by decide +kernel)
  have hhandle := handle_scan pattern hcur hpos hcount hget
    (h := h) (by rw [hshard]; exact hh)
  rw [hscan, hshard] at hhandle
  obtain ⟨c', h1, h2, h3, h4, -, h6⟩ := send_healthy hc hi hn hlt (by rw [hname]; decide) hhandle
    (hs.setShard hh hf he) hlen rfl
  refine ⟨c', ?_, h2, by rw [h3]; rfl, h4, h6⟩
  have hwords : (Command.scan cursor pattern count).length = 6 := rfl
  have hvalid : (Command.scan cursor pattern count).validate c.maxArgs = .ok () := by
    unfold Command.validate
    rw [if_neg (by rintro ⟨⟩), if_neg (by rw [hwords]; omega)]
  unfold Context.execOn Context.dispatch
  rw [Context.step_bind_ok (Context.step_get c), hvalid, Context.step_bind_ok (Context.step_lift _ _)]
  exact Context.deliver_of_answer h1 rfl rfl

/-! ## The feed -/

/-- A healthy context with a topology that holds what a store holds, for commands of no more than `m` words,
and has given out no cursor from `top` on. -/
structure Serves (m top : Nat) (t : Topology) (d : Data) (c : Context Simulation Link) : Prop where
  healthy : Healthy c
  topology : c.topology = t
  holds : c.server.Holds d
  maxArgs : c.maxArgs = m
  room : ∀ h ∈ c.server.shards, h.nextCursor ≤ top

/-- From a cursor on, a master names the keys of its shard that match the pattern, with cursors below
`top`. -/
def Offers (top : Nat) (pattern : String) (c : Context Simulation Link) (i cursor pages : Nat)
    (ks : List String) : Prop :=
  ∃ (n : NodeConfig) (j : Nat) (h : Shard) (all : List String),
    c.topology.config.nodes[i]? = some n ∧ n.port = basePort + j ∧ j < 3 ∧ c.server.shards[j]? = some h ∧
      h.Resumes cursor all ∧ ks = all.filter (Glob.matchesKey pattern) ∧ pages = all.length + 1 ∧
      h.nextCursor + all.length ≤ top

/-- What a store answers to a command of no more than `m` words. -/
def answers (m : Nat) (d : Data) (cmd : Command) : Except ClusterError Reply := (Store.reply m cmd d).1

variable {m top batch : Nat} {t : Topology} {pattern : String} {cmd : Command} {kc : KeyCommand} {slot : Nat}

theorem Offers.keep {c' : Context Simulation Link} {cursor pages : Nat} {ks : List String}
    (h : Offers top pattern c i cursor pages ks) (ht : c'.topology = c.topology)
    (hs : c'.server.shards = c.server.shards) : Offers top pattern c' i cursor pages ks := by
  obtain ⟨n, j, sh, all, h1, h2, h3, h4, h5⟩ := h
  exact ⟨n, j, sh, all, ht ▸ h1, h2, h3, hs ▸ h4, h5⟩

theorem Holds.of_shards {s s' : Simulation} (h : s.Holds d) (hs : s'.shards = s.shards) : s'.Holds d := by
  intro k
  rw [← h k]
  unfold Simulation.value? Simulation.dataOf Simulation.shardOf
  rw [hs]

theorem room_withData (h : ∀ sh ∈ s.shards, sh.nextCursor ≤ top) :
    ∀ sh ∈ (s.withData j d).shards, sh.nextCursor ≤ top := by
  intro sh hsh
  obtain ⟨i, hi, rfl⟩ := List.mem_iff_getElem.1 hsh
  have hi' : i < s.shards.length := by simpa [Simulation.withData] using hi
  simp only [Simulation.withData, List.getElem_modify]
  split
  · exact h s.shards[i] (List.getElem_mem hi')
  · exact h s.shards[i] (List.getElem_mem hi')

theorem withData_self (s : Simulation) (j : Nat) : (s.withData j (s.dataOf j)).shards = s.shards := by
  refine List.ext_getElem? fun i => ?_
  simp only [Simulation.withData, List.getElem?_modify, Option.map_eq_map]
  by_cases hi : j = i
  · subst hi
    unfold Simulation.dataOf
    cases s.shards[j]? <;> simp
  · simp only [if_neg hi, Option.map_id']

/-- A command on keys of one slot is answered as by the store, and does to the cluster what it does to
the store. -/
theorem Serves.exec (hc : Serves m top t d c) (hr : cmd.Runs kc) (hk : OneSlot slot kc.keys) : ∃ c',
    Context.world .active cmd c = ((Store.reply m cmd d).1, c') ∧ Serves m top t (Store.reply m cmd d).2 c' ∧
      c'.server.shards = (c.server.withData (home slot)
        (Store.reply m cmd (c.server.dataOf (home slot))).2).shards := by
  show ∃ c', (Context.exec cmd).run c = _ ∧ _
  by_cases hl : cmd.length ≤ m
  · obtain ⟨c', h1, h2⟩ := exec_healthy hc.healthy hr hk (hc.maxArgs ▸ hl)
    obtain ⟨g1, g2⟩ := hc.holds.run hc.healthy.sound hk
    rw [reply_runs hr hl, reply_runs hr hl]
    refine ⟨c', by rw [h1, g1], ⟨h2.healthy, h2.topology.trans hc.topology, g2.of_shards h2.shards, h2.maxArgs.trans hc.maxArgs, ?_⟩, h2.shards⟩
    rw [h2.shards]
    exact room_withData hc.room
  · rw [reply_long hr (Nat.lt_of_not_le hl), reply_long hr (Nat.lt_of_not_le hl)]
    refine ⟨c, ?_, hc, (withData_self _ _).symm⟩
    rw [exec_long hr (by rw [hc.maxArgs]; omega), hc.maxArgs]

variable {key : String} {sets : List String}

theorem runs_of_readsRow {g : Target} (h : ReadsRow sets key g cmd) :
    ∃ kc slot, cmd.Runs kc ∧ OneSlot slot kc.keys ∧ ∀ d, (kc.run d).2 = d := by
  have hone (k : String) : OneSlot (slotOf k) [k] :=
    ⟨by simp, fun j hj => by rw [List.mem_singleton.1 hj]⟩
  rcases h.2 with ⟨fields, hne, rfl⟩ | ⟨field, -, rfl⟩
  · exact ⟨_, _, Command.runs_hmget hne, hone key, fun d => KeyCommand.readHash_data _⟩
  · exact ⟨_, _, Command.runs_smembers, hone _, fun d => KeyCommand.readSet_data _⟩

theorem mild_answer (r : Reply) : Mild r.answer := by
  cases r <;> rintro _ ⟨⟩
  rfl

theorem mild_answers {g : Target} (h : ReadsRow sets key g cmd) : Mild (answers m d cmd) := by
  obtain ⟨kc, -, hr, -⟩ := runs_of_readsRow h
  unfold answers
  by_cases hl : cmd.length ≤ m
  · rw [reply_runs hr hl]
    exact mild_answer _
  · rw [reply_long hr (Nat.lt_of_not_le hl)]
    rintro _ ⟨⟩
    rfl

/-- Reading attributes of a row changes nothing. -/
theorem Serves.read {g : Target} (hc : Serves m top t d c) (h : ReadsRow sets key g cmd) : ∃ c',
    Context.world .active cmd c = (answers m d cmd, c') ∧ Serves m top t d c' ∧ c'.server.shards = c.server.shards := by
  obtain ⟨kc, slot, hr, hk, hsame⟩ := runs_of_readsRow h
  have hkeep (d : Data) : (Store.reply m cmd d).2 = d := by
    by_cases hl : cmd.length ≤ m
    · rw [reply_runs hr hl]
      exact hsame d
    · rw [reply_long hr (Nat.lt_of_not_le hl)]
  obtain ⟨c', h1, h2, h3⟩ := hc.exec hr hk
  rw [hkeep] at h2
  rw [hkeep, withData_self] at h3
  exact ⟨c', h1, h2, h3⟩

/-- Looking at a key comes to what it comes to on a store of its own, and changes nothing. -/
theorem Serves.candidate (hc : Serves m top t d c) (p : Plan) (key : String) : ∃ c',
    Dialogue.outcome Context.world (Scan.candidate? p key) c =
      ((lookupIn (answers m d) p key).mapError .skip, c') ∧ Serves m top t d c' ∧ c'.server.shards = c.server.shards := by
  refine candidate_of_answers (w := Context.world) (R := fun c' => Serves m top t d c' ∧ c'.server.shards = c.server.shards) (fun cmd c₁ hcmd h₁ => ?_)
    (fun cmd hcmd => mild_answers hcmd) ⟨hc, rfl⟩
  obtain ⟨c₂, g1, g2, g3⟩ := h₁.1.read hcmd
  rw [g1]
  exact ⟨rfl, g2, g3.trans h₁.2⟩

/-- The configured master `i` is the node `j`, whose shard answers a scan with a page and is another one
afterwards. -/
structure Turns (c : Context Simulation Link) (i cursor batch : Nat) (pattern : String) (j : Nat) (h h' : Shard)
    (q : Asking.Page) : Prop where
  node : ∃ n, c.topology.config.nodes[i]? = some n ∧ n.port = basePort + j
  lt : j < 3
  shard : c.server.shards[j]? = some h
  scan : h.scan ⟨cursor, pattern, batch⟩ = (q.reply, h')
  fresh : h'.Fresh
  same : h' = { h with cursors := h'.cursors, nextCursor := h'.nextCursor }
  cursor : cursor ≤ Number.max64
  next : q.cursor ≤ Number.max64

/-- With the next page of a shard, all data are as before. -/
theorem Turns.holds {cursor : Nat} {h h' : Shard} {q : Asking.Page} (ht : Turns c i cursor batch pattern j h h' q)
    {c' : Context Simulation Link} (hs : c.server.Sound) (hs' : c'.server.Sound)
    (hsh : c'.server.shards = c.server.shards.set j h') (hd : c.server.Holds d) : c'.server.Holds d := by
  intro k
  rw [← hd k, hs'.value?, hs.value?]
  unfold Simulation.dataOf
  rw [hsh, List.getElem?_set]
  split
  · next hj' =>
    rw [← hj', ht.shard, if_pos (List.getElem?_eq_some_iff.1 ht.shard).1, Option.map_some, Option.map_some, ht.same]
  · rfl

/-- The next page of the keys that a master names. -/
theorem Offers.turns (hs : c.server.Sound) (hports : (c.topology.config.nodes.map NodeConfig.port).Nodup)
    (hpos : 0 < batch) (htop : top ≤ Number.max64) (hroom : ∀ sh ∈ c.server.shards, sh.nextCursor ≤ top)
    {cursor pages : Nat} {ks : List String} (ho : Offers top pattern c i cursor pages ks) : ∃ j h h' q rest,
    Turns c i cursor batch pattern j h h' q ∧ ks = q.keys ++ rest ∧
      ∀ c' : Context Simulation Link, c'.topology = c.topology → c'.server.shards = c.server.shards.set j h' →
        (∀ sh ∈ c'.server.shards, sh.nextCursor ≤ top) ∧
        (q.cursor = 0 ∧ rest = [] ∧ 0 < pages ∨
          q.cursor ≠ 0 ∧ ∃ k, k < pages ∧ Offers top pattern c' i q.cursor k rest) ∧
        ∀ {n c₀ k l}, n ≠ i → Offers top pattern c n c₀ k l → Offers top pattern c' n c₀ k l := by
  obtain ⟨n, j, h, all, hi, hn, hj, hh, hres, rfl, rfl, hlen⟩ := ho
  have hf : h.Fresh := hs.cursors h (List.mem_of_getElem? hh)
  have hcur : cursor ≤ Number.max64 := by
    rcases hres with ⟨rfl, -⟩ | ⟨-, k, hk, -⟩
    · exact Nat.zero_le _
    · obtain ⟨l₁, l₂, hl, -⟩ := List.lookup_eq_some_iff.1 hk
      have := (hf.2 (cursor, k) (by rw [hl]; simp)).2
      simp only at this
      omega
  obtain ⟨q, h', hscan, hkeys, hf', he, hnext⟩ := Shard.scan_resumes hf (r := ⟨cursor, pattern, batch⟩) hres
  have hqcur : q.cursor ≤ Number.max64 := by
    rcases hnext with ⟨-, h0, -⟩ | ⟨-, h0, -⟩ <;> omega
  refine ⟨j, h, h', q, (all.drop batch).filter (Glob.matchesKey pattern),
    ⟨⟨n, hi, hn⟩, hj, hh, hscan, hf', he, hcur, hqcur⟩, ?_, fun c' h4 h3 => ⟨fun sh hsh => ?_, ?_, ?_⟩⟩
  · rw [hkeys, ← List.filter_append, List.take_append_drop]
  · rw [h3] at hsh
    rcases List.mem_or_eq_of_mem_set hsh with hsh | rfl
    · exact hroom sh hsh
    · rcases hnext with ⟨-, -, h0⟩ | ⟨hd, -, h0, -⟩
      · rw [h0]; omega
      · have hlen := List.length_drop (i := batch) (l := all)
        have hne : 0 < (all.drop batch).length := List.length_pos_iff.2 hd
        omega
  · have hget : c'.server.shards[j]? = some h' := by
      rw [h3, List.getElem?_set_self (List.getElem?_eq_some_iff.1 hh).1]
    rcases hnext with ⟨hd, h0, -⟩ | ⟨hd, h0, h6, h7⟩
    · exact .inl ⟨h0, by rw [hd]; rfl, Nat.succ_pos _⟩
    · have hlen := List.length_drop (i := batch) (l := all)
      have hne : 0 < (all.drop batch).length := List.length_pos_iff.2 hd
      refine .inr ⟨by have := hf.1; omega, _, ?_, n, j, h', all.drop batch, h4.symm ▸ hi, hn, hj, hget, h7,
        rfl, rfl, ?_⟩
      · omega
      · omega
  · rintro k c₀ pages l hne ⟨n₁, j₁, sh, all₁, e1, e2, e3, e4, e5⟩
    refine ⟨n₁, j₁, sh, all₁, h4.symm ▸ e1, e2, e3, ?_, e5⟩
    -- Two places of the configuration are two nodes.
    have hj₁ : j ≠ j₁ := by
      rintro rfl
      refine hne ((List.getElem?_inj ?_ hports).1 ?_)
      · simpa using (List.getElem?_eq_some_iff.1 e1).1
      · rw [List.getElem?_map, List.getElem?_map, e1, hi, Option.map_some, Option.map_some, e2, hn]
    rw [h3, List.getElem?_set_ne hj₁]
    exact e4

/-- A master hands out the next page of its keys. -/
theorem Serves.page (hc : Serves m top t d c) (hm : 6 ≤ m) (hpos : 0 < batch) (hmax : batch ≤ Number.max64)
    (htop : top ≤ Number.max64) {cursor pages : Nat} {ks : List String} (ho : Offers top pattern c i cursor pages ks) : ∃ page c' rest,
    Dialogue.outcome Context.world (Asking.scan i cursor pattern batch) c = (.ok page, c') ∧
      Serves m top t d c' ∧ ks = page.keys ++ rest ∧
      (page.cursor = 0 ∧ rest = [] ∧ 0 < pages ∨
        page.cursor ≠ 0 ∧ ∃ k, k < pages ∧ Offers top pattern c' i page.cursor k rest) ∧
      ∀ {n c₀ k l}, n ≠ i → Offers top pattern c n c₀ k l → Offers top pattern c' n c₀ k l := by
  obtain ⟨j, h, h', q, rest, ht, hks, hall⟩ := ho.turns hc.healthy.sound hc.healthy.ports hpos htop hc.room
  obtain ⟨n, hi, hn⟩ := ht.node
  obtain ⟨c', h1, h2, h3, h4, h5⟩ := execOn_scan hc.healthy hi hn ht.lt ht.shard ht.cursor hpos hmax
    (hc.maxArgs.symm ▸ hm) ht.scan ht.fresh ht.same
  obtain ⟨g1, g2, g3⟩ := hall c' h4 h3
  exact ⟨q, c', rest, Asking.outcome_scan ht.next h1, ⟨h2, h4.trans hc.topology,
    ht.holds hc.healthy.sound h2.sound h3 hc.holds, h5.trans hc.maxArgs, g1⟩, hks, g2, g3⟩

/-- A healthy context is a feed. -/
def feed (m top : Nat) (t : Topology) (d : Data) (p : Plan) (batch : Nat) (hm : 6 ≤ m) (hpos : 0 < batch)
    (hmax : batch ≤ Number.max64) (htop : top ≤ Number.max64) : Feed (Context.world (σ := Simulation) (κ := Link)) p batch where
  Calm := Serves m top t d
  look := lookupIn (answers m d) p
  Offers := Offers top p.pattern
  Lost _ _ := False
  Fails := False
  key := lookupIn_found
  candidate := by
    intro c key hc
    obtain ⟨c', h1, h2, h3⟩ := hc.candidate p key
    exact ⟨_, c', h1, h2, fun ho => ho.keep (h2.topology.trans hc.topology.symm) h3, .inl ⟨rfl, rfl⟩⟩
  page := by
    intro c i cursor pages keys hc ho
    obtain ⟨page, c', rest, h1, h2, h3, h4, h5⟩ := hc.page hm hpos hmax htop ho
    exact ⟨_, c', h1, h2, rfl, h5, .inl ⟨page, rest, rfl, h3, h4⟩⟩

theorem feed_steady {hm : 6 ≤ m} {hpos : 0 < batch} {hmax : batch ≤ Number.max64} {htop : top ≤ Number.max64} :
    (feed m top t d p batch hm hpos hmax htop).Steady :=
  ⟨id, fun _ _ => id⟩

end SlotSql.Simulation
