import SlotSql.Proofs.Key
import SlotSql.Proofs.Scan.Retried
import SlotSql.Proofs.Simulation.Outage
import SlotSql.Proofs.Simulation.Spread
/-!
# Retried scans

Nodes of a cluster go down and come back while a scan is carried out and its calls are retried. Nothing that the
scan asks changes what lies in the cluster, and a page that did not come is asked for again. But the key whose
row was being read when a node was found to be down is lost to the scan.

Results:
* `Reaches.read`, `Reaches.page`: what a scan asks, while some nodes are down.
* `retried_scan`: a scan that is retried until no row comes delivers the rows that it accepts, each once, but for
  those of which a read was refused.
-/
namespace SlotSql.Simulation

open SlotSql.Cluster SlotSql.Store Dialogue

variable {m top batch i j : Nat} {t : Topology} {d : Data} {c c' : Context Simulation Link} {cmd : Command}
  {f : Nat → Bool} {key : String} {sets ks : List String}

/-! ## Connections in any state -/

/-- The context over the same cluster without a password. -/
def unlocked (c : Context Simulation Link) : Context Simulation Link :=
  { c with server := { c.server with password := none } }

theorem Configured.unlocked (hc : Configured c) : Configured (unlocked c) :=
  ⟨⟨hc.sound.shards, hc.sound.masters, hc.sound.nodes, hc.sound.node, hc.sound.placed, hc.sound.cursors⟩, hc.valid,
    hc.listed, fun _ _ _ => .inl rfl, hc.size, hc.link, hc.active⟩

/-- A context that knows a cluster which holds what a store holds. Its connections are in any state; they may be
closed, or a node may have yet to be given the password. -/
structure Reaches (m top : Nat) (t : Topology) (d : Data) (c : Context Simulation Link) : Prop where
  configured : Configured c
  serves : Serves m top t d (unlocked c)

namespace Reaches

theorem keep (h : Reaches m top t d c) (hc : Continues c c') (hd : c'.server.Holds d)
    (hroom : ∀ sh ∈ c'.server.shards, sh.nextCursor ≤ top) : Reaches m top t d c' := by
  have ht : c'.topology = c.topology := hc.topology
  have hnode (i : Nat) (n : NodeConfig) (hn : c'.topology.config.nodes[i]? = some n) :
      n.host = host ∧ ∃ j, j < c'.server.nodes.length ∧ n.port = basePort + j := by
    rw [ht] at hn
    rw [hc.nodes]
    exact h.serves.healthy.node i n hn
  have hu := hc.configured.unlocked
  refine ⟨hc.configured, ⟨⟨hu.sound, hnode, ?_, ?_, ?_, hu.size, fun i l n hl hn => ?_, .inl rfl, ?_⟩, ?_, ?_, ?_, hroom⟩⟩
  · show ∀ j, j < 3 → ∃ i, c'.topology.config.find? host (basePort + j) = some i
    rw [ht]
    exact h.serves.healthy.listed
  · show (c'.topology.config.nodes.map NodeConfig.port).Nodup
    rw [ht]
    exact h.serves.healthy.ports
  · show c'.topology.masters.Nodup ∧ ∀ i, i ∈ c'.topology.masters ↔
      ∃ j, j < 3 ∧ (c'.topology.config.nodes[i]?).map NodeConfig.port = some (basePort + j)
    rw [ht]
    exact h.serves.healthy.masters
  · obtain ⟨h1, j, h2, h3⟩ := hnode i n hn
    rw [h3, hc.configured.link i j l ⟨h2, n, hn, h1, h3⟩ hl]
  · obtain ⟨j, -, n, hn, -⟩ := hc.configured.active
    exact (List.getElem?_eq_some_iff.1 hn).1
  · exact ht.trans h.serves.topology
  · exact Holds.of_shards hd rfl
  · exact hc.maxArgs.trans h.serves.maxArgs

theorem holds (h : Reaches m top t d c) : c.server.Holds d := Holds.of_shards h.serves.holds rfl

/-- With the shards as they were, all is as before. -/
theorem same (h : Reaches m top t d c) (hc : Continues c c') (hsh : c'.server.shards = c.server.shards) :
    Reaches m top t d c' :=
  h.keep hc (h.holds.of_shards hsh) (by rw [hsh]; exact h.serves.room)

end Reaches

/-! ## What a scan asks -/

theorem exec_short (hr : cmd.About ks) (hl : cmd.length ≤ c.maxArgs) :
    (Context.exec cmd).run c = (Context.deliver true false false c.active cmd).run c := by
  unfold Context.exec Context.dispatch
  rw [Context.step_bind_ok (Context.step_get c), Context.step_bind_ok (Context.step_get c), validate_about hr,
    if_neg (Nat.not_lt.2 hl), Context.step_bind_ok (Context.step_lift _ _)]

/-- Reading attributes of a row while some nodes are down: either the answer comes, or an error. -/
theorem Reaches.read (f : Nat → Bool) (hc : Reaches m top t d c) (h : ReadsRow sets key .active cmd) : ∃ r c',
    Context.world .active cmd (troubled f c) = (r, troubled f c') ∧ Reaches m top t d c' ∧
      c'.server.shards = c.server.shards ∧
      ((∃ a, r = .ok a ∧ answers m d cmd = .ok a) ∨ ∃ e, r = .error e) := by
  obtain ⟨kc, slot, hr, hk, -⟩ := runs_of_readsRow h
  have hinfo : cmd.name ≠ "INFO" := fun hn => by
    have := hr.toAbout.name
    rw [hn] at this
    exact absurd this (by decide)
  have hmax : c.maxArgs = m := hc.serves.maxArgs
  by_cases hl : cmd.length ≤ m
  · obtain ⟨i, hi⟩ := hc.configured.listed (home slot)
      (Nat.lt_of_lt_of_le (home_lt slot) hc.configured.sound.nodes)
    obtain ⟨r, after, hans, hd, hn⟩ := answers_owner hc.configured.sound hr.toAbout hk
    -- Without a password, the answer is that of the store, and the shards stay as they are.
    obtain ⟨hanswer, hafter⟩ : r.answer = answers m d cmd ∧ after = c.server.shards := by
      obtain ⟨c₁, g1, -, g3⟩ := hc.serves.read h
      obtain ⟨res, c₂, e1, -, -, e4, -⟩ := deliver_routed hc.configured.unlocked hr.toAbout hk (t := i) hi hans hd hn
      obtain ⟨rfl, hsh⟩ := e4 fun hs => hs.2.2 (.inl rfl)
      have hrun : (Context.exec cmd).run (unlocked c) = (r.answer, c₂) :=
        (exec_short hr.toAbout (by rw [show (unlocked c).maxArgs = m from hmax]; exact hl)).trans e1
      obtain ⟨hanswer, rfl⟩ := Prod.mk.inj (hrun.symm.trans g1)
      exact ⟨hanswer, hsh.symm.trans g3⟩
    have hexec (c : Context Simulation Link) (hm : c.maxArgs = m) :
        Context.world .active cmd c = (Context.deliver true false false c.active cmd).run c :=
      exec_short hr.toAbout (by rw [hm]; exact hl)
    rw [hexec (troubled f c) hmax]
    rcases deliver_routed_troubled f hc.configured hr.toAbout hinfo hk hi hans hd hn with
      ⟨e, c', h1, -, h2, h3⟩ | hcalm
    · exact ⟨.error e, c', h1, hc.same h2 h3, h3, .inr ⟨e, rfl⟩⟩
    · obtain ⟨res, c', g1, g2, -, g4, g5⟩ := deliver_routed hc.configured hr.toAbout hk hi hans hd hn
      have hsh : c'.server.shards = c.server.shards := by
        by_cases hs : Stranded c i
        · exact (g5 hs).2
        · exact (g4 hs).2.trans hafter
      refine ⟨res, c', hcalm.run g1, hc.same g2 hsh, hsh, ?_⟩
      by_cases hs : Stranded c i
      · rw [(g5 hs).1]
        exact .inr ⟨_, rfl⟩
      · rw [(g4 hs).1, ← hanswer]
        cases r.answer with
        | ok a => exact .inl ⟨a, rfl, rfl⟩
        | error e => exact .inr ⟨e, rfl⟩
  · refine ⟨_, c, exec_long hr ?_, hc, rfl, .inr ⟨_, rfl⟩⟩
    show c.maxArgs < cmd.length
    omega

theorem name_scan (cursor : Nat) (pattern : String) (count : Nat) : (Command.scan cursor pattern count).name = "SCAN" :=
  (Command.name_ofTexts ..).trans (by decide +kernel)

/-- A master answers a scan with a page of its shard. -/
theorem Turns.answers {cursor : Nat} {pattern : String} {h h' : Shard} {q : Asking.Page}
    (ht : Turns c i cursor batch pattern j h h' q) (hpos : 0 < batch) (hmax : batch ≤ Number.max64) :
    Answers c.server.shards j (.scan cursor pattern batch) q.reply (c.server.shards.set j h') := by
  intro s l hs hsh hl ha
  have hlt : j < s.nodes.length := Nat.lt_of_lt_of_le ht.lt hs.nodes
  have hme := List.getElem?_eq_getElem hlt
  obtain ⟨-, hdown, hinj, -, -, hshard⟩ := hs.node _ _ hme
  have hh : s.shards[j]? = some h := by
    rw [hsh]
    exact ht.shard
  have hnoted := hs.noted j (.scan cursor pattern batch)
  have hget := List.getElem?_eq_getElem ((length_noted j (.scan cursor pattern batch)).symm ▸ hlt)
  have hshard' := (hnoted.node j _ hget).2.2.2.2.2 ht.lt
  have hhandle := handle_scan pattern ht.cursor hpos hmax hget (h := h) (by rw [hshard']; exact hh)
  rw [ht.scan, hshard'] at hhandle
  refine ⟨_, ?_, ?_, hnoted.setShard hh ht.fresh ht.same, length_noted _ _, rfl⟩
  · rw [execute_ready (hl.symm ▸ hme) hdown hinj (by rw [name_scan]; decide) ha, hl, hhandle]
  · show s.shards.set j h' = _
    rw [hsh]

/-- A page of keys while some nodes are down: either it comes, or it can be asked for again. -/
theorem Reaches.page (f : Nat → Bool) (hc : Reaches m top t d c) (hm : 6 ≤ m) (hpos : 0 < batch)
    (hmax : batch ≤ Number.max64) (htop : top ≤ Number.max64) {pattern : String} {cursor pages : Nat}
    (ho : Offers top pattern c i cursor pages ks) : ∃ r c',
    Context.world (.node i) (.scan cursor pattern batch) (troubled f c) = (r, troubled f c') ∧
      Reaches m top t d c' ∧ (∀ {n c₀ k l}, n ≠ i → Offers top pattern c n c₀ k l → Offers top pattern c' n c₀ k l) ∧
      ((∃ q rest, r = .ok (Asking.Page.reply q) ∧ q.cursor ≤ Number.max64 ∧ ks = q.keys ++ rest ∧
          (q.cursor = 0 ∧ rest = [] ∧ 0 < pages ∨
            q.cursor ≠ 0 ∧ ∃ k, k < pages ∧ Offers top pattern c' i q.cursor k rest)) ∨
        (∃ e, r = .error e) ∧ Offers top pattern c' i cursor pages ks) := by
  obtain ⟨j, h, h', q, rest, ht, hks, hall⟩ :=
    ho.turns hc.configured.sound hc.serves.healthy.ports hpos htop hc.serves.room
  obtain ⟨n, hi, hn⟩ := ht.node
  have hnode : IsNode c i j :=
    ⟨Nat.lt_of_lt_of_le ht.lt hc.configured.sound.nodes, n, hi, (hc.serves.healthy.node i n hi).1, hn⟩
  have hname : (Command.scan cursor pattern batch).name ≠ "AUTH" := by rw [name_scan]; decide
  have hinfo : (Command.scan cursor pattern batch).name ≠ "INFO" := by rw [name_scan]; decide
  have hexec : Context.world (.node i) (.scan cursor pattern batch) (troubled f c) =
      (Context.deliver false false false i (.scan cursor pattern batch)).run (troubled f c) := by
    have hvalid : (Command.scan cursor pattern batch).validate (troubled f c).maxArgs = .ok () := by
      have hlen : (Command.scan cursor pattern batch).length = 6 := rfl
      have hargs : (troubled f c).maxArgs = m := hc.serves.maxArgs
      unfold Command.validate
      rw [if_neg (by rintro ⟨⟩), if_neg (by rw [hlen]; omega)]
    show (Context.execOn i _).run _ = _
    unfold Context.execOn Context.dispatch
    rw [Context.step_bind_ok (Context.step_get _), hvalid, Context.step_bind_ok (Context.step_lift _ _)]
  have hans := ht.answers hpos hmax
  rw [hexec]
  cases hf : f j with
  | true =>
    obtain ⟨e, c', h1, -, h2, h3⟩ := deliver_down hc.configured hnode hf (.scan cursor pattern batch) false
      false false
    exact ⟨.error e, c', h1, hc.same h2 h3, fun _ ho => ho.keep h2.topology h3, .inr ⟨⟨e, rfl⟩, ho.keep h2.topology h3⟩⟩
  | false =>
    have hcalm := deliver_up hc.configured hnode hf hname hinfo hans rfl rfl false false false
    obtain ⟨res, c', g1, g2, -, g4, -⟩ := deliver_home hc.configured hnode hname hans rfl rfl false false false
    obtain ⟨rfl, hsh⟩ := g4 fun h => Bool.noConfusion h.1
    obtain ⟨e1, e2, e3⟩ := hall c' g2.topology hsh
    exact ⟨_, c', hcalm.run g1, hc.keep g2 (ht.holds hc.configured.sound g2.configured.sound hsh hc.holds) e1, e3,
      .inl ⟨q, rest, rfl, ht.next, hks, e2⟩⟩

end SlotSql.Simulation

/-! ## Outages -/

namespace SlotSql

open Cluster

/-- A context over a cluster whose nodes go down and come back, with the commands that were refused. -/
structure Outage where
  context : Context Simulation Simulation.Link
  /-- The number of commands so far. -/
  time : Nat := 0
  /-- The commands that were answered by an error, the last one first. -/
  refused : List Command := []

namespace Outage

open Simulation Store Dialogue

/-- The refused commands after an answer. -/
def refusedWith (o : Outage) (cmd : Command) : Except ClusterError Reply → List Command
  | .ok _ => o.refused
  | .error _ => cmd :: o.refused

/-- The world in which a schedule says, for each command, which nodes are down when it is sent. -/
def world (down : Nat → Nat → Bool) : World Outage := fun t cmd o =>
  let r := Context.world t cmd (troubled (down o.time) o.context)
  (r.1, { context := r.2, time := o.time + 1, refused := o.refusedWith cmd r.1 })

variable {m top batch i : Nat} {g : Target} {t : Topology} {d : Data} {p : Plan} {o : Outage} {down : Nat → Nat → Bool}
  {key k k' : String} {cmd : Command} {sets : List String}

/-- The context with all nodes up. -/
def raised (o : Outage) : Context Simulation Link := troubled (fun _ => false) o.context

/-- A read of the row of a key was refused. -/
def Missed (sets : List String) (o : Outage) (key : String) : Prop := ∃ cmd ∈ o.refused, ReadsRow sets key .active cmd

theorem missed_cons {o' : Outage} (h : o'.refused = cmd :: o.refused) :
    Missed sets o' key ↔ ReadsRow sets key .active cmd ∨ Missed sets o key := by
  unfold Missed
  rw [h]
  simp

theorem troubled_troubled (f f' : Nat → Bool) (c : Context Simulation Link) :
    troubled f (troubled f' c) = troubled f c := by
  unfold troubled
  rw [withDown_withDown]

/-- What a command comes to, by what it comes to in the context while the nodes are down. -/
theorem world_of_raised {r : Except ClusterError Reply} {c' : Context Simulation Link} (hs : c'.server.Sound)
    (h : Context.world g cmd (troubled (down o.time) o.raised) = (r, troubled (down o.time) c')) : ∃ o',
    world down g cmd o = (r, o') ∧ o'.raised = c' ∧ o'.refused = o.refusedWith cmd r := by
  unfold raised at h
  rw [troubled_troubled] at h
  refine ⟨⟨troubled (down o.time) c', o.time + 1, o.refusedWith cmd r⟩, ?_, ?_, rfl⟩
  · unfold world
    rw [h]
  · unfold raised
    rw [troubled_troubled]
    unfold troubled
    rw [hs.withDown_none]

/-- A read tells whose row it reads. -/
theorem readsRow_inj (hsets : ∀ f ∈ sets, '$' ∉ f.toList) (h : ReadsRow sets k g cmd) (h' : ReadsRow sets k' g cmd) :
    k = k' := by
  rcases h.2 with ⟨fs, -, rfl⟩ | ⟨f, hf, rfl⟩ <;> rcases h'.2 with ⟨fs', -, h'⟩ | ⟨f', hf', h'⟩
  all_goals obtain ⟨hname, hargs⟩ := List.cons.inj (Command.ofTexts_inj h')
  · exact (List.cons.inj hargs).1
  · exact absurd hname (by decide)
  · exact absurd hname (by decide)
  · exact ((Key.set_inj (hsets f hf) (hsets f' hf')).1 (List.cons.inj hargs).1).1

/-- A scan reads no row. -/
theorem not_readsRow_scan {cursor count : Nat} {pattern : String} :
    ¬ ReadsRow sets key g (.scan cursor pattern count) := by
  rintro ⟨-, ⟨fs, -, h⟩ | ⟨f, -, h⟩⟩
  all_goals exact absurd (List.cons.inj (Command.ofTexts_inj h)).1 (by decide)

/-- Looking at a key comes to what it comes to on a store of its own, or a read of its row is refused. -/
theorem candidate (down : Nat → Nat → Bool) (ho : Reaches m top t d o.raised) (p : Plan) (key : String) : ∃ r o',
    outcome (world down) (Scan.candidate? p key) o = (r, o') ∧ Reaches m top t d o'.raised ∧
      o'.raised.server.shards = o.raised.server.shards ∧
      (r = (lookupIn (answers m d) p key).mapError .skip ∧ o'.refused = o.refused ∨
        (∃ e, r = .error e) ∧ ∃ cmd, ReadsRow p.setNames key .active cmd ∧ o'.refused = cmd :: o.refused) := by
  obtain ⟨_, hfixed, _⟩ := candidate_of_answers (w := fixedWorld (answers m d)) (R := fun _ => True)
    (s := ()) (fun _ _ (_ : ReadsRow p.setNames key .active _) _ => ⟨rfl, trivial⟩) (fun cmd hcmd => mild_answers hcmd)
    trivial
  have hstep := Stops.run (world down) (fixedWorld (answers m d)) (A := Mild) (s := o) (r := ())
    (R := fun o' _ => Reaches m top t d o'.raised ∧ o'.raised.server.shards = o.raised.server.shards ∧
      o'.refused = o.refused)
    (E := fun o' => Reaches m top t d o'.raised ∧ o'.raised.server.shards = o.raised.server.shards ∧
      ∃ cmd, ReadsRow p.setNames key .active cmd ∧ o'.refused = cmd :: o.refused)
    (fun r e h => by cases h) (fun g cmd o₁ _ hcmd h₁ => ?_) (candidate?_stops p key) (candidate?_fails p key)
    ⟨ho, rfl, rfl⟩
  · rcases hstep with ⟨h1, h2, h3, h4⟩ | ⟨h1, h2, h3, h4⟩
    · exact ⟨_, _, rfl, h2, h3, .inl ⟨h1.trans (congrArg Prod.fst hfixed), h4⟩⟩
    · exact ⟨_, _, rfl, h2, h3, .inr ⟨h1, h4⟩⟩
  · -- One read: its answer is that of the store, or it is refused.
    obtain ⟨rfl, -⟩ := id hcmd
    obtain ⟨r, c', g1, g2, g3, g4⟩ := h₁.1.read (down o₁.time) hcmd
    obtain ⟨o₂, e1, rfl, e3⟩ := world_of_raised g2.configured.sound g1
    rw [e1]
    rcases g4 with ⟨a, rfl, ha⟩ | ⟨e, rfl⟩
    · exact .inl ⟨a, rfl, ha, g2, g3.trans h₁.2.1, e3.trans h₁.2.2⟩
    · exact .inr ⟨⟨e, rfl⟩, g2, g3.trans h₁.2.1, cmd, hcmd, by rw [e3, ← h₁.2.2]; rfl⟩

/-- What a look at a store finds is at the key looked at. -/
theorem look_found (m : Nat) (d : Data) (p : Plan) {key : String} {c : Candidate}
    (h : lookupIn (answers m d) p key = .ok (some c)) : c.key = key := lookupIn_found h

/-- A cluster with outages is a feed that can fail. -/
def feed (down : Nat → Nat → Bool) (m top : Nat) (t : Topology) (d : Data) (p : Plan) (batch : Nat) (hm : 6 ≤ m)
    (hpos : 0 < batch) (hmax : batch ≤ Number.max64) (htop : top ≤ Number.max64)
    (hsets : ∀ f ∈ p.setNames, '$' ∉ f.toList) : Feed (world down) p batch where
  Calm o := Reaches m top t d o.raised
  look := lookupIn (answers m d) p
  Offers o := Offers top p.pattern o.raised
  Lost := Missed p.setNames
  Fails := True
  key := @look_found m d p
  candidate := by
    intro o key ho
    obtain ⟨r, o', h1, h2, h3, h4⟩ := candidate down ho p key
    refine ⟨r, o', h1, h2, fun hoffers => hoffers.keep (h2.serves.topology.trans ho.serves.topology.symm) h3, ?_⟩
    refine h4.imp (fun h => ⟨h.1, ?_⟩) fun ⟨he, cmd, hcmd, hrefused⟩ => ⟨trivial, he, fun k => ?_⟩
    · unfold Missed
      rw [h.2]
    · rw [missed_cons hrefused, or_comm]
      exact or_congr_right ⟨fun hk => readsRow_inj hsets hk hcmd, fun hk => hk ▸ hcmd⟩
  page := by
    intro o i cursor pages keys ho hoffers
    obtain ⟨r, c', h1, h2, h3, h4⟩ := ho.page (down o.time) hm hpos hmax htop hoffers
    obtain ⟨o', g1, rfl, g3⟩ := world_of_raised h2.configured.sound h1
    have hlost : Missed p.setNames o' = Missed p.setNames o := by
      funext k
      cases r with
      | ok _ =>
        unfold Missed
        rw [g3]
        rfl
      | error e => exact propext ((missed_cons g3).trans (or_iff_right not_readsRow_scan))
    rcases h4 with ⟨q, rest, rfl, hq, hks, hnext⟩ | ⟨⟨e, rfl⟩, hsame⟩
    · exact ⟨_, o', Asking.outcome_scan hq g1, h2, hlost, h3, .inl ⟨q, rest, rfl, hks, hnext⟩⟩
    · refine ⟨.error e, o', ?_, h2, hlost, h3, .inr ⟨trivial, ⟨e, rfl⟩, hsame⟩⟩
      have hcommand : outcome (world down) (Asking.commandOn i (.scan cursor p.pattern batch)) o = (.error e, o') := g1
      unfold Asking.scan
      rw [outcome_bind_error hcommand]

/-! ## Retried scans -/

variable {v : ScanEnv} {blank : Rows} {x x' : Scan}

theorem reaches_mono {top' : Nat} {c : Context Simulation Link} (h : Reaches m top t d c) (hle : top ≤ top') :
    Reaches m top' t d c :=
  ⟨h.configured, h.serves.mono hle⟩

/-- A scan that has not begun has the keys to come that match the pattern, whatever goes down later. -/
theorem open_unbegun (down : Nat → Nat → Bool) (hm : 6 ≤ m) (hpos : 0 < batch) (hmax : batch ≤ Number.max64)
    (htop : top + d.size ≤ Number.max64) (hsets : ∀ f ∈ p.setNames, '$' ∉ f.toList) (ho : Reaches m top t d o.raised) (hnone : o.refused = [])
    (hv : v.masters = t.masters) (hx : x.progress.started = false) :
    (feed down m (top + d.size) t d p batch hm hpos hmax htop hsets).Open v (d.size + 1) x o
      ((scanOrder t d).filter (Glob.matchesKey p.pattern)) := by
  have h := Simulation.open_unbegun (p := p) ho.serves hm hpos hmax htop (Nat.le_refl _) hv hx
  refine ⟨reaches_mono ho (Nat.le_add_right _ _), h.remains, h.nodes, fun k hk => ?_⟩
  obtain ⟨cmd, hcmd, -⟩ := hk
  rw [hnone] at hcmd
  cases hcmd

open Classical in
/-- **Retried scans.** A scan of a store that does not change is carried out call by call, while nodes go down and
come back between any two commands; a call that fails is made again with the same plan, result, offset and limit.
If it ends, it has delivered, in order and each once, the rows that a scan without failures delivers, but for
those of which a read was refused: the scan has noted their keys as seen before it read the rows, and
neither looks at them again nor counts them. -/
theorem retried_scan (hv : Fits v m t d) (hroom : top + d.size ≤ Number.max64) (hp : p.directKey = none)
    (hc : p.countOnly = false) (hsets : ∀ f ∈ p.setNames, '$' ∉ f.toList) (hblank : blank.rows = [])
    {limits limits' : Nat → Nat} (hl : ∀ i, 0 < limits i) (hl' : ∀ i, 0 < limits' i) {offset : Nat}
    (ho : Reaches m top t d o.raised) (hnone : o.refused = []) {rows : List Row} {o' : Outage}
    (h : Retried (world down) v p blank limits offset ⟨{}, blank⟩ o rows x o')
    {c c' : Context Simulation Link} (hs : Serves m top t d c) {all : List Row}
    (hcalm : Retried Context.world v p blank limits' offset ⟨{}, blank⟩ c all x' c') :
    all = ((accepted m t d p).drop offset).filterMap (p.row? v.now blank.width) ∧
      rows = (((accepted m t d p).filter fun y => ¬ Missed p.setNames o' y.key).drop offset).filterMap
        (p.row? v.now blank.width) ∧ (rows.map RowOf.key).Nodup := by
  have hfair : (⟨{}, blank⟩ : Scan).Fair := by simp [Scan.Fair, RowsOf.keys, hblank]
  have hkeys : keysFor t d p = (scanOrder t d).filter (Glob.matchesKey p.pattern) := by
    unfold keysFor
    rw [hp]
  have hdistinct (look : String → Except EngineError (Option Candidate)) :
      fresh look [] ((scanOrder t d).filter (Glob.matchesKey p.pattern)) = (keysFor t d p).filterMap (accepted? look) := by
    rw [hkeys]
    exact fresh_distinct (hkeys ▸ keysFor_nodup hs) (by simp)
  have hdue (cs : List Candidate) : Tally.due p v.now offset cs ⟨0, blank⟩ =
      (cs.drop offset).filterMap (p.row? v.now blank.width) := by
    unfold Tally.due
    rw [hblank, List.nil_append, Nat.sub_zero]
  have hall : all = ((accepted m t d p).drop offset).filterMap (p.row? v.now blank.width) := by
    have hopen := Simulation.open_unbegun (p := p) (v := v) (x := ⟨{}, blank⟩) hs hv.words hv.batch hv.range hroom
      (Nat.le_refl _) hv.masters rfl
    obtain ⟨-, -, -, hall⟩ := Feed.Retried.settled rfl hv.patience hp hc hblank hcalm hl' hopen hfair
      (Nat.add_pos_right _ (hl' 0)) rfl
    rw [hall (lookupIn (answers m d) p) ⟨fun k y hy => lookupIn_key hy, fun k _ _ => ⟨False.elim, fun _ => rfl⟩⟩,
      show (⟨{}, blank⟩ : Scan).progress.seen = [] from rfl, hdistinct]
    exact hdue _
  have hrows : rows = (((accepted m t d p).filter fun y => ¬ Missed p.setNames o' y.key).drop offset).filterMap
      (p.row? v.now blank.width) := by
    have hopen := open_unbegun (p := p) (v := v) (x := ⟨{}, blank⟩) down hv.words hv.batch hv.range hroom hsets ho hnone
      hv.masters rfl
    obtain ⟨-, -, -, hrows⟩ := Feed.Retried.settled rfl hv.patience hp hc hblank h hl hopen hfair
      (Nat.add_pos_right _ (hl 0)) rfl
    rw [hrows _ (Feed.agrees_found _ _ _ _), show (⟨{}, blank⟩ : Scan).progress.seen = [] from rfl, hdistinct,
      Feed.filterMap_found]
    exact hdue _
  refine ⟨hall, hrows, ?_⟩
  rw [hrows]
  refine Plan.rows_nodup ((accepted_nodup (p := p) hs).sublist (List.Sublist.map _ ?_))
  exact (List.drop_sublist ..).trans List.filter_sublist

/-! ## A log that is read while its master is down -/

/-- A log with a number and a host. -/
def hostLog : Table where
  tablespace := "t"
  name := "logs"
  fields := [{ name := "sid", type := .ub4, length := 4, ordinal := 1, nullable := false },
    { name := "host", type := .str, length := 20 }]

/-- The plan that shows the hosts of the log. -/
def hostPlan : Plan where
  table := hostLog
  keys := (hostLog.fields.take 1).map ({ field := · })
  fetches := (hostLog.fields.drop 1).map ({ field := ·, projected := true })
  outputs := (hostLog.fields.drop 1).map (.field · (.fetch 0))
  pattern := Key.allRows "t" "logs" 1
  directKey := none

/-- Two rows of the log, which lie on the first master. -/
def hostStore : Data :=
  (KeyMap.empty.insert (hostLog.rowKey ["3"]) (.hash (KeyMap.empty.insert "host" (Utf8.bytes "a")))).insert
    (hostLog.rowKey ["7"]) (.hash (KeyMap.empty.insert "host" (Utf8.bytes "b")))

/-- What the plan is carried out with. -/
def hostEnv : ScanEnv := { settings := {}, masters := plainTopology.masters, patience := 5, now := 0 }

/-- The first master is down while the second command is sent. -/
def hostDown (time node : Nat) : Bool := time == 1 && node == 0

theorem configured_plain (m : Nat) (d : Data) : Configured (plainContext m d) := by
  have hnode : ∀ i, i < 3 → plainTopology.config.nodes[i]? = some { host := host, port := basePort + i } := by decide
  refine ⟨sound_spread d, (by decide +kernel : plainTopology.config.fault? = none), fun j hj => ?_,
    fun _ _ _ => .inl rfl, rfl, fun i j l _ hl => ?_, 0, (by decide : 0 < 3), _, hnode 0 (by decide), rfl, rfl⟩
  · exact ⟨j, hj, _, hnode j hj, rfl, rfl⟩
  · have hl' : (List.replicate 3 (none : Option Link))[i]? = some (some l) := hl
    rw [List.getElem?_replicate] at hl'
    split at hl' <;> cases hl'

theorem reaches_plain (m : Nat) (d : Data) :
    Reaches m 1 plainTopology d ({ context := plainContext m d } : Outage).raised := by
  have hraised : ({ context := plainContext m d } : Outage).raised = plainContext m d := by
    unfold raised troubled
    rw [show (plainContext m d).server = spread d from rfl, (sound_spread d).withDown_none]
    rfl
  rw [hraised]
  exact ⟨configured_plain m d, serves_plain m d⟩

/-- The first row is being read when the master goes down; the retried scan does not deliver it. -/
theorem retried_scan_hosts : ∃ rows x o' all x' c',
    Retried (world hostDown) hostEnv hostPlan hostPlan.emptyRows (fun _ => 10) 0 ⟨{}, hostPlan.emptyRows⟩
      { context := plainContext 252 hostStore } rows x o' ∧
    Retried Context.world hostEnv hostPlan hostPlan.emptyRows (fun _ => 10) 0 ⟨{}, hostPlan.emptyRows⟩
      (plainContext 252 hostStore) all x' c' ∧
    all.map RowOf.key = [hostLog.rowKey ["3"], hostLog.rowKey ["7"]] ∧
      rows.map RowOf.key = [hostLog.rowKey ["7"]] ∧ (rows.map RowOf.key).Nodup := by
  have hrun : Retried (world hostDown) hostEnv hostPlan hostPlan.emptyRows (fun _ => 10) 0 ⟨{}, hostPlan.emptyRows⟩
      { context := plainContext 252 hostStore } _ _ _ :=
    .retry_of (by decide +kernel) (.more_of (m := 1) (by decide +kernel) (.stop_of (by decide +kernel)))
  have hcalm : Retried Context.world hostEnv hostPlan hostPlan.emptyRows (fun _ => 10) 0 ⟨{}, hostPlan.emptyRows⟩
      (plainContext 252 hostStore) _ _ _ :=
    .more_of (m := 2) (by decide +kernel) (.stop_of (by decide +kernel))
  have hfits : Fits hostEnv 252 plainTopology hostStore :=
    ⟨by decide, by decide, by decide, rfl, by decide +kernel⟩
  obtain ⟨hall, -, hnodup⟩ := retried_scan hfits (by decide +kernel) rfl rfl (by decide) rfl (fun _ => by decide)
    (fun _ => by decide) (reaches_plain 252 hostStore) rfl hrun (serves_plain 252 hostStore) hcalm
  exact ⟨_, _, _, _, _, _, hrun, hcalm, by rw [hall]; decide +kernel, by decide +kernel, hnodup⟩

end Outage
end SlotSql
