import SlotSql.Proofs.Cluster.Delivery
import SlotSql.Proofs.Cluster.Replication
/-!
# Watched connections

What a context sends is seen by watching its server. Every connection gets a number when it is opened, and every command is
noted down with the connection that it is sent over, the node that the connection was opened to, and what comes back. The watch
changes nothing: a context does on a watched server what it does on the server itself.

A context whose connections are tended has at most one connection to each node, opened to the node of its index, and none that
has broken. Each step of a context keeps this, whatever the server answers.

Results:
* `send_noted`: sending a command notes it down once, with a connection to the node, or fails before.
* `beneath_paired`: a context on a watched server delivers as the context on the server itself, and tends its connections.
* `calls_watched`: so do any calls.
-/
namespace SlotSql.Cluster

/-- A connection with its number and the node that it was opened to. -/
structure Line (κ : Type) where
  number : Nat
  node : Option NodeConfig
  inner : κ

/-- A command, the connection that it was sent over, and what came back. -/
structure Exchange where
  line : Nat
  node : Option NodeConfig
  cmd : Command
  answer : Except ClusterError Reply

/-- Whether the connection failed. -/
def Exchange.Broke (x : Exchange) : Prop := ∃ e, x.answer = .error e ∧ e.isConnectionError = true

/-- A server with the number of connections opened to it and the commands sent to it, first one first. -/
structure Watched (σ : Type) where
  inner : σ
  opened : Nat
  log : List Exchange

instance {σ κ : Type} [Server σ κ] : Server (Watched σ) (Line κ) where
  connect n w :=
    match Server.connect n w.inner with
    | (.ok k, s) => (.ok ⟨w.opened, some n, k⟩, { w with inner := s, opened := w.opened + 1 })
    | (.error e, s) => (.error e, { w with inner := s })
  execute l cmd w :=
    match Server.execute l.inner cmd w.inner with
    | (r, k, s) => (r, { l with inner := k }, { w with inner := s, log := w.log ++ [Exchange.mk l.number l.node cmd r] })
  patience w := Server.patience w.inner

namespace Context

variable {σ κ α β : Type} {c c' : Context (Watched σ) (Line κ)} {i j : Nat} {l l' : Line κ}

/-- The context on the server itself. -/
def bare (c : Context (Watched σ) (Line κ)) : Context σ κ where
  server := c.server.inner
  topology := c.topology
  connections := c.connections.map (Option.map Line.inner)
  active := c.active
  maxArgs := c.maxArgs

/-- The context on the watched server. Its connections are numbered by their nodes. -/
def watch (c : Context σ κ) : Context (Watched σ) (Line κ) where
  server := ⟨c.server, c.connections.length, []⟩
  topology := c.topology
  connections := c.connections.mapIdx fun i k => k.map (⟨i, c.topology.config.nodes[i]?, ·⟩)
  active := c.active
  maxArgs := c.maxArgs

@[simp] theorem bare_watch (c : Context σ κ) : c.watch.bare = c := by
  have hsame (i : Nat) (k : Option κ) : (k.map (Line.mk i (c.topology.config.nodes[i]?))).map Line.inner = k := by
    cases k <;> rfl
  have hk : c.watch.bare.connections = c.connections := by
    refine List.ext_getElem? fun i => ?_
    simp only [bare, watch, List.getElem?_map, List.getElem?_mapIdx, Option.map_map]
    cases c.connections[i]? with
    | none => rfl
    | some k => exact congrArg some (hsame i k)
  show { c with connections := c.watch.bare.connections } = c
  rw [hk]

/-! ## Connections that are tended -/

/-- The connection to a node is open. -/
def Open (c : Context σ κ) (i : Nat) (k : κ) : Prop := c.connections[i]? = some (some k)

theorem Open.of_set {c : Context σ κ} {k : Option κ} {k' : κ} (h : (c.setConnection i k).Open j k') :
    (j = i ∧ k = some k') ∨ (j ≠ i ∧ c.Open j k') := by
  simp only [Open, setConnection, List.getElem?_set] at h
  split at h
  · next hij =>
    split at h
    · exact .inl ⟨hij.symm, Option.some.inj h⟩
    · cases h
  · next hij => exact .inr ⟨Ne.symm hij, h⟩

theorem Open.set {c : Context σ κ} (h : i < c.connections.length) (k : κ) : (c.setConnection i (some k)).Open i k := by
  simp only [Open, setConnection, List.getElem?_set_self h]

/-- Each open connection was opened to the node of its index, and none that has broken is open or has been used since. -/
structure Tended (c : Context (Watched σ) (Line κ)) : Prop where
  node : ∀ i l, c.Open i l → l.node = c.topology.config.nodes[i]?
  counted : ∀ i l, c.Open i l → l.number < c.server.opened
  apart : ∀ i j l l', c.Open i l → c.Open j l' → l.number = l'.number → i = j
  past : ∀ x ∈ c.server.log, x.line < c.server.opened
  configured : ∀ x ∈ c.server.log, ∃ n ∈ c.topology.config.nodes, x.node = some n
  whole : ∀ i l, c.Open i l → ∀ x ∈ c.server.log, x.Broke → x.line ≠ l.number
  dropped : c.server.log.Pairwise fun x y => x.Broke → y.line ≠ x.line

theorem watch_tended (c : Context σ κ) : c.watch.Tended := by
  have hopen (i : Nat) (l : Line κ) (h : c.watch.Open i l) :
      l.number = i ∧ l.node = c.topology.config.nodes[i]? ∧ i < c.connections.length := by
    simp only [Open, watch, List.getElem?_mapIdx, Option.map_eq_some_iff] at h
    obtain ⟨_, hk, k, rfl, rfl⟩ := h
    exact ⟨rfl, rfl, (List.getElem?_eq_some_iff.1 hk).1⟩
  refine ⟨fun i l h => (hopen i l h).2.1, fun i l h => ?_, fun i j l l' h h' hn => ?_, ?_, ?_, ?_, .nil⟩
  · rw [(hopen i l h).1]
    exact (hopen i l h).2.2
  · rw [← (hopen i l h).1, hn, (hopen j l' h').1]
  all_goals simp [watch]

/-- A context has gone on along the same routes, has sent these commands, and tends its connections. -/
structure Proceeded (c c' : Context (Watched σ) (Line κ)) (xs : List Exchange) : Prop where
  tended : c'.Tended
  topology : c'.topology = c.topology
  log : c'.server.log = c.server.log ++ xs

theorem Proceeded.trans {c'' : Context (Watched σ) (Line κ)} {xs ys : List Exchange} (h : Proceeded c c' xs)
    (h' : Proceeded c' c'' ys) : Proceeded c c'' (xs ++ ys) :=
  ⟨h'.tended, h'.topology.trans h.topology, by rw [h'.log, h.log, List.append_assoc]⟩

/-- Connections are tended as long as they and what has been noted are the same. -/
theorem Tended.congr (h : c.Tended) (hk : c'.connections = c.connections) (ho : c'.server.opened = c.server.opened)
    (hl : c'.server.log = c.server.log) (ht : c'.topology.config = c.topology.config) : c'.Tended := by
  have hopen (i : Nat) (l : Line κ) : c'.Open i l ↔ c.Open i l := by rw [Open, Open, hk]
  constructor
  · simpa only [hopen, ht] using h.node
  · simpa only [hopen, ho] using h.counted
  · simpa only [hopen] using h.apart
  · simpa only [hl, ho] using h.past
  · simpa only [hl, ht] using h.configured
  · simpa only [hopen, hl] using h.whole
  · simpa only [hl] using h.dropped

/-- The context after a connection to a node has been opened. -/
def opening (c : Context (Watched σ) (Line κ)) (i : Nat) (n : NodeConfig) (k : κ) (s : σ) : Context (Watched σ) (Line κ) :=
  { c with server := { c.server with inner := s, opened := c.server.opened + 1 } }.setConnection i
    (some ⟨c.server.opened, some n, k⟩)

/-- The context after a command has been sent over a line, which is then in the state `k`. -/
def sending (c : Context (Watched σ) (Line κ)) (i : Nat) (l : Line κ) (cmd : Command) (r : Except ClusterError Reply) (k : κ)
    (s : σ) : Context (Watched σ) (Line κ) :=
  { c with server := { c.server with inner := s, log := c.server.log ++ [Exchange.mk l.number l.node cmd r] } }.setConnection i
    (keptLink { l with inner := k } r)

/-- A new connection gets a new number. -/
theorem Tended.opening (h : c.Tended) {n : NodeConfig} (hn : c.topology.config.nodes[i]? = some n) (k : κ) (s : σ) :
    (c.opening i n k s).Tended := by
  have hnew (j : Nat) (l : Line κ) (hj : (c.opening i n k s).Open j l) :
      (j = i ∧ l = ⟨c.server.opened, some n, k⟩) ∨ c.Open j l :=
    (Open.of_set hj).imp (And.imp_right fun hl => (Option.some.inj hl).symm) And.right
  refine ⟨fun j l hj => ?_, fun j l hj => ?_, fun j j' l l' hj hj' hl => ?_, fun x hx => ?_, h.configured,
    fun j l hj x hx hb => ?_, h.dropped⟩
  · obtain ⟨rfl, rfl⟩ | hj := hnew j l hj
    · exact hn.symm
    · exact h.node j l hj
  · obtain ⟨-, rfl⟩ | hj := hnew j l hj
    · exact Nat.lt_succ_self _
    · exact Nat.lt_succ_of_lt (h.counted j l hj)
  · obtain ⟨rfl, rfl⟩ | ho := hnew j l hj <;> obtain ⟨rfl, rfl⟩ | ho' := hnew j' l' hj'
    · rfl
    · exact absurd hl (Nat.ne_of_gt (h.counted j' l' ho'))
    · exact absurd hl (Nat.ne_of_lt (h.counted j l ho))
    · exact h.apart j j' l l' ho ho' hl
  · exact Nat.lt_succ_of_lt (h.past x hx)
  · obtain ⟨-, rfl⟩ | hj := hnew j l hj
    · exact Nat.ne_of_lt (h.past x hx)
    · exact h.whole j l hj x hx hb

theorem keptLink_eq_some {k k' : κ} {r : Except ClusterError Reply} (h : keptLink k r = some k') :
    k' = k ∧ ∀ e, r = .error e → e.isConnectionError = false := by
  cases r with
  | ok r => exact ⟨(Option.some.inj h).symm, nofun⟩
  | error e =>
    simp only [keptLink] at h
    split at h
    · cases h
    · next he =>
      refine ⟨(Option.some.inj h).symm, fun e' h' => ?_⟩
      cases h'
      exact Bool.eq_false_iff.2 he

theorem map_keptLink {κ' : Type} (f : κ → κ') (k : κ) (r : Except ClusterError Reply) :
    (keptLink k r).map f = keptLink (f k) r := by
  cases r with
  | ok r => rfl
  | error e =>
    simp only [keptLink]
    split <;> rfl

/-- A command is noted down; its connection is kept unless it has broken. -/
theorem Tended.sending (h : c.Tended) {n : NodeConfig} (hn : c.topology.config.nodes[i]? = some n) (hl : c.Open i l)
    (cmd : Command) (r : Except ClusterError Reply) (k : κ) (s : σ) : (c.sending i l cmd r k s).Tended := by
  have hkept (j : Nat) (m : Line κ) (hj : (c.sending i l cmd r k s).Open j m) :
      (j = i ∧ m = { l with inner := k } ∧ ∀ e, r = .error e → e.isConnectionError = false) ∨ (j ≠ i ∧ c.Open j m) :=
    (Open.of_set hj).imp_left (And.imp_right keptLink_eq_some)
  -- What is open has the number of a line that was open at the same node, and was not opened since.
  have hold (j : Nat) (m : Line κ) (hj : (c.sending i l cmd r k s).Open j m) :
      ∃ m', c.Open j m' ∧ m.number = m'.number ∧ m.node = m'.node := by
    obtain ⟨rfl, rfl, -⟩ | ⟨-, hm⟩ := hkept j m hj
    · exact ⟨l, hl, rfl, rfl⟩
    · exact ⟨m, hm, rfl, rfl⟩
  refine ⟨fun j m hj => ?_, fun j m hj => ?_, fun j j' m m' hj hj' hm => ?_, fun x hx => ?_, fun x hx => ?_,
    fun j m hj x hx hb => ?_, ?_⟩
  · obtain ⟨m', hm', -, hnode⟩ := hold j m hj
    exact hnode.trans (h.node j m' hm')
  · obtain ⟨m', hm', hnumber, -⟩ := hold j m hj
    exact hnumber ▸ h.counted j m' hm'
  · obtain ⟨a, ha, hma, -⟩ := hold j m hj
    obtain ⟨b, hb, hmb, -⟩ := hold j' m' hj'
    exact h.apart j j' a b ha hb (hma ▸ hmb ▸ hm)
  · obtain hx | rfl := (List.mem_append.1 hx).imp_right List.mem_singleton.1
    · exact h.past x hx
    · exact h.counted i l hl
  · obtain hx | rfl := (List.mem_append.1 hx).imp_right List.mem_singleton.1
    · exact h.configured x hx
    · exact ⟨n, List.mem_of_getElem? hn, (h.node i l hl).trans hn⟩
  · obtain hx | rfl := (List.mem_append.1 hx).imp_right List.mem_singleton.1
    · obtain ⟨m', hm', hnumber, -⟩ := hold j m hj
      exact hnumber ▸ h.whole j m' hm' x hx hb
    · obtain ⟨e, he, hbroken⟩ := hb
      obtain ⟨-, -, hwhole⟩ | ⟨hji, hm⟩ := hkept j m hj
      · exact absurd (hwhole e he) (by rw [hbroken]; exact Bool.noConfusion)
      · exact fun heq => hji (h.apart j i m l hm hl heq.symm)
  · refine List.pairwise_append.2 ⟨h.dropped, List.pairwise_singleton _ _, fun x hx y hy hb => ?_⟩
    obtain rfl := List.mem_singleton.1 hy
    exact (h.whole i l hl x hx hb).symm

/-! ## Sending -/

variable [Server σ κ]

/-- A connection to a configured node is open already or is opened, or there is none. -/
theorem connection_cases (i : Nat) (c : Context (Watched σ) (Line κ)) :
    (∃ e s, (connection i).run c = (.error e, { c with server := { c.server with inner := s } })) ∨
    (∃ n l, c.topology.config.nodes[i]? = some n ∧ c.Open i l ∧ (connection i).run c = (.ok l, c)) ∨
    ∃ n k s, c.topology.config.nodes[i]? = some n ∧ i < c.connections.length ∧
      (connection i).run c = (.ok ⟨c.server.opened, some n, k⟩, c.opening i n k s) := by
  rw [connection_run]
  unfold Topology.node
  cases hn : c.topology.config.nodes[i]? with
  | none => exact .inl ⟨_, c.server.inner, rfl⟩
  | some n =>
    rcases hk : c.connections[i]? with _ | _ | l
    · exact .inl ⟨_, c.server.inner, rfl⟩
    · have hi : i < c.connections.length := (List.getElem?_eq_some_iff.1 hk).1
      simp only [Server.connect]
      rcases Server.connect n c.server.inner with ⟨e | k, s⟩
      · exact .inl ⟨e, s, rfl⟩
      · exact .inr (.inr ⟨n, k, s, rfl, hi, rfl⟩)
    · exact .inr (.inl ⟨n, l, rfl, hk, rfl⟩)

theorem connection_bare (i : Nat) (c : Context (Watched σ) (Line κ)) : (connection i).run c.bare =
    (((connection i).run c).1.map Line.inner, ((connection i).run c).2.bare) := by
  rw [connection_run, connection_run]
  have hk : c.bare.connections[i]? = (c.connections[i]?).map (Option.map Line.inner) := List.getElem?_map
  rw [hk, show c.bare.topology = c.topology from rfl]
  rcases c.topology.node i with e | n
  · rfl
  · rcases c.connections[i]? with _ | _ | l
    · rfl
    · simp only [Option.map_some, Option.map_none, Server.connect, show c.bare.server = c.server.inner from rfl]
      rcases Server.connect n c.server.inner with ⟨e | k, s⟩
      · rfl
      · simp only [Except.map, setConnection, bare, List.map_set, Option.map_some]
    · rfl

/-- Without a connection nothing is sent. Else the command is noted down once, with a connection to the node and what is
answered. -/
theorem send_noted (h : c.Tended) (i : Nat) (cmd : Command) : ((send i cmd).run c).2.active = c.active ∧
    ((∃ e, ((connection i).run c).1 = .error e ∧ ((send i cmd).run c).1 = .error e ∧ Proceeded c ((send i cmd).run c).2 []) ∨
      ∃ x n, c.topology.config.nodes[i]? = some n ∧ x.node = some n ∧ x.cmd = cmd ∧
        x.answer = ((send i cmd).run c).1 ∧ Proceeded c ((send i cmd).run c).2 [x]) := by
  rw [send_run]
  obtain ⟨e, s, hc⟩ | ⟨n, l, hn, hl, hc⟩ | ⟨n, k, s, hn, hi, hc⟩ := connection_cases i c
  · rw [hc]
    exact ⟨rfl, .inl ⟨e, rfl, rfl, h.congr rfl rfl rfl rfl, rfl, (List.append_nil _).symm⟩⟩
  · rw [hc]
    exact ⟨rfl, .inr ⟨_, n, hn, (h.node i l hl).trans hn, rfl, rfl, h.sending hn hl cmd _ _ _, rfl, rfl⟩⟩
  · rw [hc]
    have hopen : (c.opening i n k s).Open i ⟨c.server.opened, some n, k⟩ := Open.set (by exact hi) _
    exact ⟨rfl, .inr ⟨_, n, hn, rfl, rfl, rfl, (h.opening hn k s).sending hn hopen cmd _ _ _, rfl, rfl⟩⟩

theorem send_bare (i : Nat) (cmd : Command) (c : Context (Watched σ) (Line κ)) : (send i cmd).run c.bare =
    (((send i cmd).run c).1, ((send i cmd).run c).2.bare) := by
  rw [send_run, send_run, connection_bare]
  rcases (connection i).run c with ⟨e | l, c₁⟩
  · rfl
  · simp only [Except.map, Server.execute, show c₁.bare.server = c₁.server.inner from rfl]
    rcases Server.execute l.inner cmd c₁.server.inner with ⟨r, k, s⟩
    simp only [setConnection, bare, List.map_set, map_keptLink]

/-! ## What a context does -/

/-- A context of tended connections to the nodes of a configuration, and the same context on the server itself. -/
structure Beneath (t : Config) (c : Context (Watched σ) (Line κ)) (c' : Context σ κ) : Prop where
  tended : c.Tended
  config : c.topology.config = t
  bare : c' = c.bare

section Beneath

omit [Server σ κ]

variable {t : Config} {d : Context σ κ}

theorem Beneath.congr (h : Beneath t c d) (hk : c'.connections = c.connections) (hs : c'.server = c.server)
    (ht : c'.topology.config = c.topology.config) : Beneath t c' c'.bare :=
  ⟨h.tended.congr hk (congrArg _ hs) (congrArg _ hs) ht, ht.trans h.config, rfl⟩

theorem Beneath.topology (h : Beneath t c d) : d.topology = c.topology := congrArg Context.topology h.bare

theorem Beneath.validate (cmd : Command) (c : Context (Watched σ) (Line κ)) (d : Context σ κ) (h : Beneath t c d) :
    cmd.validate d.maxArgs = cmd.validate c.maxArgs := congrArg (fun c : Context σ κ => cmd.validate c.maxArgs) h.bare

theorem beneath_watch (c : Context σ κ) : Beneath c.topology.config c.watch c := ⟨watch_tended c, rfl, (bare_watch c).symm⟩

end Beneath

variable {t : Config}

theorem beneath_paired : Paired (Beneath (σ := σ) t) where
  config c _ h := congrArg Topology.config h.topology
  active c _ h := congrArg Context.active h.bare
  activate c c' k h := by
    obtain rfl := h.bare
    exact h.congr rfl rfl rfl
  send i cmd c _ h := by
    obtain ⟨hc, rfl, rfl⟩ := h
    rw [send_bare]
    obtain ⟨-, ⟨e, -, -, hp⟩ | ⟨x, n, -, -, -, -, hp⟩⟩ := send_noted hc i cmd
    all_goals exact ⟨rfl, hp.tended, congrArg Topology.config hp.topology, rfl⟩

theorem ask_watched (x : Asking α) : InStep (Beneath (σ := σ) t) (ask x) (ask x) := by
  have hrun (x : Dialogue (Except ClusterError α)) (c : Context (Watched σ) (Line κ)) (c' : Context σ κ)
      (hc : Beneath t c c') :
      ((perform x).run c').1 = ((perform x).run c).1 ∧ Beneath t ((perform x).run c).2 ((perform x).run c').2 := by
    rw [perform_eq_run, perform_eq_run]
    induction x generalizing c c' with
    | done a => exact ⟨rfl, hc⟩
    | ask g cmd next ih =>
      obtain ⟨h1, h2⟩ := beneath_paired.execTo (Beneath.validate cmd) g c c' hc
      rw [Dialogue.run_ask, Dialogue.run_ask, show (world g cmd c').1 = (world g cmd c).1 from h1]
      exact ih _ _ _ h2
  exact hrun x.run

theorem info_watched (i : Nat) (part : Option String) : InStep (Beneath (σ := σ) t) (info i part) (info i part) :=
  beneath_paired.info (Beneath.validate _) fun c c' _ _ h => by
    obtain rfl := h.bare
    exact h.congr rfl rfl rfl

theorem report_watched (i : Nat) : InStep (Beneath (σ := σ) t) (report i) (report i) := by
  refine .bind_get fun c c' h => ?_
  rw [h.topology]
  refine (InStep.ofExcept (c.topology.node i)).bind fun n => ?_
  refine ((info_watched i _).tryCatch fun e => .throw _).bind fun cluster => ?_
  exact ((info_watched i _).tryCatch fun e => .throw _).bind fun replication => .pure _

theorem check_watched : InStep (Beneath (σ := σ) t) check check := by
  refine .bind_get fun c c' h => ?_
  rw [h.topology]
  refine (InStep.mapM report_watched _).bind fun reports c c' h => ?_
  rw [step_bind_ok (step_get c), step_bind_ok (step_get c'), step_bind, step_bind, step_lift, step_lift,
    h.topology]
  cases ht : c.topology.applyCheck reports with
  | error e => exact ⟨rfl, h⟩
  | ok t =>
    obtain rfl := h.bare
    exact ⟨rfl, h.congr rfl rfl (Topology.getElem?_applyCheck ht).1⟩

/-! ## Calls -/

/-- What is asked of a context. -/
inductive Call where
  /-- To carry out the commands of a dialogue, one after another. -/
  | ask (x : Asking Unit)
  | info (index : Nat) (part : Option String)
  | check

/-- A call is carried out, whatever comes of it. -/
def Call.run (c : Context σ κ) : Call → Context σ κ
  | ask x => ((Context.ask x).run c).2
  | info i part => ((Context.info i part).run c).2
  | check => (Context.check.run c).2

theorem Call.run_watched {c' : Context σ κ} (h : Beneath t c c') (a : Call) : Beneath t (a.run c) (a.run c') := by
  cases a with
  | ask x => exact (ask_watched x c c' h).2
  | info i part => exact (info_watched i part c c' h).2
  | check => exact (check_watched c c' h).2

theorem calls_watched {c' : Context σ κ} (h : Beneath t c c') (calls : List Call) :
    Beneath t (calls.foldl Call.run c) (calls.foldl Call.run c') := by
  induction calls generalizing c c' with
  | nil => exact h
  | cons a calls ih => exact ih (a.run_watched h)

end Context
end SlotSql.Cluster
