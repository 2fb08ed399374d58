import SlotSql.Proofs.Rows.Short
import SlotSql.Proofs.Session.ReadBack
/-!
# The cap on the words of a command

A context refuses commands with more words than its cap. Settings bound the cap from below, so that entries of the catalog can
be written, and bound the columns of a table apart from it. So tables are accepted whose rows need longer commands. A statement
whose commands are short enough does not notice the cap at all, over any server. A row with too many attributes to write is
refused. A scan that has to read too many attributes takes each row for one that cannot be read, and passes over all of them.

Results:
* `dispatch_capped`: a command that is short enough is carried out alike under any two caps.
* `execute_capped`: so is a statement all of whose commands are.
* `scan_blind`: a query with too many attributes to read has no rows, whatever lies in the store.
* `cap_decides`: what the cap of valid settings is enough for, and what happens beyond.
-/
namespace SlotSql

open Cluster Dialogue

variable {σ κ α β : Type} {n m : Nat}

/-! ## Contexts -/

namespace Cluster.Context

/-- The context with another cap on the words of a command. -/
def capped (m : Nat) (c : Context σ κ) : Context σ κ := { c with maxArgs := m }

/-- What a step comes to does not depend on the cap, as long as it is no less than `n`. -/
def Uncapped (n : Nat) (act : Step σ κ α) : Prop := ∀ c m, n ≤ c.maxArgs → n ≤ m →
  act.run (c.capped m) = ((act.run c).1, (act.run c).2.capped m)

/-- Such a step leaves the cap alone. -/
theorem Uncapped.maxArgs {act : Step σ κ α} (h : Uncapped n act) {c : Context σ κ} (hc : n ≤ c.maxArgs) :
    (act.run c).2.maxArgs = c.maxArgs :=
  congrArg (fun r => r.2.maxArgs) (h c c.maxArgs hc hc)

/-- A context and the same one with another cap, both caps no less than `n`. -/
def Recapped (n m : Nat) (c c' : Context σ κ) : Prop := c' = c.capped m ∧ n ≤ c.maxArgs ∧ n ≤ m

theorem uncapped_iff {act : Step σ κ α} : Uncapped n act ↔ ∀ m, InStep (Recapped n m) act act := by
  refine ⟨fun h m c c' hc => ?_, fun h c m hc hm => ?_⟩
  · obtain ⟨rfl, hc, hm⟩ := hc
    rw [h c m hc hm]
    exact ⟨rfl, rfl, (h.maxArgs hc).symm ▸ hc, hm⟩
  · obtain ⟨hresult, hcontext, -, -⟩ := h m c (c.capped m) ⟨rfl, hc, hm⟩
    exact Prod.ext hresult hcontext

variable [Server σ κ]

theorem uncapped_connection (i : Nat) : Uncapped n (connection i : Step σ κ κ) := by
  intro c m _ _
  rw [connection_run, connection_run]
  simp only [capped]
  rcases c.topology.node i with e | node
  · rfl
  · rcases c.connections[i]? with _ | _ | k
    · rfl
    · simp only []
      rcases Server.connect node c.server with ⟨_ | _, _⟩ <;> rfl
    · rfl

theorem uncapped_send (i : Nat) (cmd : Command) : Uncapped n (send i cmd : Step σ κ Reply) := by
  intro c m hc hm
  rw [send_run, send_run, uncapped_connection i c m hc hm]
  rcases (connection i).run c with ⟨e | k, c'⟩ <;> rfl

theorem recapped_paired : Paired (Recapped (σ := σ) n m) where
  config := by rintro c _ ⟨rfl, -⟩; rfl
  active := by rintro c _ ⟨rfl, -⟩; rfl
  activate := by rintro c _ k ⟨rfl, hc⟩; exact ⟨rfl, hc⟩
  send i cmd := uncapped_iff.1 (uncapped_send i cmd) m

omit [Server σ κ] in
theorem validate_short {cmd : Command} (hl : cmd.length ≤ n) (c c' : Context σ κ) (h : Recapped n m c c') :
    cmd.validate c'.maxArgs = cmd.validate c.maxArgs := by
  obtain ⟨rfl, hc, hm⟩ := h
  show cmd.validate m = _
  unfold Command.validate
  rw [if_neg (show ¬ m < cmd.length by omega), if_neg (show ¬ c.maxArgs < cmd.length by omega)]

/-- A command that is short enough is carried out alike under any two caps. -/
theorem dispatch_capped (track : Bool) {cmd : Command} (hl : cmd.length ≤ n) (i : Nat) :
    Uncapped n (dispatch track i cmd : Step σ κ Reply) :=
  uncapped_iff.2 fun _ => recapped_paired.dispatch (validate_short hl) track i

theorem uncapped_execTo {cmd : Command} (hl : cmd.length ≤ n) (g : Target) :
    Uncapped n (execTo g cmd : Step σ κ Reply) :=
  uncapped_iff.2 fun _ => recapped_paired.execTo (validate_short hl) g

/-- A command that is too long is refused, and nothing is sent. -/
theorem world_long (cmd : Command) (hne : cmd.words ≠ []) (g : Target) {c : Context σ κ} (hl : c.maxArgs < cmd.length) :
    world g cmd c = (.error (.tooManyArgs cmd.name cmd.length c.maxArgs), c) := by
  have hvalid : cmd.validate c.maxArgs = .error (.tooManyArgs cmd.name cmd.length c.maxArgs) := by
    unfold Command.validate
    rw [if_neg (by simpa using hne), if_pos hl]
  rw [world, execTo_run]
  unfold dispatch
  rw [step_bind_ok (step_get _), hvalid]
  rfl

theorem uncapped_info (hn : 2 ≤ n) (i : Nat) (part : Option String) : Uncapped n (info i part : Step σ κ Info) := by
  have hlength : (Command.info part).length ≤ n := by
    cases part with
    | none => exact Nat.le_trans (Nat.le_succ 1) hn
    | some name => exact hn
  refine uncapped_iff.2 fun m => recapped_paired.info (validate_short hlength) ?_
  rintro c _ name s ⟨rfl, hc⟩
  exact ⟨rfl, hc⟩

/-- A dialogue of short commands comes to the same in both contexts. -/
theorem run_capped {Q : α → Prop} {x : Dialogue α} (hx : x.Obeys (Short n) (fun _ => True) Q) {c : Context σ κ}
    (hc : n ≤ c.maxArgs) (hm : n ≤ m) : x.run world (c.capped m) = ((x.run world c).1, (x.run world c).2.capped m) := by
  obtain ⟨h1, -, h2, -⟩ := run_simulates (world (σ := σ)) (world (σ := σ)) (A := fun _ => True)
    (R := fun c c' => c' = c.capped m ∧ n ≤ c.maxArgs) (fun g cmd c _ hcmd hr => by
      obtain ⟨rfl, hc⟩ := hr
      have hstep : Uncapped n (execTo g cmd : Step σ κ Reply) := uncapped_execTo hcmd g
      unfold world
      rw [hstep c m hc hm]
      refine ⟨rfl, trivial, rfl, ?_⟩
      rw [hstep.maxArgs hc]
      exact hc) hx ⟨rfl, hc⟩
  exact Prod.ext h1.symm h2

end Cluster.Context

/-! ## Statements -/

/-- The commands of a statement have no more than `n` words, if the tables that it names are these. What it is carried out
with is made by the planner, or by the preparation of its values, and nothing is asked where these refuse it. -/
def Statement.Brief (st : Settings) (n : Nat) (now : Int) (tables : TableName → Except EngineError Table) : Statement → Prop
  | .select q => ∀ t p, tables q.table = .ok t → Plan.ofQuery st t q = .ok p → p.words ≤ n
  | .delete d => ∀ t p, tables d.table = .ok t → Plan.ofConditions st t d.selection.conditions = .ok p → p.deletionWords ≤ n
  | .upsert u => ∀ t pu, tables u.table = .ok t → u.prepare t now = .ok pu → pu.Brief st n
  | .drop name => ∀ t p, tables name = .ok t → Plan.ofConditions st t [] = .ok p → p.deletionWords ≤ n
  | .command args => args.length ≤ n
  | _ => True

/-! ## Sessions -/

namespace Session

/-- The session with another cap on the words of a command. -/
def capped (m : Nat) (s : Session σ κ) : Session σ κ := { s with context := s.context.capped m }

/-- What a step comes to in a session does not depend on the cap, as long as it is no less than `n`. -/
def Uncapped (n : Nat) (s : Session σ κ) (x : SessionStep σ κ α) : Prop := n ≤ s.context.maxArgs → ∀ m, n ≤ m →
  x.run (s.capped m) = ((x.run s).1, (x.run s).2.capped m)

variable {s : Session σ κ}

@[simp] theorem capped_context (m : Nat) (s : Session σ κ) : (s.capped m).context = s.context.capped m := rfl

namespace Uncapped

theorem pure (a : α) : Uncapped n s (Pure.pure a : SessionStep σ κ α) := fun _ _ _ => rfl

theorem throw (e : EngineError) : Uncapped n s (MonadExcept.throw e : SessionStep σ κ α) := fun _ _ _ => rfl

theorem ofExcept (y : Except EngineError α) : Uncapped n s (Session.ofExcept y : SessionStep σ κ α) := fun _ _ _ => rfl

theorem bind {x : SessionStep σ κ α} {f : α → SessionStep σ κ β} (hx : Uncapped n s x)
    (hf : ∀ a s', x.run s = (.ok a, s') → Uncapped n s' (f a)) : Uncapped n s (x >>= f) := by
  intro hc m hm
  have hkept : (x.run s).2.context.maxArgs = s.context.maxArgs :=
    congrArg (fun r => r.2.context.maxArgs) (hx hc s.context.maxArgs hc)
  rw [step_bind, step_bind, hx hc m hm]
  cases hr : x.run s with
  | mk r s' =>
    rw [hr] at hkept
    cases r with
    | ok a => exact hf a s' hr (hkept ▸ hc) m hm
    | error e => rfl

/-- What is read of the session does not depend on the cap. -/
theorem bind_get {f : Session σ κ → SessionStep σ κ β} (h : ∀ m, f (s.capped m) = f s) (hf : Uncapped n s (f s)) :
    Uncapped n s (get >>= f) := by
  intro hc m hm
  rw [step_bind_ok (step_get _), step_bind_ok (step_get _), h]
  exact hf hc m hm

theorem step {act : Step σ κ α} (h : Context.Uncapped n act) : Uncapped n s (Session.step act) := by
  intro hc m hm
  rw [context_run, context_run, capped_context, h s.context m hc hm]
  rfl

theorem foldlM {f : β → α → SessionStep σ κ β} {as : List α} (h : ∀ b, ∀ a ∈ as, ∀ s, Uncapped n s (f b a)) (b : β) :
    Uncapped n s (as.foldlM f b) := by
  induction as generalizing b s with
  | nil => exact .pure b
  | cons a as ih =>
    rw [List.foldlM_cons]
    exact (h b a List.mem_cons_self s).bind fun b' s' _ => ih (fun b a ha => h b a (List.mem_cons_of_mem _ ha)) b'

variable [Server σ κ]

/-- Work of short commands. -/
theorem work {y : Engine α} (h : Asks (Short n) (fun _ => True) y) : Uncapped n s (Session.work y) := by
  intro hc m hm
  have hwork := Context.run_capped h hc hm
  rw [work_run, work_run, capped_context, outcome, outcome, hwork]
  rfl

/-- A scan of short commands. -/
theorem scanning {act : Scanning α} (h : Scanning.Asks (Short n) act) (x : Scan) : Uncapped n s (Session.scanning x act) := by
  intro hc m hm
  have hscan : Scanning.outcome Context.world act x (s.context.capped m) =
      ((Scanning.outcome Context.world act x s.context).1, (Scanning.outcome Context.world act x s.context).2.1,
        (Scanning.outcome Context.world act x s.context).2.2.capped m) := by
    unfold Scanning.outcome
    rw [Context.run_capped (h x) hc hm]
  rw [scanning_run, scanning_run, capped_context, hscan]
  rfl

end Uncapped

theorem uncapped_planned (p : Plan) (x : Scan) (result : StatementResult) : Uncapped n s (planned p x result) :=
  .bind_get (fun _ => rfl) (.pure _)

variable [Server σ κ] {now : Int}

theorem uncapped_table (h : 6 ≤ n) (name : TableName) : Uncapped n s (table name) := by
  refine .bind_get (fun _ => rfl) (.work ((Engine.asks_liftM (asks_hmget ?_)).bind fun values _ => ?_))
  · show (Command.hmget _ _).length ≤ n
    rw [Command.length_hmget]
    exact h
  · exact Asks.ofExcept _

/-- Finding a table leaves the settings alone. -/
theorem settings_of_table {name : TableName} {t : Table} {s' : Session σ κ} (h : (table name).run s = (.ok t, s')) :
    s'.settings = s.settings := by
  unfold table at h
  rw [step_bind_ok (step_get s), work_run] at h
  exact (congrArg (fun r => r.2.settings) h).symm

theorem uncapped_select {q : Query} (h6 : 6 ≤ n)
    (h : ∀ t p, ((table q.table).run s).1 = .ok t → Plan.ofQuery s.settings t q = .ok p → p.words ≤ n) :
    Uncapped n s (select now q) := by
  refine (uncapped_table h6 q.table).bind fun t s' ht => .bind_get (fun _ => rfl) ?_
  split
  · exact .throw _
  · next p hp =>
    rw [settings_of_table ht] at hp
    have hasked := p.asked_short (h t p (by rw [ht]) hp) (s'.env now)
    simp only []
    split
    · exact (Uncapped.scanning (asks_count hasked) _).bind fun _ _ _ => uncapped_planned _ _ _
    · exact (Uncapped.scanning (asks_next hasked _ _) _).bind fun _ _ _ => uncapped_planned _ _ _

/-- Rows of a plan are deleted alike if the plan and the removal of a row are brief. -/
theorem uncapped_deleting {p : Plan} (h : p.deletionWords ≤ n) (offset : Nat) (limit : Option Nat) (x : Scan) :
    Uncapped n s (scanning x ((s.env now).delete p offset limit)) :=
  .scanning (asks_delete (p.asked_short (Nat.le_trans (Nat.le_max_left _ _) h) _) (p.del_short h) offset limit) x

theorem uncapped_delete {d : Deletion} (h6 : 6 ≤ n)
    (h : ∀ t p, ((table d.table).run s).1 = .ok t → Plan.ofConditions s.settings t d.selection.conditions = .ok p →
      p.deletionWords ≤ n) : Uncapped n s (delete now d) := by
  refine (uncapped_table h6 d.table).bind fun t s' ht => .bind_get (fun _ => rfl) ?_
  split
  · exact .throw _
  · next p hp =>
    have hwords := h t p (by rw [ht]) (settings_of_table ht ▸ hp)
    exact (uncapped_deleting hwords _ _ _).bind fun _ _ _ => uncapped_planned _ _ _

theorem uncapped_drop {name : TableName} (h6 : 6 ≤ n)
    (h : ∀ t p, ((table name).run s).1 = .ok t → Plan.ofConditions s.settings t [] = .ok p → p.deletionWords ≤ n) :
    Uncapped n s (drop now name) := by
  refine (uncapped_table h6 name).bind fun t s' ht => .bind_get (fun _ => rfl) ?_
  split
  · exact .throw _
  · next p hp =>
    have hwords := h t p (by rw [ht]) (settings_of_table ht ▸ hp)
    refine (uncapped_deleting hwords _ _ _).bind fun _ _ _ => Uncapped.bind (.work ?_) fun _ _ _ => .pure _
    refine (Engine.asks_liftM (asks_del ?_)).bind fun removed _ => ?_
    · show (Command.del _).length ≤ n
      rw [Command.length_del, List.length_singleton]
      omega
    · split
      · exact .throw _
      · exact .pure trivial

theorem uncapped_upsert {u : Upsertion} (h6 : 6 ≤ n)
    (h : ∀ t pu, ((table u.table).run s).1 = .ok t → u.prepare t now = .ok pu → pu.Brief s.settings n) :
    Uncapped n s (upsert now u) := by
  refine (uncapped_table h6 u.table).bind fun t s' ht => .bind_get (fun _ => rfl) ?_
  refine (Uncapped.ofExcept _).bind fun pu s'' hpu => ?_
  obtain ⟨hprepare, rfl⟩ : u.prepare t now = .ok pu ∧ s' = s'' := Prod.mk.inj hpu
  have hbrief : pu.Brief (s'.env now).settings n := by
    show pu.Brief s'.settings n
    rw [settings_of_table ht]
    exact h t pu (by rw [ht]) hprepare
  refine (Uncapped.work (Upsertion.asks_execute_short hbrief)).bind fun outcome _ _ => ?_
  split
  · exact .pure _
  · exact .pure _
  · exact .pure _

/-- Entries of the catalog can be written. -/
theorem uncapped_create (h10 : 10 ≤ n) (d : TableDef) : Uncapped n s (create now d) := by
  refine (Uncapped.ofExcept _).bind fun t s' _ => .bind_get (fun _ => rfl) (Uncapped.bind (.work ?_) fun _ _ _ => .pure _)
  have hwrite : Asks (Short n) (fun _ => True)
      (liftM (Asking.hmset (Catalog.entryKey s'.settings t.tableName) (Catalog.entry t)) : Engine Unit) :=
    Engine.asks_liftM (Upsertion.asks_hmset_short (Nat.le_trans (by simp [Catalog.entry]) h10))
  unfold Catalog.create
  refine (Asks.ofExcept _).bind fun _ _ => ?_
  simp only []
  split
  · refine (Engine.asks_liftM (asks_existsKey (show 2 ≤ n by omega))).bind fun _ _ => ?_
    split
    · exact (Asks.throw (Q := fun _ => True) _).bind fun _ _ => hwrite
    · exact hwrite
  · exact hwrite

theorem asks_tables (h6 : 6 ≤ n) (st : Settings) (patience : Nat) (masters : List Nat) (pattern : String) :
    Asks (Short n) (fun _ => True) (Catalog.tables st patience masters pattern) := by
  have hnode (node k cursor : Nat) : Asks (Short n) (fun _ => True) (Catalog.nodeKeys st pattern node k cursor) := by
    induction k generalizing cursor with
    | zero => exact .pure trivial
    | succ k ih =>
      unfold Catalog.nodeKeys
      refine (Engine.asks_liftM (asks_scan (show 6 ≤ n from h6))).bind fun page _ => ?_
      split
      · exact .pure trivial
      · exact (ih _).bind fun _ _ => .pure trivial
  exact (Asks.each fun node _ => hnode node patience 0).bind fun _ _ => .pure trivial

/-- **A statement whose commands are short enough does not notice the cap.** Whatever a server answers, the statement comes to
what it comes to under any other cap that is no less. -/
theorem execute_capped {statement : Statement} (h10 : 10 ≤ n)
    (h : statement.Brief s.settings n now fun name => ((table name).run s).1) : Uncapped n s (execute now statement) := by
  have h6 : 6 ≤ n := by omega
  cases statement with
  | select q =>
    show Uncapped n s (if q.table.isDual then (do return { result := .rows (← ofExcept (dualRows now q)) }) else select now q)
    split
    · exact (Uncapped.ofExcept _).bind fun _ _ _ => .pure _
    · exact uncapped_select h6 h
  | delete d => exact uncapped_delete h6 h
  | upsert u => exact uncapped_upsert h6 h
  | create d => exact uncapped_create h10 d
  | describe name =>
    exact (uncapped_table h6 name).bind fun _ _ _ => (Uncapped.ofExcept _).bind fun _ _ _ => .pure _
  | drop name => exact uncapped_drop h6 h
  | showDatabases =>
    refine .bind_get (fun _ => rfl) (Uncapped.bind (.work ?_) fun _ _ _ => (Uncapped.ofExcept _).bind fun _ _ _ => .pure _)
    exact (asks_tables h6 _ _ _ _).bind fun _ _ => .pure trivial
  | showTables tablespace =>
    refine .bind_get (fun _ => rfl) (Uncapped.bind (.work ?_) fun _ _ _ => (Uncapped.ofExcept _).bind fun _ _ _ => .pure _)
    exact (asks_tables h6 _ _ _ _).bind fun _ _ => .pure trivial
  | info part node =>
    refine .bind_get (fun _ => rfl) ((Uncapped.ofExcept _).bind fun nodes _ _ => ?_)
    refine (Uncapped.foldlM (fun rows n _ s => ?_) _).bind fun _ _ _ => .pure _
    exact (Uncapped.step (Context.uncapped_info (by omega) _ _)).bind fun _ _ _ => .ofExcept _
  | verbose on => exact fun _ _ _ => rfl
  | delimiter c => exact fun _ _ _ => rfl
  | command args =>
    refine (Uncapped.step (Context.uncapped_execTo ?_ .active)).bind fun _ _ _ => .pure _
    rw [Command.length_ofTexts]
    exact h

/-! ## Beyond the cap -/

section Beyond

open Store Simulation

/-- A row with too many plain attributes is refused before anything of it is written. -/
theorem outcome_writeRow_long {key : String} {values : List (Field × String)} {c : Context σ κ}
    (h : c.maxArgs < 2 + 2 * (Upsertion.hashFields values).length) :
    outcome Context.world (Upsertion.writeRow key values) c = (.error (ClusterError.tooManyArgs "HMSET"
      (2 + 2 * (Upsertion.hashFields values).length) c.maxArgs).toEngine, c) := by
  have hname : (Command.hmset key (Upsertion.hashFields values)).name = "HMSET" := by
    show Text.asciiUpper (Utf8.decodeLossy (Utf8.bytes "HMSET")) = "HMSET"
    rw [Utf8.decodeLossy_bytes]
    decide
  have hsend : outcome Context.world (Asking.hmset key (Upsertion.hashFields values)) c =
      (.error (.tooManyArgs "HMSET" (2 + 2 * (Upsertion.hashFields values).length) c.maxArgs), c) := by
    have hrefused := Context.world_long (.hmset key (Upsertion.hashFields values)) (List.cons_ne_nil _ _) .active
      (c := c) (by rw [Command.length_hmset]; exact h)
    rw [Command.length_hmset, hname] at hrefused
    exact outcome_bind_error hrefused
  unfold Upsertion.writeRow
  refine outcome_bind_error ?_
  rw [Engine.outcome_liftM, hsend]
  rfl

variable {top : Nat} {topo : Topology} {d : Data} {s : Session Simulation Link} {t : Table} {p : Plan}

/-- An upsertion of such a row fails, and the store is as it was. -/
theorem upsert_long (hs : s.Ready top topo d) {u : Upsertion} {pu : PreparedUpsertion} {key : String}
    (ht : tableIn s.settings d u.table = .ok t) (hpu : u.prepare t now = .ok pu) (hmode : pu.mode = .overwrite)
    (hkey : pu.key = some key) (hlong : s.settings.maxArgs < 2 + 2 * (Upsertion.hashFields pu.values).length) : ∃ s',
    (execute now (.upsert u)).run s = (.error (ClusterError.tooManyArgs "HMSET"
      (2 + 2 * (Upsertion.hashFields pu.values).length) s.settings.maxArgs).toEngine, s') ∧ s'.Ready top topo d := by
  obtain ⟨s₁, h1, h2, h3⟩ := table_run hs u.table
  rw [ht] at h1
  have hcap : s₁.context.maxArgs = s.settings.maxArgs := by rw [h2.serves.maxArgs, h3]
  have hwrite : outcome Context.world (Upsertion.execute (s₁.env now) pu) s₁.context =
      (.error (ClusterError.tooManyArgs "HMSET" (2 + 2 * (Upsertion.hashFields pu.values).length)
        s.settings.maxArgs).toEngine, s₁.context) := by
    unfold Upsertion.execute
    rw [hmode, hkey]
    exact outcome_bind_error ((outcome_writeRow_long (hcap ▸ hlong)).trans (by rw [hcap]))
  have hwork := work_run (Upsertion.execute (s₁.env now) pu) s₁
  rw [hwrite] at hwork
  refine ⟨s₁, ?_, h2⟩
  show (upsert now u).run s = _
  unfold upsert
  rw [step_bind_ok h1, step_bind_ok (step_get s₁), hpu, step_bind_ok (show (ofExcept (.ok pu)).run s₁ = (.ok pu, s₁) from rfl)]
  exact step_bind_error hwork

/-- No row is seen if too many attributes have to be read of it. -/
theorem accepted_blind (hm : 2 ≤ m) (hlong : m < 2 + p.plainNames.length) : accepted m topo d p = [] := by
  rw [List.eq_nil_iff_forall_not_mem]
  intro y hy
  obtain ⟨key, -, hkey⟩ := List.mem_filterMap.1 hy
  have hlook : lookupIn (answers m d) p key = .ok (some y) := by
    unfold accepted? at hkey
    split at hkey
    · next c hc => rw [hc, hkey]
    · cases hkey
  obtain ⟨-, -, hfetch, -⟩ := lookupIn_eq_some hlook
  exact absurd (fits_of_fetch hm hfetch) (Nat.not_le.2 hlong)

/-- **A scan with too many attributes to read is blind.** It succeeds, and has no rows, whatever lies in the store. -/
theorem scan_blind (now : Int) (hs : s.Ready top topo d) (hroom : top + d.size ≤ Number.max64) {q : Query}
    (hq : q.table.isDual = false) (ht : tableIn s.settings d q.table = .ok t)
    (hp : Plan.ofQuery s.settings t q = .ok p) (hc : p.countOnly = false) (hscan : p.directKey = none)
    (hlong : s.settings.maxArgs < 2 + p.plainNames.length) : ∃ e s',
    (execute now (.select q)).run s = (.ok e, s') ∧ e.result = .rows p.emptyRows := by
  obtain ⟨-, -, -, hten⟩ := bounds hs.valid
  obtain ⟨r, s', hrun, -, -, hok, hrows⟩ := select_run now hs hroom ht hp hc
  have hsees : Sees s.settings.maxArgs d p := fun key hkey => by
    rw [hscan] at hkey
    cases hkey
  obtain ⟨e, rfl⟩ := hok.2 ⟨hsees, fun hdirect => by
    rw [hscan] at hdirect
    cases hdirect⟩
  refine ⟨e, s', by rw [execute_select now hq]; exact hrun, ?_⟩
  rw [hrows e rfl, accepted_blind (by omega) hlong]
  unfold piece
  rw [List.drop_nil, List.filterMap_nil, List.take_nil]
  rfl

/-- **What the cap of valid settings is enough for.** In a ready session, a statement all of whose commands have no more words
than the cap comes to what it comes to under any greater cap: no command of it is refused, and no row passed over because of
the cap. Beyond that the settings are not enough. A row whose plain attributes do not fit into one command is not written,
and the upsertion fails. A query that scans, and has to read more plain attributes of a row than fit into one command,
succeeds without a row. -/
theorem cap_decides (now : Int) (hs : s.Ready top topo d) (hroom : top + d.size ≤ Number.max64) :
    (∀ statement m, statement.Brief s.settings s.settings.maxArgs now (tableIn s.settings d) → s.settings.maxArgs ≤ m →
      (execute now statement).run (s.capped m) =
        (((execute now statement).run s).1, ((execute now statement).run s).2.capped m)) ∧
    (∀ u t pu key, tableIn s.settings d u.table = .ok t → u.prepare t now = .ok pu → pu.mode = .overwrite →
      pu.key = some key → s.settings.maxArgs < 2 + 2 * (Upsertion.hashFields pu.values).length → ∃ s',
        (execute now (.upsert u)).run s = (.error (ClusterError.tooManyArgs "HMSET"
          (2 + 2 * (Upsertion.hashFields pu.values).length) s.settings.maxArgs).toEngine, s') ∧ s'.Ready top topo d) ∧
    ∀ q t p, q.table.isDual = false → tableIn s.settings d q.table = .ok t → Plan.ofQuery s.settings t q = .ok p →
      p.countOnly = false → p.directKey = none → s.settings.maxArgs < 2 + p.plainNames.length → ∃ e s',
        (execute now (.select q)).run s = (.ok e, s') ∧ e.result = .rows p.emptyRows := by
  refine ⟨fun statement m hbrief hm => ?_, fun u t pu key ht hpu hmode hkey hlong => upsert_long hs ht hpu hmode hkey hlong,
    fun q t p hq ht hp hc hscan hlong => scan_blind now hs hroom hq ht hp hc hscan hlong⟩
  obtain ⟨-, -, -, hten⟩ := bounds hs.valid
  have htables : (fun name => ((table name).run s).1) = tableIn s.settings d := funext fun name => by
    obtain ⟨s', h, -⟩ := table_run hs name
    rw [h]
  exact execute_capped hten (by rw [htables]; exact hbrief) (Nat.le_of_eq hs.serves.maxArgs.symm) m hm

end Beyond

/-! ## A wide table -/

open Store Simulation

/-- The least cap that is valid. -/
def tenWords : Settings := { noteSettings with maxArgs := 10 }

/-- A table with nine texts. -/
def wideTable : Table where
  tablespace := "t"
  name := "wide"
  fields := { name := "id", type := .ub4, length := 4, ordinal := 1, nullable := false } ::
    ["a", "b", "c", "d", "e", "f", "g", "h", "i"].map fun name => { name, type := .str, length := 20 }

/-- A store with one row, which has one of the texts. -/
def wideStore : Data :=
  (KeyMap.empty.insert (Catalog.entryKey tenWords wideTable.tableName) (hashOf (Catalog.entry wideTable))).insert
    (wideTable.rowKey ["1"]) (hashOf [("a", Utf8.bytes "x")])

def wideSession : Session Simulation Link := { settings := tenWords, context := plainContext 10 wideStore }

/-- A query for some of the columns. -/
def wideQuery (items : List SelectItem) : Query := ⟨items, wideTable.tableName, ⟨[], none, none⟩⟩

/-- A row with five texts. -/
def wideUpsertion : Upsertion where
  table := wideTable.tableName
  columns := ["id", "a", "b", "c", "d", "e"]
  source := .values (["2", "v", "w", "x", "y", "z"].map fun x => .literal ⟨x, true⟩)
  onDuplicate := .overwrite

theorem wideTable_found : tableIn tenWords wideStore wideTable.tableName = .ok wideTable := by decide +kernel

theorem wideSession_ready : wideSession.Ready 1 plainTopology wideStore :=
  ⟨(by decide +kernel : tenWords.Valid), (by decide : tenWords.scanBatch ≤ Number.max64), serves_plain _ _⟩

/-- The plan of a query. -/
def widePlan (items : List SelectItem) : Plan :=
  (Plan.ofQuery tenWords wideTable (wideQuery items)).toOption.getD ⟨wideTable, [], [], [], "", none, false⟩

theorem widePlan_eq (items : List SelectItem) (h : (Plan.ofQuery tenWords wideTable (wideQuery items)).isOk = true) :
    Plan.ofQuery tenWords wideTable (wideQuery items) = .ok (widePlan items) :=
  eq_ok_of_isOk h _

/-- What is stored of the five texts. -/
def widePrepared : PreparedUpsertion :=
  (wideUpsertion.prepare wideTable 0).toOption.getD ⟨wideTable, [], [], none, "", .overwrite⟩

/-- One text can be read of each row. Five cannot be written, and nine cannot be read: the row that is there is not shown. -/
theorem cap_decides_wide :
    (execute 0 (.select (wideQuery [.column "a"]))).run (wideSession.capped 252) =
        (((execute 0 (.select (wideQuery [.column "a"]))).run wideSession).1,
          ((execute 0 (.select (wideQuery [.column "a"]))).run wideSession).2.capped 252) ∧
      (∃ s', (execute 0 (.upsert wideUpsertion)).run wideSession =
        (.error (ClusterError.tooManyArgs "HMSET" 12 10).toEngine, s') ∧ s'.Ready 1 plainTopology wideStore) ∧
      ∃ e s', (execute 0 (.select (wideQuery [.all]))).run wideSession = (.ok e, s') ∧ e.result.shown = [] := by
  obtain ⟨hsame, hwrite, hread⟩ := cap_decides 0 wideSession_ready (by decide +kernel)
  refine ⟨hsame _ 252 ?_ (by decide), ?_, ?_⟩
  · intro t p ht hp
    cases wideTable_found.symm.trans ht
    cases (widePlan_eq [.column "a"] (by decide +kernel)).symm.trans hp
    decide +kernel
  · have hfive : (Upsertion.hashFields widePrepared.values).length = 5 := by decide +kernel
    have hrefused := hwrite wideUpsertion wideTable widePrepared "{t::wide:2}" wideTable_found
      (eq_ok_of_isOk (by decide +kernel) _) (by decide +kernel) (by decide +kernel) (by decide +kernel)
    rw [hfive] at hrefused
    exact hrefused
  · obtain ⟨e, s', hrun, hrows⟩ := hread (wideQuery [.all]) wideTable (widePlan [.all]) (by decide +kernel) wideTable_found
      (widePlan_eq [.all] (by decide +kernel)) (by decide +kernel) (by decide +kernel) (by decide +kernel)
    refine ⟨e, s', hrun, ?_⟩
    rw [hrows]
    rfl

-- The one row is shown if only its text is asked for.
example : (((execute 0 (.select (wideQuery [.column "a"]))).run wideSession).1.map fun e => e.result.shown.length).toOption =
    some 1 := by decide +kernel

end Session
end SlotSql
