import SlotSql.Proofs.Simulation.Rows
import SlotSql.Session
/-!
# Steps of a session

A session carries its work out as dialogues of its context. A session is ready if its settings keep
every condition and its context is healthy and holds a store; then what its statements find is what lies
in the store.

Results:
* `work_run`, `scanning_run`: the work of the engine and of a scan in the world of the context.
* `table_run`: the table of a name is read from the store.
-/
namespace SlotSql.Session

open Cluster Store Simulation

section Steps

variable {σ κ α β : Type} {s s' : Session σ κ}

theorem step_bind (x : SessionStep σ κ α) (f : α → SessionStep σ κ β) (s : Session σ κ) :
    (x >>= f).run s = match x.run s with
      | (.ok a, s') => (f a).run s'
      | (.error e, s') => (.error e, s') := by
  show (let r := x s; ExceptT.bindCont f r.1 r.2) = _
  show _ = match x s with
    | (.ok a, s') => (f a).run s'
    | (.error e, s') => (.error e, s')
  rcases x s with ⟨_ | _, _⟩ <;> rfl

theorem step_bind_ok {x : SessionStep σ κ α} {f : α → SessionStep σ κ β} {a : α}
    (h : x.run s = (.ok a, s')) : (x >>= f).run s = (f a).run s' := by
  rw [step_bind, h]

theorem step_bind_error {x : SessionStep σ κ α} {f : α → SessionStep σ κ β} {e : EngineError}
    (h : x.run s = (.error e, s')) : (x >>= f).run s = (.error e, s') := by
  rw [step_bind, h]

@[simp] theorem step_get (s : Session σ κ) : (get : SessionStep σ κ (Session σ κ)).run s = (.ok s, s) := rfl

@[simp] theorem step_pure (a : α) (s : Session σ κ) : (pure a : SessionStep σ κ α).run s = (.ok a, s) := rfl

/-- A step of the context is carried out on the context. -/
theorem context_run (act : Step σ κ α) (s : Session σ κ) : (step act).run s =
    ((act.run s.context).1.mapError ClusterError.toEngine, { s with context := (act.run s.context).2 }) := by
  have h : (onContext act.run : StateM (Session σ κ) (Except ClusterError α)).run s =
    ((act.run s.context).1, { s with context := (act.run s.context).2 }) := rfl
  show StateT.run (onContext act.run >>= fun r => _) s = _
  rw [StateT.run_bind, h]
  cases (act.run s.context).1 <;> rfl

variable [Server σ κ]

/-- The work of the engine is done in the world of the context. -/
theorem work_run (y : Engine α) (s : Session σ κ) : (work y).run s =
    ((Dialogue.outcome Context.world y s.context).1,
      { s with context := (Dialogue.outcome Context.world y s.context).2 }) := by
  show (let r := (Context.perform y.run).run s.context; (r.1, { s with context := r.2 })) = _
  rw [Context.perform_eq_run]
  rfl

/-- So are the steps of a scan. -/
theorem scanning_run (x : Scan) (act : Scanning α) (s : Session σ κ) : (scanning x act).run s =
    ((Scanning.outcome Context.world act x s.context).1.map
        fun a => (a, (Scanning.outcome Context.world act x s.context).2.1),
      { s with context := (Scanning.outcome Context.world act x s.context).2.2 }) := by
  show (let r := (Context.perform (act.run.run x)).run s.context
    (r.1.1.map fun a => (a, r.1.2), { s with context := r.2 })) = _
  rw [Context.perform_eq_run]
  rfl

omit [Server σ κ] in
/-- A step that does not fail has a result. -/
theorem run_of_isOk (x : SessionStep σ κ α) (s : Session σ κ) (h : (x.run s).1.isOk = true) :
    ∃ a, x.run s = (.ok a, (x.run s).2) := by
  cases hr : x.run s with
  | mk r s' =>
    cases r with
    | ok a => exact ⟨a, rfl⟩
    | error e =>
      rw [hr] at h
      cases h

end Steps

/-! ## Ready sessions -/

/-- A session with settings that keep every condition, over a healthy context that holds a store. -/
structure Ready (top : Nat) (t : Topology) (d : Data) (s : Session Simulation Link) : Prop where
  valid : s.settings.Valid
  range : s.settings.scanBatch ≤ Number.max64
  serves : Serves s.settings.maxArgs top t d s.context

variable {top : Nat} {t : Topology} {d : Data} {s : Session Simulation Link}

/-- The bounds that valid settings keep. -/
theorem bounds {st : Settings} (h : st.Valid) :
    0 < st.scanBatch ∧ 0 < st.limitMin ∧ st.limitMin ≤ st.limitMax ∧ 10 ≤ st.maxArgs := by
  unfold Settings.Valid Settings.fault? at h
  repeat' split at h
  all_goals first
    | omega
    | cases h

theorem Ready.fits (hs : s.Ready top t d) (now : Int) :
    Fits (s.env now) s.settings.maxArgs t d := by
  obtain ⟨h1, -, -, h2⟩ := bounds hs.valid
  refine ⟨by omega, h1, hs.range, ?_, ?_⟩
  · show s.context.topology.masters = _
    rw [hs.serves.topology]
  · show d.size + 1 < s.context.server.patience
    have hinj : s.context.server.nodes.flatMap SimNode.injected = [] := by
      rw [List.flatMap_eq_nil_iff]
      intro n hn
      obtain ⟨i, hi, rfl⟩ := List.mem_iff_getElem.1 hn
      exact (hs.serves.healthy.sound.node i _ (List.getElem?_eq_getElem hi)).2.2.1
    have hcount := keyCount_eq hs.serves.healthy hs.serves.holds
    unfold Simulation.patience
    simp only [hinj, hcount, itemsSize, List.length_nil, Nat.add_zero, Nat.zero_add, Nat.mul_one]
    have := hs.serves.healthy.sound.nodes
    calc d.size + 1 < (d.size + 2) * 1 := by omega
      _ ≤ (d.size + 2) * (s.context.server.nodes.length + 1) := Nat.mul_le_mul_left _ (by omega)

/-- A ready session stays so with another context that serves the store. -/
theorem Ready.next (hs : s.Ready top t d) {top' : Nat} {c : Context Simulation Link}
    (hc : Serves s.settings.maxArgs top' t d c) : ({ s with context := c }).Ready top' t d :=
  ⟨hs.valid, hs.range, hc⟩

/-! ## Tables -/

/-- Asking about a row's attributes, or about those of a table, comes to what it comes to on a store. -/
theorem serves_asking {m : Nat} {c : Context Simulation Link} {α : Type} {key : String} {sets : List String}
    {y : Asking α}
    (hy : Dialogue.Fails (ReadsRow sets key) Mild (fun e => e.isConnectionError = false) y)
    (hc : Serves m top t d c) : ∃ c', Dialogue.outcome Context.world y c =
      ((Dialogue.outcome (fixedWorld (answers m d)) y ()).1, c') ∧ Serves m top t d c' := by
  obtain ⟨h1, -, h3⟩ := Dialogue.run_simulates Context.world (fixedWorld (answers m d)) (A := Mild)
    (R := fun c _ => Serves m top t d c) (fun g cmd c₁ _ hcmd h₁ => by
      obtain ⟨rfl, -⟩ := id hcmd
      obtain ⟨c₂, e1, e2, -⟩ := h₁.read hcmd
      have e : (Context.world .active cmd c₁).1 = answers m d cmd := by rw [e1]
      exact ⟨e, e ▸ mild_answers hcmd, by rw [e1]; exact e2⟩) hy hc
  exact ⟨_, Prod.ext h1 rfl, h3⟩

/-- The table of a name in a store. -/
def tableIn (st : Settings) (d : Data) (name : TableName) : Except EngineError Table :=
  (Dialogue.outcome (fixedWorld (answers st.maxArgs d)) (Catalog.describe st name) ()).1

/-- A session finds the table of a name that lies in the store. -/
theorem table_run (hs : s.Ready top t d) (name : TableName) : ∃ s',
    (table name).run s = (tableIn s.settings d name, s') ∧ s'.Ready top t d ∧
      s'.settings = s.settings := by
  have hy : Dialogue.Fails (ReadsRow [] (Catalog.entryKey s.settings name)) Mild
      (fun e => e.isConnectionError = false) (Asking.hmget (Catalog.entryKey s.settings name)
        [Catalog.countField, Catalog.columnsField, Catalog.createdField, Catalog.commentField]) :=
    Fails.hmget ⟨rfl, .inl ⟨_, List.cons_ne_nil _ _, rfl⟩⟩
  obtain ⟨c', h1, h2⟩ := serves_asking hy hs.serves
  have hout : Dialogue.outcome Context.world (Catalog.describe s.settings name) s.context =
      (tableIn s.settings d name, c') := by
    unfold tableIn Catalog.describe
    rw [Dialogue.outcome_bind, Dialogue.outcome_bind, Engine.outcome_liftM, Engine.outcome_liftM, h1]
    cases (Dialogue.outcome (fixedWorld (answers s.settings.maxArgs d)) (Asking.hmget
        (Catalog.entryKey s.settings name) [Catalog.countField, Catalog.columnsField, Catalog.createdField,
          Catalog.commentField]) ()).1 with
    | error e => rfl
    | ok values =>
      simp only [Except.mapError, Engine.outcome_liftExcept]
  refine ⟨{ s with context := c' }, ?_, hs.next h2, rfl⟩
  unfold table
  rw [step_bind_ok (step_get s), work_run, hout]

end SlotSql.Session
