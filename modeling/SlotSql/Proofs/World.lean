import SlotSql.Cluster.Context
import SlotSql.Engine.Scan
import SlotSql.Proofs.Text.Integer
import SlotSql.Proofs.Text.Utf8
/-!
# Dialogues in a world

A dialogue says what it asks and how it goes on; a world says what is answered. Running the one in
the other gives a result and the state of the world afterwards. A context over a server is such a
world, and so is a list of prepared answers, so what is proved of a dialogue in every world of a
kind holds of all of them.

Results:
* `Dialogue.run_bind`: running a dialogue and then its continuation.
* `Context.perform_eq_run`: a context performs a dialogue as its world runs it.
* `Scanning.outcome_bind`: the same for the steps of a scan, which keep their state on failure.
* `Asking.outcome_scan`, `Asking.outcome_scan_keys`: a page of keys is read back as it was sent.
-/
namespace SlotSql.Cluster

/-- What is answered to a command in a state, and the state afterwards. -/
abbrev World (σ : Type) := Target → Command → σ → Except ClusterError Reply × σ

namespace Dialogue

variable {σ α β ε : Type} {w : World σ} {s s' : σ}

/-- Runs a dialogue in a world. -/
def run (w : World σ) : Dialogue α → σ → α × σ
  | done a, s => (a, s)
  | ask t c next, s => (next (w t c s).1).run w (w t c s).2

@[simp] theorem run_done (a : α) : (done a).run w s = (a, s) := rfl

@[simp] theorem run_pure (a : α) : (pure a : Dialogue α).run w s = (a, s) := rfl

theorem run_ask (t : Target) (c : Command) (next : Except ClusterError Reply → Dialogue α) :
    (ask t c next).run w s = (next (w t c s).1).run w (w t c s).2 := rfl

theorem run_bind (x : Dialogue α) (f : α → Dialogue β) (s : σ) :
    (x.bind f).run w s = (f (x.run w s).1).run w (x.run w s).2 := by
  induction x generalizing s with
  | done a => rfl
  | ask t c next ih => rw [bind, run_ask, ih, run_ask]

theorem run_monad_bind (x : Dialogue α) (f : α → Dialogue β) (s : σ) :
    (x >>= f).run w s = (f (x.run w s).1).run w (x.run w s).2 := run_bind x f s

/-- What a dialogue that can fail comes to. -/
def outcome (w : World σ) (x : ExceptT ε Dialogue α) (s : σ) : Except ε α × σ := Dialogue.run w x.run s

@[simp] theorem outcome_pure (a : α) :
    outcome w (pure a : ExceptT ε Dialogue α) s = (.ok a, s) := rfl

@[simp] theorem outcome_throw (e : ε) :
    outcome w (throw e : ExceptT ε Dialogue α) s = (.error e, s) := rfl

theorem outcome_bind (x : ExceptT ε Dialogue α) (f : α → ExceptT ε Dialogue β) :
    outcome w (x >>= f) s = match outcome w x s with
      | (.ok a, s') => outcome w (f a) s'
      | (.error e, s') => (.error e, s') := by
  have h : (x >>= f).run = Dialogue.bind x.run (ExceptT.bindCont f) := by
    show ExceptT.run (ExceptT.bind x f) = _
    unfold ExceptT.bind
    rfl
  unfold outcome
  rw [h, run_bind]
  rcases run w x.run s with ⟨_ | _, _⟩ <;> rfl

theorem outcome_bind_ok {x : ExceptT ε Dialogue α} {f : α → ExceptT ε Dialogue β} {a : α}
    (h : outcome w x s = (.ok a, s')) : outcome w (x >>= f) s = outcome w (f a) s' := by
  rw [outcome_bind, h]

theorem outcome_bind_error {x : ExceptT ε Dialogue α} {f : α → ExceptT ε Dialogue β} {e : ε}
    (h : outcome w x s = (.error e, s')) : outcome w (x >>= f) s = (.error e, s') := by
  rw [outcome_bind, h]

/-- What holds of the world after a step and is kept by what follows holds after both. -/
theorem outcome_bind_keeps {I : σ → Prop} {x : ExceptT ε Dialogue α} {f : α → ExceptT ε Dialogue β}
    (hx : I (outcome w x s).2) (hf : ∀ a s, I s → I (outcome w (f a) s).2) : I (outcome w (x >>= f) s).2 := by
  cases h : outcome w x s with
  | mk r s' =>
    rw [h] at hx
    cases r with
    | error e =>
      rw [outcome_bind_error h]
      exact hx
    | ok a =>
      rw [outcome_bind_ok h]
      exact hf a s' hx

theorem outcome_mk (x : Dialogue (Except ε α)) : outcome w (ExceptT.mk x) s = x.run w s := rfl

/-- Steps that leave the world alone and cannot fail have their results in order. -/
theorem outcome_mapM {f : α → ExceptT ε Dialogue β} {g : α → β} {as : List α}
    (h : ∀ a ∈ as, outcome w (f a) s = (.ok (g a), s)) : outcome w (as.mapM f) s = (.ok (as.map g), s) := by
  induction as with
  | nil => rw [List.mapM_nil]; rfl
  | cons a as ih =>
    rw [List.mapM_cons, outcome_bind_ok (h a List.mem_cons_self),
      outcome_bind_ok (ih fun b hb => h b (List.mem_cons_of_mem _ hb))]
    rfl

end Dialogue

/-! ## Commands -/

namespace Asking

variable {σ : Type} {w : World σ} {s : σ}

theorem outcome_command (c : Command) :
    Dialogue.outcome w (Asking.command c) s = w .active c s := rfl

end Asking

/-! ## What a dialogue asks -/

namespace Dialogue

variable {σ τ α β ε : Type} {P : Target → Command → Prop} {A : Except ClusterError Reply → Prop}

/-- The dialogue asks such commands only, and its result is such a one if all answers are. -/
def Obeys (P : Target → Command → Prop) (A : Except ClusterError Reply → Prop) (Q : α → Prop) :
    Dialogue α → Prop
  | done a => Q a
  | ask t c next => P t c ∧ ∀ r, A r → (next r).Obeys P A Q

theorem Obeys.bind {Q : α → Prop} {R : β → Prop} {x : Dialogue α} {f : α → Dialogue β}
    (hx : x.Obeys P A Q) (hf : ∀ a, Q a → (f a).Obeys P A R) : (x.bind f).Obeys P A R := by
  induction x with
  | done a => exact hf a hx
  | ask t c next ih => exact ⟨hx.1, fun r hr => ih r (hx.2 r hr)⟩

/-- Two worlds that answer alike what a dialogue asks, in states that belong together, give it the same
result. -/
theorem run_simulates (w₁ : World σ) (w₂ : World τ) {R : σ → τ → Prop}
    (h : ∀ t c s₁ s₂, P t c → R s₁ s₂ → (w₁ t c s₁).1 = (w₂ t c s₂).1 ∧ A (w₁ t c s₁).1 ∧
      R (w₁ t c s₁).2 (w₂ t c s₂).2)
    {Q : α → Prop} {x : Dialogue α} (hx : x.Obeys P A Q) {s : σ} {r : τ} (hs : R s r) :
    (x.run w₁ s).1 = (x.run w₂ r).1 ∧ Q (x.run w₁ s).1 ∧ R (x.run w₁ s).2 (x.run w₂ r).2 := by
  induction x generalizing s r with
  | done a => exact ⟨rfl, hx, hs⟩
  | ask t c next ih =>
    obtain ⟨h1, h2, h3⟩ := h t c s r hx.1 hs
    rw [run_ask, run_ask, ← h1]
    exact ih _ (hx.2 _ h2) h3

/-- The dialogue asks such commands only, and fails with such errors only. -/
def Fails (P : Target → Command → Prop) (A : Except ClusterError Reply → Prop) (E : ε → Prop)
    (x : ExceptT ε Dialogue α) : Prop :=
  Obeys P A (fun r : Except ε α => ∀ e, r = .error e → E e) x.run

variable {E : ε → Prop}

theorem Fails.pure (a : α) : Fails P A E (Pure.pure a : ExceptT ε Dialogue α) := by
  rintro e ⟨⟩

theorem Fails.throw {e : ε} (h : E e) : Fails P A E (MonadExcept.throw e : ExceptT ε Dialogue α) := by
  rintro _ ⟨⟩
  exact h

theorem Fails.bind {x : ExceptT ε Dialogue α} {f : α → ExceptT ε Dialogue β} (hx : Fails P A E x)
    (hf : ∀ a, Fails P A E (f a)) : Fails P A E (x >>= f) := by
  refine Obeys.bind hx fun r hr => ?_
  cases r with
  | ok a => exact hf a
  | error e => rintro _ ⟨⟩; exact hr e rfl

theorem Fails.ite {c : Prop} [Decidable c] {x y : ExceptT ε Dialogue α} (hx : Fails P A E x)
    (hy : Fails P A E y) : Fails P A E (if c then x else y) := by
  split
  · exact hx
  · exact hy

theorem Fails.mapM {f : α → ExceptT ε Dialogue β} {as : List α} (h : ∀ a ∈ as, Fails P A E (f a)) :
    Fails P A E (as.mapM f) := by
  induction as with
  | nil => rw [List.mapM_nil]; exact .pure _
  | cons a as ih =>
    rw [List.mapM_cons]
    exact (h a List.mem_cons_self).bind fun _ =>
      (ih fun b hb => h b (List.mem_cons_of_mem _ hb)).bind fun _ => .pure _

theorem Fails.ofExcept {y : Except ε α} (h : ∀ e, y = .error e → E e) :
    Fails P A E (ExceptT.mk (done y)) := h

theorem Fails.command {P : Target → Command → Prop} {A : Except ClusterError Reply → Prop}
    {E : ClusterError → Prop} {c : Command} (hc : P .active c) (hA : ∀ e, A (.error e) → E e) :
    Fails P A E (Asking.command c) :=
  ⟨hc, fun _ hr e he => hA e (he ▸ hr)⟩

/-- What such commands keep, a dialogue that asks no others keeps. -/
theorem Obeys.keeps {w : World σ} {I : σ → Prop} (h : ∀ t c s, P t c → I s → I (w t c s).2) {Q : α → Prop}
    {x : Dialogue α} (hx : x.Obeys P (fun _ => True) Q) {s : σ} (hs : I s) :
    Q (x.run w s).1 ∧ I (x.run w s).2 := by
  induction x generalizing s with
  | done a => exact ⟨hx, hs⟩
  | ask t c next ih => exact ih _ (hx.2 _ trivial) (h t c s hx.1 hs)

/-- The dialogue asks such commands only, whatever is answered, and comes to such a result if it does not
fail. -/
def Asks (P : Target → Command → Prop) (Q : α → Prop) (x : ExceptT ε Dialogue α) : Prop :=
  Obeys P (fun _ => True) (fun r : Except ε α => ∀ a, r = .ok a → Q a) x.run

section Asks

variable {P : Target → Command → Prop} {Q : α → Prop} {R : β → Prop}

theorem Asks.pure {a : α} (h : Q a) : Asks P Q (Pure.pure a : ExceptT ε Dialogue α) := by
  rintro _ ⟨⟩
  exact h

theorem Asks.throw (e : ε) : Asks P Q (MonadExcept.throw e : ExceptT ε Dialogue α) := by
  rintro _ ⟨⟩

theorem Asks.bind {x : ExceptT ε Dialogue α} {f : α → ExceptT ε Dialogue β} (hx : Asks P Q x)
    (hf : ∀ a, Q a → Asks P R (f a)) : Asks P R (x >>= f) := by
  refine Obeys.bind hx fun r hr => ?_
  cases r with
  | ok a => exact hf a (hr a rfl)
  | error e => rintro _ ⟨⟩

theorem Asks.mk {y : Except ε α} (h : ∀ a, y = .ok a → Q a) : Asks P Q (ExceptT.mk (done y)) := h

theorem Asks.command {c : Command} (hc : P .active c) : Asks P (fun _ => True) (Asking.command c) :=
  ⟨hc, fun _ _ _ _ => trivial⟩

theorem Asks.mono {Q' : α → Prop} {x : ExceptT ε Dialogue α} (hx : Asks P Q x) (h : ∀ a, Q a → Q' a) :
    Asks P Q' x := by
  rw [← bind_pure x]
  exact hx.bind fun a ha => .pure (h a ha)

theorem Asks.forM {f : β → ExceptT ε Dialogue PUnit} {bs : List β}
    (h : ∀ b ∈ bs, Asks P (fun _ => True) (f b)) : Asks P (fun _ => True) (bs.forM f) := by
  induction bs with
  | nil => exact .pure trivial
  | cons b bs ih =>
    rw [List.forM_eq_forM, List.forM_cons]
    exact (h b List.mem_cons_self).bind fun _ _ => ih fun b' hb => h b' (List.mem_cons_of_mem _ hb)

end Asks

/-- The dialogue fails at once when an answer is an error. -/
def Stops : Dialogue (Except ε α) → Prop
  | done _ => True
  | ask _ _ next => (∀ e, ∃ e', next (.error e) = done (.error e')) ∧ ∀ r, (next (.ok r)).Stops

section Stops

variable {ε' : Type}

theorem Stops.bind_of {x : Dialogue (Except ε α)} {f : Except ε α → Dialogue (Except ε' β)} (hx : x.Stops)
    (he : ∀ e, ∃ e', f (.error e) = done (.error e')) (hf : ∀ a, (f (.ok a)).Stops) : (x.bind f).Stops := by
  induction x with
  | done r =>
    cases r with
    | ok a => exact hf a
    | error e =>
      obtain ⟨e', h⟩ := he e
      show (f (.error e)).Stops
      rw [h]
      trivial
  | ask t c next ih =>
    refine ⟨fun e => ?_, fun r => ih _ (hx.2 r)⟩
    obtain ⟨e', h⟩ := hx.1 e
    obtain ⟨e'', h'⟩ := he e'
    refine ⟨e'', ?_⟩
    show (next (.error e)).bind f = _
    rw [h]
    exact h'

theorem Stops.pure (a : α) : Stops (Pure.pure a : ExceptT ε Dialogue α).run := trivial

theorem Stops.throw (e : ε) : Stops (MonadExcept.throw e : ExceptT ε Dialogue α).run := trivial

theorem Stops.bind {x : ExceptT ε Dialogue α} {f : α → ExceptT ε Dialogue β} (hx : Stops x.run)
    (hf : ∀ a, Stops (f a).run) : Stops (x >>= f).run :=
  Stops.bind_of hx (fun e => ⟨e, rfl⟩) hf

theorem Stops.ite {c : Prop} [Decidable c] {x y : ExceptT ε Dialogue α} (hx : Stops x.run) (hy : Stops y.run) :
    Stops (if c then x else y).run := by
  split
  · exact hx
  · exact hy

theorem Stops.mapM {f : α → ExceptT ε Dialogue β} {as : List α} (h : ∀ a ∈ as, Stops (f a).run) :
    Stops (as.mapM f).run := by
  induction as with
  | nil => rw [List.mapM_nil]; exact .pure _
  | cons a as ih =>
    rw [List.mapM_cons]
    exact (h a List.mem_cons_self).bind fun _ =>
      (ih fun b hb => h b (List.mem_cons_of_mem _ hb)).bind fun _ => .pure _

theorem Stops.command (c : Command) : Stops (Asking.command c).run := ⟨fun e => ⟨e, rfl⟩, fun _ => trivial⟩

/-- A dialogue that stops at the first error comes to what it comes to in another world that answers alike, or it
fails, and the last answer was an error. -/
theorem Stops.run (w₁ : World σ) (w₂ : World τ) {R : σ → τ → Prop} {E : σ → Prop} (hA : ∀ r, A (.ok r))
    (h : ∀ t c s₁ s₂, P t c → R s₁ s₂ →
      (∃ r, (w₁ t c s₁).1 = .ok r ∧ (w₂ t c s₂).1 = .ok r ∧ R (w₁ t c s₁).2 (w₂ t c s₂).2) ∨
        (∃ e, (w₁ t c s₁).1 = .error e) ∧ E (w₁ t c s₁).2)
    {Q : Except ε α → Prop} {x : Dialogue (Except ε α)} (hs : x.Stops) (hx : x.Obeys P A Q) {s : σ} {r : τ} (hR : R s r) :
    (x.run w₁ s).1 = (x.run w₂ r).1 ∧ R (x.run w₁ s).2 (x.run w₂ r).2 ∨
      (∃ e, (x.run w₁ s).1 = .error e) ∧ E (x.run w₁ s).2 := by
  induction x generalizing s r with
  | done a => exact .inl ⟨rfl, hR⟩
  | ask t c next ih =>
    rw [run_ask, run_ask]
    rcases h t c s r hx.1 hR with ⟨a, h1, h2, h3⟩ | ⟨⟨e, h1⟩, h2⟩
    · rw [h1, h2]
      exact ih _ (hs.2 a) (hx.2 _ (hA a)) h3
    · obtain ⟨e', he⟩ := hs.1 e
      rw [h1, he]
      exact .inr ⟨⟨e', rfl⟩, h2⟩

end Stops

end Dialogue

/-! ## Contexts -/

namespace Context

variable {σ κ α β : Type}

theorem step_bind (x : Step σ κ α) (f : α → Step σ κ β) (c : Context σ κ) :
    (x >>= f).run c = match x.run c with
      | (.ok a, c') => (f a).run c'
      | (.error e, c') => (.error e, c') := by
  show ExceptT.bind x f c = _
  unfold ExceptT.bind ExceptT.mk
  show (bind (m := StateM _) x (ExceptT.bindCont f)) c = _
  show (let r := x c; ExceptT.bindCont f r.1 r.2) = _
  show _ = match x c with
    | (.ok a, c') => (f a).run c'
    | (.error e, c') => (.error e, c')
  rcases x c with ⟨_ | _, _⟩ <;> rfl

theorem step_bind_ok {x : Step σ κ α} {f : α → Step σ κ β} {c c' : Context σ κ} {a : α}
    (h : x.run c = (.ok a, c')) : (x >>= f).run c = (f a).run c' := by
  rw [step_bind, h]

theorem step_bind_error {x : Step σ κ α} {f : α → Step σ κ β} {c c' : Context σ κ} {e : ClusterError}
    (h : x.run c = (.error e, c')) : (x >>= f).run c = (.error e, c') := by
  rw [step_bind, h]

theorem step_tryCatch (x : Step σ κ α) (f : ClusterError → Step σ κ α) (c : Context σ κ) :
    (tryCatch x f).run c = match x.run c with
      | (.ok a, c') => (.ok a, c')
      | (.error e, c') => (f e).run c' := by
  show ExceptT.tryCatch x f c = match x c with
    | (.ok a, c') => (.ok a, c')
    | (.error e, c') => (f e).run c'
  have hbind (h : Except ClusterError α → StateM (Context σ κ) (Except ClusterError α)) :
      (bind (m := StateM _) x h) c = h (x c).1 (x c).2 := rfl
  unfold ExceptT.tryCatch ExceptT.mk
  refine (hbind _).trans ?_
  rcases x c with ⟨_ | _, _⟩ <;> rfl

@[simp] theorem step_pure (a : α) (c : Context σ κ) : (pure a : Step σ κ α).run c = (.ok a, c) := rfl

@[simp] theorem step_throw (e : ClusterError) (c : Context σ κ) :
    (throw e : Step σ κ α).run c = (.error e, c) := rfl

@[simp] theorem step_get (c : Context σ κ) : (get : Step σ κ (Context σ κ)).run c = (.ok c, c) := rfl

@[simp] theorem step_set (c c' : Context σ κ) : (set c' : Step σ κ PUnit).run c = (.ok ⟨⟩, c') := rfl

theorem step_lift (y : Except ClusterError α) (c : Context σ κ) : (liftM y : Step σ κ α).run c = (y, c) := by
  cases y <;> rfl

variable [Server σ κ]

/-- A context as a world: each command is sent to whom it is for. -/
def world : World (Context σ κ) := fun t c s => (execTo t c).run s

theorem perform_eq_run (d : Dialogue α) (c : Context σ κ) : (perform d).run c = d.run world c := by
  induction d generalizing c with
  | done a => rfl
  | ask t cmd next ih =>
    rw [Dialogue.run_ask, perform, StateT.run_bind]
    exact ih _ _

end Context
end SlotSql.Cluster

/-! ## Steps of the engine and of a scan -/

namespace SlotSql

open Cluster Dialogue

variable {σ α β ε ε' : Type} {w : World σ} {s s' : σ} {x x' : Scan}

theorem Engine.outcome_ofAsking (y : Asking α) :
    outcome w (Engine.ofAsking y) s = ((outcome w y s).1.mapError ClusterError.toEngine, (outcome w y s).2) := by
  unfold Engine.ofAsking
  rw [outcome_mk, run_bind]
  show _ = (((y.run.run w s).1).mapError _, (y.run.run w s).2)
  rcases y.run.run w s with ⟨_ | _, _⟩ <;> rfl

theorem Engine.outcome_liftM (y : Asking α) :
    outcome w (liftM y : ExceptT EngineError Dialogue α) s =
      ((outcome w y s).1.mapError ClusterError.toEngine, (outcome w y s).2) := outcome_ofAsking y

theorem Engine.asks_liftM {P : Target → Command → Prop} {Q : α → Prop} {y : Asking α} (h : Asks P Q y) :
    Asks P Q (liftM y : ExceptT EngineError Dialogue α) := by
  refine Obeys.bind h fun r hr => ?_
  cases r with
  | ok a => rintro _ ⟨⟩; exact hr a rfl
  | error e => rintro _ ⟨⟩

theorem Engine.outcome_liftExcept (y : Except EngineError α) :
    outcome w (liftM y : ExceptT EngineError Dialogue α) s = (y, s) := by
  cases y <;> rfl

theorem OnRow.outcome_ofAsking (y : Asking α) :
    outcome w (OnRow.ofAsking y) s = ((outcome w y s).1.mapError RowError.ofCluster, (outcome w y s).2) := by
  unfold OnRow.ofAsking
  rw [outcome_mk, run_bind]
  show _ = (((y.run.run w s).1).mapError _, (y.run.run w s).2)
  rcases y.run.run w s with ⟨_ | _, _⟩ <;> rfl

theorem OnRow.outcome_liftM (y : Asking α) :
    outcome w (liftM y : ExceptT RowError Dialogue α) s =
      ((outcome w y s).1.mapError RowError.ofCluster, (outcome w y s).2) := outcome_ofAsking y

namespace Scanning

/-- What a step of a scan comes to: its result, the scan and the world afterwards. -/
def outcome (w : World σ) (act : ExceptT ε (StateT Scan Dialogue) α) (x : Scan) (s : σ) :
    Except ε α × Scan × σ :=
  let r := (act.run.run x).run w s
  (r.1.1, r.1.2, r.2)

@[simp] theorem outcome_pure (a : α) :
    outcome w (pure a : ExceptT ε (StateT Scan Dialogue) α) x s = (.ok a, x, s) := rfl

@[simp] theorem outcome_throw (e : ε) :
    outcome w (throw e : ExceptT ε (StateT Scan Dialogue) α) x s = (.error e, x, s) := rfl

theorem outcome_bind (act : ExceptT ε (StateT Scan Dialogue) α)
    (f : α → ExceptT ε (StateT Scan Dialogue) β) :
    outcome w (act >>= f) x s = match outcome w act x s with
      | (.ok a, x', s') => outcome w (f a) x' s'
      | (.error e, x', s') => (.error e, x', s') := by
  have h : (act >>= f).run.run x = Dialogue.bind (act.run.run x) fun
      | (.ok a, x') => (f a).run.run x'
      | (.error e, x') => .done (.error e, x') := by
    show Dialogue.bind (act.run.run x) _ = _
    congr 1
    funext r
    rcases r with ⟨_ | _, _⟩ <;> rfl
  unfold outcome
  rw [h, run_bind]
  rcases Dialogue.run w (act.run.run x) s with ⟨⟨_ | _, _⟩, _⟩ <;> rfl

theorem outcome_bind_ok {act : ExceptT ε (StateT Scan Dialogue) α}
    {f : α → ExceptT ε (StateT Scan Dialogue) β} {a : α}
    (h : outcome w act x s = (.ok a, x', s')) :
    outcome w (act >>= f) x s = outcome w (f a) x' s' := by
  rw [outcome_bind, h]

theorem outcome_bind_error {act : ExceptT ε (StateT Scan Dialogue) α}
    {f : α → ExceptT ε (StateT Scan Dialogue) β} {e : ε}
    (h : outcome w act x s = (.error e, x', s')) :
    outcome w (act >>= f) x s = (.error e, x', s') := by
  rw [outcome_bind, h]

@[simp] theorem outcome_get :
    outcome w (get : ExceptT ε (StateT Scan Dialogue) Scan) x s = (.ok x, x, s) := rfl

@[simp] theorem outcome_set :
    outcome w (set x' : ExceptT ε (StateT Scan Dialogue) PUnit) x s = (.ok ⟨⟩, x', s) := rfl

@[simp] theorem outcome_modify (f : Scan → Scan) :
    outcome w (modify f : ExceptT ε (StateT Scan Dialogue) PUnit) x s = (.ok ⟨⟩, f x, s) := rfl

theorem outcome_mk (y : Except ε α) :
    outcome w (ExceptT.mk (pure y) : ExceptT ε (StateT Scan Dialogue) α) x s = (y, x, s) := rfl

theorem outcome_lift (y : Dialogue (Except ε α)) :
    outcome w (ExceptT.mk (StateT.lift y)) x s = ((y.run w s).1, x, (y.run w s).2) := by
  show (let r := Dialogue.run w (StateT.lift y x) s; (r.1.1, r.1.2, r.2)) = _
  unfold StateT.lift
  rw [run_monad_bind]
  rfl

theorem outcome_ofEngine (y : Engine α) :
    outcome w (ofEngine y) x s = ((Dialogue.outcome w y s).1, x, (Dialogue.outcome w y s).2) :=
  outcome_lift _

theorem outcome_attempt (act : ExceptT ε (StateT Scan Dialogue) α) :
    outcome w (attempt act) x s =
      (.ok (outcome w act x s).1, (outcome w act x s).2.1, (outcome w act x s).2.2) := by
  have h : (attempt act).run.run x =
      Dialogue.bind (act.run.run x) fun r => .done (.ok r.1, r.2) := rfl
  unfold outcome
  rw [h, run_bind]
  rfl

/-- Steps on rows of their own leave the other rows alone. -/
theorem outcome_onFreshRows {rows : Rows} {act : Scanning α} {r : Except EngineError α}
    (h : outcome w act { x with rows } s = (r, x', s')) :
    outcome w (ScanEnv.onFreshRows rows act) x s =
      (r.map fun a => (a, x'.rows), { x' with rows := x.rows }, s') := by
  unfold ScanEnv.onFreshRows
  rw [outcome_bind_ok outcome_get, outcome_bind_ok (outcome_modify _),
    outcome_bind_ok ((outcome_attempt _).trans (by rw [h])), outcome_bind_ok outcome_get,
    outcome_bind_ok (outcome_modify _)]
  cases r <;> rfl

/-- Steps of a scan on their own, whose progress is forgotten. -/
theorem outcome_alone {act : Scanning α} {r : Except EngineError α} (h : outcome w act x s = (r, x', s')) :
    Dialogue.outcome w (ExceptT.mk (Prod.fst <$> act.run.run x) : Engine α) s = (r, s') := by
  rw [Dialogue.outcome_mk, map_eq_pure_bind, run_monad_bind]
  unfold outcome at h
  injection h with h h'
  injection h' with h' h''
  exact Prod.ext h h''

end Scanning
end SlotSql

/-! ## Reading replies -/

namespace SlotSql.Cluster.Asking

open Dialogue

variable {σ : Type} {w : World σ} {s s' : σ}

/-- The reply that holds a page of keys. -/
def Page.reply (q : Page) : Reply := .array [.ofText (toString q.cursor), .array (q.keys.map .ofText)]

/-- A lifted value or error. -/
theorem outcome_liftExcept {α : Type} (y : Except ClusterError α) :
    outcome w (liftM y : Asking α) s = (y, s) := by
  cases y <;> rfl

theorem text?_ofText (t : String) : (Reply.ofText t).text? = some t := by
  show some (Utf8.decodeLossy (Utf8.bytes t)) = some t
  rw [Utf8.decodeLossy_bytes]

theorem toText?_ofText (name t : String) : (Reply.ofText t).toText? name = .ok (some t) := by
  show Except.ok (some (Utf8.decodeLossy (Utf8.bytes t))) = _
  rw [Utf8.decodeLossy_bytes]

theorem outcome_textItems (name : String) (ts : List String) :
    outcome w (textItems name (ts.map .ofText)) s = (.ok ts, s) := by
  have h : outcome w ((ts.map Reply.ofText).mapM fun r => (liftM (r.toText? name) : Asking (Option String))) s =
      (.ok (ts.map some), s) := by
    rw [List.mapM_map]
    refine outcome_mapM fun t _ => ?_
    show outcome w (liftM ((Reply.ofText t).toText? name) : Asking (Option String)) s = _
    rw [toText?_ofText, outcome_liftExcept]
  unfold textItems
  rw [outcome_bind_ok h, outcome_pure, List.filterMap_map]
  show (Except.ok (ts.filterMap some), s) = _
  rw [List.filterMap_some]

/-- A page of keys is read as it was sent. -/
theorem outcome_scan {i cursor count : Nat} {pattern : String} {q : Page} (hq : q.cursor ≤ Number.max64)
    (h : w (.node i) (.scan cursor pattern count) s = (.ok q.reply, s')) :
    outcome w (scan i cursor pattern count) s = (.ok q, s') := by
  unfold scan
  have hc : outcome w (commandOn i (.scan cursor pattern count)) s = (.ok q.reply, s') := h
  rw [outcome_bind_ok hc, Page.reply, Reply.toArray, outcome_bind_ok (outcome_liftExcept _)]
  simp only [text?_ofText, Option.bind_some, Number.nat64?_toString hq, Reply.toArray]
  rw [outcome_bind_ok (outcome_liftExcept _), outcome_bind_ok (outcome_textItems _ _)]
  rfl

/-- Whatever the cursor of a page is, its keys are read as they were sent, if they are read. -/
theorem outcome_scan_keys {i cursor count : Nat} {pattern : String} {r : Except ClusterError Reply}
    {P : List String → Prop} (h : w (.node i) (.scan cursor pattern count) s = (r, s'))
    (hr : (∃ q : Page, r = .ok q.reply ∧ P q.keys) ∨ ∃ e, r = .error e) :
    ∃ r', outcome w (scan i cursor pattern count) s = (r', s') ∧ ∀ q, r' = .ok q → P q.keys := by
  have hc : outcome w (commandOn i (.scan cursor pattern count)) s = (r, s') := h
  unfold scan
  rcases hr with ⟨q, rfl, hq⟩ | ⟨e, rfl⟩
  · rw [outcome_bind_ok hc, Page.reply, Reply.toArray, outcome_bind_ok (outcome_liftExcept _)]
    simp only [text?_ofText, Option.bind_some, Reply.toArray]
    cases Number.nat64? (toString q.cursor) with
    | none => exact ⟨_, rfl, by rintro _ ⟨⟩⟩
    | some n =>
      simp only []
      rw [outcome_bind_ok (outcome_liftExcept _), outcome_bind_ok (outcome_textItems _ _)]
      refine ⟨_, rfl, ?_⟩
      rintro _ ⟨⟩
      exact hq
  · exact ⟨.error e, outcome_bind_error hc, by rintro _ ⟨⟩⟩

end SlotSql.Cluster.Asking
