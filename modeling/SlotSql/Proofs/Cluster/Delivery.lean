import SlotSql.Proofs.Store.Words
import SlotSql.Proofs.World
/-!
# Delivering a command

What sending and delivering a command come to, in terms of what the server answers: an error ends the delivery, a
redirection is followed once, a demand for the password is met once, and any other reply is the result. So a delivery depends
on the routes of a context and on what is sent alone: contexts over which the same is sent are delivered to alike.

Results:
* `connection_run`: a connection that is not open is opened.
* `send_run`: a command is sent over the connection to a node, which is dropped if it fails.
* `deliver_run`: one round of a delivery.
* `Paired.deliver`: contexts with the same routes that send alike deliver alike.
-/
namespace SlotSql.Cluster.Context

variable {σ κ : Type} [Server σ κ] {c c' : Context σ κ} {cmd : Command} {r : Reply} {i : Nat}
  {track m a : Bool}

/-- The connection that is left after an answer: none if it failed. -/
def keptLink (k : κ) : Except ClusterError Reply → Option κ
  | .ok _ => some k
  | .error e => if e.isConnectionError then none else some k

theorem connection_run (i : Nat) (c : Context σ κ) : (connection i).run c =
    match c.topology.node i, c.connections[i]? with
    | .error e, _ => (.error e, c)
    | .ok n, none => (.error (.unknownNode n.addr), c)
    | .ok _, some (some k) => (.ok k, c)
    | .ok n, some none =>
      match Server.connect n c.server with
      | (.error e, s) => (.error e, { c with server := s })
      | (.ok k, s) => (.ok k, { c with server := s }.setConnection i (some k)) := by
  unfold connection
  rw [step_bind_ok (step_get c), step_bind, step_lift]
  cases c.topology.node i with
  | error e => rfl
  | ok n =>
    rcases c.connections[i]? with _ | _ | k
    · rfl
    · simp only []
      rcases Server.connect n c.server with ⟨_ | _, _⟩ <;> rfl
    · rfl

theorem send_run (i : Nat) (cmd : Command) (c : Context σ κ) : (send i cmd).run c =
    match (connection i).run c with
    | (.error e, c') => (.error e, c')
    | (.ok l, c') =>
      match Server.execute l cmd c'.server with
      | (res, k, s) => (res, { c' with server := s }.setConnection i (keptLink k res)) := by
  unfold send
  rw [step_bind]
  rcases (connection i).run c with ⟨_ | l, c'⟩
  · rfl
  · simp only []
    rw [step_bind_ok (step_get c')]
    rcases Server.execute l cmd c'.server with ⟨_ | _, _, _⟩ <;> rfl

theorem send_of_execute {l k : κ} {res : Except ClusterError Reply} {s : σ} (h : (connection i).run c = (.ok l, c'))
    (he : Server.execute l cmd c'.server = (res, k, s)) :
    (send i cmd).run c = (res, { c' with server := s }.setConnection i (keptLink k res)) := by
  rw [send_run, h]
  simp only [he]

/-- A context that goes on with the node that a redirection names. -/
def followed (track : Bool) (t : Nat) (c : Context σ κ) : Context σ κ := if track then { c with active := t } else c

omit [Server σ κ] in
theorem follow_run (track : Bool) (q : Redirect) (c : Context σ κ) : (follow track q : Step σ κ Nat).run c =
    match c.topology.config.find? q.host q.port with
    | none => (.error (.redirect q.addr "node is not configured"), c)
    | some t => (.ok t, followed track t c) := by
  unfold follow
  rw [step_bind_ok (step_get c)]
  cases c.topology.config.find? q.host q.port with
  | none => rfl
  | some t => cases track <;> rfl

/-- One round of a delivery. -/
theorem deliver_run (track m a : Bool) (i : Nat) (cmd : Command) (c : Context σ κ) :
    (deliver track m a i cmd).run c = match (send i cmd).run c with
      | (.error e, c') => (.error e, c')
      | (.ok r, c') =>
        match r.redirect? with
        | some q =>
          if m = true then (.error (.redirect q.addr "redirected more than once"), c')
          else
            match c'.topology.config.find? q.host q.port with
            | none => (.error (.redirect q.addr "node is not configured"), c')
            | some t => (deliver track true a t cmd).run (followed track t c')
        | none =>
          if r.isNoAuth = true ∧ a = false then (authenticate i >>= fun _ => deliver track m true i cmd).run c'
          else (r.answer, c') := by
  rw [deliver, step_bind]
  rcases (send i cmd).run c with ⟨_ | r, c'⟩
  · rfl
  · simp only []
    cases r.redirect? with
    | some q =>
      simp only []
      split
      · rfl
      · rw [step_bind, follow_run]
        cases c'.topology.config.find? q.host q.port <;> rfl
    | none =>
      simp only []
      split
      · rfl
      · cases r <;> rfl

theorem deliver_of_answer (h : (send i cmd).run c = (.ok r, c')) (hr : r.redirect? = none)
    (hn : r.isNoAuth = false) : (deliver track m a i cmd).run c = (r.answer, c') := by
  rw [deliver_run, h]
  simp only [hr, hn, Bool.false_eq_true, false_and, ↓reduceIte]

theorem deliver_of_redirect {q : Redirect} {t : Nat} (h : (send i cmd).run c = (.ok r, c'))
    (hr : r.redirect? = some q) (ht : c'.topology.config.find? q.host q.port = some t) :
    (deliver true false a i cmd).run c = (deliver true true a t cmd).run { c' with active := t } := by
  rw [deliver_run, h]
  simp only [hr, ht, Bool.false_eq_true, ↓reduceIte]
  rfl

theorem deliver_of_refusal {c'' : Context σ κ} (h : (send i cmd).run c = (.ok r, c')) (hr : r.redirect? = none)
    (hn : r.isNoAuth = true) (ha : (authenticate i).run c' = (.ok (), c'')) :
    (deliver track m false i cmd).run c = (deliver track m true i cmd).run c'' := by
  rw [deliver_run, h]
  simp only [hr, hn, and_self, ↓reduceIte]
  exact step_bind_ok ha

theorem deliver_of_refusal_again (h : (send i cmd).run c = (.ok r, c')) (hr : r.redirect? = none) :
    (deliver track m true i cmd).run c = (r.answer, c') := by
  rw [deliver_run, h]
  simp only [hr, Bool.true_eq_false, and_false, ↓reduceIte]

theorem deliver_of_error {e : ClusterError} (h : (send i cmd).run c = (.error e, c')) :
    (deliver track m a i cmd).run c = (.error e, c') := by
  rw [deliver_run, h]

/-- The node that a command is for. -/
def addressee (c : Context σ κ) : Target → Nat
  | .active => c.active
  | .node i => i

theorem execTo_run (t : Target) (cmd : Command) (c : Context σ κ) :
    (execTo t cmd).run c = (dispatch (t = .active) (addressee c t) cmd).run c := by
  cases t with
  | active => exact step_bind_ok (step_get c)
  | node i => rfl

/-! ## Steps that go together -/

variable {α β σ' κ' : Type} {R : Context σ κ → Context σ' κ' → Prop}

/-- From contexts that belong together, two steps come to the same and leave contexts that belong together. -/
def InStep (R : Context σ κ → Context σ' κ' → Prop) (x : Step σ κ α) (y : Step σ' κ' α) : Prop :=
  ∀ c c', R c c' → (y.run c').1 = (x.run c).1 ∧ R (x.run c).2 (y.run c').2

namespace InStep

omit [Server σ κ]

theorem pure (a : α) : InStep R (Pure.pure a) (Pure.pure a) := fun _ _ h => ⟨rfl, h⟩

theorem throw (e : ClusterError) : InStep R (MonadExcept.throw e : Step σ κ α) (MonadExcept.throw e) :=
  fun _ _ h => ⟨rfl, h⟩

theorem ofExcept (v : Except ClusterError α) : InStep R (liftM v) (liftM v) := by
  cases v with
  | ok a => exact .pure a
  | error e => exact .throw e

theorem modify {f : Context σ κ → Context σ κ} {g : Context σ' κ' → Context σ' κ'} (h : ∀ c c', R c c' → R (f c) (g c')) :
    InStep R (modify f) (modify g) := fun c c' hc => ⟨rfl, h c c' hc⟩

variable {x : Step σ κ α} {y : Step σ' κ' α}

theorem bind {f : α → Step σ κ β} {g : α → Step σ' κ' β} (hx : InStep R x y) (hf : ∀ a, InStep R (f a) (g a)) :
    InStep R (x >>= f) (y >>= g) := by
  intro c c' hc
  obtain ⟨hr, hkept⟩ := hx c c' hc
  rw [step_bind, step_bind]
  rcases hxc : x.run c with ⟨rx, cx⟩
  rcases hyc : y.run c' with ⟨ry, cy⟩
  rw [hxc, hyc] at hr hkept
  cases hr
  cases rx with
  | ok a => exact hf a cx cy hkept
  | error e => exact ⟨rfl, hkept⟩

theorem bind_get {f : Context σ κ → Step σ κ β} {g : Context σ' κ' → Step σ' κ' β}
    (h : ∀ c c', R c c' → InStep R (f c) (g c')) : InStep R (get >>= f) (get >>= g) := by
  intro c c' hc
  rw [step_bind_ok (step_get c), step_bind_ok (step_get c')]
  exact h c c' hc c c' hc

theorem tryCatch {f : ClusterError → Step σ κ α} {g : ClusterError → Step σ' κ' α} (hx : InStep R x y)
    (hf : ∀ e, InStep R (f e) (g e)) : InStep R (MonadExcept.tryCatch x f) (MonadExcept.tryCatch y g) := by
  intro c c' hc
  obtain ⟨hr, hkept⟩ := hx c c' hc
  rw [step_tryCatch, step_tryCatch]
  rcases hxc : x.run c with ⟨rx, cx⟩
  rcases hyc : y.run c' with ⟨ry, cy⟩
  rw [hxc, hyc] at hr hkept
  cases hr
  cases rx with
  | ok a => exact ⟨rfl, hkept⟩
  | error e => exact hf e cx cy hkept

theorem mapM {f : α → Step σ κ β} {g : α → Step σ' κ' β} (h : ∀ a, InStep R (f a) (g a)) (as : List α) :
    InStep R (as.mapM f) (as.mapM g) := by
  induction as with
  | nil => exact .pure []
  | cons a as ih =>
    rw [List.mapM_cons, List.mapM_cons]
    exact (h a).bind fun b => ih.bind fun bs => .pure (b :: bs)

end InStep

variable [Server σ' κ']

/-- Contexts that belong together have the same routes, whichever node is active, and send alike. -/
structure Paired (R : Context σ κ → Context σ' κ' → Prop) : Prop where
  config : ∀ c c', R c c' → c'.topology.config = c.topology.config
  active : ∀ c c', R c c' → c'.active = c.active
  activate : ∀ c c' k, R c c' → R { c with active := k } { c' with active := k }
  send : ∀ i cmd, InStep R (send i cmd) (send i cmd)

namespace Paired

theorem follow (h : Paired R) (track : Bool) (q : Redirect) :
    InStep R (Context.follow track q : Step σ κ Nat) (Context.follow track q) := by
  refine .bind_get fun c c' hc => ?_
  rw [h.config c c' hc]
  cases c.topology.config.find? q.host q.port with
  | none => exact .throw _
  | some t =>
    cases track with
    | false => exact .pure t
    | true => exact (InStep.modify fun c c' hc => h.activate c c' t hc).bind fun _ => .pure t

theorem authenticate (h : Paired R) (i : Nat) : InStep R (Context.authenticate i) (Context.authenticate i) := by
  refine .bind_get fun c c' hc => ?_
  rw [h.config c c' hc]
  cases c.topology.config.passwordFor i with
  | none => exact .throw _
  | some p =>
    refine (h.send i (.auth p)).bind fun r => ?_
    split
    · exact .throw _
    · exact .pure ()

theorem deliver (h : Paired R) (track moved authed : Bool) (i : Nat) (cmd : Command) :
    InStep R (Context.deliver track moved authed i cmd) (Context.deliver track moved authed i cmd) := by
  induction moved, authed, i using deliver.induct with
  | case1 moved authed i redirected refused =>
    rw [Context.deliver.eq_def (σ := σ), Context.deliver.eq_def (σ := σ')]
    refine (h.send i cmd).bind fun reply => ?_
    split
    · split
      · exact .throw _
      · next hmoved => exact (h.follow track _).bind fun target => redirected hmoved target
    · split
      · next hauth => exact (h.authenticate i).bind fun _ => refused reply hauth
      · split
        · exact .throw _
        · exact .pure _

variable {cmd : Command}

/-- Such contexts carry out a command alike if they find it acceptable alike. -/
theorem dispatch (h : Paired R) (hv : ∀ c c', R c c' → cmd.validate c'.maxArgs = cmd.validate c.maxArgs) (track : Bool)
    (i : Nat) : InStep R (Context.dispatch track i cmd) (Context.dispatch track i cmd) := by
  refine .bind_get fun c c' hc => ?_
  rw [hv c c' hc]
  exact (InStep.ofExcept _).bind fun _ => h.deliver track false false i cmd

theorem execTo (h : Paired R) (hv : ∀ c c', R c c' → cmd.validate c'.maxArgs = cmd.validate c.maxArgs) (t : Target) :
    InStep R (Context.execTo t cmd) (Context.execTo t cmd) := by
  cases t with
  | active =>
    refine .bind_get fun c c' hc => ?_
    rw [h.active c c' hc]
    exact h.dispatch hv true c.active
  | node i => exact h.dispatch hv false i

theorem info (h : Paired R) {part : Option String}
    (hv : ∀ c c', R c c' → (Command.info part).validate c'.maxArgs = (Command.info part).validate c.maxArgs) {i : Nat}
    (hcache : ∀ c c' name s, R c c' →
      R { c with topology := c.topology.cacheInfo i name s } { c' with topology := c'.topology.cacheInfo i name s }) :
    InStep R (Context.info i part) (Context.info i part) := by
  refine (h.dispatch hv false i).bind fun reply => (InStep.ofExcept _).bind fun text => ?_
  exact (InStep.modify fun c c' hc => hcache c c' _ _ hc).bind fun _ => .pure _

end Paired

end SlotSql.Cluster.Context
