import Mathlib.Data.List.Chain
import SlotSql.Cluster.Transcript
import SlotSql.Proofs.Cluster.Watch
/-!
# Retries

A server may answer anything: redirect without end, demand passwords without end, fail at any step. A command is sent at most
three times for all that: because it was asked for, because it has been redirected, and because the password has been
accepted. The password itself is sent at most once.

What is exchanged for one command is a list of exchanges, each with what it was for. An exchange follows another one only for a
reason that lies in the answer of that one. Nothing is assumed of the server, of its connections, or of the state that the
context starts from.

Results:
* `deliver_conversation`: what is exchanged for one command, and which node is active afterwards.
* `retries_bounded`: the bounds for every command, and that no connection that has broken is used again by any calls.
-/
namespace SlotSql.Cluster

/-- What a command is sent for: because it was asked for, or to meet a demand for the password. -/
inductive Errand where
  | command
  | password
  deriving DecidableEq

namespace Exchange

/-- The redirection that was answered. -/
def moved? (x : Exchange) : Option Redirect :=
  match x.answer with
  | .ok r => r.redirect?
  | .error _ => none

/-- Whether the password was demanded. -/
def Refused (x : Exchange) : Prop := ∃ r, x.answer = .ok r ∧ r.isNoAuth = true

/-- Whether the answer is no error. -/
def Accepted (x : Exchange) : Prop := ∃ r, x.answer = .ok r ∧ ∀ m, r ≠ .error m

theorem not_accepted_of_lost {x : Exchange} {e : ClusterError} (h : x.answer = .error e) : ¬ x.Accepted := by
  rintro ⟨r, hr, -⟩
  cases h.symm.trans hr

theorem not_accepted_of_error {x : Exchange} {m : String} (h : x.answer = .ok (.error m)) : ¬ x.Accepted := by
  rintro ⟨r, hr, hne⟩
  exact hne m (Except.ok.inj (hr.symm.trans h))

theorem not_accepted_of_moved {x : Exchange} {q : Redirect} (h : x.moved? = some q) : ¬ x.Accepted := by
  rintro ⟨r, hr, hne⟩
  rw [moved?, hr] at h
  cases r with
  | error m => exact hne m rfl
  | _ => cases h

theorem Refused.not_accepted {x : Exchange} (h : x.Refused) : ¬ x.Accepted := by
  obtain ⟨r, hr, hnoauth⟩ := h
  cases r with
  | error m => exact not_accepted_of_error hr
  | _ => cases hnoauth

end Exchange

/-- Why an exchange follows another one: the command is sent again to the node that the answer names; or the password is
sent to the node that demands it, and then the command to the node that has accepted it. -/
def Follows (t : Config) : Errand × Exchange → Errand × Exchange → Prop
  | (.command, x), (.command, y) =>
    ∃ q k, x.moved? = some q ∧ t.find? q.host q.port = some k ∧ y.node = t.nodes[k]?
  | (.command, x), (.password, y) => x.Refused ∧ y.node = x.node
  | (.password, x), (.command, y) => x.Accepted ∧ y.node = x.node
  | (.password, _), (.password, _) => False

/-- The exchange is with a configured node, and sends it the command or the password for the node. -/
def Sent (t : Config) (cmd : Command) (x : Errand × Exchange) : Prop := ∃ j n, t.nodes[j]? = some n ∧ x.2.node = some n ∧
  match x.1 with
  | .command => x.2.cmd = cmd
  | .password => ∃ p, t.passwordFor j = some p ∧ x.2.cmd = .auth p

/-- What is exchanged for a command to a node, first one first. -/
structure Conversation (t : Config) (i : Nat) (cmd : Command) (xs : List (Errand × Exchange)) : Prop where
  sent : ∀ x ∈ xs, Sent t cmd x
  begins : ∀ x ∈ xs.head?, x.1 = .command ∧ x.2.node = t.nodes[i]?
  chain : xs.IsChain (Follows t)

/-- What comes of a conversation is the last answer if that is one to the command and no error; else it fails. -/
def Concludes (xs : List (Errand × Exchange)) (result : Except ClusterError Reply) : Prop := ∀ r, result = .ok r ↔
  (∀ m, r ≠ .error m) ∧ ∃ x, xs.getLast? = some (.command, x) ∧ x.answer = .ok r

/-- How often something has been sent for an errand. -/
def times (e : Errand) (xs : List (Errand × Exchange)) : Nat := (xs.map Prod.fst).count e

/-- The node that the first redirection of the command names. -/
def landing (t : Config) (xs : List (Errand × Exchange)) : Option Nat :=
  (xs.findSome? fun x => if x.1 = .command then x.2.moved? else none).bind fun q => t.find? q.host q.port

section Conversation

variable {t : Config} {i k : Nat} {cmd : Command} {result : Except ClusterError Reply} {xs ys : List (Errand × Exchange)}
  {x y : Exchange} {q : Redirect}

namespace Conversation

theorem unsent : Conversation t i cmd [] := ⟨nofun, nofun, .nil⟩

/-- The command has been sent, and nothing after it. -/
theorem once (hx : Sent t cmd (.command, x)) (hi : x.node = t.nodes[i]?) : Conversation t i cmd [(.command, x)] := by
  refine ⟨List.forall_mem_singleton.2 hx, fun z hz => ?_, List.isChain_singleton _⟩
  obtain rfl := Option.mem_some_iff.1 hz
  exact ⟨rfl, hi⟩

/-- The command has been sent, then the password, and nothing after it. -/
theorem twice (hx : Sent t cmd (.command, x)) (hi : x.node = t.nodes[i]?) (hr : x.Refused)
    (hy : Sent t cmd (.password, y)) (hn : y.node = x.node) :
    Conversation t i cmd [(.command, x), (.password, y)] := by
  refine ⟨List.forall_mem_cons.2 ⟨hx, List.forall_mem_singleton.2 hy⟩, fun z hz => ?_, List.isChain_pair.2 ⟨hr, hn⟩⟩
  obtain rfl := Option.mem_some_iff.1 hz
  exact ⟨rfl, hi⟩

/-- What has been exchanged gives a reason to send the command to a node, and so it goes on. -/
theorem append (h : Conversation t i cmd xs) (hne : xs ≠ []) (h' : Conversation t k cmd ys)
    (hf : ∀ x ∈ xs.getLast?, ∀ y : Exchange, y.node = t.nodes[k]? → Follows t x (.command, y)) :
    Conversation t i cmd (xs ++ ys) := by
  refine ⟨List.forall_mem_append.2 ⟨h.sent, h'.sent⟩, fun x hx => h.begins x ?_,
    List.isChain_append.2 ⟨h.chain, h'.chain, fun x hx y hy => ?_⟩⟩
  · rwa [List.head?_append_of_ne_nil xs hne] at hx
  · obtain ⟨hcommand, hnode⟩ := h'.begins y hy
    rw [show y = (.command, y.2) from Prod.ext hcommand rfl]
    exact hf x hx y.2 hnode

end Conversation

/-- The last exchange is none that ends a delivery well. -/
def Unanswered (xs : List (Errand × Exchange)) : Prop := ∀ x, xs.getLast? = some (.command, x) → ¬ x.Accepted

theorem Unanswered.nil : Unanswered [] := nofun

theorem Unanswered.once (h : ¬ x.Accepted) : Unanswered [(.command, x)] := by
  intro z hz
  cases hz
  exact h

theorem Unanswered.twice : Unanswered [(.command, x), (.password, y)] := nofun

theorem Unanswered.concludes (h : Unanswered xs) (e : ClusterError) : Concludes xs (.error e) :=
  fun r => ⟨nofun, fun ⟨hr, x, hx, ha⟩ => absurd ⟨r, ha, hr⟩ (h x hx)⟩

theorem Unanswered.append (h : Unanswered xs) (h' : Concludes ys result) : Concludes (xs ++ ys) result := by
  intro r
  cases hy : ys.getLast? with
  | none =>
    obtain rfl := List.getLast?_eq_none_iff.1 hy
    rw [List.append_nil]
    refine ⟨fun hr => ?_, fun ⟨hr, z, hz, ha⟩ => absurd ⟨r, ha, hr⟩ (h z hz)⟩
    obtain ⟨-, z, hz, -⟩ := (h' r).1 hr
    cases hz
  | some z => rw [List.getLast?_append, hy, h' r, hy, Option.some_or]

theorem Concludes.answered {r : Reply} (ha : x.answer = .ok r) : Concludes [(.command, x)] r.answer := by
  have hgood (hr : ∀ m, r ≠ .error m) : Concludes [(.command, x)] (.ok r) := by
    refine fun r' => ⟨fun h => ?_, fun ⟨_, z, hz, ha'⟩ => ?_⟩
    · cases h
      exact ⟨hr, x, rfl, ha⟩
    · cases hz
      exact ha.symm.trans ha'
  cases r with
  | error m => exact (Unanswered.once (Exchange.not_accepted_of_error ha)).concludes _
  | _ => exact hgood fun _ h => by cases h

theorem times_append (e : Errand) : times e (xs ++ ys) = times e xs + times e ys := by
  unfold times
  rw [List.map_append, List.count_append]

theorem landing_of_moved (h : x.moved? = some q) (xs : List (Errand × Exchange)) :
    landing t ((.command, x) :: xs) = t.find? q.host q.port := by
  simp only [landing, List.findSome?_cons, h, ↓reduceIte, Option.bind_some]

theorem landing_of_not_moved (h : x.moved? = none) (xs : List (Errand × Exchange)) :
    landing t ((.command, x) :: xs) = landing t xs := by
  simp only [landing, List.findSome?_cons, h, ↓reduceIte]

theorem landing_password (y : Exchange) (xs : List (Errand × Exchange)) :
    landing t ((.password, y) :: xs) = landing t xs := by
  simp only [landing, List.findSome?_cons, reduceCtorEq, ↓reduceIte]

end Conversation

namespace Context

variable {σ κ : Type} {c c₁ c₂ : Context (Watched σ) (Line κ)} {track m a : Bool} {i k : Nat} {cmd : Command} {x y : Exchange}
  {q : Redirect} {e : ClusterError} {result : Except ClusterError Reply}
  {p : Except ClusterError Reply × Context (Watched σ) (Line κ)} {reached reached' : Prop}

theorem Tended.followed (h : c.Tended) (track : Bool) (k : Nat) : (followed track k c).Tended := by
  cases track
  · exact h
  · exact h.congr rfl rfl rfl rfl

/-- What is exchanged for a command to a node if it may be redirected and a password may be sent, each unless that has been
done before: the conversation and its bounds, what comes of it, and the active node afterwards. If the node can be reached,
there is one. -/
def Delivers (track m a : Bool) (i : Nat) (cmd : Command) (reached : Prop) (c : Context (Watched σ) (Line κ))
    (p : Except ClusterError Reply × Context (Watched σ) (Line κ)) : Prop := ∃ xs,
  (reached → xs ≠ []) ∧ Conversation c.topology.config i cmd xs ∧ Concludes xs p.1 ∧ Proceeded c p.2 (xs.map Prod.snd) ∧
  times .command xs ≤ 1 + (!m).toNat + (!a).toNat ∧ times .password xs ≤ (!a).toNat ∧
  p.2.active = if track = true ∧ m = false then (landing c.topology.config xs).getD c.active else c.active

namespace Delivers

theorem unsent (hne : ¬ reached) (hp : Proceeded c c₁ []) (hactive : c₁.active = c.active) :
    Delivers track m a i cmd reached c (.error e, c₁) := by
  refine ⟨[], fun h => absurd h hne, .unsent, Unanswered.nil.concludes e, hp, Nat.zero_le _, Nat.zero_le _, ?_⟩
  show c₁.active = if _ then c.active else c.active
  rw [ite_self, hactive]

/-- The delivery ends with the first exchange. -/
theorem once (hx : Sent c.topology.config cmd (.command, x)) (hi : x.node = c.topology.config.nodes[i]?)
    (hp : Proceeded c c₁ [x]) (hactive : c₁.active = c.active)
    (hm : m = true ∨ landing c.topology.config [(.command, x)] = none) (hr : Concludes [(.command, x)] result) :
    Delivers track m a i cmd reached c (result, c₁) := by
  refine ⟨[(.command, x)], fun _ => List.cons_ne_nil _ _, .once hx hi, hr, hp, ?_, Nat.zero_le _, ?_⟩
  · show 1 ≤ _
    omega
  · obtain rfl | hl := hm
    · rw [if_neg (by simp)]
      exact hactive
    · rw [hl, Option.getD_none, ite_self]
      exact hactive

/-- The delivery ends with the password. -/
theorem twice (hx : Sent c.topology.config cmd (.command, x)) (hi : x.node = c.topology.config.nodes[i]?) (hr : x.Refused)
    (hm : x.moved? = none) (hy : Sent c.topology.config cmd (.password, y)) (hn : y.node = x.node)
    (hp : Proceeded c c₁ [x, y]) (hactive : c₁.active = c.active) :
    Delivers track m false i cmd reached c (.error e, c₁) := by
  refine ⟨[(.command, x), (.password, y)], fun _ => List.cons_ne_nil _ _, .twice hx hi hr hy hn, Unanswered.twice.concludes e, hp, ?_,
    Nat.le_refl 1, ?_⟩
  · show 1 ≤ 1 + _ + 1
    omega
  · rw [landing_of_not_moved hm, landing_password]
    show c₁.active = if _ then c.active else c.active
    rw [ite_self, hactive]

/-- The delivery goes on at the node that the answer names. -/
theorem redirected (hx : Sent c.topology.config cmd (.command, x)) (hi : x.node = c.topology.config.nodes[i]?)
    (hp : Proceeded c c₁ [x]) (hactive : c₁.active = c.active) (hq : x.moved? = some q)
    (hk : c.topology.config.find? q.host q.port = some k)
    (h : Delivers track true a k cmd reached' (followed track k c₁) p) : Delivers track false a i cmd reached c p := by
  obtain ⟨xs, -, hxs, hr, hc, hcommands, hpasswords, hp'⟩ := h
  have ht : (followed track k c₁).topology = c.topology := by cases track <;> exact hp.topology
  rw [ht] at hxs
  refine ⟨[(.command, x)] ++ xs, fun _ => List.cons_ne_nil _ _,
    (Conversation.once hx hi).append (List.cons_ne_nil _ _) hxs fun z hz y hy => ?_,
    (Unanswered.once (Exchange.not_accepted_of_moved hq)).append hr, ?_, ?_, ?_, ?_⟩
  · obtain rfl := Option.mem_some_iff.1 hz
    exact ⟨q, k, hq, hk, hy⟩
  · have hgo : Proceeded c (followed track k c₁) [x] := ⟨hp.tended.followed track k, ht, by cases track <;> exact hp.log⟩
    exact hgo.trans hc
  · rw [times_append]
    show 1 + _ ≤ 1 + 1 + _
    simp at hcommands
    omega
  · rw [times_append]
    show 0 + _ ≤ _
    omega
  · rw [hp', if_neg (by simp), List.singleton_append, landing_of_moved hq, hk]
    cases track
    · exact hactive
    · rfl

/-- The delivery goes on once the password has been accepted. -/
theorem authenticated (hx : Sent c.topology.config cmd (.command, x)) (hi : x.node = c.topology.config.nodes[i]?)
    (hr : x.Refused) (hm : x.moved? = none) (hy : Sent c.topology.config cmd (.password, y)) (hn : y.node = x.node)
    (ha : y.Accepted) (hp : Proceeded c c₁ [x, y]) (hactive : c₁.active = c.active)
    (h : Delivers track m true i cmd reached' c₁ p) : Delivers track m false i cmd reached c p := by
  obtain ⟨xs, -, hxs, hres, hc, hcommands, hpasswords, hp'⟩ := h
  rw [hp.topology] at hxs hp'
  refine ⟨[(.command, x), (.password, y)] ++ xs, fun _ => List.cons_ne_nil _ _,
    (Conversation.twice hx hi hr hy hn).append (List.cons_ne_nil _ _) hxs fun z hz w hw => ?_,
    Unanswered.twice.append hres, ?_, ?_, ?_, ?_⟩
  · obtain rfl := Option.mem_some_iff.1 hz
    exact ⟨ha, hw.trans (hi.symm.trans hn.symm)⟩
  · exact hp.trans hc
  · rw [times_append]
    show 1 + _ ≤ 1 + _ + 1
    simp at hcommands
    omega
  · rw [times_append]
    show 1 + _ ≤ 1
    simp at hpasswords
    omega
  · rw [hp', List.cons_append, landing_of_not_moved hm, List.cons_append, landing_password, List.nil_append, hactive]

end Delivers

variable [Server σ κ]

/-- A connection to the node is open, or can be opened. -/
def Reaches (c : Context σ κ) (i : Nat) : Prop := ∃ k, ((connection i).run c).1 = .ok k

theorem not_reaches (h : ((connection i).run c).1 = .error e) : ¬ c.Reaches i := by
  rintro ⟨k, hk⟩
  cases h.symm.trans hk

theorem authenticate_noted (h : c.Tended) (i : Nat) : ((authenticate i).run c).2.active = c.active ∧
    ((∃ e, ((authenticate i).run c).1 = .error e ∧ Proceeded c ((authenticate i).run c).2 []) ∨
      ∃ y n p, c.topology.config.nodes[i]? = some n ∧ y.node = some n ∧ c.topology.config.passwordFor i = some p ∧
        y.cmd = .auth p ∧ Proceeded c ((authenticate i).run c).2 [y] ∧
        (((authenticate i).run c).1 = .ok () → y.Accepted)) := by
  unfold authenticate
  rw [step_bind_ok (step_get c)]
  cases hp : c.topology.config.passwordFor i with
  | none => exact ⟨rfl, .inl ⟨_, rfl, h, rfl, (List.append_nil _).symm⟩⟩
  | some p =>
    obtain ⟨hactive, hsent⟩ := send_noted h i (.auth p)
    simp only [step_bind]
    rcases hs : (send i (.auth p)).run c with ⟨e | r, c₁⟩ <;> rw [hs] at hactive hsent <;>
      obtain ⟨_, -, he, hc⟩ | ⟨y, n, hn, hnode, hcmd, ha, hc⟩ := hsent
    · exact ⟨hactive, .inl ⟨e, rfl, hc⟩⟩
    · exact ⟨hactive, .inr ⟨y, n, p, hn, hnode, rfl, hcmd, hc, fun h => by cases h⟩⟩
    · cases he
    · cases r with
      | error m => exact ⟨hactive, .inr ⟨y, n, p, hn, hnode, rfl, hcmd, hc, fun h => by cases h⟩⟩
      | _ => exact ⟨hactive, .inr ⟨y, n, p, hn, hnode, rfl, hcmd, hc, fun _ => ⟨_, ha, fun _ h => by cases h⟩⟩⟩

/-- A demand for the password is met, and the delivery goes on if it is accepted. -/
theorem Delivers.refused {next : Step (Watched σ) (Line κ) Reply}
    (hx : Sent c.topology.config cmd (.command, x)) (hi : x.node = c.topology.config.nodes[i]?) (hr : x.Refused)
    (hm : x.moved? = none) (hc : Proceeded c c₁ [x]) (hactive : c₁.active = c.active)
    (hnext : ∀ c₂, c₂.Tended → Delivers track m true i cmd (c₂.Reaches i) c₂ (next.run c₂)) :
    Delivers track m false i cmd reached c ((authenticate i >>= fun _ => next).run c₁) := by
  rw [step_bind]
  obtain ⟨hactive', hauth⟩ := authenticate_noted hc.tended i
  rw [hc.topology] at hauth
  obtain ⟨e, he, hc'⟩ | ⟨y, n, p, hn, hnode, hp, hcmd, hc', haccepted⟩ := hauth
  · rcases hs : (authenticate i).run c₁ with ⟨_ | _, c₂⟩ <;> rw [hs] at hactive' he hc'
    · exact .once hx hi (hc.trans hc') (hactive'.trans hactive) (.inr (landing_of_not_moved hm []))
        ((Unanswered.once hr.not_accepted).concludes _)
    · cases he
  · have hy : Sent c.topology.config cmd (.password, y) := ⟨i, n, hn, hnode, p, hp, hcmd⟩
    have hsame : y.node = x.node := hnode.trans (hn.symm.trans hi.symm)
    rcases hs : (authenticate i).run c₁ with ⟨e | _, c₂⟩ <;> rw [hs] at hactive' haccepted hc'
    · exact .twice hx hi hr hm hy hsame (hc.trans hc') (hactive'.trans hactive)
    · exact .authenticated hx hi hr hm hy hsame (haccepted rfl) (hc.trans hc') (hactive'.trans hactive)
        (hnext c₂ hc'.tended)

/-- **What is exchanged for one command, whatever the server answers.** -/
theorem deliver_conversation (h : c.Tended) (track m a : Bool) (i : Nat) (cmd : Command) :
    Delivers track m a i cmd (c.Reaches i) c ((deliver track m a i cmd).run c) := by
  induction m, a, i using deliver.induct generalizing c with
  | case1 m a i moves refuses =>
    rw [deliver_run]
    obtain ⟨hactive, ⟨e, hno, he, hc⟩ | ⟨x, n, hn, hnode, hcmd, hanswer, hc⟩⟩ := send_noted h i cmd
    · rcases hs : (send i cmd).run c with ⟨_ | r, c₁⟩ <;> rw [hs] at hactive he hc
      · exact .unsent (not_reaches hno) hc hactive
      · cases he
    · have hsent : Sent c.topology.config cmd (.command, x) := ⟨i, n, hn, hnode, hcmd⟩
      have hi : x.node = c.topology.config.nodes[i]? := hnode.trans hn.symm
      rcases hs : (send i cmd).run c with ⟨e | r, c₁⟩ <;> rw [hs] at hactive hanswer hc <;>
        change Proceeded c c₁ [x] at hc
      · have hmoved : x.moved? = none := by simp [Exchange.moved?, hanswer]
        have hlost : Unanswered [(.command, x)] := .once (Exchange.not_accepted_of_lost hanswer)
        exact .once hsent hi hc hactive (.inr (landing_of_not_moved hmoved [])) (hlost.concludes _)
      · have hmoved : x.moved? = r.redirect? := by simp [Exchange.moved?, hanswer]
        simp only []
        cases hq : r.redirect? with
        | some q =>
          rw [hq] at hmoved
          have hlost : Unanswered [(.command, x)] := .once (Exchange.not_accepted_of_moved hmoved)
          simp only []
          split
          · next hm => exact .once hsent hi hc hactive (.inl hm) (hlost.concludes _)
          · next hm =>
            rw [hc.topology]
            cases hk : c.topology.config.find? q.host q.port with
            | none => exact .once hsent hi hc hactive (.inr ((landing_of_moved hmoved []).trans hk)) (hlost.concludes _)
            | some k =>
              obtain rfl := Bool.eq_false_iff.2 hm
              exact .redirected hsent hi hc hactive hmoved hk (moves hm k (hc.tended.followed track k))
        | none =>
          rw [hq] at hmoved
          have hstay : landing c.topology.config [(.command, x)] = none := landing_of_not_moved hmoved []
          simp only []
          split
          · next hr =>
            obtain ⟨hnoauth, rfl⟩ := hr
            have hrefused : x.Refused := ⟨r, hanswer, hnoauth⟩
            exact .refused hsent hi hrefused hmoved hc hactive fun _ h => refuses r ⟨hnoauth, rfl⟩ h
          · exact .once hsent hi hc hactive (.inr hstay) (.answered hanswer)

/-- A command that is not acceptable is not sent at all. -/
theorem dispatch_conversation (h : c.Tended) (track : Bool) (i : Nat) (cmd : Command) :
    Delivers track false false i cmd (cmd.validate c.maxArgs = .ok () ∧ c.Reaches i) c ((dispatch track i cmd).run c) := by
  unfold dispatch
  rw [step_bind_ok (step_get c), step_bind, step_lift]
  cases cmd.validate c.maxArgs with
  | error e => exact .unsent (fun h => by cases h.1) ⟨h, rfl, (List.append_nil _).symm⟩ rfl
  | ok _ =>
    obtain ⟨xs, hne, hxs⟩ := deliver_conversation h track false false i cmd
    exact ⟨xs, fun h => hne h.2, hxs⟩

theorem reaches_watch {c : Context σ κ} {i : Nat} (h : c.Reaches i) : c.watch.Reaches i := by
  obtain ⟨k, hk⟩ := h
  have hbare := connection_bare i c.watch
  rw [bare_watch] at hbare
  rw [hbare] at hk
  cases hw : ((connection i).run c.watch).1 with
  | error e => rw [hw] at hk; cases hk
  | ok l => exact ⟨l, hw⟩

/-- **Retries are bounded, and no connection that has broken is used again, whatever the server answers.** What is exchanged
for a command is a conversation, unless the command is not acceptable or its node cannot be reached. A command to the active
node makes the first node that it is redirected to the active one; nothing else does. Over all calls, commands are sent to
configured nodes only. -/
theorem retries_bounded (c : Context σ κ) :
    (∀ (t : Target) (cmd : Command),
      (execTo t cmd).run c = (((execTo t cmd).run c.watch).1, ((execTo t cmd).run c.watch).2.bare) ∧
      ∃ xs, ((execTo t cmd).run c.watch).2.server.log = xs.map Prod.snd ∧
        (cmd.validate c.maxArgs = .ok () → c.Reaches (addressee c t) → xs ≠ []) ∧
        Conversation c.topology.config (addressee c t) cmd xs ∧ Concludes xs ((execTo t cmd).run c).1 ∧
        times .command xs ≤ 3 ∧ times .password xs ≤ 1 ∧
        ((execTo t cmd).run c).2.active = match t with
          | .active => (landing c.topology.config xs).getD c.active
          | .node _ => c.active) ∧
    ∀ calls : List Call,
      calls.foldl Call.run c = (calls.foldl Call.run c.watch).bare ∧
      (∀ x ∈ (calls.foldl Call.run c.watch).server.log, ∃ n ∈ c.topology.config.nodes, x.node = some n) ∧
      (calls.foldl Call.run c.watch).server.log.Pairwise fun x y => x.Broke → y.line ≠ x.line := by
  refine ⟨fun t cmd => ?_, fun calls => ?_⟩
  · obtain ⟨hresult, -, -, hbare⟩ := beneath_paired.execTo (Beneath.validate cmd) t c.watch c (beneath_watch c)
    have hrun : (execTo t cmd).run c = (((execTo t cmd).run c.watch).1, ((execTo t cmd).run c.watch).2.bare) :=
      Prod.ext hresult hbare
    obtain ⟨xs, hne, hxs, hr, hc, hcommands, hpasswords, hactive⟩ :=
      dispatch_conversation (watch_tended c) (t = .active) (addressee c t) cmd
    rw [show addressee c t = addressee c.watch t by cases t <;> rfl, ← execTo_run] at hr hc hactive
    rw [hrun]
    refine ⟨rfl, xs, hc.log, fun hv hreach => hne ⟨hv, reaches_watch hreach⟩, hxs, hr, hcommands, hpasswords,
      hactive.trans ?_⟩
    cases t with
    | active => exact if_pos ⟨rfl, rfl⟩
    | node i => exact if_neg fun h => Bool.false_ne_true h.1
  · obtain ⟨htended, hconfig, hbare⟩ := calls_watched (beneath_watch c) calls
    exact ⟨hbare, hconfig ▸ htended.configured, htended.dropped⟩

/-- The bounds are met when the password is demanded first and two redirections follow, the second of which is refused. -/
example :
    let config : Config := { nodes := [⟨"a", 1, none, 1, 1⟩, ⟨"b", 2, none, 1, 1⟩], password := some "pw" }
    let answers : List Answered := [.connected 0, .replied (.error "NOAUTH"), .replied (.status "OK"),
      .replied (.error "MOVED 1 b:2"), .connected 1, .replied (.error "MOVED 1 a:1")]
    let c := ((exec .ping).run (new ({ answers } : Transcript) { config, nodes := freshNodes config }).watch).2
    c.server.log.map (fun x => (x.line, x.cmd.name)) = [(2, "PING"), (2, "AUTH"), (2, "PING"), (3, "PING")] ∧ c.active = 1 := by
  decide +kernel

end Context
end SlotSql.Cluster
