import Mathlib.Logic.Function.Basic
import SlotSql.Proofs.World
/-!
# Dialogues that take turns

Several dialogues with one cluster can be under way at a time. An order says which of them has its turn, and a turn is one
command; a dialogue that has come to its end lets its turns pass. Every interleaving of their commands is such an order.
Each dialogue has a world of its own for the common state, for its answers can depend on who asks.

What others do between two commands of a dialogue is not known, only that it keeps some invariant of the state. A dialogue
is steady if in every state of the kind its commands keep the invariant and lead to its result all the same.

Results:
* `Race.run_simulates`: a race in a world that answers as another one does.
* `Race.run_steady`: steady dialogues keep the invariant, and each comes to its result in as many turns as it has commands.
* `Race.run_alone`: if the others change nothing, a dialogue comes to what it comes to alone.
-/
namespace SlotSql.Cluster

namespace Dialogue

variable {σ α β ε : Type} {w : World σ} {I : σ → Prop} {G : σ → σ → Prop} {Q : α → Prop} {R : β → Prop} {s : σ} {n m : Nat}

/-- One command of a dialogue: what is left of it, and the state afterwards. -/
def step (w : World σ) : Dialogue α → σ → Dialogue α × σ
  | done a, s => (done a, s)
  | ask t c next, s => (next (w t c s).1, (w t c s).2)

theorem run_step (x : Dialogue α) (s : σ) : (x.step w s).1.run w (x.step w s).2 = x.run w s := by
  cases x <;> rfl

theorem Obeys.step {P : Target → Command → Prop} {x : Dialogue α} (h : x.Obeys P (fun _ => True) Q) :
    (x.step w s).1.Obeys P (fun _ => True) Q := by
  cases x with
  | done a => exact h
  | ask t c next => exact h.2 _ trivial

/-- The result of a dialogue that has come to its end. -/
def result? : Dialogue α → Option α
  | done a => some a
  | ask _ _ _ => none

theorem result?_eq_some {x : Dialogue α} {a : α} : x.result? = some a ↔ x = done a := by
  cases x with
  | done b => simp [result?]
  | ask t c next => simp [result?]

/-- The dialogue has at most `n` commands, each of which keeps the invariant and makes only such a change, and it comes to
such a result; all this whatever others do between two commands, as long as they keep the invariant. -/
def Steady (w : World σ) (I : σ → Prop) (G : σ → σ → Prop) (Q : α → Prop) : Nat → Dialogue α → Prop
  | _, done a => Q a
  | 0, ask _ _ _ => False
  | n + 1, ask t c next => ∀ s, I s → I (w t c s).2 ∧ G s (w t c s).2 ∧ Steady w I G Q n (next (w t c s).1)

theorem Steady.mono {x : Dialogue α} (h : x.Steady w I G Q n) (hn : n ≤ m) : x.Steady w I G Q m := by
  induction n generalizing x m with
  | zero =>
    cases x with
    | done a => cases m <;> exact h
    | ask t c next => exact h.elim
  | succ n ih =>
    obtain ⟨m, rfl⟩ := Nat.exists_eq_add_of_le' (Nat.le_trans (Nat.le_add_left 1 n) hn)
    cases x with
    | done a => exact h
    | ask t c next => exact fun s hs => ⟨(h s hs).1, (h s hs).2.1, ih (h s hs).2.2 (Nat.le_of_succ_le_succ hn)⟩

theorem Steady.imp {G' : σ → σ → Prop} {Q' : α → Prop} {x : Dialogue α} (h : x.Steady w I G Q n)
    (hG : ∀ s s', G s s' → G' s s') (hQ : ∀ a, Q a → Q' a) : x.Steady w I G' Q' n := by
  induction n generalizing x with
  | zero =>
    cases x with
    | done a => exact hQ a h
    | ask t c next => exact h.elim
  | succ n ih =>
    cases x with
    | done a => exact hQ a h
    | ask t c next => exact fun s hs => ⟨(h s hs).1, hG s _ (h s hs).2.1, ih (h s hs).2.2⟩

theorem Steady.bind {x : Dialogue α} {f : α → Dialogue β} (hx : x.Steady w I G Q n)
    (hf : ∀ a, Q a → (f a).Steady w I G R m) : (x.bind f).Steady w I G R (n + m) := by
  induction n generalizing x with
  | zero =>
    cases x with
    | done a => exact (hf a hx).mono (Nat.le_add_left m 0)
    | ask t c next => exact hx.elim
  | succ n ih =>
    cases x with
    | done a => exact (hf a hx).mono (Nat.le_add_left m _)
    | ask t c next =>
      rw [Nat.succ_add]
      exact fun s hs => ⟨(hx s hs).1, (hx s hs).2.1, ih (hx s hs).2.2⟩

/-- One command of a steady dialogue. -/
theorem Steady.step {x : Dialogue α} (h : x.Steady w I G Q n) (hs : I s) : I (x.step w s).2 ∧
    ((x.step w s).2 = s ∨ G s (x.step w s).2) ∧ (x.step w s).1.Steady w I G Q (n - 1) := by
  cases x with
  | done a => exact ⟨hs, .inl rfl, by cases n - 1 <;> cases n <;> exact h⟩
  | ask t c next =>
    cases n with
    | zero => exact h.elim
    | succ n => exact ⟨(h s hs).1, .inr (h s hs).2.1, (h s hs).2.2⟩

theorem Steady.result {a : α} (h : (done a).Steady w I G Q n) : Q a := by
  cases n <;> exact h

/-- A steady dialogue without commands has come to its end. -/
theorem Steady.ended {x : Dialogue α} (h : x.Steady w I G Q 0) : ∃ a, x = done a ∧ Q a := by
  cases x with
  | done a => exact ⟨a, rfl, h⟩
  | ask t c next => exact h.elim

/-- The dialogue succeeds with at most `n` commands, whatever others do in between. -/
def Persists (w : World σ) (I : σ → Prop) (n : Nat) (x : ExceptT ε Dialogue α) : Prop :=
  Steady w I (fun _ _ => True) (fun r : Except ε α => ∃ a, r = .ok a) n x.run

theorem Persists.pure (a : α) : Persists w I 0 (Pure.pure a : ExceptT ε Dialogue α) := ⟨a, rfl⟩

theorem Persists.bind {x : ExceptT ε Dialogue α} {f : α → ExceptT ε Dialogue β} (hx : Persists w I n x)
    (hf : ∀ a, Persists w I m (f a)) : Persists w I (n + m) (x >>= f) := by
  refine Steady.bind hx ?_
  rintro _ ⟨a, rfl⟩
  exact hf a

theorem Persists.mono {x : ExceptT ε Dialogue α} (h : Persists w I n x) (hn : n ≤ m) : Persists w I m x :=
  Steady.mono h hn

theorem Persists.forM {f : β → ExceptT ε Dialogue PUnit} {bs : List β} (h : ∀ b ∈ bs, Persists w I n (f b)) :
    Persists w I (bs.length * n) (bs.forM f) := by
  induction bs with
  | nil => exact Steady.mono (Persists.pure (w := w) (I := I) PUnit.unit) (Nat.zero_le _)
  | cons b bs ih =>
    rw [List.forM_eq_forM, List.forM_cons, List.length_cons, Nat.succ_mul, Nat.add_comm]
    exact (h b List.mem_cons_self).bind fun _ => ih fun b' hb => h b' (List.mem_cons_of_mem _ hb)

theorem Persists.liftM {x : Asking α} (h : Persists w I n x) : Persists w I n (liftM x : Engine α) := by
  refine Steady.bind (m := 0) h ?_
  rintro _ ⟨a, rfl⟩
  exact ⟨a, rfl⟩

/-- Work that is followed by a fixed result. -/
theorem Persists.returning {x : ExceptT ε Dialogue α} (h : Persists w I n x) (b : β) :
    Steady w I (fun _ _ => True) (fun r : Except ε β => r = .ok b) n (do let _ ← x; Pure.pure b : ExceptT ε Dialogue β).run := by
  refine Steady.bind (m := 0) h ?_
  rintro _ ⟨a, rfl⟩
  rfl

/-- The first turn of work that begins with a command whose answer is good enough. -/
theorem step_command {c : Command} {f : Reply → Asking α} {g : α → Engine β} {r : Reply} {a : α} {s' : σ}
    (h : w .active c s = (.ok r, s')) (hf : f r = Pure.pure a) :
    step w ((liftM (Asking.command c >>= f) : Engine α) >>= g).run s = ((g a).run, s') := by
  show (Dialogue.bind (Dialogue.bind (Dialogue.bind (done (w .active c s).1) (ExceptT.bindCont f)) _) (ExceptT.bindCont g),
    (w .active c s).2) = _
  rw [h]
  show (Dialogue.bind (Dialogue.bind (f r) _) (ExceptT.bindCont g), s') = _
  rw [hf]
  rfl

/-- One command whose answer is always good enough to go on without another. -/
theorem Persists.command {c : Command} {f : Reply → Asking α}
    (h : ∀ s, I s → I (w .active c s).2 ∧ ∃ r a, (w .active c s).1 = .ok r ∧ f r = Pure.pure a) :
    Persists w I 1 (Asking.command c >>= f) := by
  intro s hs
  obtain ⟨h1, r, a, h2, h3⟩ := h s hs
  refine ⟨h1, trivial, ?_⟩
  show Steady w I _ _ 0 (Dialogue.bind (done (w .active c s).1) (ExceptT.bindCont f))
  rw [h2]
  show Steady w I _ _ 0 (f r)
  rw [h3]
  exact ⟨a, rfl⟩

end Dialogue

/-- Dialogues that take turns over one state. -/
structure Race (ι σ α : Type) where
  state : σ
  sides : ι → Dialogue α

namespace Race

open Dialogue

variable {ι σ τ α : Type} [DecidableEq ι] {w : ι → World σ} {r : Race ι σ α} {x y : ι} {I : σ → Prop}
  {G : ι → σ → σ → Prop} {Q : ι → α → Prop} {n : ι → Nat}

/-- The turn of one of the dialogues. -/
def turn (w : ι → World σ) (r : Race ι σ α) (x : ι) : Race ι σ α where
  state := ((r.sides x).step (w x) r.state).2
  sides := Function.update r.sides x ((r.sides x).step (w x) r.state).1

/-- The turns of an order. -/
def run (w : ι → World σ) (r : Race ι σ α) (order : List ι) : Race ι σ α := order.foldl (turn w) r

theorem turn_self : (r.turn w x).sides x = ((r.sides x).step (w x) r.state).1 := Function.update_self ..

theorem turn_other (h : y ≠ x) : (r.turn w x).sides y = r.sides y := Function.update_of_ne h ..

/-- A race in worlds that answer each command as others do comes to the same. -/
theorem run_simulates (w₁ : ι → World σ) (w₂ : ι → World τ) {P : Target → Command → Prop} {R : σ → τ → Prop}
    (h : ∀ x t c s₁ s₂, P t c → R s₁ s₂ → (w₁ x t c s₁).1 = (w₂ x t c s₂).1 ∧ R (w₁ x t c s₁).2 (w₂ x t c s₂).2)
    {S : α → Prop} (r₁ : Race ι σ α) (r₂ : Race ι τ α) (hasks : ∀ x, (r₁.sides x).Obeys P (fun _ => True) S)
    (hsides : r₁.sides = r₂.sides) (hstate : R r₁.state r₂.state) (order : List ι) :
    (r₁.run w₁ order).sides = (r₂.run w₂ order).sides ∧ R (r₁.run w₁ order).state (r₂.run w₂ order).state := by
  induction order generalizing r₁ r₂ with
  | nil => exact ⟨hsides, hstate⟩
  | cons x order ih =>
    have hstep : ((r₁.sides x).step (w₁ x) r₁.state).1 = ((r₂.sides x).step (w₂ x) r₂.state).1 ∧
        R ((r₁.sides x).step (w₁ x) r₁.state).2 ((r₂.sides x).step (w₂ x) r₂.state).2 := by
      have hx := hasks x
      rw [← hsides]
      cases hd : r₁.sides x with
      | done a => exact ⟨rfl, hstate⟩
      | ask t c next =>
        rw [hd] at hx
        obtain ⟨h1, h2⟩ := h x t c _ _ hx.1 hstate
        exact ⟨congrArg next h1, h2⟩
    refine ih (r₁.turn w₁ x) (r₂.turn w₂ x) (fun y => ?_) ?_ hstep.2
    · by_cases hy : y = x
      · subst hy
        rw [turn_self]
        exact (hasks y).step
      · rw [turn_other hy]
        exact hasks y
    · unfold turn
      rw [hstep.1, hsides]

/-- Every dialogue of the race is steady, and the invariant holds. -/
structure Steady (w : ι → World σ) (I : σ → Prop) (G : ι → σ → σ → Prop) (Q : ι → α → Prop) (n : ι → Nat)
    (r : Race ι σ α) : Prop where
  state : I r.state
  sides : ∀ x, (r.sides x).Steady (w x) I (G x) (Q x) (n x)

theorem Steady.turn (h : r.Steady w I G Q n) (x : ι) :
    (r.turn w x).Steady w I G Q (fun y => n y - [x].count y) := by
  obtain ⟨h1, -, h2⟩ := (h.sides x).step h.state
  refine ⟨h1, fun y => ?_⟩
  by_cases hy : y = x
  · subst hy
    rw [turn_self, List.count_singleton_self]
    exact h2
  · rw [turn_other hy, List.count_singleton, if_neg (by simpa using Ne.symm hy)]
    exact h.sides y

/-- Steady dialogues stay steady, and each needs one turn less for each that it had. -/
theorem run_steady (h : r.Steady w I G Q n) (order : List ι) :
    (r.run w order).Steady w I G Q (fun y => n y - order.count y) := by
  induction order generalizing r n with
  | nil => exact h
  | cons x order ih =>
    have hcount (y : ι) : n y - (x :: order).count y = n y - [x].count y - order.count y := by
      rw [Nat.sub_sub, ← List.count_append]
      rfl
    simp only [hcount]
    exact ih (h.turn x)

/-- If the others change nothing, what is left of a dialogue always comes to what the dialogue comes to alone. -/
theorem run_alone (h : r.Steady w I G Q n) (hG : ∀ y, y ≠ x → ∀ s s', G y s s' → s' = s) (order : List ι) :
    ((r.run w order).sides x).run (w x) (r.run w order).state = (r.sides x).run (w x) r.state := by
  induction order generalizing r n with
  | nil => rfl
  | cons y order ih =>
    refine (ih (h.turn y)).trans ?_
    by_cases hy : y = x
    · subst hy
      rw [turn_self]
      exact run_step _ _
    · obtain ⟨-, hstate, -⟩ := (h.sides y).step h.state
      rw [turn_other (Ne.symm hy)]
      exact congrArg _ (hstate.elim id (hG y hy _ _))

end Race
end SlotSql.Cluster
