import Mathlib.Data.Set.Basic
import SlotSql.Proofs.Rows.Failure
import SlotSql.Proofs.Rows.Typed
/-!
# What a statement leaves of a row

A statement that succeeds writes fields over those of the hash of its row, and gives some sets of the row new members;
whatever else the store holds stays. Which fields and members these are depends on the mode of the statement and on
whether there was a row before.

Results:
* `RowImage`, `Becomes`: what lies in a row, and how a row changes while everything else stays.
* `yields_writeRow`: what writing a row leaves.
* `yields_updateRow`: what assignments leave of a row.
* `yields_execute`: what a statement with a full key leaves, and what it reports.
-/
namespace SlotSql

open Cluster Store Simulation Dialogue

/-! ## Work that succeeds -/

namespace Cluster.Dialogue

variable {σ α β ε : Type} {w : World σ} {I : σ → Prop} {R : σ → α → σ → Prop} {S : α → σ → β → σ → Prop}
  {x : ExceptT ε Dialogue α} {f : α → ExceptT ε Dialogue β}

/-- Whenever work succeeds in a world of a kind, it leaves such a world, and what it began with, its result and what it
leaves belong together. -/
def Yields (w : World σ) (I : σ → Prop) (R : σ → α → σ → Prop) (x : ExceptT ε Dialogue α) : Prop :=
  ∀ s a s', I s → outcome w x s = (.ok a, s') → I s' ∧ R s a s'

theorem Yields.mono {R' : σ → α → σ → Prop} (h : Yields w I R x) (hR : ∀ s a s', I s → I s' → R s a s' → R' s a s') :
    Yields w I R' x := fun s a s' hs hrun =>
  let ⟨h1, h2⟩ := h s a s' hs hrun
  ⟨h1, hR s a s' hs h1 h2⟩

theorem Yields.pure {a : α} (h : ∀ s, I s → R s a s) : Yields w I R (Pure.pure a : ExceptT ε Dialogue α) := by
  rintro s _ _ hs ⟨⟩
  exact ⟨hs, h s hs⟩

theorem Yields.throw (e : ε) : Yields w I R (MonadExcept.throw e : ExceptT ε Dialogue α) := by
  rintro _ _ _ _ ⟨⟩

theorem Yields.mk {y : Except ε α} (h : ∀ s a, I s → y = .ok a → R s a s) : Yields w I R (ExceptT.mk (done y)) := by
  rintro s a _ hs hrun
  cases hrun
  exact ⟨hs, h s a hs rfl⟩

theorem Yields.bind {T : σ → β → σ → Prop} (hx : Yields w I R x)
    (hf : ∀ a, Yields w I (fun s' b s'' => ∀ s, I s → R s a s' → T s b s'') (f a)) : Yields w I T (x >>= f) := by
  intro s b s'' hs hrun
  cases h : outcome w x s with
  | mk r s' =>
    cases r with
    | error e =>
      rw [outcome_bind_error h] at hrun
      cases hrun
    | ok a =>
      rw [outcome_bind_ok h] at hrun
      obtain ⟨h1, h2⟩ := hx s a s' hs h
      obtain ⟨h3, h4⟩ := hf a s' b s'' h1 hrun
      exact ⟨h3, h4 s hs h2⟩

/-- Work that is followed by a fixed result. -/
theorem Yields.returning {b : β} {T : σ → β → σ → Prop} (hx : Yields w I R x)
    (h : ∀ s a s', I s → I s' → R s a s' → T s b s') : Yields w I T (do let _ ← x; Pure.pure b) :=
  hx.bind fun a => .pure fun s' hs' s hs hR => h s a s' hs hs' hR

/-- What belongs together may depend on what work begins with. -/
theorem Yields.each (h : ∀ s₀, Yields w I (fun s a s' => s = s₀ → R s a s') x) : Yields w I R x := fun s a s' hs hrun =>
  let ⟨h1, h2⟩ := h s s a s' hs hrun
  ⟨h1, h2 rfl⟩

theorem Reads.yields {Q : α → Prop} (h : Reads w I Q x) : Yields w I (fun s a s' => Q a ∧ s' = s) x := by
  intro s a s' hs hrun
  obtain ⟨r, h1, h2⟩ := h s hs
  rw [h1] at hrun
  cases hrun
  exact ⟨hs, h2 a rfl, rfl⟩

theorem Yields.liftM {y : Asking α} (h : Yields w I R y) : Yields w I R (liftM y : Engine α) := by
  intro s a s' hs hrun
  rw [Engine.outcome_liftM] at hrun
  cases hy : outcome w y s with
  | mk r s₁ =>
    rw [hy] at hrun
    cases r with
    | error e => cases hrun
    | ok b =>
      cases hrun
      exact h s _ _ hs hy

end Cluster.Dialogue

/-! ## Commands -/

namespace Store

variable {m : Nat} {d d' : Data} {key field : String} {cmd : Command} {k : KeyCommand} {I : Data → Prop}
  {pairs : List (String × Bytes)} {ms : List String}

/-- A command that is answered well has been carried out. -/
theorem yields_command (hr : cmd.Runs k) (hI : ∀ d, I d → I (k.run d).2) :
    Yields (world m) I (fun d r d' => (k.run d).1.answer = .ok r ∧ d' = (k.run d).2) (Asking.command cmd) := by
  intro d r d' hd hrun
  rw [Asking.outcome_command, world] at hrun
  by_cases hl : cmd.length ≤ m
  · rw [reply_runs hr hl] at hrun
    obtain ⟨h1, rfl⟩ := Prod.mk.inj hrun
    exact ⟨hI d hd, h1, rfl⟩
  · rw [reply_long hr (Nat.lt_of_not_le hl)] at hrun
    cases hrun

theorem yields_integerOf (name : String) (r : Reply) :
    Yields (world m) I (fun d _ d' => d' = d) (Asking.integerOf name r) := by
  unfold Asking.integerOf
  split
  · exact .pure fun _ _ => rfl
  · exact .throw _

/-- A command that is answered with a number. -/
theorem yields_counted (name : String) (hr : cmd.Runs k) (hI : ∀ d, I d → I (k.run d).2) :
    Yields (world m) I (fun d _ d' => d' = (k.run d).2) (Asking.command cmd >>= Asking.integerOf name) :=
  (yields_command hr hI).bind fun r => (yields_integerOf name r).mono fun _ _ _ _ _ h _ _ h' => h.trans h'.2

/-- Fields that were written were written over a hash. -/
theorem yields_hmset (hp : pairs ≠ []) (hI : ∀ d, I d → I ((KeyCommand.hset false key pairs).run d).2) :
    Yields (world m) I (fun d _ d' => (∃ old, KeyCommand.hashAt d key = .ok old) ∧
      d' = ((KeyCommand.hset false key pairs).run d).2) (Asking.hmset key pairs) := by
  refine (yields_command (Command.runs_hmset hp) hI).bind fun _ => .pure fun d' _ d _ h => ⟨?_, h.2⟩
  have hrun : (KeyCommand.hset false key pairs).run d = KeyCommand.changeHash d key fun h =>
    (.ok, (KeyCommand.insertAll h pairs).2) := rfl
  rw [hrun] at h
  unfold KeyCommand.changeHash at h
  cases hold : KeyCommand.hashAt d key with
  | ok old => exact ⟨old, rfl⟩
  | error e =>
    rw [hold] at h
    obtain rfl := KeyCommand.hashAt_error hold
    cases h.1

/-- Fields of a hash are read as they lie there. -/
theorem yields_hmget {st : Settings} (hk : Key.IsClosed key) {fields : List String} (hf : fields ≠ []) :
    Yields (world m) (Typed st) (fun d values d' => values = fields.map (plainOf d key) ∧ d' = d)
      (Asking.hmget key fields) := by
  intro d values d' hd hrun
  obtain ⟨h, hh⟩ := hd.hashAt hk
  -- Reading does not change the store, so its answers are those of the store as it is.
  obtain ⟨h1, -, h3⟩ := run_simulates (Store.world m) (fixedWorld (answers m d)) (A := fun _ => True)
    (R := fun d' _ => d' = d) (fun g cmd d' _ hcmd hd' => by
      obtain ⟨k, hr, hsame⟩ := hcmd
      subst hd'
      refine ⟨rfl, trivial, ?_⟩
      show (reply m cmd d').2 = d'
      by_cases hl : cmd.length ≤ m
      · rw [reply_runs hr hl, hsame]
      · rw [reply_long hr (Nat.lt_of_not_le hl)])
    (asks_hmget (P := fun _ cmd => ∃ k, cmd.Runs k ∧ ∀ d, (k.run d).2 = d)
      ⟨_, Command.runs_hmget hf, fun _ => KeyCommand.readHash_data _⟩) (s := d) (r := ()) rfl
  have h1 : (outcome (Store.world m) (Asking.hmget key fields) d).1 =
      (outcome (fixedWorld (answers m d)) (Asking.hmget key fields) ()).1 := h1
  have h3 : (outcome (Store.world m) (Asking.hmget key fields) d).2 = d := h3
  rw [hrun] at h1 h3
  obtain rfl : d' = d := h3
  refine ⟨hd, ?_, rfl⟩
  by_cases hm : 2 + fields.length ≤ m
  · rw [outcome_hmget hh hf hm] at h1
    cases h1
    exact List.map_congr_left fun n _ => (plainOf_eq hh).symm
  · have hlong : ∃ e, outcome (fixedWorld (answers m d')) (Asking.hmget key fields) () = (.error e, ()) :=
      outcome_hmget_long hf (Nat.lt_of_not_le hm)
    obtain ⟨e, he⟩ := hlong
    rw [he] at h1
    cases h1

end Store
/-! ## Rows -/

/-- What lies in a row: its plain attributes, and the members of its sets. -/
@[ext]
structure RowImage where
  plain : String → Option Bytes
  members : String → Set String

namespace RowImage

/-- A row with fields written over those of its hash; of several values for a field the last one stays. -/
def overlay (pairs : List (String × Bytes)) (w : RowImage) : RowImage :=
  { w with plain := fun n => (pairs.reverse.lookup n).or (w.plain n) }

/-- A row with other members in one set. -/
def change (name : String) (g : Set String → Set String) (w : RowImage) : RowImage :=
  { w with members := fun n => if n = name then g (w.members n) else w.members n }

theorem change_id {name : String} {g : Set String → Set String} {w : RowImage} (hg : ∀ ms x, x ∈ g ms ↔ x ∈ ms) :
    w.change name g = w :=
  RowImage.ext rfl (funext fun n => (congrArg (fun ms => if n = name then ms else w.members n)
    (Set.ext (hg (w.members n)))).trans (ite_self _))

end RowImage

namespace Store

variable {d d' : Data} {key name : String} {pairs : List (String × Bytes)}

/-- What lies in the row of a key. -/
def rowImage (d : Data) (key : String) : RowImage := ⟨plainOf d key, fun n => {x | x ∈ membersOf d key n}⟩

theorem set_ne_row (key name : String) : Key.set key name ≠ key := by
  intro h
  have hlen := congrArg (fun s => s.toList.length) h
  simp only [Key.toList_set, List.length_append, List.length_cons] at hlen
  omega

theorem set_left_inj {n : String} (h : Key.set key n = Key.set key name) : n = name := by
  have htext := congrArg String.toList h
  rw [Key.toList_set, Key.toList_set] at htext
  exact String.toList_inj.1 (List.cons.inj (List.append_cancel_left htext)).2

theorem rowImage_hset {h : KeyMap Bytes} (hd : KeyCommand.hashAt d key = .ok h) :
    rowImage ((KeyCommand.hset false key pairs).run d).2 key = (rowImage d key).overlay pairs := by
  have hrun : ((KeyCommand.hset false key pairs).run d).2.get? key =
      if (KeyCommand.insertAll h pairs).2.isEmpty then none else some (.hash (KeyCommand.insertAll h pairs).2) := by
    show (KeyCommand.changeHash d key fun h => (.ok, (KeyCommand.insertAll h pairs).2)).2.get? key = _
    rw [KeyCommand.changeHash_get?, if_pos rfl, hd]
  ext n x
  · have hplain : plainOf ((KeyCommand.hset false key pairs).run d).2 key n = (KeyCommand.insertAll h pairs).2.get? n := by
      unfold plainOf
      rw [hrun]
      by_cases hempty : (KeyCommand.insertAll h pairs).2.isEmpty = true
      · rw [if_pos hempty, KeyMap.isEmpty_iff.1 hempty n]
      · rw [if_neg hempty]
    show x ∈ plainOf _ key n ↔ x ∈ ((pairs.reverse.lookup n).or (plainOf d key n))
    rw [hplain, KeyCommand.get?_insertAll, plainOf_eq hd]
  · show x ∈ membersOf _ key n ↔ x ∈ membersOf d key n
    rw [membersOf_congr (hset_outside (set_ne_row key n))]

/-- A set of a row is changed beside the row and its other sets. -/
theorem rowImage_changeSet {ms : KeyMap Unit} (hd : KeyCommand.setAt d (Key.set key name) = .ok ms)
    {f : KeyMap Unit → Reply × KeyMap Unit} {g : Set String → Set String}
    (hg : ∀ x, ((f ms).2.get? x).isSome = true ↔ x ∈ g {y | (ms.get? y).isSome = true}) :
    rowImage (KeyCommand.changeSet d (Key.set key name) f).2 key = (rowImage d key).change name g := by
  have hrun (j : String) : (KeyCommand.changeSet d (Key.set key name) f).2.get? j = _ := KeyCommand.changeSet_get? f j
  ext n x
  · show x ∈ plainOf _ key n ↔ x ∈ plainOf d key n
    rw [plainOf_congr ((hrun key).trans (if_neg (set_ne_row key name).symm))]
  · show x ∈ membersOf _ key n ↔ x ∈ if n = name then g {y | y ∈ membersOf d key n} else {y | y ∈ membersOf d key n}
    by_cases hn : n = name
    · subst hn
      have hold : {y | y ∈ membersOf d key n} = {y | (ms.get? y).isSome = true} := Set.ext fun y => mem_membersOf hd
      rw [if_pos rfl, hold, ← hg x]
      have hafter := hrun (Key.set key n)
      rw [if_pos rfl, hd] at hafter
      simp only [] at hafter
      by_cases hempty : (f ms).2.isEmpty = true
      · rw [if_pos hempty] at hafter
        unfold membersOf
        rw [hafter, KeyMap.isEmpty_iff.1 hempty x]
        simp
      · rw [if_neg hempty] at hafter
        refine mem_membersOf ?_
        unfold KeyCommand.setAt
        rw [hafter]
    · rw [if_neg hn, membersOf_congr ((hrun _).trans (if_neg fun he => hn (set_left_inj he)))]
      rfl

theorem rowImage_erase : rowImage (KeyCommand.eraseAll d [Key.set key name]).2 key =
    (rowImage d key).change name fun _ => ∅ := by
  have hrun (j : String) := KeyCommand.get?_eraseAll d [Key.set key name] j
  ext n x
  · show x ∈ plainOf _ key n ↔ x ∈ plainOf d key n
    rw [plainOf_congr ((hrun key).trans (if_neg fun hm => set_ne_row key name (List.mem_singleton.1 hm).symm))]
  · show x ∈ membersOf _ key n ↔ x ∈ if n = name then (∅ : Set String) else {y | y ∈ membersOf d key n}
    by_cases hn : n = name
    · subst hn
      unfold membersOf
      rw [hrun, if_pos (List.mem_singleton.2 rfl), if_pos rfl]
      simp
    · rw [if_neg hn, membersOf_congr ((hrun _).trans (if_neg fun hm => hn (set_left_inj (List.mem_singleton.1 hm))))]
      rfl

end Store

/-! ## Changes of a row -/

section Change

variable {m : Nat} {st : Settings} {t : Table} {d d' d'' : Data} {key : String} {f : Field} {α β : Type}
  {pairs : List (String × Bytes)} {g g' : RowImage → RowImage}

/-- A store in which a row has changed, with its sets, and nothing else. -/
structure Becomes (t : Table) (key : String) (g : RowImage → RowImage) (d d' : Data) : Prop where
  image : rowImage d' key = g (rowImage d key)
  frame : ∀ j, j ∉ t.footprint key → d'.get? j = d.get? j

theorem Becomes.refl (t : Table) (key : String) (d : Data) : Becomes t key id d d := ⟨rfl, fun _ _ => rfl⟩

theorem Becomes.trans (h : Becomes t key g d d') (h' : Becomes t key g' d' d'') : Becomes t key (g' ∘ g) d d'' :=
  ⟨h'.image.trans (congrArg g' h.image), fun j hj => (h'.frame j hj).trans (h.frame j hj)⟩

/-- The key of a row of a table of a session. -/
structure Table.Place (t : Table) (st : Settings) (key : String) : Prop where
  settings : st.Valid
  valid : t.Valid st
  outside : t.tablespace ≠ st.systemPrefix
  row : (t.parts? key).isSome = true

namespace Table.Place

theorem typed (h : t.Place st key) (hd : Typed st d) (hstep : RowStep t key d d') : Typed st d' :=
  (TableStep.row h.valid rfl h.outside h.row hstep).typed h.settings hd

theorem setAt (h : t.Place st key) (hf : f ∈ t.setFields) (hd : Typed st d) :
    ∃ ms, KeyCommand.setAt d (Key.set key f.name) = .ok ms := hd.setAt (isSet_set h.valid hf (isClosed_row h.row))

/-- Writing fields of the hash of a row. -/
theorem hmset (h : t.Place st key) (hne : pairs ≠ []) :
    Yields (world m) (Typed st) (fun d _ d' => Becomes t key (RowImage.overlay pairs) d d') (Asking.hmset key pairs) := by
  have hentry := not_reserved_row h.settings h.valid h.outside h.row List.mem_cons_self
  refine (yields_hmset hne fun d hd => hd.hset (isClosed_row h.row) hentry).mono ?_
  rintro d _ d' hd - ⟨⟨old, hold⟩, rfl⟩
  exact ⟨rowImage_hset hold, fun j hj => hset_outside fun he => hj (he ▸ List.mem_cons_self)⟩

/-- Removing a set of a row. -/
theorem del (h : t.Place st key) (hf : f ∈ t.setFields) :
    Yields (world m) (Typed st) (fun d _ d' => Becomes t key (RowImage.change f.name fun _ => ∅) d d')
      (Asking.del [Key.set key f.name]) := by
  have hrun := yields_counted (m := m) "DEL" (Command.runs_del (List.cons_ne_nil (Key.set key f.name) []))
    (I := Typed st) fun d hd => h.typed hd (.erase hf)
  refine hrun.mono ?_
  rintro d _ d' hd - rfl
  exact ⟨rowImage_erase, fun j hj => KeyCommand.run_outside _ fun hm =>
    hj (List.mem_singleton.1 hm ▸ set_mem_footprint hf)⟩

/-- A change of a set of a row that adds or removes members. -/
theorem changeSet (h : t.Place st key) (hf : f ∈ t.setFields) (name : String) {cmd : Command} {k : KeyCommand}
    {change : KeyMap Unit → Reply × KeyMap Unit} {g : Set String → Set String} (hr : cmd.Runs k)
    (hk : ∀ d, k.run d = KeyCommand.changeSet d (Key.set key f.name) change)
    (hg : ∀ (ms : KeyMap Unit) x, ((change ms).2.get? x).isSome = true ↔ x ∈ g {y | (ms.get? y).isSome = true}) :
    Yields (world m) (Typed st) (fun d _ d' => Becomes t key (RowImage.change f.name g) d d')
      (Asking.command cmd >>= Asking.integerOf name) := by
  have hrun := yields_counted (m := m) name hr (I := Typed st) fun d hd => by
    rw [hk]
    exact h.typed hd (.changeSet hf change)
  refine hrun.mono ?_
  rintro d _ d' hd - rfl
  obtain ⟨ms, hms⟩ := h.setAt hf hd
  rw [hk]
  refine ⟨rowImage_changeSet hms (hg ms), fun j hj => ?_⟩
  have hne : j ≠ Key.set key f.name := fun he => hj (he ▸ set_mem_footprint hf)
  rw [KeyCommand.changeSet_get?, if_neg hne]

theorem sadd (h : t.Place st key) (hf : f ∈ t.setFields) (members : List String) :
    Yields (world m) (Typed st) (fun d _ d' => Becomes t key (RowImage.change f.name (· ∪ {x | x ∈ members})) d d')
      (Asking.sadd (Key.set key f.name) members) := by
  cases members with
  | nil =>
    have hnone (ms : Set String) (x : String) : x ∈ ms ∪ {y | y ∈ ([] : List String)} ↔ x ∈ ms :=
      or_iff_left List.not_mem_nil
    exact .pure fun d _ => ⟨(RowImage.change_id hnone).symm, fun _ _ => rfl⟩
  | cons x xs =>
    refine h.changeSet hf "SADD" (Command.runs_sadd (List.cons_ne_nil x xs)) (fun _ => rfl) fun ms y => ?_
    show ((KeyCommand.insertAll ms ((x :: xs).map (·, ()))).2.get? y).isSome = true ↔ _
    rw [KeyCommand.get?_insertAll, Option.isSome_or, Bool.or_eq_true, or_comm]
    refine or_congr Iff.rfl ?_
    rw [← List.map_reverse, List.lookup_isSome_iff]
    simp [or_comm]

theorem srem (h : t.Place st key) (hf : f ∈ t.setFields) (members : List String) :
    Yields (world m) (Typed st) (fun d _ d' => Becomes t key (RowImage.change f.name (· \ {x | x ∈ members})) d d')
      (Asking.srem (Key.set key f.name) members) := by
  cases members with
  | nil =>
    have hnone (ms : Set String) (x : String) : x ∈ ms \ {y | y ∈ ([] : List String)} ↔ x ∈ ms :=
      and_iff_left List.not_mem_nil
    exact .pure fun d _ => ⟨(RowImage.change_id hnone).symm, fun _ _ => rfl⟩
  | cons x xs =>
    refine h.changeSet hf "SREM" (Command.runs_srem (List.cons_ne_nil x xs)) (fun _ => rfl) fun ms y => ?_
    show ((KeyCommand.eraseAll ms (x :: xs)).2.get? y).isSome = true ↔ _
    rw [KeyCommand.get?_eraseAll]
    split
    · next hm => exact iff_of_false Bool.false_ne_true fun hy => hy.2 hm
    · next hm => exact ⟨fun hy => ⟨hy, hm⟩, fun hy => hy.1⟩

end Table.Place

/-- Changes one after another. -/
theorem yields_forM {I : Data → Prop} {as : List α} {act : α → Engine PUnit} {g : α → RowImage → RowImage}
    (h : ∀ a ∈ as, Yields (world m) I (fun d _ d' => Becomes t key (g a) d d') (act a)) :
    Yields (world m) I (fun d _ d' => Becomes t key (fun w => as.foldl (fun w a => g a w) w) d d') (as.forM act) := by
  induction as with
  | nil => exact .pure fun d _ => .refl t key d
  | cons a as ih =>
    show Yields (world m) I _ (act a >>= fun _ => as.forM act)
    exact (h a List.mem_cons_self).bind fun _ => (ih fun b hb => h b (List.mem_cons_of_mem _ hb)).mono
      fun _ _ _ _ _ h2 _ _ h1 => h1.trans h2

namespace Upsertion

variable {a : PreparedAssignment} {as : List PreparedAssignment} {values : List (Field × String)} {value x : String}

/-- The members that a value lists. -/
def listed (value : String) : Set String := {x | x ∈ setMembers value}

theorem yields_replaceSet (h : t.Place st key) (hf : f ∈ t.setFields) (value : String) :
    Yields (world m) (Typed st) (fun d _ d' => Becomes t key (RowImage.change f.name fun _ => listed value) d d')
      (replaceSet key f.name value) := by
  refine (h.del hf).liftM.bind fun _ => ((h.sadd hf (setMembers value)).liftM.returning
    (T := fun d _ d' => Becomes t key (RowImage.change f.name (· ∪ listed value)) d d') fun _ _ _ _ _ h2 => h2).mono ?_
  intro _ _ _ _ _ h2 _ _ h1
  have hcomp : RowImage.change f.name (· ∪ listed value) ∘ RowImage.change f.name (fun _ => ∅) =
      RowImage.change f.name fun _ => listed value := by
    funext w
    refine RowImage.ext rfl (funext fun n => ?_)
    show (if n = f.name then (if n = f.name then ∅ else w.members n) ∪ listed value
      else if n = f.name then ∅ else w.members n) = if n = f.name then listed value else w.members n
    split
    · exact Set.ext fun x => or_iff_right id
    · rfl
  exact hcomp ▸ h1.trans h2

/-- A row with the sets of some values in place of its own. -/
def withSets (values : List (Field × String)) (w : RowImage) : RowImage :=
  values.foldl (fun w v => w.change v.1.name fun _ => listed v.2) w

/-- A row over which values have been written. -/
def written (values : List (Field × String)) (w : RowImage) : RowImage :=
  withSets (values.filter fun v => v.1.type.isSet) (w.overlay (hashFields values))

theorem yields_writeRow (h : t.Place st key) (hv : ∀ fx ∈ values, fx.1 ∈ t.fields ∧ fx.1.Holds fx.2) :
    Yields (world m) (Typed st) (fun d _ d' => Becomes t key (written values) d d') (writeRow key values) := by
  obtain ⟨-, hne⟩ := hashFields_stored hv
  have hsets : Yields (world m) (Typed st)
      (fun d _ d' => Becomes t key (withSets (values.filter fun v => v.1.type.isSet)) d d')
      ((values.filter fun v => v.1.type.isSet).forM fun v => replaceSet key v.1.name v.2) := by
    refine yields_forM (g := fun v : Field × String => RowImage.change v.1.name fun _ => listed v.2) fun v hmem => ?_
    obtain ⟨hmem, hset⟩ := List.mem_filter.1 hmem
    exact yields_replaceSet h (Table.mem_setFields.2 ⟨(hv v hmem).1, hset⟩) v.2
  exact (h.hmset hne).liftM.bind fun _ => hsets.mono fun _ _ _ _ _ h2 _ _ h1 => h1.trans h2

/-- What an assignment makes of the members of a set. -/
def assignedMembers (a : PreparedAssignment) (ms : Set String) : Set String :=
  match a.op with
  | .set => listed a.value
  | .add => ms ∪ listed a.value
  | .sub => ms \ listed a.value

/-- A row over whose set an assignment has been carried out. -/
def assigned (a : PreparedAssignment) : RowImage → RowImage := RowImage.change a.field.name (assignedMembers a)

theorem yields_assignSet (h : t.Place st key) (hf : a.field ∈ t.setFields) :
    Yields (world m) (Typed st) (fun d _ d' => Becomes t key (assigned a) d d') (assignSet key a) := by
  unfold assignSet assigned assignedMembers
  simp only []
  cases a.op with
  | set => exact yields_replaceSet h hf a.value
  | add => exact (h.sadd hf (setMembers a.value)).liftM.returning fun _ _ _ _ _ h => h
  | sub => exact (h.srem hf (setMembers a.value)).liftM.returning fun _ _ _ _ _ h => h

/-- What an assignment to a plain attribute makes of its old value. -/
def Gives (a : PreparedAssignment) (old : Option Bytes) (x : String) : Prop :=
  if a.op = .set then x = a.value else arithmetic a (old.map Utf8.decodeLossy) = .ok x

/-- The fields that assignments to plain attributes write over those of a row. -/
def Computed (w : RowImage) (as : List PreparedAssignment) (pairs : List (String × Bytes)) : Prop :=
  (as.filter fun a => !a.field.type.isSet).Forall₂
    (fun a p => p.1 = a.field.name ∧ ∃ x, Gives a (w.plain a.field.name) x ∧ p.2 = Utf8.bytes x) pairs

/-- A row over whose sets assignments have been carried out. -/
def allAssigned (as : List PreparedAssignment) (w : RowImage) : RowImage :=
  (as.filter fun a => a.field.type.isSet).foldl (fun w a => assigned a w) w

theorem allAssigned_set (hset : a.field.type.isSet = true) :
    allAssigned (a :: as) = allAssigned as ∘ assigned a := by
  unfold allAssigned
  rw [List.filter_cons_of_pos (p := fun a : PreparedAssignment => a.field.type.isSet) hset]
  rfl

theorem allAssigned_plain (hset : ¬ a.field.type.isSet = true) : allAssigned (a :: as) = allAssigned as := by
  unfold allAssigned
  rw [List.filter_cons_of_neg (p := fun a : PreparedAssignment => a.field.type.isSet) hset]

/-- The old values that assignments need are those of a row. -/
def Known (w : RowImage) (as : List PreparedAssignment) (old : List (String × Option Bytes)) : Prop :=
  ∀ a ∈ as, needsOld a = true → (old.lookup a.field.name).bind id = w.plain a.field.name

/-- Assignments change the sets of a row, and the new values of its plain attributes are computed from the old ones. -/
theorem yields_assign (h : t.Place st key) (w : RowImage) (old : List (String × Option Bytes))
    (hfields : ∀ a ∈ as, a.field ∈ t.fields) :
    Yields (world m) (Typed st) (fun d pairs d' => Becomes t key (allAssigned as) d d' ∧
      (Known w as old → Computed w as pairs)) (assign key old as) := by
  induction as with
  | nil => exact .pure fun d _ => ⟨.refl t key d, fun _ => .nil⟩
  | cons a as ih =>
    have ih := ih fun b hb => hfields b (List.mem_cons_of_mem _ hb)
    have htail (hk : Known w (a :: as) old) : Known w as old := fun b hb => hk b (List.mem_cons_of_mem _ hb)
    unfold assign
    split
    · next hset =>
      have hf := Table.mem_setFields.2 ⟨hfields a List.mem_cons_self, hset⟩
      refine (yields_assignSet h hf).bind fun _ => ih.mono ?_
      intro _ _ _ _ _ h2 _ _ h1
      have hrest : (a :: as).filter (fun a => !a.field.type.isSet) = as.filter fun a => !a.field.type.isSet :=
        List.filter_cons_of_neg (by rw [hset]; exact Bool.false_ne_true)
      refine ⟨allAssigned_set hset ▸ h1.trans h2.1, fun hk => ?_⟩
      unfold Computed
      rw [hrest]
      exact h2.2 (htail hk)
    · next hset =>
      have hcons (x : String) : Yields (world m) (Typed st) (fun d pairs d' =>
          Becomes t key (allAssigned (a :: as)) d d' ∧
            (Gives a (w.plain a.field.name) x → Known w (a :: as) old → Computed w (a :: as) pairs))
          (do return (a.field.name, Utf8.bytes x) :: (← assign key old as)) := by
        refine ih.bind fun pairs => .pure fun d' _ d _ h =>
          ⟨by rw [allAssigned_plain hset]; exact h.1, fun hgives hk => ?_⟩
        unfold Computed
        rw [List.filter_cons_of_pos (by simpa using hset)]
        exact .cons ⟨rfl, x, hgives, rfl⟩ (h.2 (htail hk))
      split
      · next hop => exact (hcons a.value).mono fun _ _ _ _ _ h => ⟨h.1, h.2 ((if_pos hop).mpr rfl)⟩
      · next hop =>
        have hvalue : Yields (world m) (Typed st) (fun d x d' =>
            arithmetic a (((old.lookup a.field.name).bind id).map Utf8.decodeLossy) = .ok x ∧ d' = d)
            (ExceptT.mk (pure (arithmetic a (((old.lookup a.field.name).bind id).map Utf8.decodeLossy))) :
              Engine String) := .mk fun _ _ _ hx => ⟨hx, rfl⟩
        refine hvalue.bind fun x => (hcons x).mono ?_
        rintro d' _ _ _ _ h d _ ⟨hx, rfl⟩
        refine ⟨h.1, fun hk => h.2 ((if_neg hop).mpr ?_) hk⟩
        rwa [hk a List.mem_cons_self (by unfold needsOld; simp [hop, hset])] at hx

/-- A row that has been changed by assignments, the fields `pairs` among them. -/
def updated (as : List PreparedAssignment) (pairs : List (String × Bytes)) (w : RowImage) : RowImage :=
  (allAssigned as w).overlay pairs

theorem yields_updateRow (h : t.Place st key) (hfields : ∀ a ∈ as, a.field ∈ t.fields) :
    Yields (world m) (Typed st) (fun d _ d' => ∃ pairs, Computed (rowImage d key) as pairs ∧
      Becomes t key (updated as pairs) d d') (updateRow key as) := by
  refine .each fun d₀ => ?_
  -- The old values are read before anything changes, and the new ones are written behind the changes of the sets.
  have hrest (old : List (Option Bytes)) : Yields (world m) (Typed st) (fun d _ d' =>
      Known (rowImage d₀ key) as (((as.filter needsOld).map fun a => a.field.name).zip old) →
        ∃ pairs, Computed (rowImage d₀ key) as pairs ∧ Becomes t key (updated as pairs) d d') (do
          let pairs ← assign key (((as.filter needsOld).map fun a => a.field.name).zip old) as
          if !pairs.isEmpty then liftM (Asking.hmset key pairs) : Engine Unit) := by
    have hwrite (pairs : List (String × Bytes)) : Yields (world m) (Typed st)
        (fun d _ d' => Becomes t key (RowImage.overlay pairs) d d')
        (if !pairs.isEmpty then liftM (Asking.hmset key pairs) else pure () : Engine Unit) := by
      cases pairs with
      | nil => exact .pure fun d _ => .refl t key d
      | cons p ps => exact (h.hmset (List.cons_ne_nil p ps)).liftM
    exact (yields_assign h (rowImage d₀ key) _ hfields).bind fun pairs => (hwrite pairs).mono
      fun _ _ _ _ _ h2 _ _ h1 hk => ⟨pairs, h1.2 hk, h1.1.trans h2⟩
  have hknown (old : List (Option Bytes)) (hold : old = ((as.filter needsOld).map fun a => a.field.name).map (plainOf d₀ key)) :
      Known (rowImage d₀ key) as (((as.filter needsOld).map fun a => a.field.name).zip old) := by
    intro a ha hn
    rw [hold, lookup_zip_map _ (List.mem_map_of_mem (f := fun a : PreparedAssignment => a.field.name)
      (List.mem_filter.2 ⟨ha, hn⟩))]
    rfl
  unfold updateRow
  simp only []
  split
  · next hnil =>
    have hnil := List.isEmpty_iff.1 hnil
    refine (hrest []).mono fun d _ d' _ _ hd he => ?_
    subst he
    exact hd (hknown [] (by rw [hnil]; rfl))
  · next hne =>
    refine (yields_hmget (Table.isClosed_row h.row) fun he => hne (by rw [he]; rfl)).liftM.bind fun old => (hrest old).mono ?_
    rintro d' _ _ _ _ hd d _ ⟨hold, rfl⟩ rfl
    exact hd (hknown old hold)

/-- What a statement with the key of a row leaves, and what it reports. -/
inductive Effect (u : PreparedUpsertion) (t : Table) (key : String) (d : Data) : UpsertOutcome → Data → Prop
  | written {d' : Data} (hmode : ∀ q, u.mode ≠ .query q) (hnew : u.mode = .overwrite ∨ d.contains key = false)
    (hpresent : ∀ as, u.mode = .update as → checkPresent u.table u.values = .ok ())
    (h : Becomes t key (written u.values) d d') : Effect u t key d (.written 1) d'
  | ignored (hmode : u.mode = .ignore) (hd : d.contains key = true) : Effect u t key d .ignored d
  | updated {d' : Data} {as : List PreparedAssignment} {pairs : List (String × Bytes)} (hmode : u.mode = .update as)
    (hd : d.contains key = true) (hpairs : Computed (rowImage d key) as pairs)
    (h : Becomes t key (updated as pairs) d d') : Effect u t key d (.updated 1) d'

/-- Nothing but the row and its sets changes. -/
theorem Effect.frame {u : PreparedUpsertion} {o : UpsertOutcome} (h : Effect u t key d o d') :
    ∀ j, j ∉ t.footprint key → d'.get? j = d.get? j := by
  cases h with
  | written _ _ _ h => exact h.frame
  | ignored => exact fun _ _ => rfl
  | updated _ _ _ h => exact h.frame

theorem yields_existsKey (key : String) :
    Yields (world m) (Typed st) (fun d b d' => b = d.contains key ∧ d' = d) (Asking.existsKey key) := by
  intro d b d' hd hrun
  obtain ⟨r, h1, h2⟩ := reads_existsKey (m := m) key d rfl
  rw [h1] at hrun
  cases hrun
  exact ⟨hd, h2 b rfl, rfl⟩

/-- What a statement with a full key leaves, and what it reports. -/
theorem yields_execute (h : t.Place st key) {u : PreparedUpsertion} (hu : u.Sound t) (hkey : u.key = some key)
    (v : ScanEnv) : Yields (world m) (Typed st) (fun d o d' => Effect u t key d o d') (execute v u) := by
  unfold execute
  rw [hkey]
  split
  · exact .throw _
  · next hmode hk =>
    cases hk
    exact (yields_writeRow h hu.values).returning fun _ _ _ _ _ hd =>
      .written (by rw [hmode]; rintro _ ⟨⟩) (.inl hmode) (by rw [hmode]; rintro _ ⟨⟩) hd
  · next hmode hk =>
    cases hk
    refine (yields_existsKey key).liftM.bind fun b => ?_
    split
    · next hb =>
      refine .pure fun d' _ d _ ⟨he, hd⟩ => ?_
      subst hd
      exact .ignored hmode (he ▸ hb)
    · next hb =>
      refine (yields_writeRow h hu.values).returning fun d' _ d'' _ _ hd d _ ⟨he, hsame⟩ => ?_
      exact .written (by rw [hmode]; rintro _ ⟨⟩) (.inr (by simpa [← he] using hb)) (by rw [hmode]; rintro _ ⟨⟩)
        (hsame ▸ hd)
  · next as _ hmode hk =>
    cases hk
    refine (yields_existsKey key).liftM.bind fun b => ?_
    split
    · next hb =>
      refine (yields_updateRow h fun a ha => (hu.mode as hmode a ha).field).returning
        fun d' _ d'' _ _ ⟨pairs, hpairs, hd⟩ d _ ⟨he, hsame⟩ => ?_
      subst hsame
      exact .updated hmode (he ▸ hb) hpairs hd
    · next hb =>
      have hcheck : Yields (world m) (Typed st) (fun d _ d' => checkPresent u.table u.values = .ok () ∧ d' = d)
          (ExceptT.mk (pure (checkPresent u.table u.values)) : Engine Unit) := .mk fun _ _ _ hx => ⟨hx, rfl⟩
      refine hcheck.bind fun _ => (yields_writeRow h hu.values).returning
        fun d₂ _ d'' _ _ hd d₁ _ ⟨hpresent, h1⟩ d _ ⟨he, h2⟩ => ?_
      subst h1 h2
      exact .written (by rw [hmode]; rintro _ ⟨⟩) (.inr (by simpa [← he] using hb)) (fun _ _ => hpresent) hd
  · next hk => cases hk
  · next hk _ _ => cases hk

/-- What has been left and reported whenever a checked statement with a full key has been carried out. -/
theorem effect_of_execute {topo : Topology} {v : ScanEnv} {c c' : Context Simulation Link} {up : Upsertion}
    {u : PreparedUpsertion} {now : Int} {o : UpsertOutcome} (hst : st.Valid) (ht : t.Valid st)
    (hts : t.tablespace ≠ st.systemPrefix) (hd : Typed st d) (hu : prepare t now up = .ok u) (hkey : u.key = some key)
    (hc : Hosts m topo d c) (hrun : outcome Context.world (execute v u) c = (.ok o, c')) :
    ∃ d', Hosts m topo d' c' ∧ Typed st d' ∧ Effect u t key d o d' := by
  obtain ⟨top, hserves⟩ := hc
  have hsound := prepare_sound ht hu
  obtain ⟨c₁, h1, h2⟩ := outcome_serves (asks_execute hsound hkey (Table.rowCommands_onSlot t key) v)
    (fun _ _ hcmd => hcmd) hserves
  rw [hrun] at h1
  obtain ⟨hr, rfl⟩ := Prod.mk.inj h1
  obtain ⟨htyped, he⟩ := yields_execute ⟨hst, ht, hts, prepare_parts ht hu hkey⟩ hsound hkey v d o _ hd
    (Prod.ext hr.symm rfl)
  exact ⟨_, ⟨top, h2⟩, htyped, he⟩

end Upsertion

end Change

end SlotSql
