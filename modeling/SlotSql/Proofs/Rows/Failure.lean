import SlotSql.Proofs.Rows.Deletion
import SlotSql.Proofs.Rows.Parts
/-!
# Statements that fail

A statement that writes a row asks for several commands, and some of them can fail: a command can have too many
words, and the sum of two numbers can be out of range. Work is called atomic if it succeeds or leaves the
store as it was. Reading in front of atomic work is atomic, and so is atomic work in front of work that always
succeeds; but not two pieces of atomic work one after the other. This is why it matters in which order a
statement assigns values: an assignment to a set is carried out at once, so nothing that stands behind it
may fail.

Results:
* `Atomic.bind`, `Reads.bind`: how atomic work is put together.
* `atomic_writeRow`, `atomic_updateRow`, `atomic_execute`: when writing a row is atomic.
-/
namespace SlotSql

open Cluster Store Simulation Evaluation Dialogue

/-! ## Work that succeeds or changes nothing -/

namespace Cluster.Dialogue

variable {σ α β ε : Type} {w : World σ} {I J : σ → Prop} {Q : α → Prop} {R : α → σ → Prop} {S : β → σ → Prop}
  {x : ExceptT ε Dialogue α} {f : α → ExceptT ε Dialogue β}

/-- Work that changes nothing. -/
def Reads (w : World σ) (I : σ → Prop) (Q : α → Prop) (x : ExceptT ε Dialogue α) : Prop :=
  ∀ s, I s → ∃ r, outcome w x s = (r, s) ∧ ∀ a, r = .ok a → Q a

/-- Work that succeeds. -/
def Succeeds (w : World σ) (I : σ → Prop) (R : α → σ → Prop) (x : ExceptT ε Dialogue α) : Prop :=
  ∀ s, I s → ∃ a s', outcome w x s = (.ok a, s') ∧ R a s'

/-- Work that succeeds or changes nothing. -/
def Atomic (w : World σ) (I : σ → Prop) (R : α → σ → Prop) (x : ExceptT ε Dialogue α) : Prop :=
  ∀ s, I s → (∃ a s', outcome w x s = (.ok a, s') ∧ R a s') ∨ ∃ e, outcome w x s = (.error e, s)

theorem Atomic.mono (h : Atomic w I R x) (hJ : ∀ s, J s → I s) : Atomic w J R x := fun s hs => h s (hJ s hs)

theorem Succeeds.atomic (h : Succeeds w I R x) : Atomic w I R x := fun s hs => .inl (h s hs)

theorem Succeeds.pure {a : α} (h : ∀ s, I s → R a s) : Succeeds w I R (Pure.pure a : ExceptT ε Dialogue α) :=
  fun s hs => ⟨a, s, rfl, h s hs⟩

theorem Succeeds.mono {J : σ → Prop} {R' : α → σ → Prop} (h : Succeeds w I R x) (hJ : ∀ s, J s → I s)
    (hR : ∀ a s, R a s → R' a s) : Succeeds w J R' x := fun s hs =>
  let ⟨a, s', h1, h2⟩ := h s (hJ s hs)
  ⟨a, s', h1, hR a s' h2⟩

theorem Succeeds.bind (hx : Succeeds w I R x) (hf : ∀ a, Succeeds w (R a) S (f a)) :
    Succeeds w I S (x >>= f) := by
  intro s hs
  obtain ⟨a, s', h1, h2⟩ := hx s hs
  rw [outcome_bind_ok h1]
  exact hf a s' h2

theorem Succeeds.forM {g : β → ExceptT ε Dialogue PUnit} {bs : List β}
    (h : ∀ b ∈ bs, Succeeds w I (fun _ => I) (g b)) : Succeeds w I (fun _ => I) (bs.forM g) := by
  induction bs with
  | nil => exact .pure fun _ hs => hs
  | cons b bs ih =>
    rw [List.forM_eq_forM, List.forM_cons]
    exact (h b List.mem_cons_self).bind fun _ => ih fun b' hb => h b' (List.mem_cons_of_mem _ hb)

theorem Reads.pure {a : α} (h : Q a) : Reads w I Q (Pure.pure a : ExceptT ε Dialogue α) := by
  refine fun s _ => ⟨.ok a, rfl, ?_⟩
  rintro _ ⟨⟩
  exact h

theorem Reads.mk {y : Except ε α} (h : ∀ a, y = .ok a → Q a) : Reads w I Q (ExceptT.mk (done y)) :=
  fun _ _ => ⟨y, rfl, h⟩

/-- Reading in front of atomic work is atomic. -/
theorem Reads.bind (hx : Reads w I Q x) (hf : ∀ a, Q a → Atomic w I S (f a)) : Atomic w I S (x >>= f) := by
  intro s hs
  obtain ⟨r, h1, h2⟩ := hx s hs
  cases r with
  | error e => exact .inr ⟨e, outcome_bind_error h1⟩
  | ok a =>
    rw [outcome_bind_ok h1]
    exact hf a (h2 a rfl) s hs

/-- Reading in front of reading is reading. -/
theorem Reads.andThen {Q' : β → Prop} (hx : Reads w I Q x) (hf : ∀ a, Q a → Reads w I Q' (f a)) :
    Reads w I Q' (x >>= f) := by
  intro s hs
  obtain ⟨r, h1, h2⟩ := hx s hs
  cases r with
  | error e => exact ⟨.error e, outcome_bind_error h1, by rintro _ ⟨⟩⟩
  | ok a =>
    rw [outcome_bind_ok h1]
    exact hf a (h2 a rfl) s hs

/-- Atomic work in front of work that succeeds is atomic. -/
theorem Atomic.bind (hx : Atomic w I R x) (hf : ∀ a, Succeeds w (R a) S (f a)) : Atomic w I S (x >>= f) := by
  intro s hs
  rcases hx s hs with ⟨a, s', h1, h2⟩ | ⟨e, h1⟩
  · rw [outcome_bind_ok h1]
    exact .inl (hf a s' h2)
  · exact .inr ⟨e, outcome_bind_error h1⟩

section Lift

variable {y : Asking α}

theorem Reads.liftM (h : Reads w I Q y) : Reads w I Q (liftM y : Engine α) := by
  intro s hs
  obtain ⟨r, h1, h2⟩ := h s hs
  refine ⟨r.mapError ClusterError.toEngine, by rw [Engine.outcome_liftM, h1], fun a ha => h2 a ?_⟩
  cases r with
  | ok b => exact congrArg Except.ok (Except.ok.inj ha)
  | error e => cases ha

theorem Succeeds.liftM (h : Succeeds w I R y) : Succeeds w I R (liftM y : Engine α) := by
  intro s hs
  obtain ⟨a, s', h1, h2⟩ := h s hs
  exact ⟨a, s', by rw [Engine.outcome_liftM, h1]; rfl, h2⟩

theorem Atomic.liftM (h : Atomic w I R y) : Atomic w I R (liftM y : Engine α) := by
  intro s hs
  rcases h s hs with ⟨a, s', h1, h2⟩ | ⟨e, h1⟩
  · exact .inl ⟨a, s', by rw [Engine.outcome_liftM, h1]; rfl, h2⟩
  · exact .inr ⟨e.toEngine, by rw [Engine.outcome_liftM, h1]; rfl⟩

end Lift

end Cluster.Dialogue

/-! ## A store as a world -/

namespace Store

variable {m top : Nat} {topo : Topology} {d : Data} {cmd : Command} {k : KeyCommand} {α : Type}
  {I : Data → Prop} {R : α → Data → Prop} {c : Context Simulation Link} {P : Target → Command → Prop} {Q : α → Prop}

/-- A store as a world: it answers every command itself. -/
def world (m : Nat) : World Data := fun _ cmd d => reply m cmd d

/-- A command on keys of one slot. -/
def OnSlot (g : Target) (cmd : Command) : Prop :=
  g = .active ∧ ∃ k slot, cmd.Runs k ∧ OneSlot slot k.keys

/-- Work that asks for such commands comes in a context to what it comes to in the store that it serves. -/
theorem outcome_serves {x : Engine α} (hx : Asks P Q x) (hP : ∀ g cmd, P g cmd → OnSlot g cmd)
    (hc : Serves m top topo d c) : ∃ c', outcome Context.world x c = ((outcome (world m) x d).1, c') ∧
      Serves m top topo (outcome (world m) x d).2 c' := by
  obtain ⟨h1, -, h3⟩ := run_simulates Context.world (world m) (A := fun _ => True)
    (R := fun c d => Serves m top topo d c) (fun g cmd c₁ d₁ hcmd h₁ => by
      obtain ⟨rfl, k, slot, hr, hk⟩ := hP g cmd hcmd
      obtain ⟨c₂, e1, e2, -⟩ := h₁.exec hr hk
      rw [e1]
      exact ⟨rfl, trivial, e2⟩) hx hc
  exact ⟨_, Prod.ext h1 rfl, h3⟩

/-- Work that asks for commands on some keys only leaves all others alone. -/
theorem outcome_outside {x : Engine α} {ks : List String} (hx : Asks P Q x)
    (hP : ∀ g cmd, P g cmd → ∃ k, cmd.Runs k ∧ ∀ j ∈ k.keys, j ∈ ks) {j : String} (hj : j ∉ ks) :
    (outcome (world m) x d).2.get? j = d.get? j := by
  refine (Obeys.keeps (w := world m) (I := fun d' => d'.get? j = d.get? j) (fun g cmd d' hcmd hd' => ?_) hx rfl).2
  obtain ⟨k, hr, hk⟩ := hP g cmd hcmd
  by_cases hl : cmd.length ≤ m
  · show (reply m cmd d').2.get? j = _
    rw [reply_runs hr hl]
    exact (KeyCommand.run_outside k fun hm => hj (hk j hm)).trans hd'
  · show (reply m cmd d').2.get? j = _
    rw [reply_long hr (Nat.lt_of_not_le hl)]
    exact hd'

/-- Work that asks for commands that read changes nothing. -/
theorem reads_of_asks {x : ExceptT ClusterError Dialogue α}
    (hx : Asks (fun _ cmd => ∃ k, cmd.Runs k ∧ ∀ d, (k.run d).2 = d) Q x) : Reads (world m) I Q x := by
  intro d _
  obtain ⟨h1, h2⟩ := Obeys.keeps (w := world m) (I := (· = d)) (fun g cmd d' hcmd hd' => by
    obtain ⟨k, hr, hk⟩ := hcmd
    show (reply m cmd d').2 = d
    by_cases hl : cmd.length ≤ m
    · rw [reply_runs hr hl, hk, hd']
    · rw [reply_long hr (Nat.lt_of_not_le hl), hd']) hx rfl
  exact ⟨_, Prod.ext rfl h2, h1⟩

/-- Writing fields of a hash comes to what the command comes to. -/
theorem outcome_hmset (m : Nat) (key : String) (pairs : List (String × Bytes)) (d : Data) :
    outcome (world m) (liftM (Asking.hmset key pairs) : Engine Unit) d =
      (((reply m (.hmset key pairs) d).1.map fun _ => ()).mapError ClusterError.toEngine,
        (reply m (.hmset key pairs) d).2) := by
  rw [Engine.outcome_liftM]
  unfold Asking.hmset
  rw [outcome_bind, Asking.outcome_command, world]
  cases reply m (.hmset key pairs) d with
  | mk r d' => cases r <;> rfl

/-- A command that is answered as hoped for is atomic, and succeeds if it has not too many words. -/
theorem atomic_command {f : Reply → Asking α} (hr : cmd.Runs k)
    (h : ∀ d, I d → ∃ r a, (k.run d).1.answer = .ok r ∧ f r = pure a ∧ R a (k.run d).2) :
    Atomic (world m) I R (Asking.command cmd >>= f) ∧
      (cmd.length ≤ m → Succeeds (world m) I R (Asking.command cmd >>= f)) := by
  have hfits (hl : cmd.length ≤ m) : Succeeds (world m) I R (Asking.command cmd >>= f) := by
    intro d hd
    obtain ⟨r, a, h1, h2, h3⟩ := h d hd
    refine ⟨a, _, ?_, h3⟩
    have hcmd : outcome (world m) (Asking.command cmd) d = (.ok r, (k.run d).2) := by
      rw [Asking.outcome_command, world, reply_runs hr hl, h1]
    rw [outcome_bind_ok hcmd, h2, outcome_pure]
  refine ⟨?_, hfits⟩
  by_cases hl : cmd.length ≤ m
  · exact (hfits hl).atomic
  · intro d _
    have hcmd : outcome (world m) (Asking.command cmd) d =
        (.error (.tooManyArgs cmd.name cmd.length m), d) := by
      rw [Asking.outcome_command, world, reply_long hr (Nat.lt_of_not_le hl)]
    exact .inr ⟨_, outcome_bind_error hcmd⟩

end Store

/-! ## Writing to a row -/

variable {m top : Nat} {topo : Topology} {t : Table} {st : Settings} {d : Data} {f : Field} {key : String}
  {members : List String} {pairs : List (String × Bytes)} {now : Int}

namespace Table

/-- What lies under the key of a row is a hash. -/
theorem Kept.hashAt (hk : t.Kept d) (hp : (t.parts? key).isSome = true) : ∃ h, KeyCommand.hashAt d key = .ok h := by
  unfold KeyCommand.hashAt
  cases hv : d.get? key with
  | none => exact ⟨_, rfl⟩
  | some v =>
    cases v with
    | hash h => exact ⟨h, rfl⟩
    | set x =>
      have hnone : t.parts? key = none := hk key _ hv
      rw [hnone] at hp
      cases hp

/-- What lies under the key of a set of a row is a set. -/
theorem Kept.setAt (hk : t.Kept d) (hp : (t.parts? key).isSome = true) (hf : f ∈ t.setFields) :
    ∃ x, KeyCommand.setAt d (Key.set key f.name) = .ok x := by
  unfold KeyCommand.setAt
  cases hv : d.get? (Key.set key f.name) with
  | none => exact ⟨_, rfl⟩
  | some v =>
    cases v with
    | set x => exact ⟨x, rfl⟩
    | hash h => exact absurd rfl ((hk _ _ hv).1 key f hp hf)

end Table

section Commands

theorem Cluster.Command.length_hmset (key : String) (pairs : List (String × Bytes)) :
    (Command.hmset key pairs).length = 2 + 2 * pairs.length := by
  have hpairs : (pairs.flatMap fun p => [Utf8.bytes p.1, p.2]).length = 2 * pairs.length := by
    induction pairs with
    | nil => rfl
    | cons p ps ih =>
      rw [List.flatMap_cons, List.length_append, ih, List.length_cons, List.length_cons, List.length_cons,
        List.length_nil]
      omega
  show ([Utf8.bytes "HMSET", Utf8.bytes key] ++ pairs.flatMap fun p => [Utf8.bytes p.1, p.2]).length = _
  rw [List.length_append, hpairs]
  rfl

/-- Whether a key exists is found out without a change. -/
theorem reads_existsKey (key : String) :
    Reads (Store.world m) (· = d) (fun b => b = d.contains key) (Asking.existsKey key) := by
  have hcmd := (atomic_command (m := m) (I := (· = d)) (R := fun b d' => b = d.contains key ∧ d' = d)
    (f := fun r => do return 0 < (← Asking.integerOf "EXISTS" r)) (@Command.runs_existsKey key)
    fun d' hd' => by
      rw [hd']
      refine ⟨.integer ([key].filter d.contains).length, _, rfl, rfl, ?_, rfl⟩
      cases hk : d.contains key <;> simp [hk]).1
  intro d' hd'
  rcases hcmd d' hd' with ⟨b, d'', h1, h2, h3⟩ | ⟨e, h1⟩
  · refine ⟨.ok b, h1.trans (by rw [h3, hd']), ?_⟩
    rintro _ ⟨⟩
    exact h2
  · exact ⟨.error e, h1, by rintro _ ⟨⟩⟩

theorem reads_hmget {fields : List String} (hf : fields ≠ []) :
    Reads (Store.world m) t.Kept (fun _ => True) (Asking.hmget key fields) :=
  reads_of_asks (asks_hmget ⟨_, Command.runs_hmget hf, fun _ => KeyCommand.readHash_data _⟩)

/-- Fields of a row are written, or nothing happens. -/
theorem atomic_hmset (hp : (t.parts? key).isSome = true) (hne : pairs ≠ []) {J : Data → Prop}
    (hJ : ∀ d, t.Kept d → J ((KeyCommand.hset false key pairs).run d).2) :
    Atomic (Store.world m) t.Kept (fun _ => J) (Asking.hmset key pairs) ∧
      (2 + 2 * pairs.length ≤ m → Succeeds (Store.world m) t.Kept (fun _ => J) (Asking.hmset key pairs)) := by
  have hcmd := atomic_command (m := m) (I := t.Kept) (R := fun (_ : Unit) => J) (f := fun _ => pure ())
    (@Command.runs_hmset key pairs hne) fun d hk => by
      obtain ⟨h, hh⟩ := hk.hashAt hp
      refine ⟨.ok, (), ?_, rfl, hJ d hk⟩
      show (KeyCommand.changeHash d key fun h => (.ok, (KeyCommand.insertAll h pairs).2)).1.answer = _
      unfold KeyCommand.changeHash
      rw [hh]
      rfl
  exact ⟨hcmd.1, fun hl => hcmd.2 (by rw [Command.length_hmset]; exact hl)⟩

/-- A set of a row is changed, or nothing happens. -/
theorem atomic_changeSet (ht : t.Valid st) (hp : (t.parts? key).isSome = true) (hf : f ∈ t.setFields)
    {cmd : Command} {k : KeyCommand} {g : KeyMap Unit → Reply × KeyMap Unit} (name : String) (hr : cmd.Runs k)
    (hrun : ∀ d, k.run d = KeyCommand.changeSet d (Key.set key f.name) g) (hg : ∀ x, ∃ n, (g x).1 = .integer n) :
    Atomic (Store.world m) t.Kept (fun _ => t.Kept) (Asking.command cmd >>= Asking.integerOf name) ∧
      (cmd.length ≤ m → Succeeds (Store.world m) t.Kept (fun _ => t.Kept)
        (Asking.command cmd >>= Asking.integerOf name)) := by
  refine atomic_command hr fun d hk => ?_
  obtain ⟨x, hx⟩ := hk.setAt hp hf
  obtain ⟨n, hn⟩ := hg x
  refine ⟨.integer n, n, ?_, rfl, ?_⟩
  · rw [hrun]
    unfold KeyCommand.changeSet
    rw [hx]
    show (g x).1.answer = _
    rw [hn]
    rfl
  · rw [hrun]
    exact hk.changeSet ht hf g

theorem atomic_sadd (ht : t.Valid st) (hp : (t.parts? key).isSome = true) (hf : f ∈ t.setFields)
    (members : List String) :
    Atomic (Store.world m) t.Kept (fun _ => t.Kept) (Asking.sadd (Key.set key f.name) members) ∧
      (members.length + 2 ≤ m →
        Succeeds (Store.world m) t.Kept (fun _ => t.Kept) (Asking.sadd (Key.set key f.name) members)) := by
  cases members with
  | nil =>
    have hnone : Succeeds (Store.world m) t.Kept (fun _ => t.Kept) (pure 0 : Asking Int) := .pure fun _ hs => hs
    exact ⟨hnone.atomic, fun _ => hnone⟩
  | cons x xs =>
    have hcmd := atomic_changeSet (m := m) ht hp hf "SADD" (Command.runs_sadd (List.cons_ne_nil x xs))
      (fun _ => rfl) fun _ => ⟨_, rfl⟩
    exact ⟨hcmd.1, fun hl => hcmd.2 (by rw [Command.length, Command.sadd, Command.ofTexts, List.length_map]; exact hl)⟩

theorem atomic_srem (ht : t.Valid st) (hp : (t.parts? key).isSome = true) (hf : f ∈ t.setFields)
    (members : List String) :
    Atomic (Store.world m) t.Kept (fun _ => t.Kept) (Asking.srem (Key.set key f.name) members) ∧
      (members.length + 2 ≤ m →
        Succeeds (Store.world m) t.Kept (fun _ => t.Kept) (Asking.srem (Key.set key f.name) members)) := by
  cases members with
  | nil =>
    have hnone : Succeeds (Store.world m) t.Kept (fun _ => t.Kept) (pure 0 : Asking Int) := .pure fun _ hs => hs
    exact ⟨hnone.atomic, fun _ => hnone⟩
  | cons x xs =>
    have hcmd := atomic_changeSet (m := m) ht hp hf "SREM" (Command.runs_srem (List.cons_ne_nil x xs))
      (fun _ => rfl) fun _ => ⟨_, rfl⟩
    exact ⟨hcmd.1, fun hl => hcmd.2 (by rw [Command.length, Command.srem, Command.ofTexts, List.length_map]; exact hl)⟩

theorem succeeds_del (hm : 2 ≤ m) (key : String) :
    Succeeds (Store.world m) t.Kept (fun _ => t.Kept) (Asking.del [key]) := by
  refine (atomic_command (Command.runs_del (List.cons_ne_nil key [])) fun d hk => ?_).2 hm
  exact ⟨.integer (KeyCommand.eraseAll d [key]).1, _, rfl, rfl, hk.eraseAll [key]⟩

end Commands

namespace Upsertion

variable {a : PreparedAssignment} {as : List PreparedAssignment} {values : List (Field × String)}

/-- A set is replaced if its members fit into one command. -/
theorem succeeds_replaceSet (ht : t.Valid st) (hp : (t.parts? key).isSome = true) (hf : f ∈ t.setFields)
    {value : String} (hl : (setMembers value).length + 2 ≤ m) :
    Succeeds (Store.world m) t.Kept (fun _ => t.Kept) (replaceSet key f.name value) :=
  (succeeds_del (Nat.le_trans (Nat.le_add_left 2 _) hl) _).liftM.bind fun _ =>
    ((atomic_sadd ht hp hf _).2 hl).liftM.bind fun _ => .pure fun _ hs => hs

/-- Every set among the values fits into one command. -/
def SetsFit (m : Nat) (values : List (Field × String)) : Prop :=
  ∀ fx ∈ values, fx.1.type.isSet = true → (setMembers fx.2).length + 2 ≤ m

instance (m : Nat) (values : List (Field × String)) : Decidable (SetsFit m values) :=
  inferInstanceAs (Decidable (∀ fx ∈ values, fx.1.type.isSet = true → (setMembers fx.2).length + 2 ≤ m))

/-- Writing a row is atomic if its sets fit: the hash is written first. -/
theorem atomic_writeRow (ht : t.Valid st) (hk : Writable t key) (hp : (t.parts? key).isSome = true)
    (hv : ∀ fx ∈ values, fx.1 ∈ t.fields ∧ fx.1.Holds fx.2) (hfit : SetsFit m values) :
    Atomic (Store.world m) t.Kept (fun _ => t.Kept) (writeRow key values) := by
  obtain ⟨h1, h2⟩ := hashFields_stored hv
  refine (atomic_hmset hp h2 fun d hd => hd.hset ht hk.1 hk.2 (h1.readable ht)).1.liftM.bind fun _ => .forM fun fx hfx => ?_
  obtain ⟨hmem, hset⟩ := List.mem_filter.1 hfx
  exact succeeds_replaceSet ht hp (Table.mem_setFields.2 ⟨(hv fx hmem).1, hset⟩) (hfit fx hmem hset)

/-- An assignment that cannot fail. -/
def IsSure (m : Nat) (a : PreparedAssignment) : Prop :=
  if a.field.type.isSet = true then (setMembers a.value).length + 2 ≤ m else a.op = .set

instance (m : Nat) (a : PreparedAssignment) : Decidable (IsSure m a) :=
  inferInstanceAs (Decidable (if a.field.type.isSet = true then (setMembers a.value).length + 2 ≤ m else a.op = .set))

/-- Assignments that stand in such an order that nothing can fail behind a change of a set. -/
structure Ordered (m : Nat) (as : List PreparedAssignment) : Prop where
  behind : as.Pairwise fun a b => a.field.type.isSet = true → IsSure m b
  replaced : ∀ a ∈ as, a.field.type.isSet = true → a.op = .set → IsSure m a
  hash : (∃ a ∈ as, a.field.type.isSet = true) → 2 + 2 * (as.countP fun a => !a.field.type.isSet) ≤ m

/-- An assignment to a set is carried out or changes nothing, unless a set is to be replaced that does not fit. -/
theorem atomic_assignSet (ht : t.Valid st) (hp : (t.parts? key).isSome = true) (hf : a.field ∈ t.setFields) :
    ((a.op = .set → IsSure m a) → Atomic (Store.world m) t.Kept (fun _ => t.Kept) (assignSet key a)) ∧
      (IsSure m a → Succeeds (Store.world m) t.Kept (fun _ => t.Kept) (assignSet key a)) := by
  have hset := (Table.mem_setFields.1 hf).2
  unfold assignSet IsSure
  rw [if_pos hset]
  simp only []
  cases a.op with
  | set =>
    exact ⟨fun hl => (succeeds_replaceSet ht hp hf (hl rfl)).atomic, fun hl => succeeds_replaceSet ht hp hf hl⟩
  | add =>
    obtain ⟨h1, h2⟩ := atomic_sadd (m := m) ht hp hf (setMembers a.value)
    exact ⟨fun _ => h1.liftM.bind fun _ => .pure fun _ hs => hs,
      fun hl => (h2 hl).liftM.bind fun _ => .pure fun _ hs => hs⟩
  | sub =>
    obtain ⟨h1, h2⟩ := atomic_srem (m := m) ht hp hf (setMembers a.value)
    exact ⟨fun _ => h1.liftM.bind fun _ => .pure fun _ hs => hs,
      fun hl => (h2 hl).liftM.bind fun _ => .pure fun _ hs => hs⟩

/-- Assignments to plain attributes change nothing before the hash is written. -/
theorem reads_assign {old : List (String × Option Bytes)} (has : ∀ a ∈ as, a.field.type.isSet = false) :
    Reads (Store.world m) t.Kept (fun pairs => pairs.length = as.length) (assign key old as) := by
  induction as with
  | nil => exact .pure rfl
  | cons a as ih =>
    have ih := ih fun b hb => has b (List.mem_cons_of_mem _ hb)
    have hset := has a List.mem_cons_self
    unfold assign
    rw [if_neg (by rw [hset]; exact Bool.false_ne_true)]
    split
    · exact ih.andThen fun pairs hp => .pure (congrArg (· + 1) hp)
    · exact (Reads.mk (Q := fun _ => True) fun _ _ => trivial).andThen fun x _ =>
        ih.andThen fun pairs hp => .pure (congrArg (· + 1) hp)

/-- Assignments that cannot fail are carried out. -/
theorem succeeds_assign (ht : t.Valid st) (hp : (t.parts? key).isSome = true)
    {old : List (String × Option Bytes)} (hf : ∀ a ∈ as, a.field ∈ t.fields) (has : ∀ a ∈ as, IsSure m a) :
    Succeeds (Store.world m) t.Kept
      (fun pairs d => pairs.length = as.countP (fun a => !a.field.type.isSet) ∧ t.Kept d)
      (assign key old as) := by
  induction as with
  | nil => exact .pure fun _ hs => ⟨rfl, hs⟩
  | cons a as ih =>
    have ih := ih (fun b hb => hf b (List.mem_cons_of_mem _ hb)) fun b hb => has b (List.mem_cons_of_mem _ hb)
    have hsure := has a List.mem_cons_self
    unfold assign
    split
    · next hset =>
      have hfield := Table.mem_setFields.2 ⟨hf a List.mem_cons_self, hset⟩
      refine (((atomic_assignSet ht hp hfield).2 hsure).bind fun _ => ih).mono (fun _ hs => hs) fun pairs d h => ?_
      rw [List.countP_cons_of_neg (by rw [hset]; exact Bool.false_ne_true)]
      exact h
    · next hset =>
      have hop : a.op = .set := by
        unfold IsSure at hsure
        rwa [if_neg hset] at hsure
      rw [if_pos hop]
      refine (ih.bind fun pairs => Succeeds.pure fun d h => ?_)
      rw [List.countP_cons_of_pos (by simpa using hset)]
      exact ⟨congrArg (· + 1) h.1, h.2⟩

/-- Assignments in such an order are atomic up to where the hash is written. -/
theorem atomic_assign (ht : t.Valid st) (hp : (t.parts? key).isSome = true)
    {old : List (String × Option Bytes)} (hf : ∀ a ∈ as, a.field ∈ t.fields)
    (hbehind : as.Pairwise fun a b => a.field.type.isSet = true → IsSure m b)
    (hreplaced : ∀ a ∈ as, a.field.type.isSet = true → a.op = .set → IsSure m a) :
    Atomic (Store.world m) t.Kept
      (fun pairs d => pairs.length = as.countP (fun a => !a.field.type.isSet) ∧ t.Kept d)
      (assign key old as) := by
  induction as with
  | nil => exact (Succeeds.pure fun _ hs => ⟨rfl, hs⟩).atomic
  | cons a as ih =>
    obtain ⟨hall, hbehind⟩ := List.pairwise_cons.1 hbehind
    have hrest := fun b hb => hf b (List.mem_cons_of_mem a hb)
    have ih := ih hrest hbehind fun b hb => hreplaced b (List.mem_cons_of_mem _ hb)
    unfold assign
    split
    · next hset =>
      -- The first change of a set: from here on nothing can fail.
      have hfield := Table.mem_setFields.2 ⟨hf a List.mem_cons_self, hset⟩
      refine ((atomic_assignSet ht hp hfield).1 (hreplaced a List.mem_cons_self hset)).bind fun _ => ?_
      refine (succeeds_assign ht hp hrest fun b hb => hall b hb hset).mono (fun _ hs => hs) fun pairs d h => ?_
      rw [List.countP_cons_of_neg (by rw [hset]; exact Bool.false_ne_true)]
      exact h
    · next hset =>
      have hcount {pairs : List (String × Bytes)} {d : Data} {x : String × Bytes}
          (h : pairs.length = as.countP (fun a => !a.field.type.isSet) ∧ t.Kept d) :
          (x :: pairs).length = (a :: as).countP (fun a => !a.field.type.isSet) ∧ t.Kept d := by
        rw [List.countP_cons_of_pos (by simpa using hset)]
        exact ⟨congrArg (· + 1) h.1, h.2⟩
      split
      · exact ih.bind fun pairs => .pure fun _ h => hcount h
      · exact (Reads.mk (Q := fun _ => True) fun _ _ => trivial).bind fun x _ =>
          ih.bind fun pairs => .pure fun _ h => hcount h

/-- Carrying out assignments in such an order is atomic. -/
theorem atomic_updateRow (ht : t.Valid st) (hp : (t.parts? key).isSome = true)
    (hf : ∀ a ∈ as, a.field ∈ t.fields) (ho : Ordered m as) :
    Atomic (Store.world m) t.Kept (fun _ _ => True) (updateRow key as) := by
  have hhash (pairs : List (String × Bytes)) : Atomic (Store.world m) t.Kept (fun _ _ => True)
      (if !pairs.isEmpty then liftM (Asking.hmset key pairs) else pure () : Engine Unit) ∧
        (2 + 2 * pairs.length ≤ m → Succeeds (Store.world m) t.Kept (fun _ _ => True)
          (if !pairs.isEmpty then liftM (Asking.hmset key pairs) else pure () : Engine Unit)) := by
    cases pairs with
    | nil =>
      have hnone : Succeeds (Store.world m) t.Kept (fun _ _ => True) (pure () : Engine Unit) :=
        .pure fun _ _ => trivial
      exact ⟨hnone.atomic, fun _ => hnone⟩
    | cons x xs =>
      obtain ⟨h1, h2⟩ := atomic_hmset (m := m) hp (List.cons_ne_nil x xs) (J := fun _ => True)
        fun _ _ => trivial
      exact ⟨h1.liftM, fun hl => (h2 hl).liftM⟩
  have hrest (old : List (Option Bytes)) : Atomic (Store.world m) t.Kept (fun _ _ => True) (do
      let pairs ← assign key (((as.filter needsOld).map fun a => a.field.name).zip old) as
      if !pairs.isEmpty then liftM (Asking.hmset key pairs) : Engine Unit) := by
    by_cases hset : ∃ a ∈ as, a.field.type.isSet = true
    · refine (atomic_assign ht hp hf ho.behind ho.replaced).bind fun pairs d h => ?_
      exact (hhash pairs).2 (h.1 ▸ ho.hash hset) d h.2
    · refine (reads_assign fun a ha => ?_).bind fun pairs _ => (hhash pairs).1
      exact Bool.eq_false_iff.2 fun h => hset ⟨a, ha, h⟩
  unfold updateRow
  simp only []
  split
  · exact (Reads.pure (Q := fun _ => True) trivial).bind fun _ _ => hrest _
  · next hne => exact (reads_hmget fun he => hne (by rw [he]; rfl)).liftM.bind fun _ _ => hrest _

end Upsertion

/-- A statement in which nothing that can fail stands behind a change of the store: the sets of a row that is
written fit into their commands, and the assignments to a row that exists stand in the right order. -/
structure PreparedUpsertion.Guarded (m : Nat) (d : Data) (u : PreparedUpsertion) : Prop where
  written : (∀ as key, u.mode = .update as → u.key = some key → d.contains key = false) →
    Upsertion.SetsFit m u.values
  updated : ∀ as key, u.mode = .update as → u.key = some key → d.contains key = true → Upsertion.Ordered m as

/-- Carrying out a guarded statement with a full key is atomic. -/
theorem Upsertion.atomic_execute (ht : t.Valid st) {u : PreparedUpsertion} (hu : u.Sound t)
    (hkey : u.key = some key) (hp : (t.parts? key).isSome = true) (hk : t.Kept d) (hg : u.Guarded m d)
    (v : ScanEnv) : Atomic (Store.world m) (· = d) (fun _ _ => True) (execute v u) := by
  have hdone {α : Type} {x : Engine Unit} (a : α) (hx : Atomic (Store.world m) t.Kept (fun _ => t.Kept) x) :
      Atomic (Store.world m) (· = d) (fun _ _ => True) (do x; pure a : Engine α) :=
    (hx.bind fun _ => .pure fun _ _ => trivial).mono fun _ hs => hs ▸ hk
  have hwrite (hfit : SetsFit m u.values) :
      Atomic (Store.world m) t.Kept (fun _ => t.Kept) (writeRow key u.values) := by
    obtain ⟨parts, hparts, hstored⟩ := hu.key key hkey
    exact atomic_writeRow ht (hparts ▸ writable_rowKey ht (stored_parts hstored)) hp hu.values hfit
  unfold execute
  rw [hkey]
  split
  · exact fun _ _ => .inr ⟨_, rfl⟩
  · next hmode hk' =>
    cases hk'
    exact hdone _ (hwrite (hg.written fun as _ hu => absurd (hmode.symm.trans hu) nofun))
  · next hmode hk' =>
    cases hk'
    refine (reads_existsKey key).liftM.bind fun b _ => ?_
    split
    · exact (Succeeds.pure fun _ _ => trivial).atomic
    · exact hdone _ (hwrite (hg.written fun as _ hu => absurd (hmode.symm.trans hu) nofun))
  · next as _ hmode hk' =>
    cases hk'
    refine (reads_existsKey key).liftM.bind fun b hb => ?_
    split
    · next hexists =>
      have hupdate := atomic_updateRow (m := m) ht hp (fun a ha => (hu.mode as hmode a ha).field)
        (hg.updated as key hmode hkey (hb ▸ hexists))
      exact (hupdate.bind fun _ => .pure fun _ _ => trivial).mono fun _ hs => hs ▸ hk
    · next hnone =>
      refine (Reads.mk (Q := fun _ => True) fun _ _ => trivial).bind fun _ _ => hdone _ (hwrite (hg.written ?_))
      intro _ key' _ hkey'
      cases hkey.symm.trans hkey'
      rw [← hb]
      exact Bool.eq_false_iff.2 hnone
  · next hk' => cases hk'
  · next hk' _ _ => cases hk'

/-! ## Keys of one row -/

namespace Table

/-- A command on a row or on one of its sets. -/
def Touches (t : Table) (key : String) (g : Target) (cmd : Command) : Prop :=
  g = .active ∧ ∃ k j, cmd.Runs k ∧ k.keys = [j] ∧ j ∈ t.footprint key

theorem set_mem_footprint (hf : f ∈ t.setFields) : Key.set key f.name ∈ t.footprint key :=
  List.mem_cons_of_mem _ (List.mem_map_of_mem (f := fun f => Key.set key f.name) hf)

theorem rowCommands_touches (t : Table) (key : String) : t.RowCommands key (t.Touches key) where
  existsKey := ⟨rfl, _, key, Command.runs_existsKey, rfl, List.mem_cons_self⟩
  hmget _ hne := ⟨rfl, _, key, Command.runs_hmget hne, rfl, List.mem_cons_self⟩
  hmset _ hne _ := ⟨rfl, _, key, Command.runs_hmset hne, rfl, List.mem_cons_self⟩
  del _ hf := ⟨rfl, _, _, Command.runs_del (List.cons_ne_nil _ _), rfl, set_mem_footprint hf⟩
  sadd _ hf _ hne _ := ⟨rfl, _, _, Command.runs_sadd hne, rfl, set_mem_footprint hf⟩
  srem _ hf _ hne := ⟨rfl, _, _, Command.runs_srem hne, rfl, set_mem_footprint hf⟩

theorem Touches.onSlot {g : Target} {cmd : Command} (h : t.Touches key g cmd) : OnSlot g cmd := by
  obtain ⟨hg, k, j, hr, hkeys, -⟩ := h
  exact ⟨hg, k, slotOf j, hr, hkeys ▸ oneSlot_singleton j⟩

theorem rowCommands_onSlot (t : Table) (key : String) : t.RowCommands key OnSlot where
  existsKey := (rowCommands_touches t key).existsKey.onSlot
  hmget _ hne := ((rowCommands_touches t key).hmget _ hne).onSlot
  hmset _ hne hp := ((rowCommands_touches t key).hmset _ hne hp).onSlot
  del _ hf := ((rowCommands_touches t key).del _ hf).onSlot
  sadd _ hf _ hne hms := ((rowCommands_touches t key).sadd _ hf _ hne hms).onSlot
  srem _ hf _ hne := ((rowCommands_touches t key).srem _ hf _ hne).onSlot

end Table

/-- What carrying out a statement with a full key comes to: it changes nothing but its row, and if it is guarded
it succeeds or changes nothing at all. -/
theorem Upsertion.execute_serves (ht : t.Valid st) {u : PreparedUpsertion} (hu : u.Sound t)
    (hkey : u.key = some key) (hp : (t.parts? key).isSome = true) (hk : t.Kept d) (v : ScanEnv)
    {c : Context Simulation Link} (hc : Serves m top topo d c) :
    ∃ r c' d', outcome Context.world (execute v u) c = (r, c') ∧ Serves m top topo d' c' ∧
      (∀ j, j ∉ t.footprint key → d'.get? j = d.get? j) ∧
        (u.Guarded m d → ∀ e, r = .error e → ∀ j, d'.get? j = d.get? j) := by
  have hasks := asks_execute hu hkey (Table.rowCommands_touches t key) v
  obtain ⟨c', h1, h2⟩ := outcome_serves hasks (fun _ _ hcmd => hcmd.onSlot) hc
  refine ⟨_, c', _, h1, h2, fun j hj => ?_, fun hg e he j => ?_⟩
  · refine outcome_outside hasks (fun g cmd ⟨_, k, i, hr, hkeys, hi⟩ => ⟨k, hr, fun x hx => ?_⟩) hj
    rw [hkeys, List.mem_singleton] at hx
    exact hx ▸ hi
  · rcases atomic_execute ht hu hkey hp hk hg v d rfl with ⟨a, d', h3, -⟩ | ⟨e', h3⟩
    · rw [h3] at he
      cases he
    · rw [h3]

end SlotSql
