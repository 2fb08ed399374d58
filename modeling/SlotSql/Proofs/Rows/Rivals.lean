import SlotSql.Proofs.Race
import SlotSql.Proofs.Rows.Overwritten
/-!
# Statements that write one row at a time

A statement that leaves existing rows as they are asks whether its row is there, and writes it if not: its hash with one
command, and each set with two. If two such statements for one row take turns, all depends on the first two turns. If one
statement has both, the row is there when the other asks for it. If each has one, both have found no row, and both write
it.

Results:
* `persists_writeRow`: writing a row succeeds whatever other statements do to the row in between.
* `race_won`: the statement that asks and writes before the other asks is carried out as if it were alone, and the other
  changes nothing.
* `race_tied`: if both ask before one writes, both write.
-/
namespace SlotSql

open Cluster Store Simulation Dialogue

variable {m : Nat} {st : Settings} {t : Table} {d d' : Data} {key : String} {f : Field} {I : Data → Prop}

/-- A kind of stores that writing to a row keeps. -/
structure Table.Keeping (st : Settings) (t : Table) (key : String) (I : Data → Prop) : Prop where
  place : t.Place st key
  typed : ∀ d, I d → Typed st d
  step : ∀ d d', I d → RowStep t key d d' → I d'

/-- A store without the wrong kind of value under a key, in which a row is. -/
def HasRow (st : Settings) (key : String) (d : Data) : Prop := Typed st d ∧ d.contains key = true

theorem Table.Place.keeping_typed (h : t.Place st key) : t.Keeping st key (Typed st) :=
  ⟨h, fun _ hd => hd, fun _ _ hd hstep => h.typed hd hstep⟩

/-- Writing to a row does not remove it. -/
theorem RowStep.contains (h : RowStep t key d d') (hd : Typed st d) (hk : Key.IsClosed key)
    (hc : d.contains key = true) : d'.contains key = true := by
  have hother {e : Data} (he : e.get? key = d.get? key) : e.contains key = true := by
    unfold KeyMap.contains at hc ⊢
    rw [he]
    exact hc
  cases h with
  | refl => exact hc
  | @hset pairs hp =>
    obtain ⟨n, hn⟩ := hd.plain_of_contains hk hc
    obtain ⟨h, hh⟩ := hd.hashAt hk
    have himage : ((rowImage ((KeyCommand.hset false key pairs).run d).2 key).plain n).isSome =
        (((rowImage d key).overlay pairs).plain n).isSome := congrArg (fun w => (w.plain n).isSome) (rowImage_hset hh)
    refine contains_of_plain (n := n) (himage.trans ?_)
    show ((pairs.reverse.lookup n).or (plainOf d key n)).isSome = true
    rw [Option.isSome_or, hn, Bool.or_true]
  | erase hf =>
    refine hother (KeyCommand.run_outside (.del [Key.set key _]) fun hm => ?_)
    exact set_ne_row _ _ (List.mem_singleton.1 hm).symm
  | changeSet hf g =>
    refine hother ?_
    rw [KeyCommand.changeSet_get?, if_neg (set_ne_row _ _).symm]

theorem Table.Place.keeping_hasRow (h : t.Place st key) : t.Keeping st key (HasRow st key) :=
  ⟨h, fun _ hd => hd.1, fun _ _ hd hstep => ⟨h.typed hd.1 hstep, hstep.contains hd.1 (Table.isClosed_row h.row) hd.2⟩⟩

namespace Table.Keeping

variable {pairs : List (String × Bytes)}

/-- Fields can be written into the hash of a row. -/
theorem hmset (h : t.Keeping st key I) (hp : Upsertion.StoredPairs t pairs) (hne : pairs ≠ [])
    (hl : 2 + 2 * pairs.length ≤ m) : Persists (world m) I 1 (Asking.hmset key pairs) := by
  refine Persists.command fun d hd => ?_
  obtain ⟨old, hold⟩ := (h.typed d hd).hashAt (isClosed_row h.place.row)
  rw [world, reply_runs (Command.runs_hmset hne) (by rw [Command.length_hmset]; exact hl)]
  refine ⟨h.step d _ hd (.hset hp), .ok, (), ?_, rfl⟩
  show (KeyCommand.changeHash d key fun h => (.ok, (KeyCommand.insertAll h pairs).2)).1.answer = _
  unfold KeyCommand.changeHash
  rw [hold]
  rfl

/-- The key of a set of a row can be deleted. -/
theorem del (h : t.Keeping st key I) (hf : f ∈ t.setFields) (hl : 2 ≤ m) :
    Persists (world m) I 1 (Asking.del [Key.set key f.name]) := by
  show Persists (world m) I 1 (Asking.command (.del [Key.set key f.name]) >>= Asking.integerOf "DEL")
  refine Persists.command fun d hd => ?_
  rw [world, reply_runs (Command.runs_del (List.cons_ne_nil _ _)) hl]
  exact ⟨h.step d _ hd (.erase hf), _, _, rfl, rfl⟩

/-- Members can be added to a set of a row. -/
theorem sadd (h : t.Keeping st key I) (hf : f ∈ t.setFields) {members : List String} (hl : members.length + 2 ≤ m) :
    Persists (world m) I 1 (Asking.sadd (Key.set key f.name) members) := by
  cases members with
  | nil => exact (Persists.pure 0).mono (Nat.zero_le 1)
  | cons x xs =>
    show Persists (world m) I 1 (Asking.command (.sadd (Key.set key f.name) (x :: xs)) >>= Asking.integerOf "SADD")
    refine Persists.command fun d hd => ?_
    obtain ⟨ms, hms⟩ := h.place.setAt hf (h.typed d hd)
    have hlength : (Command.sadd (Key.set key f.name) (x :: xs)).length ≤ m := by
      rw [Command.length, Command.sadd, Command.ofTexts, List.length_map]
      exact hl
    rw [world, reply_runs (Command.runs_sadd (List.cons_ne_nil x xs)) hlength]
    refine ⟨h.step d _ hd (.changeSet hf _), .integer (KeyCommand.insertAll ms ((x :: xs).map (·, ()))).1, _, ?_, rfl⟩
    show (KeyCommand.changeSet d (Key.set key f.name) _).1.answer = _
    unfold KeyCommand.changeSet
    rw [hms]
    rfl

end Table.Keeping

/-- The commands that write the row of a statement have no more than `m` words. -/
structure PreparedUpsertion.Sendable (m : Nat) (u : PreparedUpsertion) : Prop where
  hash : 2 + 2 * (Upsertion.hashFields u.values).length ≤ m
  sets : Upsertion.SetsFit m u.values

/-- How many sets a statement writes. -/
def PreparedUpsertion.setCount (u : PreparedUpsertion) : Nat := (u.values.filter fun v => v.1.type.isSet).length

theorem PreparedUpsertion.Sendable.four_le {u : PreparedUpsertion} (h : u.Sendable m) (hu : u.Sound t) : 4 ≤ m := by
  have hne := List.length_pos_iff.2 (Upsertion.hashFields_stored hu.values).2
  have hhash := h.hash
  omega

namespace Upsertion

variable {u : PreparedUpsertion}

/-- Writes the sets of a row, and reports the row. -/
def writeSets (key : String) (u : PreparedUpsertion) : Engine UpsertOutcome := do
  (u.values.filter fun v => v.1.type.isSet).forM fun v => replaceSet key v.1.name v.2
  return .written 1

/-- Writes a row, and reports it. -/
def writeNew (key : String) (u : PreparedUpsertion) : Engine UpsertOutcome := do
  Asking.hmset key (hashFields u.values)
  writeSets key u

theorem persists_replaceSet (h : t.Keeping st key I) (hf : f ∈ t.setFields) {value : String}
    (hl : (setMembers value).length + 2 ≤ m) : Persists (world m) I 2 (replaceSet key f.name value) :=
  ((h.del hf (by omega)).liftM.bind fun _ => ((h.sadd hf hl).liftM.bind fun _ => .pure ()) :
    Persists (world m) I (1 + (1 + 0)) (replaceSet key f.name value))

/-- The sets of a row are written, whatever else is written to the row in between. -/
theorem steady_writeSets (h : t.Keeping st key I) (hu : u.Sound t) (hs : u.Sendable m) :
    (writeSets key u).run.Steady (world m) I (fun _ _ => True) (fun r => r = .ok (.written 1)) (u.setCount * 2) := by
  refine Persists.returning (.forM fun v hv => ?_) (UpsertOutcome.written 1)
  obtain ⟨hmem, hset⟩ := List.mem_filter.1 hv
  exact persists_replaceSet h (Table.mem_setFields.2 ⟨(hu.values v hmem).1, hset⟩) (hs.sets v hmem hset)

/-- A row is written, whatever else is written to it in between. -/
theorem steady_writeNew (h : t.Keeping st key I) (hu : u.Sound t) (hs : u.Sendable m) :
    (writeNew key u).run.Steady (world m) I (fun _ _ => True) (fun r => r = .ok (.written 1)) (1 + u.setCount * 2) := by
  obtain ⟨hstored, hne⟩ := hashFields_stored hu.values
  refine Steady.bind (h.hmset hstored hne hs.hash).liftM ?_
  rintro _ ⟨a, rfl⟩
  exact steady_writeSets h hu hs

theorem execute_ignore (hmode : u.mode = .ignore) (hkey : u.key = some key) (v : ScanEnv) : execute v u =
    (liftM (Asking.existsKey key) : Engine Bool) >>= fun b => if b then pure .ignored else writeNew key u := by
  have hwrite : (do writeRow key u.values; return UpsertOutcome.written 1) = writeNew key u := by
    unfold writeRow writeNew writeSets
    rw [LawfulMonad.bind_assoc]
  unfold execute
  rw [hmode, hkey, ← hwrite]

/-- The first turn of a statement that leaves existing rows as they are: it asks for the row. -/
theorem step_execute (hmode : u.mode = .ignore) (hkey : u.key = some key) (hm : 2 ≤ m) (v : ScanEnv) (d : Data) :
    step (world m) (execute v u).run d =
      (if d.contains key = true then .done (.ok .ignored) else (writeNew key u).run, d) := by
  have hreply : world m .active (.existsKey key) d = (.ok (.integer ([key].filter d.contains).length), d) :=
    reply_runs Command.runs_existsKey hm
  rw [execute_ignore hmode hkey]
  refine (step_command (f := fun r => do return decide (0 < (← Asking.integerOf "EXISTS" r))) hreply rfl).trans ?_
  cases hc : d.contains key with
  | false => simp [hc]
  | true =>
    simp [hc]
    rfl

/-- The second turn, if there was no row: the hash of the row is written. -/
theorem step_writeNew (h : t.Place st key) (hd : Typed st d) (hu : u.Sound t) (hs : u.Sendable m) : ∃ d',
    step (world m) (writeNew key u).run d = ((writeSets key u).run, d') ∧ HasRow st key d' := by
  obtain ⟨hstored, hne⟩ := hashFields_stored hu.values
  obtain ⟨old, hold⟩ := hd.hashAt (Table.isClosed_row h.row)
  have hreply : world m .active (.hmset key (hashFields u.values)) d =
      (.ok .ok, ((KeyCommand.hset false key (hashFields u.values)).run d).2) := by
    rw [world, reply_runs (Command.runs_hmset hne) (by rw [Command.length_hmset]; exact hs.hash)]
    refine Prod.ext ?_ rfl
    show (KeyCommand.changeHash d key fun h => (.ok, (KeyCommand.insertAll h (hashFields u.values)).2)).1.answer = _
    unfold KeyCommand.changeHash
    rw [hold]
    rfl
  refine ⟨_, step_command hreply rfl, h.typed hd (.hset hstored), ?_⟩
  have hget : ((KeyCommand.hset false key (hashFields u.values)).run d).2.get? key =
      some (.hash (KeyCommand.insertAll old (hashFields u.values)).2) := by
    show (KeyCommand.changeHash d key fun h => (.ok, (KeyCommand.insertAll h (hashFields u.values)).2)).2.get? key = _
    rw [KeyCommand.changeHash_get?, if_pos rfl, hold]
    simp only [KeyCommand.insertAll_isEmpty old hne, Bool.false_eq_true, ↓reduceIte]
  unfold KeyMap.contains
  rw [hget]
  rfl

/-- Where the row is, a statement that leaves existing rows as they are changes nothing. -/
theorem steady_ignored (hmode : u.mode = .ignore) (hkey : u.key = some key) (hm : 2 ≤ m) (v : ScanEnv) :
    (execute v u).run.Steady (world m) (HasRow st key) (fun d d' => d' = d) (fun r => r = .ok .ignored) 1 := by
  obtain ⟨next, hnext⟩ : ∃ next, (execute v u).run = .ask .active (.existsKey key) next := by
    rw [execute_ignore hmode hkey]
    exact ⟨_, rfl⟩
  have hstep (d : Data) := step_execute hmode hkey hm v d
  rw [hnext] at hstep ⊢
  intro d hd
  obtain ⟨h1, h2⟩ := Prod.mk.inj (hstep d)
  rw [if_pos hd.2] at h1
  exact ⟨h2.symm ▸ hd, h2, h1.symm ▸ rfl⟩

/-- How many commands a statement that leaves existing rows as they are has at most: the question for the row, its hash,
and two for each set. -/
def commandCount (u : PreparedUpsertion) : Nat := 1 + (1 + u.setCount * 2)

/-- Such a statement reports that it has written its row or ignored it, whatever else is written to it in between. -/
theorem steady_execute (h : t.Place st key) (hu : u.Sound t) (hs : u.Sendable m) (hmode : u.mode = .ignore)
    (hkey : u.key = some key) (v : ScanEnv) : (execute v u).run.Steady (world m) (Typed st) (fun _ _ => True)
      (fun r => r = .ok .ignored ∨ r = .ok (.written 1)) (commandCount u) := by
  obtain ⟨next, hnext⟩ : ∃ next, (execute v u).run = .ask .active (.existsKey key) next := by
    rw [execute_ignore hmode hkey]
    exact ⟨_, rfl⟩
  have hm : 2 ≤ m := Nat.le_trans (by decide) (hs.four_le hu)
  have hstep (d : Data) := step_execute hmode hkey hm v d
  rw [hnext] at hstep ⊢
  unfold commandCount
  rw [Nat.add_comm]
  intro d hd
  obtain ⟨h1, h2⟩ := Prod.mk.inj (hstep d)
  rw [h1, h2]
  refine ⟨hd, trivial, ?_⟩
  split
  · exact Steady.mono (n := 0) (Or.inl rfl) (Nat.zero_le _)
  · exact (steady_writeNew h.keeping_typed hu hs).imp (fun _ _ hd => hd) fun _ hr => .inr hr

end Upsertion

/-! ## Races for a row -/

/-- Checked statements for one row that leave existing rows as they are. Each has a table of its own, as it found it
described, and a bound of its own for the words of a command. -/
structure Rivals {ι : Type} (st : Settings) (key : String) (m : ι → Nat) (t : ι → Table) (u : ι → PreparedUpsertion) :
    Prop where
  place : ∀ x, (t x).Place st key
  sound : ∀ x, (u x).Sound (t x)
  sendable : ∀ x, (u x).Sendable (m x)
  mode : ∀ x, (u x).mode = .ignore
  key : ∀ x, (u x).key = some key

namespace Rivals

variable {ι : Type} {m : ι → Nat} {t : ι → Table} {u : ι → PreparedUpsertion} {v : ι → ScanEnv} {x y : ι}
  {order : List ι} {a : Except EngineError UpsertOutcome} {r r' : Race ι Data (Except EngineError UpsertOutcome)}

/-- The race of the statements, from a store on. -/
def race (u : ι → PreparedUpsertion) (v : ι → ScanEnv) (d : Data) : Race ι Data (Except EngineError UpsertOutcome) :=
  ⟨d, fun x => (Upsertion.execute (v x) (u x)).run⟩

/-- The store as a world for each of them. -/
def worlds (m : ι → Nat) (x : ι) : World Data := world (m x)

theorem two_le (h : Rivals st key m t u) (x : ι) : 2 ≤ m x :=
  Nat.le_trans (by decide) ((h.sendable x).four_le (h.sound x))

variable [DecidableEq ι]

/-- Each statement has come to its end when it has had as many turns as it has commands. -/
theorem ends (h : Rivals st key m t u) (hd : Typed st d) (hx : Upsertion.commandCount (u x) ≤ order.count x) : ∃ o,
    ((race u v d).run (worlds m) order).sides x = .done (.ok o) := by
  have hsteady : (race u v d).Steady (worlds m) (Typed st) (fun _ _ _ => True)
      (fun _ r => r = .ok .ignored ∨ r = .ok (.written 1)) (fun x => Upsertion.commandCount (u x)) :=
    ⟨hd, fun x => Upsertion.steady_execute (h.place x) (h.sound x) (h.sendable x) (h.mode x) (h.key x) (v x)⟩
  have hleft := (Race.run_steady hsteady order).sides x
  rw [Nat.sub_eq_zero_of_le hx] at hleft
  obtain ⟨a, ha, hr⟩ := hleft.ended
  rcases hr with rfl | rfl <;> exact ⟨_, ha⟩

/-- The first turn of a statement that finds no row. -/
theorem turn_first (h : Rivals st key m t u) (hx : r.sides x = (Upsertion.execute (v x) (u x)).run)
    (hc : r.state.contains key = false) (hr : r.turn (worlds m) x = r') :
    r'.state = r.state ∧ r'.sides x = (Upsertion.writeNew key (u x)).run := by
  subst hr
  have hstep := Upsertion.step_execute (h.mode x) (h.key x) (h.two_le x) (v x) r.state
  rw [hc, ← hx] at hstep
  obtain ⟨h1, h2⟩ := Prod.mk.inj hstep
  exact ⟨h2, Race.turn_self.trans h1⟩

/-- The second turn of a statement that found no row. -/
theorem turn_second (h : Rivals st key m t u) (hx : r.sides x = (Upsertion.writeNew key (u x)).run)
    (hd : Typed st r.state) (hr : r.turn (worlds m) x = r') :
    HasRow st key r'.state ∧ r'.sides x = (Upsertion.writeSets key (u x)).run := by
  subst hr
  obtain ⟨d', hstep, hrow⟩ := Upsertion.step_writeNew (h.place x) hd (h.sound x) (h.sendable x)
  rw [← hx] at hstep
  obtain ⟨h1, h2⟩ := Prod.mk.inj hstep
  refine ⟨?_, Race.turn_self.trans h1⟩
  rw [← h2] at hrow
  exact hrow

/-- The statement that asks and writes before another one asks is carried out as if it were alone. It reports its row, and
the others report that they have ignored it. -/
theorem won (h : Rivals st key m t u) (hd : Typed st d) (hc : d.contains key = false)
    (hr : (race u v d).run (worlds m) (x :: x :: order) = r) :
    (∀ a, r.sides x = .done a → a = .ok (.written 1) ∧
      outcome (world (m x)) (Upsertion.execute (v x) (u x)) d = (a, r.state)) ∧
    ∀ y, y ≠ x → ∀ a, r.sides y = .done a → a = .ok .ignored := by
  obtain ⟨r₁, hr₁⟩ : ∃ r₁, (race u v d).turn (worlds m) x = r₁ := ⟨_, rfl⟩
  obtain ⟨r₂, hr₂⟩ : ∃ r₂, r₁.turn (worlds m) x = r₂ := ⟨_, rfl⟩
  have hr : r₂.run (worlds m) order = r := by rw [← hr, ← hr₂, ← hr₁]; rfl
  obtain ⟨h1, h2⟩ := h.turn_first (v := v) rfl hc hr₁
  obtain ⟨hrow, hleft⟩ := h.turn_second h2 (h1 ▸ hd) hr₂
  have hother {y : ι} (hy : y ≠ x) : r₂.sides y = (Upsertion.execute (v y) (u y)).run := by
    rw [← hr₂, Race.turn_other hy, ← hr₁, Race.turn_other hy]
    rfl
  have halone : (r₂.sides x).run (world (m x)) r₂.state = outcome (world (m x)) (Upsertion.execute (v x) (u x)) d := by
    rw [← hr₂, Race.turn_self]
    refine (run_step _ _).trans ?_
    rw [← hr₁, Race.turn_self]
    exact run_step _ _
  -- From here on the row is there, and the others only ask for it.
  have hsteady : r₂.Steady (worlds m) (HasRow st key) (fun y d d' => y ≠ x → d' = d)
      (fun y r => r = if y = x then .ok (.written 1) else .ok .ignored)
      (fun y => if y = x then (u x).setCount * 2 else 1) := by
    refine ⟨hrow, fun y => ?_⟩
    by_cases hy : y = x
    · subst hy
      simp only [hleft, ↓reduceIte]
      exact (Upsertion.steady_writeSets (h.place y).keeping_hasRow (h.sound y) (h.sendable y)).imp
        (fun _ _ _ hne => absurd rfl hne) fun _ hr => hr
    · simp only [hother hy, hy, ↓reduceIte]
      exact (Upsertion.steady_ignored (h.mode y) (h.key y) (h.two_le y) (v y)).imp (fun _ _ he _ => he) fun _ hr => hr
  have hend := (Race.run_steady hsteady order).sides
  have hsame := Race.run_alone hsteady (fun y hy s s' h => h hy) order
  rw [hr] at hend hsame
  refine ⟨fun a ha => ?_, fun y hy a ha => ?_⟩
  · have hx := hend x
    rw [ha] at hx hsame
    exact ⟨by simpa using hx.result, (hsame.trans halone).symm⟩
  · have hx := hend y
    rw [ha] at hx
    simpa [hy] using hx.result

/-- Two statements that both ask before one of them writes both report that they have written the row. -/
theorem tied {m : Bool → Nat} {t : Bool → Table} {u : Bool → PreparedUpsertion} {v : Bool → ScanEnv} {x : Bool}
    {order : List Bool} {r : Race Bool Data (Except EngineError UpsertOutcome)} (h : Rivals st key m t u)
    (hd : Typed st d) (hc : d.contains key = false) (hr : (race u v d).run (worlds m) (x :: (!x) :: order) = r) (y : Bool)
    (hy : r.sides y = .done a) : a = .ok (.written 1) := by
  obtain ⟨r₁, hr₁⟩ : ∃ r₁, (race u v d).turn (worlds m) x = r₁ := ⟨_, rfl⟩
  obtain ⟨r₂, hr₂⟩ : ∃ r₂, r₁.turn (worlds m) (!x) = r₂ := ⟨_, rfl⟩
  have hr : r₂.run (worlds m) order = r := by rw [← hr, ← hr₂, ← hr₁]; rfl
  have hne : (!x) ≠ x := Bool.not_ne_self x
  obtain ⟨h1, h2⟩ := h.turn_first (v := v) rfl hc hr₁
  have hother : r₁.sides (!x) = (Upsertion.execute (v !x) (u !x)).run := by
    rw [← hr₁, Race.turn_other hne]
    rfl
  obtain ⟨h3, h4⟩ := h.turn_first hother (h1 ▸ hc) hr₂
  have hfirst : r₂.sides x = (Upsertion.writeNew key (u x)).run := by
    rw [← hr₂, Race.turn_other hne.symm, h2]
  -- Neither asks for the row any more.
  have hsteady : r₂.Steady (worlds m) (Typed st) (fun _ _ _ => True) (fun _ r => r = .ok (.written 1))
      (fun y => 1 + (u y).setCount * 2) := by
    refine ⟨by rw [h3, h1]; exact hd, fun y => ?_⟩
    have hleft : r₂.sides y = (Upsertion.writeNew key (u y)).run := by
      rcases Bool.eq_or_eq_not y x with rfl | rfl
      · exact hfirst
      · exact h4
    rw [hleft]
    exact Upsertion.steady_writeNew (h.place y).keeping_typed (h.sound y) (h.sendable y)
  have hend := (Race.run_steady hsteady order).sides y
  rw [hr, hy] at hend
  exact hend.result

end Rivals
end SlotSql
