import SlotSql.Proofs.Rows.Upsertion
import SlotSql.Proofs.Session.Steps
import SlotSql.Proofs.Simulation.Spread
/-!
# Stores that statements wrote

The rows of a table are written by statements of ready sessions; whatever else happens to the store leaves the
keys of the table alone or removes them. In every store that comes about so the table is well kept: this
is an invariant of the single commands, and so of the statements, whether they succeed or fail.

Results:
* `execute_keeps`: carrying a statement out keeps its table.
* `upsert_keeps`: so does a session that is given it.
* `Written.kept`: the table is kept well in every store that statements wrote.
-/
namespace SlotSql

open Cluster Store Simulation Dialogue

variable {m top : Nat} {topo : Topology} {t : Table} {st : Settings} {d : Data}
  {c : Context Simulation Link} {v : ScanEnv}

/-! ## Commands and statements -/

/-- A healthy context over a store that keeps a table well. -/
def Serving (m top : Nat) (topo : Topology) (t : Table) (c : Context Simulation Link) : Prop :=
  ∃ d, Serves m top topo d c ∧ t.Kept d

/-- A command of the engine keeps the table. -/
theorem Serving.asked (ht : t.Valid st) (g : Target) (cmd : Command) (c : Context Simulation Link)
    (ha : t.Asked g cmd) (h : Serving m top topo t c) : Serving m top topo t (Context.world g cmd c).2 := by
  obtain ⟨rfl, hkeeps⟩ := ha
  obtain ⟨d, hc, hk⟩ := h
  obtain ⟨kc, key, hr, hkeys, hkept⟩ := hkeeps.runs ht
  have hone : OneSlot (slotOf key) kc.keys := hkeys ▸ oneSlot_singleton key
  obtain ⟨c', h1, h2, -⟩ := hc.exec hr hone
  rw [h1]
  refine ⟨_, h2, ?_⟩
  by_cases hl : cmd.length ≤ m
  · rw [reply_runs hr hl]
    exact hkept d hk
  · rw [reply_long hr (Nat.lt_of_not_le hl)]
    exact hk

/-- Work that asks for such commands only keeps the table. -/
theorem Serving.asks {α : Type} (ht : t.Valid st) {x : Engine α} {Q : α → Prop} (hx : Asks t.Asked Q x)
    (h : Serving m top topo t c) : Serving m top topo t (outcome Context.world x c).2 :=
  (Obeys.keeps (I := Serving m top topo t) (Serving.asked ht) hx h).2

/-- A key that a plan accepts is a row key of the store. -/
theorem row_of_accepted (hc : Serves m top topo d c) {p : Plan} {y : Candidate} (hy : y ∈ accepted m topo d p) :
    d.contains y.key = true ∧ Key.parseRow? y.key ≠ none ∧ y.key ∈ keysFor topo d p := by
  obtain ⟨key, hkey, hacc⟩ := List.mem_filterMap.1 hy
  have hk := lookupIn_key hacc
  subst hk
  refine ⟨contains_of_keysFor hc hkey, fun hn => ?_, hkey⟩
  rw [accepted?, lookupIn_other m d p hn] at hacc
  cases hacc

/-- The conditions on the rows that a statement without a full key means. -/
def PreparedUpsertion.conditions (u : PreparedUpsertion) : List Condition :=
  u.bound.filterMap fun (name, value) => value.map fun value => ⟨name, .eq, ⟨value, true⟩⟩

/-- The plan for these conditions is carried out. -/
theorem targets_eq (v : ScanEnv) (u : PreparedUpsertion) : Upsertion.targets v u =
    match Plan.ofConditions v.settings u.table u.conditions with
    | .error e => throw e.toEngine
    | .ok p => ExceptT.mk (Prod.fst <$> (v.matchingKeys p).run.run ⟨{}, p.emptyRows⟩) := rfl

/-- The keys that such a statement means are those that the plan for its conditions accepts. -/
theorem targets_accepted (hv : Fits v m topo d) (hc : Serves m top topo d c) (hroom : top + d.size ≤ Number.max64)
    {u : PreparedUpsertion} (hp : Plan.ofConditions v.settings u.table u.conditions = .ok p) : ∃ r c',
    outcome Context.world (Upsertion.targets v u) c = (r, c') ∧ Serves m (top + d.size) topo d c' ∧
      ∀ keys, r = .ok keys → keys = (accepted m topo d p).map Candidate.key := by
  obtain ⟨houtputs, hcount⟩ := Plan.build_nil hp
  obtain ⟨r, x', c', h1, h2, h3, -⟩ := matchingKeys_start p.emptyRows hv hc hroom hcount
  refine ⟨r, c', ?_, h2, fun keys hr => by rw [h3 keys hr, p.keys_of_bare houtputs]⟩
  rw [targets_eq, hp]
  exact Scanning.outcome_alone h1

/-- The keys that a statement without a full key means are row keys of the store. -/
theorem targets_serves (hv : Fits v m topo d) (hc : Serves m top topo d c)
    (hroom : top + d.size ≤ Number.max64) (u : PreparedUpsertion) : ∃ r c',
    outcome Context.world (Upsertion.targets v u) c = (r, c') ∧ Serves m (top + d.size) topo d c' ∧
      ∀ keys, r = .ok keys → ∀ key ∈ keys, d.contains key = true ∧ Key.parseRow? key ≠ none := by
  cases hp : Plan.ofConditions v.settings u.table u.conditions with
  | error e =>
    rw [targets_eq, hp]
    exact ⟨.error e.toEngine, c, rfl, hc.mono (Nat.le_add_right _ _), by rintro keys ⟨⟩⟩
  | ok p =>
    obtain ⟨r, c', h1, h2, h3⟩ := targets_accepted hv hc hroom hp
    refine ⟨r, c', h1, h2, fun keys hr key hkey => ?_⟩
    rw [h3 keys hr] at hkey
    obtain ⟨y, hy, rfl⟩ := List.mem_map.1 hkey
    obtain ⟨g1, g2, -⟩ := row_of_accepted hc hy
    exact ⟨g1, g2⟩

/-- Carrying a checked statement out keeps its table, whether or not it succeeds. -/
theorem execute_keeps (ht : t.Valid st) {u : PreparedUpsertion} (hu : u.Sound t) (hk : t.Kept d)
    (hv : Fits v m topo d) (hc : Serves m top topo d c) (hroom : top + d.size ≤ Number.max64) :
    Serving m (top + d.size) topo t (outcome Context.world (Upsertion.execute v u) c).2 := by
  have hserving : Serving m (top + d.size) topo t c := ⟨d, hc.mono (Nat.le_add_right _ _), hk⟩
  cases hkey : u.key with
  | some key =>
    obtain ⟨parts, hparts, hstored⟩ := hu.key key hkey
    have hwritable : Upsertion.Writable t key := hparts ▸ Upsertion.writable_rowKey ht (Upsertion.stored_parts hstored)
    exact hserving.asks ht (Upsertion.asks_execute hu hkey (Table.rowCommands_asked ht hwritable) v)
  | none =>
    unfold Upsertion.execute
    rw [hkey]
    split
    · exact hserving.asks ht (Asks.throw (Q := fun _ => True) _)
    · next hk => cases hk
    · next hk => cases hk
    · next hk => cases hk
    · next as hmode _ =>
      -- The rows that are meant exist, so the parts of their keys are in stored form.
      obtain ⟨r, c', h1, h2, h3⟩ := targets_serves hv hc hroom u
      have hserving' : Serving m (top + d.size) topo t c' := ⟨d, h2, hk⟩
      cases r with
      | error e =>
        rw [outcome_bind_error h1]
        exact hserving'
      | ok keys =>
        rw [outcome_bind_ok h1]
        refine hserving'.asks ht ((Asks.forM fun key hkey => ?_).bind
          fun _ _ => (.pure trivial : Asks t.Asked (fun _ => True) _))
        obtain ⟨g1, g2⟩ := h3 keys rfl key hkey
        exact Upsertion.asks_updateRow
          (Table.rowCommands_asked ht ⟨g2, fun parts hp => (hk.rowIn hp g1).parts⟩) (hu.mode as hmode)
    · exact hserving.asks ht (Asks.throw (Q := fun _ => True) _)

/-! ## Sessions -/

namespace Session

variable {s : Session Simulation Link}

/-- A statement that writes rows of a table keeps the table, whatever comes of it. -/
theorem upsert_keeps (ht : t.Valid st) (hs : s.Ready top topo d) (hroom : top + d.size ≤ Number.max64)
    (hk : t.Kept d) {u : Upsertion} (hu : tableIn s.settings d u.table = .ok t) (now : Int) :
    Serving s.settings.maxArgs (top + d.size) topo t ((execute now (.upsert u)).run s).2.context := by
  obtain ⟨s₁, h1, h2, h3⟩ := table_run hs u.table
  rw [hu] at h1
  have hready : Serving s.settings.maxArgs (top + d.size) topo t s₁.context :=
    ⟨d, h3 ▸ h2.serves.mono (Nat.le_add_right _ _), hk⟩
  show Serving _ _ _ _ ((upsert now u).run s).2.context
  unfold upsert
  rw [step_bind_ok h1, step_bind_ok (step_get s₁)]
  cases hp : u.prepare t now with
  | error e => exact hready
  | ok pu =>
    have hsound := Upsertion.prepare_sound ht hp
    have hkeeps := execute_keeps ht hsound hk (h2.fits now) h2.serves hroom
    rw [h3] at hkeeps
    have hprep : (ofExcept (.ok pu) : SessionStep Simulation Link PreparedUpsertion).run s₁ =
      (.ok pu, s₁) := rfl
    rw [step_bind_ok hprep]
    have hwork := work_run (Upsertion.execute (s₁.env now) pu) s₁
    cases ho : outcome Context.world (Upsertion.execute (s₁.env now) pu) s₁.context with
    | mk r c' =>
      rw [ho] at hwork hkeeps
      cases r with
      | error e =>
        rw [step_bind_error hwork]
        exact hkeeps
      | ok o =>
        rw [step_bind_ok hwork]
        cases o <;> exact hkeeps

end Session

/-! ## Stores -/

/-- A store whose rows of a table statements wrote: at the beginning no key is of the table, a ready session
is given statements that write rows, and everything else leaves the keys of the table alone or removes
them. -/
inductive Table.Written (t : Table) : Data → Prop
  | fresh {d : Data} (h : ∀ key, t.Owns key → d.get? key = none) : Written t d
  | upsert {d d' : Data} {top : Nat} {topo : Topology} {s : Session Simulation Link} {u : Upsertion} {now : Int}
    (hw : Written t d) (hs : s.Ready top topo d) (hroom : top + d.size ≤ Number.max64)
    (hu : Session.tableIn s.settings d u.table = .ok t)
    (hd : ((Session.execute now (.upsert u)).run s).2.context.server.Holds d') : Written t d'
  | other {d d' : Data} (hw : Written t d)
    (h : ∀ key, t.Owns key → d'.get? key = none ∨ d'.get? key = d.get? key) : Written t d'

/-- In every store that statements wrote the table is kept well. -/
theorem Table.Written.kept (ht : t.Valid st) (h : t.Written d) : t.Kept d := by
  induction h with
  | fresh h =>
    intro key x hx
    by_cases ho : t.Owns key
    · rw [h key ho] at hx
      cases hx
    · exact allows_of_not_owns ho x
  | @upsert d d' top topo s u now hw hs hroom hu hd ih =>
    obtain ⟨d₁, h1, h2⟩ := Session.upsert_keeps ht hs hroom ih hu now
    intro key x hx
    refine h2 key x ?_
    rw [← hx, ← hd key, h1.holds key]
  | other hw h ih => exact ih.thin h

/-- A statement that writes rows leaves a store with the data that its session has at the end. -/
theorem Table.Written.run (ht : t.Valid st) (hw : t.Written d) {s : Session Simulation Link}
    (hs : s.Ready top topo d) (hroom : top + d.size ≤ Number.max64) {u : Upsertion}
    (hu : Session.tableIn s.settings d u.table = .ok t) (now : Int) {d' : Data}
    (hd : ((Session.execute now (.upsert u)).run s).2.context.server.shards.map Shard.data =
      (spread d').shards.map Shard.data) : t.Written d' := by
  obtain ⟨d₁, h, -⟩ := Session.upsert_keeps ht hs hroom (hw.kept ht) hu now
  exact .upsert hw hs hroom hu (h.healthy.sound.holds_of_data hd)

end SlotSql
