import SlotSql.Proofs.Rows.Owned
/-!
# Stores that agree on a table

What a statement on a table asks for depends on the keys of the table only, but a scan pages over the keys of all
tables. So on two stores that agree on the keys of a table, work that asks for its keys only goes alike step by step;
of a scan only what it comes to is alike: the rows that its plan accepts, in order.

Results:
* `outcome_alike`: work on the keys of the table goes alike.
* `accepted_alike`: a plan for the table accepts the same rows.
* `advance_alike`: carrying a plan out from the beginning comes to the same, and fails alike.
* `delete_alike`, `execute_alike`: so do deletions and statements that write rows.
-/
namespace SlotSql

open Cluster Store Simulation Dialogue

variable {m : Nat} {topo : Topology} {t : Table} {st : Settings} {name : TableName} {d₁ d₂ : Data} {key : String}
  {cs : List Condition} {p : Plan} {fs : Plan.Filters} {c₁ c₂ : Context Simulation Link}

/-- Two stores agree on the keys of the table of a name. -/
def Alike (st : Settings) (name : TableName) (d₁ d₂ : Data) : Prop := ∀ j, Owned st name j → d₁.get? j = d₂.get? j

namespace Alike

theorem table (h : Alike st name d₁ d₂) : Session.tableIn st d₁ name = Session.tableIn st d₂ name :=
  Session.tableIn_congr (h _ .entry)

theorem footprint (h : Alike st t.tableName d₁ d₂) (ht : t.Valid st) (hp : (t.parts? key).isSome = true) :
    ∀ k ∈ t.footprint key, d₁.get? k = d₂.get? k := fun k hk => h k (.footprint ht hp hk)

theorem contains (h : Alike st t.tableName d₁ d₂) (ht : t.Valid st) (hp : (t.parts? key).isSome = true) :
    d₁.contains key = d₂.contains key := contains_eq (h.footprint ht hp key List.mem_cons_self)

/-- Looking at a row of the table comes to the same. -/
theorem lookup (h : Alike st t.tableName d₁ d₂) (ht : t.Valid st) (hf : Plan.For t cs p fs)
    (hp : (t.parts? key).isSome = true) : lookupIn (answers m d₁) p key = lookupIn (answers m d₂) p key := by
  refine lookupIn_agree (h.footprint ht hp key List.mem_cons_self) fun n hn => ?_
  obtain ⟨f, hf, rfl⟩ := List.mem_map.1 (hf.setNames n hn)
  exact h.footprint ht hp _ (Table.set_mem_footprint hf)

/-- Taking keys out leaves such stores. -/
theorem erased (h : Alike st name d₁ d₂) (keys : List String) : Alike st name (without d₁ keys) (without d₂ keys) := by
  intro j hj
  rw [get?_without, get?_without, h j hj]

end Alike

/-! ## Work on the keys of a table -/

/-- A command on keys of the table of a name that lie in one slot. -/
def OnTable (st : Settings) (name : TableName) (g : Target) (cmd : Command) : Prop :=
  g = .active ∧ ∃ k slot, cmd.Runs k ∧ OneSlot slot k.keys ∧ ∀ j ∈ k.keys, Owned st name j

/-- Work that asks for such commands goes alike. -/
theorem outcome_alike {α : Type} {Q : α → Prop} {x : Engine α} (hx : Asks (OnTable st name) Q x)
    (h : Alike st name d₁ d₂) (hc₁ : Hosts m topo d₁ c₁) (hc₂ : Hosts m topo d₂ c₂) : ∃ r c₁' c₂' d₁' d₂',
    outcome Context.world x c₁ = (r, c₁') ∧ outcome Context.world x c₂ = (r, c₂') ∧
      Hosts m topo d₁' c₁' ∧ Hosts m topo d₂' c₂' ∧ Alike st name d₁' d₂' := by
  have hslot (g : Target) (cmd : Command) (hcmd : OnTable st name g cmd) : OnSlot g cmd :=
    let ⟨hg, k, slot, hr, hk, _⟩ := hcmd
    ⟨hg, k, slot, hr, hk⟩
  obtain ⟨top₁, hc₁⟩ := hc₁
  obtain ⟨top₂, hc₂⟩ := hc₂
  obtain ⟨c₁', e1, e2⟩ := outcome_serves hx hslot hc₁
  obtain ⟨c₂', f1, f2⟩ := outcome_serves hx hslot hc₂
  obtain ⟨h1, -, h3⟩ := run_simulates (Store.world m) (Store.world m) (A := fun _ => True) (R := Alike st name)
    (fun g cmd s₁ s₂ hcmd hs => by
      obtain ⟨-, k, slot, hr, -, howned⟩ := hcmd
      have hagree : KeyCommand.Agree k.keys s₁ s₂ := fun j hj => hs j (howned j hj)
      show (reply m cmd s₁).1 = (reply m cmd s₂).1 ∧ _ ∧ Alike st name (reply m cmd s₁).2 (reply m cmd s₂).2
      by_cases hl : cmd.length ≤ m
      · rw [reply_runs hr hl, reply_runs hr hl, KeyCommand.run_reply k hagree]
        refine ⟨rfl, trivial, fun j hj => ?_⟩
        by_cases hk : j ∈ k.keys
        · exact KeyCommand.run_inside k hagree j hk
        · exact (KeyCommand.run_outside k hk).trans ((hs j hj).trans (KeyCommand.run_outside k hk).symm)
      · rw [reply_long hr (Nat.lt_of_not_le hl), reply_long hr (Nat.lt_of_not_le hl)]
        exact ⟨rfl, trivial, hs⟩) hx h
  have hsame : (outcome (Store.world m) x d₁).1 = (outcome (Store.world m) x d₂).1 := h1
  exact ⟨_, c₁', c₂', _, _, e1, hsame ▸ f1, ⟨top₁, e2⟩, ⟨top₂, f2⟩, h3⟩

theorem rowCommands_onTable (ht : t.Valid st) (hp : (t.parts? key).isSome = true) :
    t.RowCommands key (OnTable st t.tableName) := by
  have htouch {g : Target} {cmd : Command} (h : t.Touches key g cmd) : OnTable st t.tableName g cmd := by
    obtain ⟨hg, k, j, hr, hkeys, hj⟩ := h
    refine ⟨hg, k, slotOf j, hr, hkeys ▸ oneSlot_singleton j, fun i hi => ?_⟩
    rw [hkeys] at hi
    exact List.mem_singleton.1 hi ▸ .footprint ht hp hj
  have h := t.rowCommands_touches key
  exact ⟨htouch h.existsKey, fun fields hne => htouch (h.hmget fields hne),
    fun pairs hne hp => htouch (h.hmset pairs hne hp), fun f hf => htouch (h.del f hf),
    fun f hf ms hne hms => htouch (h.sadd f hf ms hne hms), fun f hf ms hne => htouch (h.srem f hf ms hne)⟩

/-! ## The rows of a plan -/

/-- The keys of the rows of a table come in the same order. -/
theorem scanOrder_alike (ht : t.Valid st) (h : Alike st t.tableName d₁ d₂) :
    (scanOrder topo d₁).filter (fun k => (t.parts? k).isSome) = (scanOrder topo d₂).filter fun k => (t.parts? k).isSome := by
  have hkeys : d₁.keys.filter (fun k => (t.parts? k).isSome) = d₂.keys.filter fun k => (t.parts? k).isSome := by
    refine keys_unique (d₁.keys_sorted.filter _) (d₂.keys_sorted.filter _) fun k => ?_
    rw [List.mem_filter, List.mem_filter]
    refine and_congr_left fun hp => ?_
    rw [← KeyMap.contains_iff, ← KeyMap.contains_iff, h.contains ht hp]
  have hswap (d : Data) : (scanOrder topo d).filter (fun k => (t.parts? k).isSome) = topo.masters.flatMap fun i =>
      (d.keys.filter fun k => (t.parts? k).isSome).filter fun k => home (slotOf k) == nodeOf topo i := by
    unfold scanOrder
    rw [List.filter_flatMap]
    exact List.flatMap_congr fun i _ => List.filter_comm _ _ _
  rw [hswap, hswap, hkeys]

/-- A plan for a table accepts the same rows, in the same order. -/
theorem accepted_alike (ht : t.Valid st) (hf : Plan.For t cs p fs) (h : Alike st t.tableName d₁ d₂) :
    accepted m topo d₁ p = accepted m topo d₂ p := by
  have hsame {k : String} (hp : (t.parts? k).isSome = true) :
      accepted? (lookupIn (answers m d₁) p) k = accepted? (lookupIn (answers m d₂) p) k := by
    unfold accepted?
    rw [h.lookup ht hf hp]
  unfold accepted keysFor
  cases hk : p.directKey with
  | some key =>
    obtain ⟨parts, hp, -⟩ := direct_parts ht hf hk
    have hp : (t.parts? key).isSome = true := by rw [hp]; rfl
    simp only [List.filter_cons, List.filter_nil, h.contains ht hp]
    split
    · simp only [List.filterMap_cons, hsame hp, List.filterMap_nil]
    · rfl
  | none =>
    -- Keys that match the pattern and are accepted are rows of the table.
    have hrows (d : Data) : ((scanOrder topo d).filter (Glob.matchesKey p.pattern)).filterMap
        (accepted? (lookupIn (answers m d) p)) =
          (((scanOrder topo d).filter fun k => (t.parts? k).isSome).filter (Glob.matchesKey p.pattern)).filterMap
            (accepted? (lookupIn (answers m d) p)) := by
      rw [List.filter_comm, List.filterMap_filter (p := fun k => (t.parts? k).isSome)]
      refine List.filterMap_congr fun k hk => ?_
      split
      · rfl
      · next hno =>
        cases hy : accepted? (lookupIn (answers m d) p) k with
        | none => rfl
        | some y =>
          obtain ⟨ts, tb, ps, hread, hlen⟩ := lookup_parse hy
          obtain ⟨hp, -⟩ := pattern_parts ht hf (List.mem_filter.1 hk).2 hread hlen
          exact absurd (by rw [hp]; rfl) hno
    simp only [hrows, scanOrder_alike ht h]
    refine List.filterMap_congr fun k hk => ?_
    exact hsame (List.mem_filter.1 (List.mem_filter.1 hk).1).2

/-! ## Plans from the beginning -/

section Begin

variable {v v₁ v₂ : ScanEnv} {d : Data} {c : Context Simulation Link} {x : Scan}

/-- Scans of a store can begin, and there are cursors for them. -/
def Begins (v : ScanEnv) (m : Nat) (topo : Topology) (d : Data) (c : Context Simulation Link) : Prop :=
  Fits v m topo d ∧ ∃ top, Serves m top topo d c ∧ top + d.size ≤ Number.max64

theorem Begins.hosts (h : Begins v m topo d c) : Hosts m topo d c :=
  let ⟨_, _, hc, _⟩ := h
  hc.hosts

/-- Looking at a key for the first time comes to the same if the row is the same. -/
theorem process_alike (hlook : lookupIn (answers m d₁) p key = lookupIn (answers m d₂) p key) (now : Int) (a : Scan.Aim)
    (x : Scan) (hc₁ : Hosts m topo d₁ c₁) (hc₂ : Hosts m topo d₂ c₂) : ∃ r x' c₁' c₂',
    Scanning.outcome Context.world (Scan.process p now a key) x c₁ = (r, x', c₁') ∧
      Scanning.outcome Context.world (Scan.process p now a key) x c₂ = (r, x', c₂') ∧
      Hosts m topo d₁ c₁' ∧ Hosts m topo d₂ c₂' := by
  obtain ⟨c₁', e1, hc₁'⟩ := hc₁.candidate p key
  obtain ⟨c₂', e2, hc₂'⟩ := hc₂.candidate p key
  rw [hlook] at e1
  have hlift {c c' : Context Simulation Link} (h : outcome Context.world (Scan.candidate? p key) c =
      ((lookupIn (answers m d₂) p key).mapError .skip, c')) :
      Scanning.outcome Context.world (ε := RowError) (ExceptT.mk (StateT.lift (Scan.candidate? p key).run)) x c =
        ((lookupIn (answers m d₂) p key).mapError .skip, x, c') := by
    rw [Scanning.outcome_lift]
    show ((outcome Context.world (Scan.candidate? p key) c).1, x, (outcome Context.world (Scan.candidate? p key) c).2) = _
    rw [h]
  have h1 := hlift e1
  have h2 := hlift e2
  generalize lookupIn (answers m d₂) p key = look at h1 h2
  unfold Scan.process
  cases look with
  | error e => exact ⟨_, _, _, _, Scanning.outcome_bind_error h1, Scanning.outcome_bind_error h2, hc₁', hc₂'⟩
  | ok y =>
    rw [Scanning.outcome_bind_ok h1, Scanning.outcome_bind_ok h2]
    cases y with
    | none => exact ⟨_, _, _, _, rfl, rfl, hc₁', hc₂'⟩
    | some y =>
      simp only [Scanning.outcome_bind, Scanning.outcome_get, Scanning.outcome_mk]
      cases Scan.collected p now a x y with
      | error e => exact ⟨_, _, _, _, rfl, rfl, hc₁', hc₂'⟩
      | ok rows => exact ⟨_, _, _, _, rfl, rfl, hc₁', hc₂'⟩

/-- So does looking up the only key of a plan. -/
theorem lookup_alike (ht : t.Valid st) (hf : Plan.For t cs p fs) (h : Alike st t.tableName d₁ d₂) (hm : 2 ≤ m)
    (hnow : v₁.now = v₂.now) (hd : p.directKey = some key) (a : Scan.Aim) (x : Scan) (hc₁ : Hosts m topo d₁ c₁)
    (hc₂ : Hosts m topo d₂ c₂) : ∃ r x' c₁' c₂',
    Scanning.outcome Context.world (v₁.lookup p a) x c₁ = (r, x', c₁') ∧
      Scanning.outcome Context.world (v₂.lookup p a) x c₂ = (r, x', c₂') ∧
      Hosts m topo d₁ c₁' ∧ Hosts m topo d₂ c₂' := by
  obtain ⟨parts, hp, -⟩ := direct_parts ht hf hd
  have hp : (t.parts? key).isSome = true := by rw [hp]; rfl
  obtain ⟨c₁', e1, hc₁'⟩ := hc₁.existsKey hm key
  obtain ⟨c₂', e2, hc₂'⟩ := hc₂.existsKey hm key
  rw [h.contains ht hp] at e1
  have hexists {x : Scan} {c c' : Context Simulation Link}
      (h : outcome Context.world (Asking.existsKey key) c = (.ok (d₂.contains key), c')) :
      Scanning.outcome Context.world (Scanning.ofEngine (liftM (Asking.existsKey key))) x c =
        (.ok (d₂.contains key), x, c') := by
    rw [Scanning.outcome_ofEngine, Engine.outcome_liftM, h]
    rfl
  unfold ScanEnv.lookup
  rw [Scanning.outcome_bind_ok Scanning.outcome_get, Scanning.outcome_bind_ok Scanning.outcome_get]
  by_cases hx : x.progress.started = true
  · rw [if_pos hx, if_pos hx]
    exact ⟨_, _, _, _, rfl, rfl, hc₁, hc₂⟩
  · rw [if_neg hx, if_neg hx, Scanning.outcome_bind_ok Scanning.outcome_set, Scanning.outcome_bind_ok Scanning.outcome_set]
    simp only [hd]
    rw [Scanning.outcome_bind_ok (hexists e1), Scanning.outcome_bind_ok (hexists e2)]
    cases d₂.contains key with
    | false => exact ⟨_, _, _, _, rfl, rfl, hc₁', hc₂'⟩
    | true =>
      obtain ⟨r, x', c₁'', c₂'', g1, g2, g3, g4⟩ := process_alike (h.lookup ht hf hp) v₁.now a
        { x with progress := { x.progress with started := true } } hc₁' hc₂'
      rw [if_pos rfl, if_pos rfl, ← hnow, Scanning.outcome_bind_ok ((Scanning.outcome_attempt _).trans (by rw [g1])),
        Scanning.outcome_bind_ok ((Scanning.outcome_attempt _).trans (by rw [g2]))]
      cases r <;> exact ⟨_, _, _, _, rfl, rfl, g3, g4⟩

/-- Carrying a plan out from the beginning comes to the same, and fails alike. -/
theorem advance_alike (ht : t.Valid st) (hf : Plan.For t cs p fs) (h : Alike st t.tableName d₁ d₂)
    (hnow : v₁.now = v₂.now) (hc₁ : Begins v₁ m topo d₁ c₁) (hc₂ : Begins v₂ m topo d₂ c₂) (a : Scan.Aim) {blank : Rows}
    (hblank : blank.rows = []) (ha : (⟨0, blank⟩ : Tally).reached a = false) : ∃ r x₁ x₂ c₁' c₂',
    Scanning.outcome Context.world (v₁.advance p a) ⟨{}, blank⟩ c₁ = (r, x₁, c₁') ∧
      Scanning.outcome Context.world (v₂.advance p a) ⟨{}, blank⟩ c₂ = (r, x₂, c₂') ∧ x₁.tally = x₂.tally ∧
      Hosts m topo d₁ c₁' ∧ Hosts m topo d₂ c₂' := by
  cases hd : p.directKey with
  | some key =>
    obtain ⟨r, x', c₁', c₂', e1, e2, g1, g2⟩ := lookup_alike ht hf h (Nat.le_trans (by omega) hc₁.1.words) hnow hd a
      ⟨{}, blank⟩ hc₁.hosts hc₂.hosts
    have hadvance (v : ScanEnv) : v.advance p a = v.lookup p a := if_pos (by rw [hd]; rfl)
    rw [hadvance, hadvance]
    exact ⟨r, x', x', c₁', c₂', e1, e2, rfl, g1, g2⟩
  | none =>
    obtain ⟨hv₁, top₁, hs₁, hroom₁⟩ := hc₁
    obtain ⟨hv₂, top₂, hs₂, hroom₂⟩ := hc₂
    obtain ⟨r₁, x₁, c₁', e1, e2, e3, e4⟩ := advance_start a hv₁ hs₁ hroom₁ hblank ha (p := p)
    obtain ⟨r₂, x₂, c₂', f1, f2, f3, f4⟩ := advance_start a hv₂ hs₂ hroom₂ hblank ha (p := p)
    have hsees (d : Data) : Sees m d p := fun key hkey => by
      rw [hd] at hkey
      cases hkey
    have hdirect : ¬ p.directKey.isSome = true := by rw [hd]; exact Bool.false_ne_true
    rw [e4.2 ⟨hsees d₁, fun hsome => absurd hsome hdirect⟩] at e1
    rw [f4.2 ⟨hsees d₂, fun hsome => absurd hsome hdirect⟩] at f1
    refine ⟨_, x₁, x₂, c₁', c₂', e1, f1, ?_, e2.hosts, f2.hosts⟩
    rw [e3, f3, accepted_alike ht hf h, hnow]

/-- The next rows are the same. -/
theorem next_alike (ht : t.Valid st) (hf : Plan.For t cs p fs) (h : Alike st t.tableName d₁ d₂)
    (hnow : v₁.now = v₂.now) (hc₁ : Begins v₁ m topo d₁ c₁) (hc₂ : Begins v₂ m topo d₂ c₂) (offset : Nat) {limit : Nat}
    (hl : 0 < limit) {blank : Rows} (hblank : blank.rows = []) : ∃ r x₁ x₂ c₁' c₂',
    Scanning.outcome Context.world (v₁.next p offset limit) ⟨{}, blank⟩ c₁ = (r, x₁, c₁') ∧
      Scanning.outcome Context.world (v₂.next p offset limit) ⟨{}, blank⟩ c₂ = (r, x₂, c₂') ∧ x₁.rows = x₂.rows ∧
      Hosts m topo d₁ c₁' ∧ Hosts m topo d₂ c₂' := by
  obtain ⟨r, x₁, x₂, c₁', c₂', e1, e2, e3, e4, e5⟩ := advance_alike ht hf h hnow hc₁ hc₂
    { offset, target := some (offset + limit) } hblank (by simp [Tally.reached]; omega)
  have hrows : x₁.rows = x₂.rows := congrArg Tally.rows e3
  have hcount : x₁.progress.accepted = x₂.progress.accepted := congrArg Tally.accepted e3
  refine ⟨r.map fun _ => if blank.size < x₁.rows.size then some x₁.progress.accepted else none, x₁, x₂, c₁', c₂',
    ?_, ?_, hrows, e4, e5⟩
  · unfold ScanEnv.next
    rw [Scanning.outcome_bind_ok Scanning.outcome_get]
    cases r with
    | ok _ => rw [Scanning.outcome_bind_ok e1]; rfl
    | error e => rw [Scanning.outcome_bind_error e1]; rfl
  · unfold ScanEnv.next
    rw [Scanning.outcome_bind_ok Scanning.outcome_get, hrows, hcount]
    cases r with
    | ok _ => rw [Scanning.outcome_bind_ok e2]; rfl
    | error e => rw [Scanning.outcome_bind_error e2]; rfl

/-- Rows are counted alike. -/
theorem count_alike (ht : t.Valid st) (hf : Plan.For t cs p fs) (h : Alike st t.tableName d₁ d₂)
    (hnow : v₁.now = v₂.now) (hc₁ : Begins v₁ m topo d₁ c₁) (hc₂ : Begins v₂ m topo d₂ c₂) (rows : Rows) :
    ∃ r x₁ x₂ c₁' c₂',
    Scanning.outcome Context.world (v₁.count p) ⟨{}, rows⟩ c₁ = (r, x₁, c₁') ∧
      Scanning.outcome Context.world (v₂.count p) ⟨{}, rows⟩ c₂ = (r, x₂, c₂') ∧
      Hosts m topo d₁ c₁' ∧ Hosts m topo d₂ c₂' := by
  obtain ⟨r, x₁, x₂, c₁', c₂', e1, e2, e3, e4, e5⟩ := advance_alike ht hf h hnow hc₁ hc₂
    { collect := p.directKey.isSome } (show (⟨"", [], []⟩ : Rows).rows = [] from rfl) rfl
  have hcount : x₁.progress.accepted = x₂.progress.accepted := congrArg Tally.accepted e3
  have hf₁ := Scanning.outcome_onFreshRows (x := ⟨{}, rows⟩) e1
  have hf₂ := Scanning.outcome_onFreshRows (x := ⟨{}, rows⟩) e2
  unfold ScanEnv.count
  cases r with
  | error e => exact ⟨_, _, _, _, _, Scanning.outcome_bind_error hf₁, Scanning.outcome_bind_error hf₂, e4, e5⟩
  | ok _ =>
    rw [Scanning.outcome_bind_ok hf₁, Scanning.outcome_bind_ok hf₂, Scanning.outcome_bind_ok Scanning.outcome_get,
      Scanning.outcome_bind_ok Scanning.outcome_get]
    simp only [hcount]
    generalize RowsOf.insert _ _ = found
    cases found <;> exact ⟨_, _, _, _, _, rfl, rfl, e4, e5⟩

/-- The keys of all rows of a plan are the same. -/
theorem matchingKeys_alike (ht : t.Valid st) (hf : Plan.For t cs p fs) (h : Alike st t.tableName d₁ d₂)
    (hnow : v₁.now = v₂.now) (hc₁ : Begins v₁ m topo d₁ c₁) (hc₂ : Begins v₂ m topo d₂ c₂) (rows : Rows) :
    ∃ r x₁ x₂ c₁' c₂',
    Scanning.outcome Context.world (v₁.matchingKeys p) ⟨{}, rows⟩ c₁ = (r, x₁, c₁') ∧
      Scanning.outcome Context.world (v₂.matchingKeys p) ⟨{}, rows⟩ c₂ = (r, x₂, c₂') ∧
      Hosts m topo d₁ c₁' ∧ Hosts m topo d₂ c₂' := by
  obtain ⟨r, x₁, x₂, c₁', c₂', e1, e2, e3, e4, e5⟩ := advance_alike ht hf h hnow hc₁ hc₂ {}
    (show (⟨"", [], []⟩ : Rows).rows = [] from rfl) rfl
  have hrows : x₁.rows = x₂.rows := congrArg Tally.rows e3
  have hf₁ := Scanning.outcome_onFreshRows (x := ⟨{}, rows⟩) e1
  have hf₂ := Scanning.outcome_onFreshRows (x := ⟨{}, rows⟩) e2
  unfold ScanEnv.matchingKeys
  cases r with
  | error e => exact ⟨_, _, _, _, _, Scanning.outcome_bind_error hf₁, Scanning.outcome_bind_error hf₂, e4, e5⟩
  | ok _ =>
    rw [Scanning.outcome_bind_ok hf₁, Scanning.outcome_bind_ok hf₂, hrows]
    exact ⟨_, _, _, _, _, rfl, rfl, e4, e5⟩

/-- A deletion removes the same rows, or fails alike. -/
theorem delete_alike (ht : t.Valid st) (hf : Plan.For t cs p fs) (htable : p.table = t) (ho : p.outputs = [])
    (hp : p.countOnly = false) (h : Alike st t.tableName d₁ d₂) (hnow : v₁.now = v₂.now)
    (hsettings : v₁.settings = v₂.settings) (hmax : 0 < v₂.settings.limitMax) (hc₁ : Begins v₁ m topo d₁ c₁)
    (hc₂ : Begins v₂ m topo d₂ c₂) (offset : Nat) (limit : Option Nat) (rows : Rows) : ∃ r x₁ x₂ c₁' c₂' d₁' d₂',
    Scanning.outcome Context.world (v₁.delete p offset limit) ⟨{}, rows⟩ c₁ = (r, x₁, c₁') ∧
      Scanning.outcome Context.world (v₂.delete p offset limit) ⟨{}, rows⟩ c₂ = (r, x₂, c₂') ∧
      Hosts m topo d₁' c₁' ∧ Hosts m topo d₂' c₂' ∧ Alike st t.tableName d₁' d₂' := by
  have hmax₁ : 0 < v₁.settings.limitMax := hsettings ▸ hmax
  by_cases hsees : Sees m d₂ p
  · -- The rows to come are those that the plan accepts.
    have hsees₁ : Sees m d₁ p := by
      intro key hkey hd
      obtain ⟨parts, hparts, -⟩ := direct_parts ht hf hkey
      have hrow : (t.parts? key).isSome = true := by rw [hparts]; rfl
      rw [h.lookup ht hf hrow]
      exact hsees key hkey (h.contains ht hrow ▸ hd)
    have hrun {v : ScanEnv} {d : Data} {c : Context Simulation Link} (hmax : 0 < v.settings.limitMax)
        (hc : Begins v m topo d c) (hsees : Sees m d p) {gone : List String}
        (hgone : gone = (limited limit ((accepted m topo d p).drop offset)).map Candidate.key) : ∃ x' c',
        Scanning.outcome Context.world (v.delete p offset limit) ⟨{}, rows⟩ c =
            (if gone = [] ∨ 2 + t.setFields.length ≤ m then .ok gone.length else .error (t.longDeletion m), x', c') ∧
          Hosts m topo (if 2 + t.setFields.length ≤ m then without d (gone.flatMap t.footprint) else d) c' := by
      obtain ⟨hv, top, hserves, hroom⟩ := hc
      have hstart := ToCome.start rows hv hserves hroom hsees
      have hrows : ∀ y ∈ accepted m topo d p, (t.parts? y.key).isSome = true ∧ d.contains y.key = true := by
        intro y hy
        obtain ⟨hd, parts, hparts, -⟩ := parts_of_accepted ht hf hserves hy
        exact ⟨by rw [hparts]; rfl, hd⟩
      by_cases hm : 2 + t.setFields.length ≤ m
      · have hpatience : ((accepted m topo d p).drop offset).length < v.patience + 1 := by
          have := length_accepted_le (p := p) hserves
          have := hv.patience
          rw [List.length_drop]
          omega
        have hlimit : gone = (limited (limit.map (· - 0)) ((accepted m topo d p).drop offset)).map Candidate.key := by
          cases limit <;> exact hgone
        obtain ⟨x', c', e1, e2⟩ := deletePages_toCome ht hf htable ho hp hm hmax limit 0 hstart
          (accepted_nodup hserves) hrows (Nat.zero_le offset) hpatience hlimit
        rw [if_pos (.inr hm), if_pos hm]
        rw [Nat.zero_add] at e1
        exact ⟨x', c', e1, e2.hosts⟩
      · obtain ⟨x', c', e1, e2⟩ := deletePages_long ht htable ho hp hm hmax limit (n := v.patience) hstart
          (accepted_nodup hserves) (fun y hy => (hrows y hy).1) (Nat.zero_le offset) hgone
        rw [if_neg hm]
        refine ⟨x', c', e1.trans ?_, e2.hosts⟩
        by_cases hnil : gone = []
        · rw [if_pos hnil, if_pos (.inl hnil), hnil]
          rfl
        · rw [if_neg hnil, if_neg (by simp [hnil, hm])]
    obtain ⟨x₁, c₁', e1, e2⟩ := hrun hmax₁ hc₁ hsees₁ rfl
    obtain ⟨x₂, c₂', f1, f2⟩ := hrun hmax hc₂ hsees rfl
    rw [accepted_alike ht hf h] at e1 e2
    refine ⟨_, x₁, x₂, c₁', c₂', _, _, e1, f1, e2, f2, ?_⟩
    split
    · exact h.erased _
    · exact h
  · -- The only row of the plan cannot be read, and nothing is deleted.
    by_cases hdone : limit.any (· ≤ 0) = true
    · have hstop (v : ScanEnv) : v.delete p offset limit = pure 0 := by
        unfold ScanEnv.delete ScanEnv.deletePages
        rw [if_pos hdone]
      rw [hstop, hstop]
      exact ⟨_, _, _, _, _, d₁, d₂, rfl, rfl, hc₁.hosts, hc₂.hosts, h⟩
    · obtain ⟨size, hsize, hpos, -, hmore₁⟩ := deletePages_more (p := p) hmax₁ v₁.patience offset hdone
      obtain ⟨size', hsize', -, -, hmore₂⟩ := deletePages_more (p := p) hmax v₂.patience offset hdone
      obtain rfl : size' = size := by rw [hsize, hsize', hsettings]
      obtain ⟨r, x₁, x₂, c₁', c₂', e1, e2, -, e3, e4⟩ := next_alike ht hf h hnow hc₁ hc₂ offset hpos
        (show (⟨"", [], []⟩ : Rows).rows = [] from rfl)
      have hfails : ∃ e, r = .error e := by
        obtain ⟨hv, top, hserves, hroom⟩ := hc₂
        obtain ⟨r', x', c', g1, -, -, g4⟩ := next_start offset hpos hv hserves hroom
          (show (⟨"", [], []⟩ : Rows).rows = [] from rfl) hp
        rw [e2] at g1
        cases g1
        cases r with
        | ok n => exact absurd (g4.1 ⟨n, rfl⟩).1 hsees
        | error e => exact ⟨e, rfl⟩
      obtain ⟨e, rfl⟩ := hfails
      unfold ScanEnv.delete
      rw [hmore₁, hmore₂]
      exact ⟨_, _, _, _, _, d₁, d₂, Scanning.outcome_bind_error (Scanning.outcome_onFreshRows (x := ⟨{}, rows⟩) e1),
        Scanning.outcome_bind_error (Scanning.outcome_onFreshRows (x := ⟨{}, rows⟩) e2), e3, e4, h⟩

end Begin

/-! ## Statements that write -/

namespace Upsertion

variable {v₁ v₂ : ScanEnv} {u : PreparedUpsertion}

/-- The keys that a statement without a full key means are the same. -/
theorem targets_alike (ht : t.Valid st) (hu : u.table = t) (h : Alike st t.tableName d₁ d₂) (hnow : v₁.now = v₂.now)
    (hs₁ : v₁.settings = st) (hs₂ : v₂.settings = st) (hc₁ : Begins v₁ m topo d₁ c₁) (hc₂ : Begins v₂ m topo d₂ c₂) :
    ∃ r c₁' c₂', outcome Context.world (targets v₁ u) c₁ = (r, c₁') ∧ outcome Context.world (targets v₂ u) c₂ = (r, c₂') ∧
      Hosts m topo d₁ c₁' ∧ Hosts m topo d₂ c₂' := by
  unfold targets
  simp only [hs₁, hs₂, hu]
  split
  · next e _ => exact ⟨.error e.toEngine, c₁, c₂, rfl, rfl, hc₁.hosts, hc₂.hosts⟩
  · next p hp =>
    obtain ⟨fs, hf⟩ := Plan.for_of_build ht hp
    obtain ⟨r, x₁, x₂, c₁', c₂', e1, e2, e3, e4⟩ := matchingKeys_alike ht hf h hnow hc₁ hc₂ p.emptyRows
    exact ⟨r, c₁', c₂', Scanning.outcome_alone e1, Scanning.outcome_alone e2, e3, e4⟩

/-- Carrying a checked statement out comes to the same. -/
theorem execute_alike (ht : t.Valid st) (hu : u.Sound t)
    (hkey : ∀ key, u.key = some key → (t.parts? key).isSome = true) (h : Alike st t.tableName d₁ d₂)
    (hnow : v₁.now = v₂.now) (hs₁ : v₁.settings = st) (hs₂ : v₂.settings = st)
    (hc₁ : Begins v₁ m topo d₁ c₁) (hc₂ : Begins v₂ m topo d₂ c₂) : ∃ r c₁' c₂' d₁' d₂',
    outcome Context.world (execute v₁ u) c₁ = (r, c₁') ∧ outcome Context.world (execute v₂ u) c₂ = (r, c₂') ∧
      Hosts m topo d₁' c₁' ∧ Hosts m topo d₂' c₂' ∧ Alike st t.tableName d₁' d₂' := by
  cases hk : u.key with
  | some key =>
    have hsame : execute v₁ u = execute v₂ u := by
      unfold execute
      rw [hk]
      cases u.mode <;> rfl
    rw [hsame]
    exact outcome_alike (asks_execute hu hk (rowCommands_onTable ht (hkey key hk)) v₂) h hc₁.hosts hc₂.hosts
  | none =>
    have hthrow (e : EngineError) : ∃ r c₁' c₂' d₁' d₂', outcome Context.world (throw e : Engine UpsertOutcome) c₁ = (r, c₁') ∧
        outcome Context.world (throw e : Engine UpsertOutcome) c₂ = (r, c₂') ∧
        Hosts m topo d₁' c₁' ∧ Hosts m topo d₂' c₂' ∧ Alike st t.tableName d₁' d₂' :=
      ⟨.error e, c₁, c₂, d₁, d₂, rfl, rfl, hc₁.hosts, hc₂.hosts, h⟩
    unfold execute
    rw [hk]
    cases hmode : u.mode with
    | query q => exact hthrow _
    | overwrite => exact hthrow _
    | ignore => exact hthrow _
    | update as =>
      obtain ⟨r, c₁', c₂', e1, e2, e3, e4⟩ := targets_alike ht hu.table h hnow hs₁ hs₂ hc₁ hc₂
      simp only []
      cases r with
      | error e => exact ⟨_, c₁', c₂', d₁, d₂, outcome_bind_error e1, outcome_bind_error e2, e3, e4, h⟩
      | ok keys =>
        rw [outcome_bind_ok e1, outcome_bind_ok e2]
        obtain ⟨r', c', g1, -, g2⟩ := targets_hosts ht hu.table
          ⟨hs₁, hc₁.1.words, hc₁.1.batch, hc₁.1.range, hc₁.1.masters⟩ hc₁.hosts
        rw [e1] at g1
        cases g1
        exact outcome_alike ((Asks.forM fun key hkey => asks_updateRow
          (rowCommands_onTable ht (g2 keys rfl key hkey).2) (hu.mode as hmode)).bind
            fun _ _ => (.pure trivial : Asks (OnTable st t.tableName) (fun _ => True) _)) h e3 e4

end Upsertion

/-- A definition of the table comes to the same. -/
theorem create_alike (t : Table) (ifNotExists : Bool) (h : Alike st t.tableName d₁ d₂) (hc₁ : Hosts m topo d₁ c₁)
    (hc₂ : Hosts m topo d₂ c₂) : ∃ r c₁' c₂' d₁' d₂',
    outcome Context.world (Catalog.create st t ifNotExists) c₁ = (r, c₁') ∧
      outcome Context.world (Catalog.create st t ifNotExists) c₂ = (r, c₂') ∧
      Hosts m topo d₁' c₁' ∧ Hosts m topo d₂' c₂' ∧ Alike st t.tableName d₁' d₂' := by
  have hentry {k : KeyCommand} (hk : k.keys = [Catalog.entryKey st t.tableName]) :
      ∃ slot, OneSlot slot k.keys ∧ ∀ j ∈ k.keys, Owned st t.tableName j := by
    rw [hk]
    exact ⟨_, oneSlot_singleton _, fun j hj => List.mem_singleton.1 hj ▸ .entry⟩
  have hasks : Asks (OnTable st t.tableName) (fun _ => True) (Catalog.create st t ifNotExists) :=
    asks_create ⟨rfl, _, _, Command.runs_existsKey, (hentry rfl).choose_spec⟩
      (fun _ _ => ⟨rfl, _, _, Command.runs_hmset (List.cons_ne_nil _ _), (hentry rfl).choose_spec⟩) ifNotExists
  exact outcome_alike hasks h hc₁ hc₂

/-- Removing its entry comes to the same. -/
theorem drop_alike (h : Alike st name d₁ d₂) (hc₁ : Hosts m topo d₁ c₁) (hc₂ : Hosts m topo d₂ c₂) :
    ∃ r c₁' c₂' d₁' d₂', outcome Context.world (Catalog.drop st name) c₁ = (r, c₁') ∧
      outcome Context.world (Catalog.drop st name) c₂ = (r, c₂') ∧
      Hosts m topo d₁' c₁' ∧ Hosts m topo d₂' c₂' ∧ Alike st name d₁' d₂' := by
  have hasks : Asks (OnTable st name) (fun _ => True) (Catalog.drop st name) :=
    (Engine.asks_liftM (asks_del ⟨rfl, _, _, Command.runs_del (List.cons_ne_nil _ _), oneSlot_singleton _,
      fun j hj => List.mem_singleton.1 hj ▸ .entry⟩)).bind fun n _ => by
        split
        · exact .throw _
        · exact .pure trivial
  exact outcome_alike hasks h hc₁ hc₂

end SlotSql
