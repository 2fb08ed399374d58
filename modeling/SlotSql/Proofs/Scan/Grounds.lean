import SlotSql.Proofs.Scan.Feed
/-!
# Where the rows of a scan come from

Between two calls of a scan other statements change the store, so a key that a page named may be gone when
the scan comes to it. What is left to rely on is little: pages name keys of some kind, pending keys are of
that kind, and a row is found at such a key only under some condition. That is an invariant of every step
of a scan, whether it fails or not, and says where each row comes from that a call collects.

Results:
* `Grounds.next`: the rows that a call collects.
* `Grounds.matchingKeys`: the keys of all rows of a plan.
* `Grounds.delete`: the keys that a deletion deletes.
-/
namespace SlotSql

open Cluster

variable {σ α : Type} {w : World σ} {v : ScanEnv} {p : Plan}

/-- What a scan relies on in a world that changes between its calls. -/
structure Grounds (w : World σ) (v : ScanEnv) (p : Plan) where
  /-- The states in which a call is made. -/
  Calm : σ → Prop
  /-- The keys that pages name. -/
  Known : String → Prop
  /-- The keys at which rows are found. -/
  Found : String → Prop
  candidate : ∀ {key s}, Known key → Calm s → ∃ r s',
    Dialogue.outcome w (Scan.candidate? p key) s = (r, s') ∧ Calm s' ∧ ∀ c, r = .ok (some c) → Found key
  page : ∀ {node s} (cursor : Nat), node ∈ v.masters → Calm s → ∃ r s',
    Dialogue.outcome w (Asking.scan node cursor p.pattern v.settings.scanBatch) s = (r, s') ∧ Calm s' ∧
      ∀ q, r = .ok q → ∀ k ∈ q.keys, Known k
  existsKey : ∀ {key s}, p.directKey = some key → Calm s → ∃ r s',
    Dialogue.outcome w (Asking.existsKey key) s = (r, s') ∧ Calm s' ∧ (r = .ok true → Known key)

/-- The rows of a result with one more row. -/
theorem mem_collected {now : Int} {a : Scan.Aim} {x : Scan} {c : Candidate} {rows : Rows} {r : Row}
    (h : Scan.collected p now a x c = .ok rows) (hr : r ∈ rows.rows) : r ∈ x.rows.rows ∨ r.key = c.key := by
  unfold Scan.collected at h
  split at h
  · cases h
    exact .inl hr
  · split at h
    · cases h
    · unfold RowsOf.add RowsOf.insert at h
      split at h
      · next he => split at he <;> cases he; cases h
      · next he =>
        split at he
        · cases he
        · cases he; cases h
          rcases List.mem_append.1 hr with hr | hr
          · exact .inl hr
          · rw [List.mem_singleton.1 hr]
            exact .inr rfl

namespace Grounds

variable {G : Grounds w v p} {R : Row → Prop} {a : Scan.Aim} {x : Scan} {s : σ} {key : String}

/-- A scan whose nodes are masters, whose pending keys are known, and whose rows are such ones. -/
structure Stands (G : Grounds w v p) (R : Row → Prop) (x : Scan) (s : σ) : Prop where
  calm : G.Calm s
  nodes : ∀ c ∈ x.progress.cursors, c.node ∈ v.masters
  pending : ∀ c ∈ x.progress.cursors, ∀ k ∈ c.pending, G.Known k
  rows : ∀ r ∈ x.rows.rows, R r

/-- A step that leaves a scan so, whether it fails or not. -/
def Keeps {ε : Type} (G : Grounds w v p) (R : Row → Prop) (act : ExceptT ε (StateT Scan Dialogue) α) : Prop :=
  ∀ x s, G.Stands R x s → ∃ r x' s', Scanning.outcome w act x s = (r, x', s') ∧ G.Stands R x' s'

theorem Keeps.pure {ε : Type} (b : α) : G.Keeps R (Pure.pure b : ExceptT ε (StateT Scan Dialogue) α) :=
  fun x s h => ⟨.ok b, x, s, rfl, h⟩

theorem Keeps.bind {ε β : Type} {act : ExceptT ε (StateT Scan Dialogue) α}
    {f : α → ExceptT ε (StateT Scan Dialogue) β} (ha : G.Keeps R act) (hf : ∀ b, G.Keeps R (f b)) :
    G.Keeps R (act >>= f) := by
  intro x s h
  obtain ⟨r, x', s', h1, h2⟩ := ha x s h
  cases r with
  | error e => exact ⟨.error e, x', s', Scanning.outcome_bind_error h1, h2⟩
  | ok b =>
    rw [Scanning.outcome_bind_ok h1]
    exact hf b x' s' h2

theorem Keeps.forM {β : Type} {f : β → Scanning PUnit} (hf : ∀ b, G.Keeps R (f b)) (bs : List β) :
    G.Keeps R (bs.forM f) := by
  induction bs with
  | nil => exact Keeps.pure _
  | cons b bs ih =>
    rw [List.forM_eq_forM, List.forM_cons]
    exact Keeps.bind (hf b) fun _ => ih

/-! ## The steps of a scan -/

/-- Other cursors leave a scan so if their nodes and pending keys come from the old ones. -/
theorem Stands.cursors (h : G.Stands R x s) {x' : Scan} (hrows : x'.rows = x.rows)
    (hcur : ∀ c' ∈ x'.progress.cursors, c'.node ∈ v.masters ∧ ∀ k ∈ c'.pending, G.Known k) : G.Stands R x' s :=
  ⟨h.calm, fun c hc => (hcur c hc).1, fun c hc => (hcur c hc).2, hrows ▸ h.rows⟩

theorem Stands.modifyCursor (h : G.Stands R x s) (i : Nat) {f : NodeCursor → NodeCursor}
    (hf : ∀ c ∈ x.progress.cursors, (f c).node = c.node ∧ ∀ k ∈ (f c).pending, G.Known k) :
    G.Stands R (x.modifyCursor i f) s := by
  refine h.cursors rfl fun c' hc' => ?_
  obtain ⟨j, hj, rfl⟩ := List.mem_iff_getElem.1 hc'
  have hj' : j < x.progress.cursors.length := by simpa [Scan.modifyCursor] using hj
  have hold := List.getElem_mem hj'
  simp only [Scan.modifyCursor, List.getElem_modify]
  split
  · obtain ⟨h1, h2⟩ := hf _ hold
    exact ⟨h1 ▸ h.nodes _ hold, h2⟩
  · exact ⟨h.nodes _ hold, h.pending _ hold⟩

theorem Stands.take (h : G.Stands R x s) (i : Nat) {rest : List String} (hrest : ∀ k ∈ rest, G.Known k)
    (key : String) : G.Stands R (x.take i rest key) s := by
  have hmod : G.Stands R (x.modifyCursor i fun c => { c with pending := rest }) s :=
    h.modifyCursor i fun _ _ => ⟨rfl, hrest⟩
  refine h.cursors (Feed.take_rows i rest) fun c hc => ?_
  rw [Feed.take_cursors] at hc
  exact ⟨hmod.nodes c hc, hmod.pending c hc⟩

/-- Looking at a known key: a row that it adds is found there. -/
theorem keeps_process (hR : ∀ r : Row, G.Found r.key → R r) (now : Int) (a : Scan.Aim) (hk : G.Known key) :
    G.Keeps R (Scan.process p now a key) := by
  intro x s h
  obtain ⟨r, s', h1, h2, h3⟩ := G.candidate hk h.calm
  have hlift : Scanning.outcome w (ε := RowError) (ExceptT.mk (StateT.lift (Scan.candidate? p key).run)) x s =
      (r, x, s') := by
    rw [Scanning.outcome_lift]
    show ((Dialogue.outcome w (Scan.candidate? p key) s).1, x, (Dialogue.outcome w (Scan.candidate? p key) s).2) = _
    rw [h1]
  have hsame : G.Stands R x s' := { h with calm := h2 }
  unfold Scan.process
  match r, h1, h3, hlift with
  | .error e, _, _, hlift => exact ⟨.error e, x, s', Scanning.outcome_bind_error hlift, hsame⟩
  | .ok none, _, _, hlift => exact ⟨.ok (), x, s', Scanning.outcome_bind_ok hlift, hsame⟩
  | .ok (some c), h1, h3, hlift =>
    rw [Scanning.outcome_bind_ok hlift]
    simp only [Scanning.outcome_bind, Scanning.outcome_get, Scanning.outcome_mk]
    cases hcol : Scan.collected p now a x c with
    | error e => exact ⟨.error e, x, s', rfl, hsame⟩
    | ok rows =>
      refine ⟨.ok ⟨⟩, _, s', rfl, h2, h.nodes, h.pending, fun row hrow => ?_⟩
      rcases mem_collected hcol hrow with hrow | hrow
      · exact h.rows row hrow
      · exact hR row (hrow ▸ Feed.candidate_key h1 ▸ h3 c rfl)

theorem keeps_consume (hR : ∀ r : Row, G.Found r.key → R r) (now : Int) (a : Scan.Aim) (i : Nat)
    {keys : List String} (hk : ∀ k ∈ keys, G.Known k) : G.Keeps R (Scan.consume p now a i keys) := by
  induction keys with
  | nil => exact Keeps.pure ()
  | cons key rest ih =>
    intro x s h
    have hrest := fun k hk' => hk k (List.mem_cons_of_mem key hk')
    have htake := h.take i hrest key
    unfold Scan.consume
    rw [Scanning.outcome_bind_ok Scanning.outcome_get]
    split
    · exact ⟨.ok (), x, s, rfl, h⟩
    · rw [Scanning.outcome_bind_ok Scanning.outcome_set]
      split
      · obtain ⟨r, x', s', h1, h2⟩ := keeps_process hR now a (hk key List.mem_cons_self) _ s htake
        have hattempt : Scanning.outcome w (Scanning.attempt (Scan.process p now a key)) (x.take i rest key) s =
            (.ok r, x', s') := by
          rw [Scanning.outcome_attempt, h1]
        rw [Scanning.outcome_bind_ok hattempt]
        cases r with
        | ok _ => exact ih hrest x' s' h2
        | error fault =>
          cases fault with
          | skip _ => exact ih hrest x' s' h2
          | fatal e => exact ⟨.error e, x', s', rfl, h2⟩
      · exact ih hrest _ s htake

theorem keeps_visit (hR : ∀ r : Row, G.Found r.key → R r) (now : Int) (a : Scan.Aim) (i patience : Nat) :
    G.Keeps R (Scan.visit v.settings p now a i patience) := by
  induction patience with
  | zero => exact Keeps.pure ()
  | succ n ih =>
    intro x s h
    unfold Scan.visit
    rw [Scanning.outcome_bind_ok Scanning.outcome_get]
    have hpending : ∀ k ∈ ((x.progress.cursors[i]?).map NodeCursor.pending).getD [], G.Known k := by
      cases hc : x.progress.cursors[i]? with
      | none => simp
      | some c => exact h.pending c (List.mem_of_getElem? hc)
    obtain ⟨r, x₁, s₁, h1, h2⟩ := keeps_consume hR now a i hpending x s h
    cases r with
    | error e => exact ⟨.error e, x₁, s₁, Scanning.outcome_bind_error h1, h2⟩
    | ok u =>
      rw [Scanning.outcome_bind_ok h1, Scanning.outcome_bind_ok Scanning.outcome_get]
      simp only []
      split
      · exact ⟨.ok (), x₁, s₁, rfl, h2⟩
      · split
        · exact ⟨.ok (), x₁, s₁, rfl, h2⟩
        · next c hc =>
          split
          · exact ⟨.ok (), x₁, s₁, rfl, h2⟩
          · obtain ⟨r, s₂, g1, g2, g3⟩ := G.page c.cursor (h2.nodes c (List.mem_of_getElem? hc)) h2.calm
            have hpage : Scanning.outcome w (Scanning.ofEngine
                (liftM (Asking.scan c.node c.cursor p.pattern v.settings.scanBatch))) x₁ s₁ =
                (r.mapError ClusterError.toEngine, x₁, s₂) := by
              rw [Scanning.outcome_ofEngine, Engine.outcome_liftM, g1]
            cases r with
            | error e => exact ⟨.error e.toEngine, x₁, s₂, Scanning.outcome_bind_error hpage, { h2 with calm := g2 }⟩
            | ok q =>
              rw [Scanning.outcome_bind_ok hpage, Scanning.outcome_bind_ok (Scanning.outcome_modify _)]
              refine ih _ s₂ (Stands.modifyCursor { h2 with calm := g2 } i fun c hc => ⟨rfl, fun k hk => ?_⟩)
              exact (List.mem_append.1 hk).elim (h2.pending c hc k) (g3 q rfl k)

theorem Stands.start (h : G.Stands R x s) : G.Stands R (Scan.start v.masters x) s := by
  unfold Scan.start
  split
  · exact h
  · refine h.cursors rfl fun c hc => ?_
    obtain ⟨node, hnode, rfl⟩ := List.mem_map.1 hc
    exact ⟨hnode, by simp⟩

/-- Carrying a plan on. -/
theorem keeps_advance (hR : ∀ r : Row, G.Found r.key → R r) (a : Scan.Aim) : G.Keeps R (v.advance p a) := by
  unfold ScanEnv.advance
  split
  · -- The only key is looked up.
    intro x s h
    have hstarted : G.Stands R { x with progress := { x.progress with started := true } } s :=
      ⟨h.calm, h.nodes, h.pending, h.rows⟩
    unfold ScanEnv.lookup
    rw [Scanning.outcome_bind_ok Scanning.outcome_get]
    split
    · exact ⟨.ok (), x, s, rfl, h⟩
    · rw [Scanning.outcome_bind_ok Scanning.outcome_set]
      split
      · exact ⟨.ok (), _, s, rfl, hstarted⟩
      · next key hkey =>
        obtain ⟨r, s₁, h1, h2, h3⟩ := G.existsKey hkey h.calm
        have hexists : Scanning.outcome w (Scanning.ofEngine (liftM (Asking.existsKey key)))
            { x with progress := { x.progress with started := true } } s =
            (r.mapError ClusterError.toEngine, { x with progress := { x.progress with started := true } }, s₁) := by
          rw [Scanning.outcome_ofEngine, Engine.outcome_liftM, h1]
        match r, h3, hexists with
        | .error e, _, hexists =>
          exact ⟨.error e.toEngine, _, s₁, Scanning.outcome_bind_error hexists, { hstarted with calm := h2 }⟩
        | .ok false, _, hexists =>
          exact ⟨.ok (), _, s₁, Scanning.outcome_bind_ok hexists, { hstarted with calm := h2 }⟩
        | .ok true, h3, hexists =>
          rw [Scanning.outcome_bind_ok hexists]
          obtain ⟨r, x', s', g1, g2⟩ := keeps_process hR v.now a (h3 rfl) _ s₁ { hstarted with calm := h2 }
          rw [if_pos rfl, Scanning.outcome_bind_ok ((Scanning.outcome_attempt _).trans (by rw [g1]))]
          cases r with
          | error e => exact ⟨.error e.toEngine, x', s', rfl, g2⟩
          | ok u => exact ⟨.ok (), x', s', rfl, g2⟩
  · intro x s h
    unfold ScanEnv.scan
    rw [Scanning.outcome_bind_ok (Scanning.outcome_modify _), Scanning.outcome_bind_ok Scanning.outcome_get]
    exact Keeps.forM (fun i => keeps_visit hR v.now a i v.patience) _ _ s h.start

/-! ## Calls -/

theorem keeps_next (hR : ∀ r : Row, G.Found r.key → R r) (offset limit : Nat) : G.Keeps R (v.next p offset limit) := by
  intro x s h
  unfold ScanEnv.next
  rw [Scanning.outcome_bind_ok Scanning.outcome_get]
  exact Keeps.bind (keeps_advance hR _) (fun _ y s hy => ⟨_, y, s, rfl, hy⟩) x s h

/-- A call for the next rows, whatever has become of the store since the last one: each row that it collects
is one that the result had or is found at its key. -/
theorem next (h : G.Stands (fun _ => True) x s) (offset limit : Nat) : ∃ r x' s',
    Scanning.outcome w (v.next p offset limit) x s = (r, x', s') ∧ G.Stands (fun _ => True) x' s' ∧
      ∀ row ∈ x'.rows.rows, row ∈ x.rows.rows ∨ G.Found row.key := by
  obtain ⟨r, x', s', h1, h2⟩ := keeps_next (G := G) (R := fun row => row ∈ x.rows.rows ∨ G.Found row.key)
    (fun r hr => .inr hr) offset limit x s ⟨h.calm, h.nodes, h.pending, fun r hr => .inl hr⟩
  exact ⟨r, x', s', h1, ⟨h2.calm, h2.nodes, h2.pending, fun _ _ => trivial⟩, h2.rows⟩

/-- A step on rows of its own. -/
theorem onFreshRows {act : Scanning α} (blank : Rows) (hblank : blank.rows = []) (h : G.Stands (fun _ => True) x s)
    (hact : G.Keeps (fun row => G.Found row.key) act) : ∃ (r : Except EngineError (α × Rows)) (x' : Scan) (s' : σ),
    Scanning.outcome w (ScanEnv.onFreshRows blank act) x s = (r, x', s') ∧ G.Stands (fun _ => True) x' s' ∧
      ∀ y, r = .ok y → ∀ key ∈ y.2.keys, G.Found key := by
  have hstart : G.Stands (fun row => G.Found row.key) { x with rows := blank } s :=
    ⟨h.calm, h.nodes, h.pending, by simp [hblank]⟩
  obtain ⟨r, x', s', h1, h2⟩ := hact _ s hstart
  refine ⟨_, _, s', Scanning.outcome_onFreshRows h1, ⟨h2.calm, h2.nodes, h2.pending, fun _ _ => trivial⟩, ?_⟩
  rintro ⟨b, rows⟩ hy key hkey
  cases r with
  | error e => cases hy
  | ok b' =>
    cases hy
    obtain ⟨row, hrow, rfl⟩ := List.mem_map.1 hkey
    exact h2.rows row hrow

/-- A step on rows of its own, and what is done with them. -/
theorem onFreshRows_bind {β : Type} {act : Scanning α} {rest : α × Rows → Scanning β} (blank : Rows)
    (hblank : blank.rows = []) (h : G.Stands (fun _ => True) x s) (hact : G.Keeps (fun row => G.Found row.key) act)
    (hrest : ∀ y x' s', (∀ key ∈ y.2.keys, G.Found key) → G.Stands (fun _ => True) x' s' →
      ∃ r x'' s'', Scanning.outcome w (rest y) x' s' = (r, x'', s'') ∧ G.Stands (fun _ => True) x'' s'') :
    ∃ r x' s', Scanning.outcome w (ScanEnv.onFreshRows blank act >>= rest) x s = (r, x', s') ∧
      G.Stands (fun _ => True) x' s' := by
  obtain ⟨r, x', s', h1, h2, h3⟩ := onFreshRows blank hblank h hact
  cases r with
  | error e => exact ⟨.error e, x', s', Scanning.outcome_bind_error h1, h2⟩
  | ok y =>
    rw [Scanning.outcome_bind_ok h1]
    exact hrest y x' s' (h3 y rfl) h2

theorem stands_fresh (rows : Rows) (hs : G.Calm s) : G.Stands (fun _ => True) ⟨{}, rows⟩ s :=
  ⟨hs, by simp, by simp, fun _ _ => trivial⟩

/-- The keys of all rows of a plan are keys at which rows are found. -/
theorem matchingKeys (rows : Rows) (hs : G.Calm s) : ∃ r x' s',
    Scanning.outcome w (v.matchingKeys p) ⟨{}, rows⟩ s = (r, x', s') ∧ G.Calm s' ∧
      ∀ keys, r = .ok keys → ∀ key ∈ keys, G.Found key := by
  obtain ⟨r, x', s', h1, h2, h3⟩ := onFreshRows (G := G) ⟨"", [], []⟩ rfl (stands_fresh rows hs)
    (keeps_advance (fun _ hr => hr) {})
  unfold ScanEnv.matchingKeys
  cases r with
  | error e => exact ⟨.error e, x', s', Scanning.outcome_bind_error h1, h2.calm, by rintro _ ⟨⟩⟩
  | ok y =>
    refine ⟨.ok y.2.keys, x', s', ?_, h2.calm, ?_⟩
    · rw [Scanning.outcome_bind_ok h1]
      rfl
    · rintro _ ⟨⟩
      exact h3 y rfl

/-- Counting the rows of a plan. -/
theorem count (rows : Rows) (hs : G.Calm s) : ∃ r x' s',
    Scanning.outcome w (v.count p) ⟨{}, rows⟩ s = (r, x', s') ∧ G.Calm s' := by
  obtain ⟨r, x', s', h1, h2, -⟩ := onFreshRows (G := G) ⟨"", [], []⟩ rfl (stands_fresh rows hs)
    (keeps_advance (fun _ hr => hr) { collect := p.directKey.isSome })
  unfold ScanEnv.count
  cases r with
  | error e => exact ⟨.error e, x', s', Scanning.outcome_bind_error h1, h2.calm⟩
  | ok y =>
    rw [Scanning.outcome_bind_ok h1]
    exact ⟨_, x', s', rfl, h2.calm⟩

/-- A deletion deletes keys at which rows are found only. -/
theorem delete (hdel : ∀ keys s, (∀ key ∈ keys, G.Found key) → G.Calm s →
      G.Calm (Dialogue.outcome w (ScanEnv.deleteRows p keys) s).2)
    (limit : Option Nat) (patience skip deleted : Nat) (h : G.Stands (fun _ => True) x s) : ∃ r x' s',
    Scanning.outcome w (v.deletePages p limit patience skip deleted) x s = (r, x', s') ∧
      G.Stands (fun _ => True) x' s' := by
  induction patience generalizing x s skip deleted with
  | zero => exact ⟨.ok deleted, x, s, rfl, h⟩
  | succ n ih =>
    unfold ScanEnv.deletePages
    split
    · exact ⟨.ok deleted, x, s, rfl, h⟩
    · refine onFreshRows_bind ⟨"", [], []⟩ rfl h (keeps_next (fun _ hr => hr) skip _) fun y x₁ s₁ hfound h₁ => ?_
      have hcalm := hdel y.2.keys s₁ hfound h₁.calm
      have hout := Scanning.outcome_ofEngine (w := w) (x := x₁) (s := s₁) (ScanEnv.deleteRows p y.2.keys)
      cases ho : Dialogue.outcome w (ScanEnv.deleteRows p y.2.keys) s₁ with
      | mk r s₂ =>
        rw [ho] at hout hcalm
        have hstands : G.Stands (fun _ => True) x₁ s₂ := { h₁ with calm := hcalm }
        cases r with
        | error e => exact ⟨.error e, x₁, s₂, Scanning.outcome_bind_error hout, hstands⟩
        | ok k =>
          rw [Scanning.outcome_bind_ok hout]
          split
          · exact ih _ _ hstands
          · exact ⟨_, x₁, s₂, rfl, hstands⟩

end Grounds
end SlotSql
