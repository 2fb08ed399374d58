import SlotSql.Proofs.Scan.Drain
import SlotSql.Proofs.World
/-!
# Scans of a feed

What a scan relies on: each node goes on naming keys, page after page, until it has no more, and looking
at a key comes to the same whenever it is done. Such a feed may hand its keys out in pages of any
size, empty ones included, and may name a key more than once, on one node or on several.

A feed may also fail. A page that does not come can be asked for again. A key whose row cannot be read
is lost: the scan has taken it off the pending ones and has noted that it was looked at.

A scan eats the keys that the nodes have yet to name, from the front, and what it finds is `drain` of
the rows they stand for, the lost ones left out. That is an invariant of every loop: what `drain` makes of
the keys to come is the same before and after, and at the end there is nothing to come, or the aim is
reached, or the scan has failed.

Results:
* `consume_feed`, `visit_feed`: the invariant for the pending keys and for the pages of one node.
* `scan_feed`: the invariant for all nodes.
-/
namespace SlotSql

open Cluster

variable {σ : Type} {w : World σ} {p : Plan} {batch : Nat}

/-- A world in which the keys and rows that a plan looks at come as they should, if they come. -/
structure Feed (w : World σ) (p : Plan) (batch : Nat) where
  /-- The states in which that is so. -/
  Calm : σ → Prop
  /-- What looking at a key comes to. -/
  look : String → Except EngineError (Option Candidate)
  /-- From a cursor on, a node names these keys in no more than so many pages. -/
  Offers : σ → (node cursor pages : Nat) → (keys : List String) → Prop
  /-- The keys whose rows could not be read. -/
  Lost : σ → String → Prop
  /-- Whether it can happen that a page or a row cannot be read. -/
  Fails : Prop
  key : ∀ {key c}, look key = .ok (some c) → c.key = key
  candidate : ∀ {s} (key : String), Calm s → ∃ r s',
    Dialogue.outcome w (Scan.candidate? p key) s = (r, s') ∧ Calm s' ∧
      (∀ {n c m ks}, Offers s n c m ks → Offers s' n c m ks) ∧
      (r = (look key).mapError .skip ∧ Lost s' = Lost s ∨
        Fails ∧ (∃ e, r = .error e) ∧ ∀ k, Lost s' k ↔ Lost s k ∨ k = key)
  page : ∀ {s node cursor pages keys}, Calm s → Offers s node cursor pages keys → ∃ r s',
    Dialogue.outcome w (Asking.scan node cursor p.pattern batch) s = (r, s') ∧ Calm s' ∧ Lost s' = Lost s ∧
      (∀ {n c m ks}, n ≠ node → Offers s n c m ks → Offers s' n c m ks) ∧
      ((∃ page rest, r = .ok page ∧ keys = page.keys ++ rest ∧
          (page.cursor = 0 ∧ rest = [] ∧ 0 < pages ∨
            page.cursor ≠ 0 ∧ ∃ m, m < pages ∧ Offers s' node page.cursor m rest)) ∨
        Fails ∧ (∃ e, r = .error e) ∧ Offers s' node cursor pages keys)

/-- A feed that never fails. -/
structure Feed.Steady (F : Feed w p batch) : Prop where
  fails : ¬ F.Fails
  lost : ∀ s k, ¬ F.Lost s k

/-- The row of a key that a lookup finds acceptable. -/
def accepted? (look : String → Except EngineError (Option Candidate)) (key : String) : Option Candidate :=
  match look key with
  | .ok c => c
  | .error _ => none

/-- The rows that keys stand for, each key counted where it stands first, and not if it was seen
before. -/
def fresh (look : String → Except EngineError (Option Candidate)) :
    (seen keys : List String) → List Candidate
  | _, [] => []
  | seen, key :: keys =>
    if seen.contains key then fresh look seen keys
    else (accepted? look key).toList ++ fresh look (key :: seen) keys

/-- How many rows a scan has accepted, and which it has collected. -/
def Scan.tally (x : Scan) : Tally := ⟨x.progress.accepted, x.rows⟩

/-- The rows of a scan stand for keys that it has seen. -/
def Scan.Fair (x : Scan) : Prop := ∀ k ∈ x.rows.keys, k ∈ x.progress.seen

theorem Scan.reached_tally (a : Scan.Aim) (x : Scan) : x.tally.reached a = a.reached x.progress := by
  unfold Tally.reached Scan.Aim.reached Scan.tally
  cases a.target <;> rfl

namespace Feed

variable {F : Feed w p batch} {now : Int} {a : Scan.Aim} {x : Scan} {s : σ} {key : String}

/-! ## One key -/

/-- The row of a key has the key. -/
theorem candidate_key {s' : σ} {c : Candidate}
    (h : Dialogue.outcome w (Scan.candidate? p key) s = (.ok (some c), s')) : c.key = key := by
  unfold Scan.candidate? at h
  split at h
  · split at h
    · simp at h
    · rw [Dialogue.outcome_bind] at h
      split at h
      · split at h
        · simp at h
        · rw [Dialogue.outcome_bind] at h
          split at h
          · rw [Dialogue.outcome_bind] at h
            split at h
            · split at h
              · simp at h
              · simp only [Dialogue.outcome_pure, Prod.mk.injEq, Except.ok.injEq, Option.some.injEq] at h
                rw [← h.1]
            · simp at h
          · simp at h
      · simp at h
  · simp at h

theorem accepted?_key (F : Feed w p batch) {c : Candidate} (h : accepted? F.look key = some c) : c.key = key := by
  unfold accepted? at h
  split at h
  · next y hy => subst h; exact F.key hy
  · cases h

theorem collected_ne_fatal {c : Candidate} (h : c.key ∉ x.rows.keys) (e : EngineError) :
    Scan.collected p now a x c ≠ .error (.fatal e) := by
  intro hf
  unfold Scan.collected at hf
  split at hf
  · cases hf
  · split at hf
    · cases hf
    · rw [RowsOf.add, RowsOf.insert, if_neg (by simpa using h)] at hf
      cases hf

theorem keys_collected {c : Candidate} {rows : Rows} {k : String}
    (h : Scan.collected p now a x c = .ok rows) (hk : k ∈ rows.keys) : k ∈ x.rows.keys ∨ k = c.key := by
  unfold Scan.collected at h
  split at h
  · cases h; exact .inl hk
  · split at h
    · cases h
    · next cells _ =>
      unfold RowsOf.add RowsOf.insert at h
      split at h
      · next he => split at he <;> cases he; cases h
      · next he =>
        split at he
        · cases he
        · cases he; cases h
          simpa [RowsOf.keys, RowOf.resize] using hk

theorem gain_of_collected {c : Candidate} {rows : Rows} (h : Scan.collected p now a x c = .ok rows) :
    x.tally.gain p now a c = ⟨x.tally.accepted + 1, rows⟩ := by
  unfold Tally.gain
  rw [show Scan.collected p now a ⟨{ accepted := x.tally.accepted }, x.tally.rows⟩ c = .ok rows from h]

theorem gain_of_not_collected {c : Candidate} {e : RowError} (h : Scan.collected p now a x c = .error e) :
    x.tally.gain p now a c = x.tally := by
  unfold Tally.gain
  rw [show Scan.collected p now a ⟨{ accepted := x.tally.accepted }, x.tally.rows⟩ c = .error e from h]

/-- A row is not counted just when it is to be shown and cannot be. -/
theorem gain_eq_iff {c : Candidate} :
    x.tally.gain p now a c = x.tally ↔ ∃ e, Scan.collected p now a x c = .error e := by
  cases h : Scan.collected p now a x c with
  | error e => exact ⟨fun _ => ⟨e, rfl⟩, fun _ => gain_of_not_collected h⟩
  | ok rows =>
    rw [gain_of_collected h]
    refine ⟨fun h => absurd (congrArg Tally.accepted h) (Nat.succ_ne_self _), ?_⟩
    rintro ⟨e, ⟨⟩⟩

/-- What becomes of a scan that looks at a key for the first time. -/
theorem process_feed (now : Int) (a : Scan.Aim) (hs : F.Calm s) (hk : key ∉ x.rows.keys) : ∃ r x' s',
    Scanning.outcome w (Scan.process p now a key) x s = (r, x', s') ∧
      x'.progress = { x.progress with accepted := x'.progress.accepted } ∧
      (∀ k ∈ x'.rows.keys, k ∈ x.rows.keys ∨ k = key) ∧
      F.Calm s' ∧ (∀ {n c m ks}, F.Offers s n c m ks → F.Offers s' n c m ks) ∧
      (F.Lost s' = F.Lost s ∧ (∀ e, r ≠ .error (.fatal e)) ∧
          (r = .ok () ↔ (∃ y, F.look key = .ok y) ∧
            ∀ y, accepted? F.look key = some y → x.tally.gain p now a y ≠ x.tally) ∧
          x'.tally = ((accepted? F.look key).map (x.tally.gain p now a)).getD x.tally ∨
        F.Fails ∧ (∀ k, F.Lost s' k ↔ F.Lost s k ∨ k = key) ∧ x'.tally = x.tally) := by
  obtain ⟨c?, s', h1, h2, h3, h4⟩ := F.candidate key hs
  have hl : Scanning.outcome w (ε := RowError) (ExceptT.mk (StateT.lift (Scan.candidate? p key).run)) x s =
      (c?, x, s') := by
    rw [Scanning.outcome_lift]
    show ((Dialogue.outcome w (Scan.candidate? p key) s).1, x,
      (Dialogue.outcome w (Scan.candidate? p key) s).2) = _
    rw [h1]
  unfold Scan.process
  rcases h4 with ⟨rfl, hlost⟩ | ⟨hF, ⟨e, rfl⟩, hlost⟩
  rotate_left
  · exact ⟨.error e, x, s', Scanning.outcome_bind_error hl, rfl, fun _ h => .inl h, h2, h3, .inr ⟨hF, hlost, rfl⟩⟩
  cases hlook : F.look key with
  | error e =>
    rw [hlook] at hl
    refine ⟨.error (.skip e), x, s', Scanning.outcome_bind_error hl, rfl, fun _ h => .inl h, h2, h3,
      .inl ⟨hlost, ?_, ?_, ?_⟩⟩
    · rintro _ ⟨⟩
    · refine ⟨fun h => ?_, fun h => ?_⟩
      · cases h
      · obtain ⟨y, hy⟩ := h.1
        cases hy
    · simp [accepted?, hlook]
  | ok y =>
    rw [hlook] at hl
    rw [Scanning.outcome_bind_ok hl]
    cases y with
    | none =>
      refine ⟨.ok (), x, s', rfl, rfl, fun _ h => .inl h, h2, h3, .inl ⟨hlost, ?_, ?_, ?_⟩⟩
      · rintro _ ⟨⟩
      · simp [accepted?, hlook]
      · simp [accepted?, hlook]
    | some c =>
      have hc : c.key = key := F.key hlook
      have hacc : accepted? F.look key = some c := by simp [accepted?, hlook]
      simp only [Scanning.outcome_bind, Scanning.outcome_get, Scanning.outcome_mk]
      rw [hacc, Option.map_some, Option.getD_some]
      cases hcol : Scan.collected p now a x c with
      | error e =>
        refine ⟨.error e, x, s', rfl, rfl, fun _ h => .inl h, h2, h3,
          .inl ⟨hlost, ?_, ?_, (gain_of_not_collected hcol).symm⟩⟩
        · rintro e' ⟨⟩
          exact collected_ne_fatal (hc ▸ hk) e' hcol
        · refine ⟨fun h => ?_, fun h => ?_⟩
          · cases h
          · exact absurd (gain_eq_iff.2 ⟨e, hcol⟩) (h.2 c rfl)
      | ok rows =>
        refine ⟨.ok ⟨⟩, { x with rows, progress := { x.progress with accepted := x.progress.accepted + 1 } },
          s', rfl, rfl, ?_, h2, h3, .inl ⟨hlost, ?_, ?_, (gain_of_collected hcol).symm⟩⟩
        · intro k hkr
          exact (keys_collected hcol hkr).imp id fun h => h.trans hc
        · rintro _ ⟨⟩
        · refine ⟨fun _ => ⟨⟨_, rfl⟩, ?_⟩, fun _ => rfl⟩
          rintro y ⟨⟩ hy
          obtain ⟨e, he⟩ := gain_eq_iff.1 hy
          rw [hcol] at he
          cases he

/-! ## The keys of one node -/

/-- A scan has seen the keys of its rows, and those whose rows could not be read. -/
structure Fair (F : Feed w p batch) (x : Scan) (s : σ) : Prop where
  rows : x.Fair
  lost : ∀ k, F.Lost s k → k ∈ x.progress.seen

/-- A lookup finds at a key what a scan has found there: nothing if the row could not be read. -/
def Finds (F : Feed w p batch) (s : σ) (look : String → Except EngineError (Option Candidate)) (key : String) :
    Prop :=
  (F.Lost s key → accepted? look key = none) ∧ (¬ F.Lost s key → accepted? look key = accepted? F.look key)

/-- A scan has come from `x`, with the keys `ks` to come, to `x'`, with the keys `ks'` to come: what it
makes of them, and of any keys behind them, is the same for every lookup that finds what it has found. -/
structure Advances (F : Feed w p batch) (now : Int) (a : Scan.Aim) (x : Scan) (ks : List String) (s : σ)
    (x' : Scan) (ks' : List String) (s' : σ) : Prop where
  fair : F.Fair x' s'
  started : x.progress.started = true → x'.progress.started = true
  seen : ∀ k ∈ x.progress.seen, k ∈ x'.progress.seen
  lost : ∀ k ∈ x.progress.seen, (F.Lost s' k ↔ F.Lost s k)
  drain : ∀ look, (∀ k ∈ x'.progress.seen, k ∉ x.progress.seen → F.Finds s' look k) → ∀ more,
    Tally.drain p now a (fresh look x.progress.seen (ks ++ more)) x.tally =
      Tally.drain p now a (fresh look x'.progress.seen (ks' ++ more)) x'.tally

/-- If only the world has changed, and no row was lost, a scan has come to what it was. -/
theorem Advances.refl {s' : σ} {ks : List String} (hf : F.Fair x s) (h : F.Lost s' = F.Lost s) :
    Advances F now a x ks s x ks s' :=
  ⟨⟨hf.rows, h ▸ hf.lost⟩, fun h => h, fun _ h => h, fun _ _ => h ▸ Iff.rfl, fun _ _ _ => rfl⟩

theorem Finds.of_lost {s' : σ} {look : String → Except EngineError (Option Candidate)}
    (h : F.Finds s' look key) (hl : F.Lost s' key ↔ F.Lost s key) : F.Finds s look key :=
  ⟨fun h' => h.1 (hl.2 h'), fun h' => h.2 (mt hl.1 h')⟩

theorem Advances.trans {x₁ x₂ x₃ : Scan} {k₁ k₂ k₃ : List String} {s₁ s₂ s₃ : σ}
    (h : Advances F now a x₁ k₁ s₁ x₂ k₂ s₂) (h' : Advances F now a x₂ k₂ s₂ x₃ k₃ s₃) :
    Advances F now a x₁ k₁ s₁ x₃ k₃ s₃ where
  fair := h'.fair
  started := fun hx => h'.started (h.started hx)
  seen := fun k hk => h'.seen k (h.seen k hk)
  lost := fun k hk => (h'.lost k (h.seen k hk)).trans (h.lost k hk)
  drain := fun look hl more =>
    (h.drain look (fun k hk hn => (hl k (h'.seen k hk) hn).of_lost (h'.lost k hk)) more).trans
      (h'.drain look (fun k hk hn => hl k hk (mt (h.seen k) hn)) more)

/-- A change of the cursors alone makes no difference to what a scan has come to. -/
theorem Advances.cursors {x₁ x₂ : Scan} {k₁ k₂ : List String} {s₁ s₂ : σ}
    (h : Advances F now a x₁ k₁ s₁ x₂ k₂ s₂) (f : List NodeCursor → List NodeCursor) :
    Advances F now a x₁ k₁ s₁
      { x₂ with progress := { x₂.progress with cursors := f x₂.progress.cursors } } k₂ s₂ :=
  ⟨⟨h.fair.rows, h.fair.lost⟩, h.started, h.seen, h.lost, h.drain⟩

/-- A scan ends with the aim reached or done, or it fails before that. -/
def Ends (F : Feed w p batch) (a : Scan.Aim) (r : Except EngineError Unit) (x : Scan) (done : Prop) : Prop :=
  r = .ok () ∧ (x.tally.reached a = true ∨ done) ∨
    F.Fails ∧ (∃ e, r = .error e) ∧ x.tally.reached a = false

theorem modify_middle {α : Type} (f : α → α) (pre post : List α) (y : α) :
    (pre ++ y :: post).modify pre.length f = pre ++ f y :: post := by
  induction pre with
  | nil => rfl
  | cons z pre ih => rw [List.cons_append, List.length_cons, List.modify_succ_cons, ih]; rfl

theorem take_rows (i : Nat) (rest : List String) : (x.take i rest key).rows = x.rows := by
  unfold Scan.take; simp only []; split <;> rfl

theorem take_started (i : Nat) (rest : List String) :
    (x.take i rest key).progress.started = x.progress.started := by
  unfold Scan.take; simp only []; split <;> rfl

theorem take_tally (i : Nat) (rest : List String) : (x.take i rest key).tally = x.tally := by
  unfold Scan.take; simp only []; split <;> rfl

theorem take_cursors (i : Nat) (rest : List String) :
    (x.take i rest key).progress.cursors =
      x.progress.cursors.modify i fun c => { c with pending := rest } := by
  unfold Scan.take; simp only []; split <;> rfl

theorem take_seen (i : Nat) (rest : List String) :
    (x.take i rest key).progress.seen =
      if x.progress.seen.contains key then x.progress.seen else key :: x.progress.seen := by
  unfold Scan.take Scan.modifyCursor; simp only []; split <;> rfl

/-- A key in front of others is looked at, unless it was seen before. -/
theorem take_feed (now : Int) (key : String) (rest : List String) (hs : F.Calm s) (hf : F.Fair x s)
    {pre post : List NodeCursor} {c : NodeCursor} (hx : x.progress.cursors = pre ++ c :: post)
    (hr : x.tally.reached a = false) : ∃ r x' s',
    (if (!x.progress.seen.contains key) = true then
        Scanning.outcome w (Scanning.attempt (Scan.process p now a key)) (x.take pre.length rest key) s
      else (.ok (.ok ()), x.take pre.length rest key, s)) = (.ok r, x', s') ∧ F.Calm s' ∧
      x'.progress.cursors = pre ++ { c with pending := rest } :: post ∧
      Advances F now a x (key :: rest) s x' rest s' ∧
      (∀ {n c m ks}, F.Offers s n c m ks → F.Offers s' n c m ks) ∧
      ∀ e, r = .error (.fatal e) → F.Fails ∧ x'.tally.reached a = false := by
  have hcur : (x.take pre.length rest key).progress.cursors = pre ++ { c with pending := rest } :: post := by
    rw [take_cursors, hx, modify_middle]
  cases hseen : x.progress.seen.contains key with
  | true =>
    have hsame : (x.take pre.length rest key).progress.seen = x.progress.seen := by
      rw [take_seen, if_pos hseen]
    refine ⟨.ok (), x.take pre.length rest key, s, rfl, hs, hcur,
      ⟨⟨?_, ?_⟩, ?_, ?_, fun _ _ => Iff.rfl, fun look _ more => ?_⟩, fun h => h, ?_⟩
    · unfold Scan.Fair; rw [hsame, take_rows]; exact hf.rows
    · rw [hsame]; exact hf.lost
    · exact (take_started ..).trans
    · rw [hsame]; exact fun _ h => h
    · rw [List.cons_append, fresh, if_pos hseen, hsame, take_tally]
    · rintro _ ⟨⟩
  | false =>
    have hmore : (x.take pre.length rest key).progress.seen = key :: x.progress.seen := by
      rw [take_seen, if_neg (by rw [hseen]; exact Bool.false_ne_true)]
    have hunseen : key ∉ x.progress.seen := by simpa using hseen
    have hnew : key ∉ (x.take pre.length rest key).rows.keys := by
      rw [take_rows]
      exact fun hk => hunseen (hf.rows key hk)
    obtain ⟨r, x', s', h1, h2, h3, h4, h5, h6⟩ := process_feed (F := F) now a hs hnew
    have hprog : ∀ {β : Type} (g : Progress → β),
        (∀ q n, g { q with accepted := n } = g q) →
          g x'.progress = g (x.take pre.length rest key).progress := fun g hg => by rw [h2, hg]
    have hs' : x'.progress.seen = key :: x.progress.seen :=
      (hprog Progress.seen fun _ _ => rfl).trans hmore
    have hold : ∀ k ∈ x.progress.seen, (F.Lost s' k ↔ F.Lost s k) := by
      intro k hk
      rcases h6 with ⟨h, -⟩ | ⟨-, h, -⟩
      · rw [h]
      · rw [h k, or_iff_left]
        rintro rfl
        exact hunseen hk
    -- What is found at the key is what any lookup of the kind finds there.
    have htally : ∀ look, F.Finds s' look key →
        x'.tally = ((accepted? look key).map (x.tally.gain p now a)).getD x.tally := by
      intro look hl
      rcases h6 with ⟨h, -, -, ht⟩ | ⟨-, h, ht⟩
      · rw [hl.2 (by rw [h]; exact mt (hf.lost key) hunseen), ht, take_tally]
      · rw [hl.1 ((h key).2 (.inr rfl)), ht, take_tally]
        rfl
    refine ⟨r, x', s', ?_, h4, ?_, ⟨⟨?_, ?_⟩, ?_, ?_, hold, fun look hl more => ?_⟩, h5, ?_⟩
    · rw [Bool.not_false, if_pos rfl, Scanning.outcome_attempt, h1]
    · exact (hprog Progress.cursors fun _ _ => rfl).trans hcur
    · intro k hk
      rw [hs']
      rcases h3 k hk with h | h
      · rw [take_rows] at h
        exact List.mem_cons_of_mem _ (hf.rows k h)
      · exact h ▸ List.mem_cons_self
    · intro k hk
      rw [hs']
      rcases h6 with ⟨h, -⟩ | ⟨-, h, -⟩
      · exact List.mem_cons_of_mem _ (hf.lost k (h ▸ hk))
      · rcases (h k).1 hk with hk | rfl
        · exact List.mem_cons_of_mem _ (hf.lost k hk)
        · exact List.mem_cons_self
    · exact ((hprog Progress.started fun _ _ => rfl).trans (take_started ..)).trans
    · rw [hs']; exact fun k hk => List.mem_cons_of_mem _ hk
    · rw [List.cons_append, fresh, if_neg (by rw [hseen]; exact Bool.false_ne_true), hs',
        htally look (hl key (hs' ▸ List.mem_cons_self) hunseen)]
      cases accepted? look key with
      | none => rfl
      | some c => exact Tally.drain_cons hr
    · rintro e rfl
      rcases h6 with ⟨-, h, -⟩ | ⟨hF, -, ht⟩
      · exact absurd rfl (h e)
      · exact ⟨hF, by rw [ht, take_tally]; exact hr⟩

/-- Looking at the pending keys of a node. -/
theorem consume_feed (now : Int) (a : Scan.Aim) (hs : F.Calm s) (hf : F.Fair x s) {keys : List String}
    {pre post : List NodeCursor} {c : NodeCursor} (hx : x.progress.cursors = pre ++ c :: post)
    (hk : c.pending = keys) : ∃ r rest x' s',
    Scanning.outcome w (Scan.consume p now a pre.length keys) x s = (r, x', s') ∧ F.Calm s' ∧
      x'.progress.cursors = pre ++ { c with pending := rest } :: post ∧
      Advances F now a x keys s x' rest s' ∧ F.Ends a r x' (rest = []) ∧
      ∀ {n c m ks}, F.Offers s n c m ks → F.Offers s' n c m ks := by
  induction keys generalizing x s c with
  | nil =>
    refine ⟨.ok (), [], x, s, rfl, hs, ?_, .refl hf rfl, .inl ⟨rfl, .inr rfl⟩, fun h => h⟩
    rw [hx, ← hk]
  | cons key rest ih =>
    unfold Scan.consume
    rw [Scanning.outcome_bind_ok Scanning.outcome_get, ← Scan.reached_tally]
    by_cases hr : x.tally.reached a = true
    · rw [if_pos hr]
      refine ⟨.ok (), key :: rest, x, s, rfl, hs, ?_, .refl hf rfl, .inl ⟨rfl, .inl hr⟩, fun h => h⟩
      rw [hx, ← hk]
    · rw [if_neg hr]
      obtain ⟨r, x₁, s₁, h1, h2, h3, h4, h5, h6⟩ :=
        take_feed now key rest hs hf hx (by simpa using hr)
      obtain ⟨r', rest', x₂, s₂, g1, g2, g3, g4, g5, g6⟩ := ih h2 h4.fair h3 rfl
      rw [Scanning.outcome_bind_ok Scanning.outcome_set]
      split at h1
      · next hnew =>
        rw [if_pos hnew, Scanning.outcome_bind_ok h1]
        match r, h6 with
        | .ok _, _ => exact ⟨r', rest', x₂, s₂, g1, g2, g3, h4.trans g4, g5, fun h => g6 (h5 h)⟩
        | .error (.skip _), _ => exact ⟨r', rest', x₂, s₂, g1, g2, g3, h4.trans g4, g5, fun h => g6 (h5 h)⟩
        | .error (.fatal e), h6 =>
          exact ⟨.error e, rest, x₁, s₁, rfl, h2, h3, h4, .inr ⟨(h6 e rfl).1, ⟨e, rfl⟩, (h6 e rfl).2⟩, h5⟩
      · next hold =>
        cases h1
        rw [if_neg hold]
        exact ⟨r', rest', x₂, s₂, g1, g2, g3, h4.trans g4, g5, fun h => g6 (h5 h)⟩

theorem Advances.append {x' : Scan} {ks ks' : List String} {s' : σ} (h : Advances F now a x ks s x' ks' s')
    (more : List String) : Advances F now a x (ks ++ more) s x' (ks' ++ more) s' :=
  ⟨h.fair, h.started, h.seen, h.lost, fun look hl l => by
    rw [List.append_assoc, List.append_assoc]
    exact h.drain look hl _⟩

/-- A node at a cursor has these keys to come, those on no more than `n` pages among them. -/
def Coming (F : Feed w p batch) (s : σ) (n : Nat) (c : NodeCursor) (ks : List String) : Prop :=
  (c.scanDone = true ∧ ks = c.pending) ∨
    (c.scanDone = false ∧ ∃ m rest, m ≤ n ∧ F.Offers s c.node c.cursor m rest ∧ ks = c.pending ++ rest)

theorem Coming.le {n m : Nat} {c : NodeCursor} {ks : List String} (h : F.Coming s n c ks) (hn : n ≤ m) :
    F.Coming s m c ks := by
  rcases h with h | ⟨h, k, rest, hk, h'⟩
  · exact .inl h
  · exact .inr ⟨h, k, rest, Nat.le_trans hk hn, h'⟩

theorem Coming.keep {s' : σ} {n : Nat} {c : NodeCursor} {ks : List String} (h : F.Coming s n c ks)
    (ho : ∀ {k m l}, F.Offers s c.node k m l → F.Offers s' c.node k m l) : F.Coming s' n c ks := by
  rcases h with h | ⟨h, k, rest, hk, h', he⟩
  · exact .inl h
  · exact .inr ⟨h, k, rest, hk, ho h', he⟩

theorem Coming.finished {n : Nat} {c : NodeCursor} {ks : List String} (h : F.Coming s n c ks)
    (hc : c.isFinished = true) : ks = [] := by
  simp only [NodeCursor.isFinished, Bool.and_eq_true, List.isEmpty_iff] at hc
  rcases h with ⟨-, h⟩ | ⟨h, -⟩
  · rw [h, hc.2]
  · rw [hc.1] at h; cases h

/-- Scanning one node: the scan ends with the aim reached or the node finished, or it fails. -/
theorem visit_feed (now : Int) (a : Scan.Aim) {st : Settings} (hb : st.scanBatch = batch) (patience : Nat) {n : Nat}
    (hn : n < patience) (hs : F.Calm s) (hf : F.Fair x s) {pre post : List NodeCursor} {c : NodeCursor}
    {ks : List String} (hx : x.progress.cursors = pre ++ c :: post) (hc : F.Coming s n c ks) :
    ∃ r ks' c' x' s',
      Scanning.outcome w (Scan.visit st p now a pre.length patience) x s = (r, x', s') ∧ F.Calm s' ∧
      x'.progress.cursors = pre ++ c' :: post ∧ c'.node = c.node ∧ F.Coming s' n c' ks' ∧
      Advances F now a x ks s x' ks' s' ∧ F.Ends a r x' (c'.isFinished = true) ∧
      ∀ {k c₀ m l}, k ≠ c.node → F.Offers s k c₀ m l → F.Offers s' k c₀ m l := by
  induction patience generalizing n x s c ks with
  | zero => omega
  | succ patience ih =>
    obtain ⟨r, rest, x₁, s₁, h1, h2, h3, h4, h5, h6⟩ := consume_feed now a hs hf hx rfl
    have hget : (x.progress.cursors[pre.length]?) = some c := by rw [hx]; simp
    have hget₁ : (x₁.progress.cursors[pre.length]?) = some { c with pending := rest } := by
      rw [h3]; simp
    -- What is to come if the scan stops here.
    have hstop : ∃ ks', F.Coming s₁ n { c with pending := rest } ks' ∧ Advances F now a x ks s x₁ ks' s₁ := by
      rcases hc with ⟨hd, rfl⟩ | ⟨hd, m, more, hm, ho, rfl⟩
      · exact ⟨rest, .inl ⟨hd, rfl⟩, h4⟩
      · exact ⟨rest ++ more, .inr ⟨hd, m, more, hm, h6 ho, rfl⟩, h4.append more⟩
    obtain ⟨ks₁, hcom₁, hadv₁⟩ := hstop
    unfold Scan.visit
    rw [Scanning.outcome_bind_ok Scanning.outcome_get, hget, Option.map_some, Option.getD_some]
    rcases h5 with ⟨rfl, h5⟩ | ⟨hF, ⟨e, rfl⟩, hr⟩
    rotate_left
    · exact ⟨.error e, ks₁, _, x₁, s₁, Scanning.outcome_bind_error h1, h2, h3, rfl, hcom₁, hadv₁,
        .inr ⟨hF, ⟨e, rfl⟩, hr⟩, fun _ h => h6 h⟩
    rw [Scanning.outcome_bind_ok h1, Scanning.outcome_bind_ok Scanning.outcome_get]
    simp only [← Scan.reached_tally]
    by_cases hr : x₁.tally.reached a = true
    · rw [if_pos hr]
      exact ⟨.ok (), ks₁, _, x₁, s₁, rfl, h2, h3, rfl, hcom₁, hadv₁, .inl ⟨rfl, .inl hr⟩, fun _ h => h6 h⟩
    · have hrest : rest = [] := h5.resolve_left hr
      subst hrest
      rw [if_neg hr, hget₁]
      rcases hc with ⟨hd, rfl⟩ | ⟨hd, m, more, hm, ho, rfl⟩
      · simp only [hd, ↓reduceIte]
        exact ⟨.ok (), [], _, x₁, s₁, rfl, h2, h3, rfl, .inl ⟨hd, rfl⟩, h4,
          .inl ⟨rfl, .inr (by simp [NodeCursor.isFinished, hd])⟩, fun _ h => h6 h⟩
      · obtain ⟨r, s₂, g1, g2, g3, g4, g5⟩ := F.page h2 (h6 ho)
        have hadv : Advances F now a x (c.pending ++ more) s x₁ more s₂ :=
          (h4.append more).trans (.refl (h4.append more).fair g3)
        have hpage : Scanning.outcome w
            (Scanning.ofEngine (liftM (Asking.scan c.node c.cursor p.pattern st.scanBatch))) x₁ s₁ =
            (r.mapError ClusterError.toEngine, x₁, s₂) := by
          rw [Scanning.outcome_ofEngine, Engine.outcome_liftM, hb, g1]
        simp only [hd, Bool.false_eq_true, ↓reduceIte]
        rcases g5 with ⟨page, more', rfl, rfl, g5⟩ | ⟨hF, ⟨e, rfl⟩, ho'⟩
        rotate_left
        · -- The page does not come: it can be asked for again.
          exact ⟨.error e.toEngine, more, _, x₁, s₂, Scanning.outcome_bind_error hpage, g2, h3, rfl,
            .inr ⟨hd, m, more, hm, ho', rfl⟩, hadv, .inr ⟨hF, ⟨_, rfl⟩, by simpa using hr⟩,
            fun hne h => g4 hne (h6 h)⟩
        -- The page is taken in; what it holds becomes pending.
        have hcur : (Scan.addPage pre.length page x₁).progress.cursors = pre ++
            { node := c.node, cursor := page.cursor, pending := page.keys
              scanDone := page.cursor == 0 } :: post := by
          unfold Scan.addPage Scan.modifyCursor
          simp only [h3, modify_middle, List.nil_append]
        have hnext : ∃ k, k < patience ∧ k ≤ n ∧ F.Coming s₂ k
            { node := c.node, cursor := page.cursor, pending := page.keys
              scanDone := page.cursor == 0 } (page.keys ++ more') := by
          rcases g5 with ⟨h0, rfl, hpos⟩ | ⟨h0, k, hk, ho'⟩
          · exact ⟨0, by omega, by omega, .inl ⟨by simp [h0], by simp⟩⟩
          · exact ⟨k, by omega, by omega, .inr ⟨by simp [h0], k, more', Nat.le_refl _, ho', rfl⟩⟩
        obtain ⟨k, hk, hkn, hcoming⟩ := hnext
        have hadded : Advances F now a x (c.pending ++ (page.keys ++ more')) s
            (Scan.addPage pre.length page x₁) (page.keys ++ more') s₂ := hadv.cursors _
        obtain ⟨r, ks', c', x', s', e1, e2, e3, e4, e5, e6, e7, e8⟩ := ih hk g2 hadded.fair hcur hcoming
        refine ⟨r, ks', c', x', s', ?_, e2, e3, e4, e5.le hkn, hadded.trans e6, e7,
          fun hne h => e8 hne (g4 hne (h6 h))⟩
        rw [Scanning.outcome_bind_ok hpage, Scanning.outcome_bind_ok (Scanning.outcome_modify _)]
        exact e1

/-- A scan that has reached its aim leaves a node alone. -/
theorem visit_of_reached {st : Settings} (patience i : Nat) (hr : x.tally.reached a = true) :
    Scanning.outcome w (Scan.visit st p now a i patience) x s = (.ok (), x, s) := by
  have hcons (ks : List String) : Scanning.outcome w (Scan.consume p now a i ks) x s = (.ok (), x, s) := by
    cases ks with
    | nil => rfl
    | cons key ks =>
      unfold Scan.consume
      rw [Scanning.outcome_bind_ok Scanning.outcome_get, ← Scan.reached_tally, if_pos hr]
      rfl
  cases patience with
  | zero => rfl
  | succ patience =>
    unfold Scan.visit
    rw [Scanning.outcome_bind_ok Scanning.outcome_get, Scanning.outcome_bind_ok (hcons _),
      Scanning.outcome_bind_ok Scanning.outcome_get]
    simp only [← Scan.reached_tally]
    rw [if_pos hr]
    rfl

/-! ## All nodes -/

/-- At these cursors the nodes have these keys to come, node by node. -/
def Remains (F : Feed w p batch) (s : σ) (n : Nat) (cursors : List NodeCursor) (ks : List String) : Prop :=
  ∃ flows : List (NodeCursor × List String), cursors = flows.map Prod.fst ∧
    ks = flows.flatMap Prod.snd ∧ ∀ f ∈ flows, F.Coming s n f.1 f.2

theorem visits_of_reached {st : Settings} (patience : Nat) (is : List Nat)
    (hr : x.tally.reached a = true) :
    Scanning.outcome w (is.forM fun i => Scan.visit st p now a i patience) x s = (.ok (), x, s) := by
  induction is with
  | nil => rfl
  | cons i is ih =>
    rw [List.forM_eq_forM, List.forM_cons, Scanning.outcome_bind_ok (visit_of_reached patience i hr)]
    exact ih

/-- Scanning the nodes from one on, those in front of it being finished. -/
theorem visits_feed (now : Int) (a : Scan.Aim) (pre : List NodeCursor) {st : Settings} (hb : st.scanBatch = batch) {patience n : Nat} (hn : n < patience)
    (hs : F.Calm s) (hf : F.Fair x s) {flows : List (NodeCursor × List String)}
    (hx : x.progress.cursors = pre ++ flows.map Prod.fst) (hc : ∀ f ∈ flows, F.Coming s n f.1 f.2)
    (hd : (flows.map fun f => f.1.node).Nodup) :
    ∃ (r : Except EngineError Unit) (flows' : List (NodeCursor × List String)) (x' : Scan) (s' : σ),
    Scanning.outcome w ((List.range' pre.length flows.length).forM fun i =>
        Scan.visit st p now a i patience) x s = (r, x', s') ∧ F.Calm s' ∧
      x'.progress.cursors = pre ++ flows'.map Prod.fst ∧
      (flows'.map fun f => f.1.node) = flows.map (fun f => f.1.node) ∧
      (∀ f ∈ flows', F.Coming s' n f.1 f.2) ∧
      Advances F now a x (flows.flatMap Prod.snd) s x' (flows'.flatMap Prod.snd) s' ∧
      F.Ends a r x' (∀ f ∈ flows', f.1.isFinished = true) := by
  induction flows generalizing x s pre with
  | nil => exact ⟨.ok (), [], x, s, rfl, hs, hx, rfl, hc, .refl hf rfl, .inl ⟨rfl, .inr (by simp)⟩⟩
  | cons f flows ih =>
    rw [List.map_cons, List.nodup_cons] at hd
    obtain ⟨r, ks₁, c₁, x₁, s₁, h1, h2, h3, h4, h5, h6, h7, h8⟩ :=
      visit_feed now a hb patience hn hs hf hx
        (hc f List.mem_cons_self)
    have hkeep : ∀ g ∈ flows, F.Coming s₁ n g.1 g.2 := fun g hg =>
      (hc g (List.mem_cons_of_mem _ hg)).keep fun ho =>
        h8 (fun he => hd.1 (he ▸ List.mem_map_of_mem (f := fun g => g.1.node) hg)) ho
    have hadv : Advances F now a x ((f :: flows).flatMap Prod.snd) s x₁ (ks₁ ++ flows.flatMap Prod.snd) s₁ :=
      h6.append _
    have hcom : ∀ g ∈ (c₁, ks₁) :: flows, F.Coming s₁ n g.1 g.2 := by
      rintro g (_ | ⟨_, hg⟩)
      · exact h5
      · exact hkeep g hg
    rw [List.length_cons, List.range'_succ, List.forM_eq_forM, List.forM_cons]
    rcases h7 with ⟨rfl, h7⟩ | ⟨hF, ⟨e, rfl⟩, hr⟩
    rotate_left
    · exact ⟨.error e, (c₁, ks₁) :: flows, x₁, s₁, Scanning.outcome_bind_error h1, h2, h3, by simp [h4], hcom,
        hadv, .inr ⟨hF, ⟨e, rfl⟩, hr⟩⟩
    rw [Scanning.outcome_bind_ok h1]
    by_cases hr : x₁.tally.reached a = true
    · exact ⟨.ok (), (c₁, ks₁) :: flows, x₁, s₁, visits_of_reached patience _ hr, h2, h3, by simp [h4], hcom, hadv,
        .inl ⟨rfl, .inl hr⟩⟩
    · have hfin : c₁.isFinished = true := h7.resolve_left hr
      have hnil : ks₁ = [] := h5.finished hfin
      subst hnil
      obtain ⟨r, flows', x', s', e1, e2, e3, e4, e5, e6, e7⟩ :=
        ih (pre ++ [c₁]) h2 h6.fair (by rw [h3]; simp) hkeep hd.2
      refine ⟨r, (c₁, []) :: flows', x', s', ?_, e2, ?_, ?_, ?_, hadv.trans e6, ?_⟩
      · rw [List.length_append] at e1; exact e1
      · rw [e3]; simp
      · simp [e4, h4]
      · rintro g (_ | ⟨_, hg⟩)
        · exact .inl ⟨(by simp only [NodeCursor.isFinished, Bool.and_eq_true] at hfin; exact hfin.1),
            (by simp only [NodeCursor.isFinished, Bool.and_eq_true, List.isEmpty_iff] at hfin; exact hfin.2.symm)⟩
        · exact e5 g hg
      · refine e7.imp (fun h => ⟨h.1, h.2.imp id fun h => ?_⟩) id
        rintro g (_ | ⟨_, hg⟩)
        · exact hfin
        · exact h g hg

/-- The cursors of a scan on the masters of an environment, begun if it had not begun. -/
def cursorsOf (v : ScanEnv) (x : Scan) : List NodeCursor := (Scan.start v.masters x).progress.cursors

/-- Beginning a scan makes no difference to what it has come to. -/
theorem Advances.of_start {masters : List Nat} {x' : Scan} {ks ks' : List String} {s' : σ}
    (h : Advances F now a (Scan.start masters x) ks s x' ks' s') : Advances F now a x ks s x' ks' s' := by
  unfold Scan.start at h
  split at h
  · exact h
  · exact ⟨h.fair, fun _ => h.started rfl, h.seen, h.lost, h.drain⟩

/-- A scan of all nodes: it ends with the aim reached or every node finished, or it fails, and it has made of
the keys to come what `drain` makes of the rows they stand for. -/
theorem scan_feed (a : Scan.Aim) {v : ScanEnv} (hb : v.settings.scanBatch = batch) {n : Nat} (hn : n < v.patience)
    (hs : F.Calm s) (hf : F.Fair x s) {ks : List String} (hr : F.Remains s n (cursorsOf v x) ks)
    (hd : ((cursorsOf v x).map NodeCursor.node).Nodup) : ∃ r ks' x' s',
    Scanning.outcome w (v.scan p a) x s = (r, x', s') ∧ F.Calm s' ∧
      cursorsOf v x' = x'.progress.cursors ∧ F.Remains s' n x'.progress.cursors ks' ∧
      (x'.progress.cursors.map NodeCursor.node) = (cursorsOf v x).map NodeCursor.node ∧
      Advances F v.now a x ks s x' ks' s' ∧
      F.Ends a r x' (x'.progress.isExhausted = true ∧ ks' = []) := by
  obtain ⟨flows, hcur, rfl, hcom⟩ := hr
  have hstarted : (Scan.start v.masters x).progress.started = true := by
    unfold Scan.start
    split
    · assumption
    · rfl
  have hfair : F.Fair (Scan.start v.masters x) s := by
    unfold Scan.start
    split <;> exact ⟨hf.rows, hf.lost⟩
  have hnodes : (flows.map fun f => f.1.node).Nodup := by
    rw [hcur, List.map_map] at hd; exact hd
  obtain ⟨r, flows', x', s', e1, e2, e3, e4, e5, e6, e7⟩ :=
    visits_feed v.now a [] hb hn hs hfair hcur hcom hnodes
  have hst : x'.progress.started = true := e6.started hstarted
  have hnode : (x'.progress.cursors.map NodeCursor.node) = (cursorsOf v x).map NodeCursor.node := by
    rw [e3, hcur, List.nil_append, List.map_map, List.map_map]; exact e4
  refine ⟨r, flows'.flatMap Prod.snd, x', s', ?_, e2, ?_, ⟨flows', e3, rfl, e5⟩, hnode, e6.of_start, ?_⟩
  · unfold ScanEnv.scan
    rw [Scanning.outcome_bind_ok (Scanning.outcome_modify _), Scanning.outcome_bind_ok Scanning.outcome_get]
    have hlen : (Scan.start v.masters x).progress.cursors.length = flows.length := by
      show (cursorsOf v x).length = _
      rw [hcur, List.length_map]
    simp only [hlen, List.range_eq_range']
    exact e1
  · unfold cursorsOf Scan.start
    rw [if_pos hst]
  · refine e7.imp (fun h => ⟨h.1, h.2.imp id fun h => ⟨?_, ?_⟩⟩) id
    · simp only [Progress.isExhausted, hst, Bool.true_and, e3, List.nil_append, List.all_eq_true,
        List.mem_map]
      rintro c ⟨f, hf', rfl⟩
      exact h f hf'
    · rw [List.flatMap_eq_nil_iff]
      exact fun f hf' => (e5 f hf').finished (h f hf')

end Feed
end SlotSql
