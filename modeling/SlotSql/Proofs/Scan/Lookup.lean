import SlotSql.Proofs.Scan.Feed
/-!
# Looking at a key

To look at a key, a scan asks for the attributes of its row, and for nothing else. So what it comes to
depends on the answers to these commands only, and it never stops a scan unless a connection fails.

Results:
* `candidate?_fails`: which commands are asked, and that an error concerns the row only.
* `candidate_of_answers`: in a world that answers these commands as a fixed table of answers does,
  looking at a key comes to what it comes to with that table.
-/
namespace SlotSql

open Cluster Dialogue

/-- A command that reads plain attributes of the row of a key, or one of some sets. -/
def ReadsRow (sets : List String) (key : String) (t : Target) (c : Command) : Prop :=
  t = .active ∧
    ((∃ fields, fields ≠ [] ∧ c = .hmget key fields) ∨ ∃ field ∈ sets, c = .smembers (Key.set key field))

/-- The names of the sets that a plan reads. -/
def Plan.setNames (p : Plan) : List String :=
  (p.fetches.filter fun f => f.field.type.isSet).map fun f => f.field.name

/-- An answer that is no failure of the connection. -/
def Mild (r : Except ClusterError Reply) : Prop := ∀ e, r = .error e → e.isConnectionError = false

/-- An error that concerns one row only. -/
def RowError.Skips (e : RowError) : Prop := ∃ e', e = .skip e'

variable {key : String} {α : Type}

theorem Fails.ofAsking {P : Target → Command → Prop} {A : Except ClusterError Reply → Prop} {y : Asking α}
    (h : Fails P A (fun e => e.isConnectionError = false) y) :
    Fails P A RowError.Skips (liftM y : ExceptT RowError Dialogue α) := by
  refine Obeys.bind h fun r hr => ?_
  cases r with
  | ok a => rintro _ ⟨⟩
  | error e =>
    rintro _ ⟨⟩
    have he := hr e rfl
    exact ⟨e.toEngine, by rw [RowError.ofCluster, he]; rfl⟩

theorem Fails.ofVerdict {P : Target → Command → Prop} {A : Except ClusterError Reply → Prop} {ε : Type}
    {toEngine : ε → EngineError} (y : Except ε α) :
    Fails P A RowError.Skips (OnRow.ofExcept toEngine y) := by
  cases y with
  | ok a => exact .pure a
  | error e => exact .throw ⟨_, rfl⟩

section Asking

variable {P : Target → Command → Prop}

theorem Fails.toArray (name : String) (r : Reply) :
    Fails P Mild (fun e => e.isConnectionError = false) (liftM (r.toArray name) : Asking (List Reply)) := by
  cases r <;> rintro _ ⟨⟩ <;> rfl

theorem Fails.toText (name : String) (r : Reply) :
    Fails P Mild (fun e => e.isConnectionError = false) (liftM (r.toText? name) : Asking (Option String)) := by
  cases r <;> rintro _ ⟨⟩ <;> rfl

theorem Fails.mild_command {c : Command} (hc : P .active c) :
    Fails P Mild (fun e => e.isConnectionError = false) (Asking.command c) :=
  .command hc fun e h => h e rfl

theorem Fails.textItems (name : String) (items : List Reply) :
    Fails P Mild (fun e => e.isConnectionError = false) (Asking.textItems name items) :=
  (Fails.mapM fun r _ => Fails.toText name r).bind fun _ => .pure _

theorem Fails.fieldValue (r : Reply) :
    Fails P Mild (fun e => e.isConnectionError = false) (Asking.fieldValue r) := by
  cases r <;> rintro _ ⟨⟩ <;> rfl

theorem Fails.hmget {fields : List String} (hc : P .active (.hmget key fields)) :
    Fails P Mild (fun e => e.isConnectionError = false) (Asking.hmget key fields) := by
  refine (Fails.mild_command hc).bind fun r => (Fails.toArray _ r).bind fun items => ?_
  have hread : Fails P Mild (fun e => e.isConnectionError = false) (items.mapM Asking.fieldValue) :=
    .mapM fun r _ => Fails.fieldValue r
  refine .ite (Fails.bind ?_ fun _ => hread) hread
  exact Fails.throw (by rfl)

theorem Fails.smembers (hc : P .active (.smembers key)) :
    Fails P Mild (fun e => e.isConnectionError = false) (Asking.smembers key) :=
  (Fails.mild_command hc).bind fun r => (Fails.toArray _ r).bind fun items =>
    (Fails.textItems _ items).bind fun _ => .pure _

end Asking

/-- Reading the attributes of a row asks for them only. -/
theorem fetch_fails (p : Plan) (key : String) :
    Fails (ReadsRow p.setNames key) Mild (fun e => e.isConnectionError = false) (Scan.fetch p key) := by
  have hone (x : Fetched) {f : FetchFilter} (hf : f ∈ p.fetches) : Fails (ReadsRow p.setNames key) Mild
      (fun e => e.isConnectionError = false) (if f.field.type.isSet then do
          let members ← Asking.smembers (Key.set key f.field.name)
          return if members.isEmpty then Fetched.missing else .members members
        else return x) := by
    split
    · next hset =>
      have hmem : f.field.name ∈ p.setNames :=
        List.mem_map_of_mem (f := fun f : FetchFilter => f.field.name) (List.mem_filter.2 ⟨hf, hset⟩)
      exact (Fails.smembers ⟨rfl, .inr ⟨_, hmem, rfl⟩⟩).bind fun _ => .pure _
    · exact .pure _
  unfold Scan.fetch
  simp only []
  split
  · exact (Fails.pure _).bind fun _ => .mapM fun _ hf => hone _ hf
  · next hne =>
    exact (Fails.hmget ⟨rfl, .inl ⟨_, by simpa using hne, rfl⟩⟩).bind fun _ =>
      .mapM fun _ hf => hone _ hf

/-- Looking at a key asks for the attributes of its row only, and fails for this row only. -/
theorem candidate?_fails (p : Plan) (key : String) :
    Fails (ReadsRow p.setNames key) Mild RowError.Skips (Scan.candidate? p key) := by
  unfold Scan.candidate?
  split
  · refine .ite (.pure _) ((Fails.ofVerdict _).bind fun _ => .ite (.pure _) ?_)
    exact (Fails.ofAsking (fetch_fails p key)).bind fun _ =>
      (Fails.ofVerdict _).bind fun _ => .ite (.pure _) (.pure _)
  · exact .pure _

section Stops

theorem Stops.ofAsking {y : Asking α} (h : Stops y.run) : Stops (liftM y : ExceptT RowError Dialogue α).run :=
  Stops.bind_of h (fun e => ⟨.ofCluster e, rfl⟩) fun _ => trivial

theorem Stops.ofVerdict {ε : Type} {toEngine : ε → EngineError} (y : Except ε α) :
    Stops (OnRow.ofExcept toEngine y).run := by
  cases y <;> trivial

theorem Stops.liftExcept (y : Except ClusterError α) : Stops (liftM y : Asking α).run := by
  cases y <;> trivial

theorem Stops.hmget (key : String) (fields : List String) : Stops (Asking.hmget key fields).run := by
  have hread (items : List Reply) : Stops (items.mapM Asking.fieldValue).run :=
    .mapM fun r _ => by cases r <;> trivial
  refine (Stops.command _).bind fun r => (Stops.liftExcept _).bind fun items => ?_
  exact .ite (Stops.bind (.throw _) fun _ => hread items) (hread items)

theorem Stops.smembers (key : String) : Stops (Asking.smembers key).run :=
  (Stops.command _).bind fun _ => (Stops.liftExcept _).bind fun _ =>
    (Stops.bind (.mapM fun _ _ => Stops.liftExcept _) fun _ => .pure _).bind fun _ => .pure _

theorem fetch_stops (p : Plan) (key : String) : Stops (Scan.fetch p key).run := by
  have hone (x : Fetched) (f : FetchFilter) : Stops (if f.field.type.isSet then do
        let members ← Asking.smembers (Key.set key f.field.name)
        return if members.isEmpty then Fetched.missing else .members members
      else return x : Asking Fetched).run :=
    .ite ((Stops.smembers _).bind fun _ => .pure _) (.pure _)
  unfold Scan.fetch
  simp only []
  split
  · exact (Stops.pure _).bind fun _ => .mapM fun f _ => hone _ f
  · exact (Stops.hmget _ _).bind fun _ => .mapM fun f _ => hone _ f

/-- Looking at a key fails at once when a command fails. -/
theorem candidate?_stops (p : Plan) (key : String) : Stops (Scan.candidate? p key).run := by
  unfold Scan.candidate?
  split
  · refine .ite (.pure _) ((Stops.ofVerdict _).bind fun _ => .ite (.pure _) ?_)
    exact (Stops.ofAsking (fetch_stops p key)).bind fun _ =>
      (Stops.ofVerdict _).bind fun _ => .ite (.pure _) (.pure _)
  · exact .pure _

end Stops

/-- The world in which commands to the active node have fixed answers. -/
def fixedWorld (answers : Command → Except ClusterError Reply) : World Unit := fun _ c _ => (answers c, ())

/-- What looking at a key comes to with fixed answers. -/
def lookupIn (answers : Command → Except ClusterError Reply) (p : Plan) (key : String) :
    Except EngineError (Option Candidate) :=
  (outcome (fixedWorld answers) (Scan.candidate? p key) ()).1.mapError RowError.toEngine

theorem lookupIn_found {answers : Command → Except ClusterError Reply} {p : Plan} {c : Candidate}
    (h : lookupIn answers p key = .ok (some c)) : c.key = key := by
  unfold lookupIn at h
  cases ho : outcome (fixedWorld answers) (Scan.candidate? p key) () with
  | mk r u =>
    rw [ho] at h
    cases r with
    | ok y => cases h; exact Feed.candidate_key ho
    | error e => cases h

/-- In a world that answers questions about a row from a table, and keeps to what is so in `R`, looking
at its key comes to what it comes to with the table. -/
theorem candidate_of_answers {σ : Type} {w : World σ} {p : Plan} {R : σ → Prop} {s : σ}
    {answers : Command → Except ClusterError Reply}
    (hw : ∀ c s, ReadsRow p.setNames key .active c → R s →
      (w .active c s).1 = answers c ∧ R (w .active c s).2)
    (hm : ∀ c, ReadsRow p.setNames key .active c → Mild (answers c)) (hs : R s) : ∃ s',
    outcome w (Scan.candidate? p key) s = ((lookupIn answers p key).mapError .skip, s') ∧ R s' := by
  obtain ⟨h1, h2, h3⟩ := run_simulates w (fixedWorld answers) (A := Mild)
    (R := fun s _ => R s) (fun t c s₁ _ hc hs₁ => by
      obtain ⟨rfl, -⟩ := id hc
      obtain ⟨g1, g2⟩ := hw c s₁ hc hs₁
      exact ⟨g1, g1 ▸ hm c hc, g2⟩) (candidate?_fails p key) hs
  refine ⟨_, ?_, h3⟩
  show ((outcome w (Scan.candidate? p key) s).1, (outcome w (Scan.candidate? p key) s).2) = _
  refine Prod.ext ?_ rfl
  show (outcome w (Scan.candidate? p key) s).1 = _
  unfold lookupIn
  have h1' : (outcome w (Scan.candidate? p key) s).1 =
      (outcome (fixedWorld answers) (Scan.candidate? p key) ()).1 := h1
  rw [← h1']
  cases h : (outcome w (Scan.candidate? p key) s).1 with
  | ok c => rfl
  | error e =>
    obtain ⟨e', rfl⟩ := h2 e h
    rfl

/-- What looking at a key comes to depends on the answers about its row only. -/
theorem lookupIn_congr {a b : Command → Except ClusterError Reply} {p : Plan}
    (h : ∀ c, ReadsRow p.setNames key .active c → a c = b c)
    (hm : ∀ c, ReadsRow p.setNames key .active c → Mild (a c)) : lookupIn a p key = lookupIn b p key := by
  obtain ⟨h1, -⟩ := run_simulates (fixedWorld a) (fixedWorld b) (A := Mild) (R := fun _ _ => True)
    (fun t c _ _ hc _ => by
      obtain ⟨rfl, -⟩ := id hc
      exact ⟨h c hc, hm c hc, trivial⟩) (candidate?_fails p key) (s := ()) (r := ()) trivial
  unfold lookupIn
  exact congrArg (Except.mapError RowError.toEngine) h1

end SlotSql
