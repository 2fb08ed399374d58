import SlotSql.Proofs.Rows.Deletion
import SlotSql.Proofs.Rows.Upsertion
/-!
# What scans ask

Whatever it is answered, a scan asks for pages with the pattern of its plan, for the key of the plan if there is only one,
and for the attributes of rows that the plan reads. Nothing is assumed of the cluster here, not even that it is one.

Results:
* `asks_candidate?`: what looking at one key asks for.
* `asks_advance`: what carrying a plan out asks for.
* `asks_next`, `asks_count`, `asks_matchingKeys`, `asks_delete`: and what is built on that.
-/
namespace SlotSql

open Cluster Dialogue

variable {P : Target → Command → Prop} {α β ε : Type} {p : Plan} {v : ScanEnv} {key : String}

/-! ## Rows -/

section Rows

variable {γ : Type} {Q : β → Prop}

theorem Asks.ofExcept (y : Except ε α) : Asks P (fun _ => True) (liftM y : ExceptT ε Dialogue α) := by
  cases y with
  | ok a => exact .pure trivial
  | error e => exact .throw e

theorem Asks.each {f : α → ExceptT ε Dialogue β} {as : List α} (h : ∀ a ∈ as, Asks P (fun _ => True) (f a)) :
    Asks P (fun _ => True) (as.mapM f) := by
  induction as with
  | nil =>
    rw [List.mapM_nil]
    exact .pure trivial
  | cons a as ih =>
    rw [List.mapM_cons]
    exact (h a List.mem_cons_self).bind fun _ _ => (ih fun b hb => h b (List.mem_cons_of_mem _ hb)).bind
      fun _ _ => .pure trivial

theorem asks_textItems (name : String) (items : List Reply) :
    Asks P (fun _ => True) (Asking.textItems name items) :=
  (Asks.each fun r _ => Asks.ofExcept (r.toText? name)).bind fun _ _ => .pure trivial

theorem asks_smembers (h : P .active (.smembers key)) : Asks P (fun _ => True) (Asking.smembers key) :=
  (Asks.command h).bind fun _ _ => (Asks.ofExcept _).bind fun _ _ => (asks_textItems _ _).bind
    fun _ _ => .pure trivial

theorem asks_scan {i cursor count : Nat} {pattern : String} (h : P (.node i) (.scan cursor pattern count)) :
    Asks P (fun _ => True) (Asking.scan i cursor pattern count) := by
  have hcommand : Asks P (fun _ => True) (Asking.commandOn i (.scan cursor pattern count)) :=
    ⟨h, fun _ _ _ _ => trivial⟩
  unfold Asking.scan
  refine hcommand.bind fun _ _ => (Asks.ofExcept _).bind fun items _ => ?_
  split
  · split
    · exact (Asks.ofExcept _).bind fun _ _ => (asks_textItems _ _).bind fun _ _ => .pure trivial
    · exact .throw _
  · exact .throw _

theorem OnRow.asks_liftM {y : Asking α} (h : Asks P (fun _ => True) y) :
    Asks P (fun _ => True) (liftM y : ExceptT RowError Dialogue α) := by
  refine Obeys.bind h fun r _ => ?_
  cases r <;> exact fun _ _ => trivial

theorem OnRow.asks_ofExcept (toEngine : ε → EngineError) (y : Except ε α) :
    Asks P (fun _ => True) (OnRow.ofExcept toEngine y) := by
  cases y with
  | ok a => exact .pure trivial
  | error e => exact .throw _

end Rows

/-- A kind of commands among which are those of a plan on a row: its plain attributes are read with one command, each of
its sets with one. -/
structure Plan.RowAsked (P : Target → Command → Prop) (p : Plan) (key : String) : Prop where
  hmget : p.plainNames ≠ [] → P .active (.hmget key p.plainNames)
  smembers : ∀ f ∈ p.fetches, f.field.type.isSet = true → P .active (.smembers (Key.set key f.field.name))

theorem asks_fetch (h : p.RowAsked P key) : Asks P (fun _ => True) (Scan.fetch p key) := by
  have hset {f : FetchFilter} (hf : f ∈ p.fetches) (hset : f.field.type.isSet = true) :
      Asks P (fun _ => True) (do
        let members ← Asking.smembers (Key.set key f.field.name)
        return if members.isEmpty then Fetched.missing else .members members : Asking Fetched) :=
    (asks_smembers (h.smembers f hf hset)).bind fun _ _ => .pure trivial
  unfold Scan.fetch
  simp only []
  split
  · refine (Asks.pure (Q := fun _ => True) trivial).bind fun _ _ => Asks.each fun f hf => ?_
    split
    · next hs => exact hset hf hs
    · exact .pure trivial
  · next hne =>
    refine (asks_hmget (h.hmget fun he => hne (List.isEmpty_iff.2 he))).bind fun _ _ => Asks.each fun f hf => ?_
    split
    · next hs => exact hset hf hs
    · exact .pure trivial

/-- Looking at a key asks for the attributes of its row. -/
theorem asks_candidate? (h : p.RowAsked P key) : Asks P (fun _ => True) (Scan.candidate? p key) := by
  have hnone : Asks P (fun _ => True) (pure none : OnRow (Option Candidate)) := .pure trivial
  unfold Scan.candidate?
  split
  · split
    · exact hnone
    · refine (OnRow.asks_ofExcept _ _).bind fun b _ => ?_
      split
      · exact hnone
      · refine (OnRow.asks_liftM (asks_fetch h)).bind fun _ _ => (OnRow.asks_ofExcept _ _).bind fun b _ => ?_
        split
        · exact hnone
        · exact .pure trivial
  · exact hnone

/-! ## Steps of a scan -/

/-- The steps of a scan ask such commands only, whatever is answered. -/
def Scanning.Asks (P : Target → Command → Prop) (act : ExceptT ε (StateT Scan Dialogue) α) : Prop :=
  ∀ x, (act.run.run x).Obeys P (fun _ => True) fun _ => True

namespace Scanning.Asks

variable {act : ExceptT ε (StateT Scan Dialogue) α} {f : α → ExceptT ε (StateT Scan Dialogue) β}

theorem pure (a : α) : Scanning.Asks P (Pure.pure a : ExceptT ε (StateT Scan Dialogue) α) := fun _ => trivial

theorem throw (e : ε) : Scanning.Asks P (MonadExcept.throw e : ExceptT ε (StateT Scan Dialogue) α) := fun _ => trivial

theorem get : Scanning.Asks P (MonadState.get : ExceptT ε (StateT Scan Dialogue) Scan) := fun _ => trivial

theorem set (x : Scan) : Scanning.Asks P (MonadStateOf.set x : ExceptT ε (StateT Scan Dialogue) PUnit) :=
  fun _ => trivial

theorem modify (f : Scan → Scan) : Scanning.Asks P (modify f : ExceptT ε (StateT Scan Dialogue) PUnit) :=
  fun _ => trivial

theorem mk (y : Except ε α) : Scanning.Asks P (ExceptT.mk (Pure.pure y) : ExceptT ε (StateT Scan Dialogue) α) :=
  fun _ => trivial

theorem bind (hx : Scanning.Asks P act) (hf : ∀ a, Scanning.Asks P (f a)) : Scanning.Asks P (act >>= f) := by
  intro x
  refine Obeys.bind (hx x) fun r _ => ?_
  obtain ⟨r, x'⟩ := r
  cases r with
  | ok a => exact hf a x'
  | error e => exact trivial

theorem lift {y : ExceptT ε Dialogue α} (h : Dialogue.Asks P (fun _ => True) y) :
    Scanning.Asks P (ExceptT.mk (StateT.lift y.run) : ExceptT ε (StateT Scan Dialogue) α) := fun _ =>
  Obeys.bind h fun _ _ => trivial

theorem ofEngine {y : Engine α} (h : Dialogue.Asks P (fun _ => True) y) : Scanning.Asks P (Scanning.ofEngine y) :=
  lift h

theorem attempt (h : Scanning.Asks P act) : Scanning.Asks P (Scanning.attempt act) := fun x =>
  Obeys.bind (h x) fun _ _ => trivial

theorem forM {g : β → ExceptT ε (StateT Scan Dialogue) PUnit} {bs : List β} (h : ∀ b, Scanning.Asks P (g b)) :
    Scanning.Asks P (bs.forM g) := by
  induction bs with
  | nil => exact .pure _
  | cons b bs ih => exact (h b).bind fun _ => ih

theorem onFreshRows {act : Scanning α} (rows : Rows) (h : Scanning.Asks P act) :
    Scanning.Asks P (ScanEnv.onFreshRows rows act) :=
  get.bind fun _ => (modify _).bind fun _ => h.attempt.bind fun r => get.bind fun _ => (modify _).bind fun _ =>
    (mk r).bind fun _ => .pure _

/-- The work that is done on its own, its progress forgotten. -/
theorem alone {act : Scanning α} (h : Scanning.Asks P act) (x : Scan) :
    Dialogue.Asks P (fun _ => True) (ExceptT.mk (Prod.fst <$> act.run.run x) : Engine α) := by
  show Obeys P _ _ (Prod.fst <$> act.run.run x)
  rw [map_eq_pure_bind]
  exact Obeys.bind (h x) fun _ _ _ _ => trivial

end Scanning.Asks

/-! ## Plans -/

/-- A kind of commands among which are those of a plan. -/
structure Plan.Asked (P : Target → Command → Prop) (v : ScanEnv) (p : Plan) : Prop where
  page : ∀ i cursor, P (.node i) (.scan cursor p.pattern v.settings.scanBatch)
  existsKey : ∀ key, p.directKey = some key → P .active (.existsKey key)
  row : ∀ key, p.RowAsked P key

section Plans

variable {a : Scan.Aim}

theorem asks_process (h : p.RowAsked P key) (now : Int) : Scanning.Asks P (Scan.process p now a key) := by
  unfold Scan.process
  refine (Scanning.Asks.lift (asks_candidate? h)).bind fun y => ?_
  split
  · exact .pure _
  · exact .bind .get fun _ => (Scanning.Asks.mk _).bind fun _ => .set _

theorem asks_consume (h : ∀ key, p.RowAsked P key) (now : Int) (i : Nat) (keys : List String) :
    Scanning.Asks P (Scan.consume p now a i keys) := by
  induction keys with
  | nil => exact .pure _
  | cons key rest ih =>
    unfold Scan.consume
    refine .bind .get fun x => ?_
    split
    · exact .pure _
    · refine (Scanning.Asks.set _).bind fun _ => ?_
      split
      · refine (asks_process (h key) now).attempt.bind fun r => ?_
        split
        · exact (Scanning.Asks.throw _).bind fun _ => ih
        · exact ih
      · exact ih

theorem asks_visit (h : p.Asked P v) (now : Int) (i n : Nat) :
    Scanning.Asks P (Scan.visit v.settings p now a i n) := by
  induction n with
  | zero => exact .pure _
  | succ n ih =>
    unfold Scan.visit
    refine .bind .get fun _ => (asks_consume h.row now i _).bind fun _ => .bind .get fun _ => ?_
    simp only []
    split
    · exact .pure _
    · split
      · exact .pure _
      · split
        · exact .pure _
        · exact (Scanning.Asks.ofEngine (Engine.asks_liftM (asks_scan (h.page _ _)))).bind fun _ =>
            (Scanning.Asks.modify _).bind fun _ => ih

/-- Carrying a plan out asks for pages of its pattern, or for its only key, and for attributes of rows. -/
theorem asks_advance (h : p.Asked P v) (a : Scan.Aim) : Scanning.Asks P (v.advance p a) := by
  unfold ScanEnv.advance
  split
  · unfold ScanEnv.lookup
    refine .bind .get fun _ => ?_
    split
    · exact .pure _
    · refine (Scanning.Asks.set _).bind fun _ => ?_
      split
      · exact .pure _
      · next key hkey =>
        refine (Scanning.Asks.ofEngine (Engine.asks_liftM (asks_existsKey (h.existsKey key hkey)))).bind fun b => ?_
        split
        · refine (asks_process (h.row key) v.now).attempt.bind fun r => ?_
          split
          · exact .throw _
          · exact .pure _
        · exact .pure _
  · unfold ScanEnv.scan
    exact (Scanning.Asks.modify _).bind fun _ => .bind .get fun _ => .forM fun i => asks_visit h v.now i _

theorem asks_next (h : p.Asked P v) (offset limit : Nat) : Scanning.Asks P (v.next p offset limit) :=
  .bind .get fun _ => (asks_advance h _).bind fun _ => .bind .get fun _ => .pure _

theorem asks_count (h : p.Asked P v) : Scanning.Asks P (v.count p) :=
  ((asks_advance h _).onFreshRows _).bind fun _ => .bind .get fun _ => .mk _

theorem asks_matchingKeys (h : p.Asked P v) : Scanning.Asks P (v.matchingKeys p) :=
  ((asks_advance h _).onFreshRows _).bind fun _ => .pure _

theorem asks_deleteKeys (h : ∀ key, P .active (.del (p.table.footprint key))) (keys : List String) :
    Asks P (fun _ => True) (ScanEnv.deleteRows p keys) := by
  induction keys with
  | nil => exact .pure trivial
  | cons key keys ih =>
    have hrow : Asks P (fun _ => True) (ScanEnv.deleteRow p key) :=
      (Engine.asks_liftM (asks_del (h key))).bind fun _ _ => .pure trivial
    exact hrow.bind fun _ _ => ih.bind fun _ _ => .pure trivial

/-- Deleting rows asks for their keys and those of their sets as well. -/
theorem asks_delete (h : p.Asked P v) (hdel : ∀ key, P .active (.del (p.table.footprint key))) (offset : Nat)
    (limit : Option Nat) : Scanning.Asks P (v.delete p offset limit) := by
  have hpages (n skip deleted : Nat) : Scanning.Asks P (v.deletePages p limit n skip deleted) := by
    induction n generalizing skip deleted with
    | zero => exact .pure _
    | succ n ih =>
      unfold ScanEnv.deletePages
      split
      · exact .pure _
      · refine ((asks_next h _ _).onFreshRows _).bind fun r => ?_
        refine (Scanning.Asks.ofEngine (asks_deleteKeys hdel _)).bind fun _ => ?_
        split
        · exact ih _ _
        · exact .pure _
  exact hpages _ _ _

end Plans
end SlotSql
