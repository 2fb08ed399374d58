import SlotSql.Proofs.Rows.Failure
import SlotSql.Proofs.Session.Selection
/-!
# What a failing statement leaves behind

A session that is given a statement for one row finds the table, checks the statement and carries it out. Whatever
of this fails, nothing but the row is changed; and not even the row, unless a change of it stands in front of
what fails.

Results:
* `failed_upsert`: the store after a statement that fails.
-/
namespace SlotSql.Session

open Cluster Store Simulation Dialogue

variable {s : Session Simulation Link} {top : Nat} {topo : Topology} {d : Data} {t : Table} {st : Settings}

/-- A statement for one row that fails changes nothing but the row, and if it is guarded nothing at all. -/
theorem failed_upsert {u : Upsertion} {e : EngineError} {s' : Session Simulation Link} (now : Int)
    (hs : s.Ready top topo d) (ht : t.Valid st) (hw : t.Written d)
    (htable : tableIn s.settings d u.table = .ok t)
    (hbound : ∀ pu, u.prepare t now = .ok pu → pu.key.isSome = true)
    (hfail : (execute now (.upsert u)).run s = (.error e, s')) :
    ∃ d', s'.Ready top topo d' ∧
      (∀ k, (∀ pu key, u.prepare t now = .ok pu → pu.key = some key → k ∉ t.footprint key) →
        d'.get? k = d.get? k) ∧
      ((∀ pu, u.prepare t now = .ok pu → pu.Guarded s.settings.maxArgs d) → ∀ k, d'.get? k = d.get? k) := by
  obtain ⟨s₁, h1, h2, h3⟩ := table_run hs u.table
  rw [htable] at h1
  have hfail : (upsert now u).run s = (.error e, s') := hfail
  unfold upsert at hfail
  rw [step_bind_ok h1, step_bind_ok (step_get s₁)] at hfail
  cases hp : u.prepare t now with
  | error e' =>
    rw [hp] at hfail
    cases hfail
    exact ⟨d, h2, fun _ _ => rfl, fun _ _ => rfl⟩
  | ok pu =>
    obtain ⟨key, hkey⟩ := Option.isSome_iff_exists.1 (hbound pu hp)
    obtain ⟨r, c', d', g1, g2, g3, g4⟩ := Upsertion.execute_serves ht (Upsertion.prepare_sound ht hp) hkey
      (Upsertion.prepare_parts ht hp hkey) (hw.kept ht) (s₁.env now) h2.serves
    have hprep : (ofExcept (.ok pu) : SessionStep Simulation Link PreparedUpsertion).run s₁ =
      (.ok pu, s₁) := rfl
    have hwork := work_run (Upsertion.execute (s₁.env now) pu) s₁
    rw [g1] at hwork
    rw [hp, step_bind_ok hprep] at hfail
    cases r with
    | ok o =>
      rw [step_bind_ok hwork] at hfail
      cases o <;> cases hfail
    | error e' =>
      rw [step_bind_error hwork] at hfail
      cases hfail
      refine ⟨d', ⟨h2.valid, h2.range, g2⟩, fun k hk => g3 k (hk pu key rfl hkey), fun hg => ?_⟩
      exact g4 (h3 ▸ hg pu rfl) e rfl

/-! ## Counters with tags -/

deriving instance DecidableEq for PreparedUpsertion

/-- The number of a counter. -/
def counterId : Field := { name := "id", type := .ub4, length := 4, ordinal := 1, nullable := false }
/-- The hits of a counter. -/
def counterHits : Field := { name := "hits", type := .ub2, length := 2 }
/-- The tags of a counter. -/
def counterTags : Field := { name := "tags", type := .set, length := 20 }

/-- Counters with hits and tags. -/
def counterTable : Table := { tablespace := "t", name := "counters", fields := [counterId, counterHits, counterTags] }

/-- The store with the catalog entry of the counters only. -/
def counterCatalog : Data :=
  KeyMap.empty.insert (Catalog.entryKey noteSettings counterTable.tableName)
    (hashOf (Catalog.entry counterTable))

/-- The statement that writes a counter. -/
def counterUpsertion (onDuplicate : OnDuplicate) : Upsertion where
  table := counterTable.tableName
  columns := ["id", "hits", "tags"]
  source := .values [.literal ⟨"1", false⟩, .literal ⟨"65535", false⟩, .literal ⟨"a", true⟩]
  onDuplicate

/-- The store with a counter that cannot be raised. -/
def counterStore : Data :=
  (counterCatalog.insert (counterTable.rowKey ["1"]) (hashOf [("hits", Utf8.bytes "65535")])).insert
    (Key.set (counterTable.rowKey ["1"]) "tags") (.set (KeyMap.empty.insert "a" ()))

theorem counterStore_written : counterTable.Written counterStore := by
  have hvalid : counterTable.Valid noteSettings := by decide +kernel
  have hempty : counterTable.Written counterCatalog := by
    refine .fresh fun key ho => ?_
    have hne : key ≠ Catalog.entryKey noteSettings counterTable.tableName := by
      rintro rfl
      exact hvalid.not_owns (show Key.parseRow? _ = some ("kvsql.sys", "t", ["counters"]) by decide +kernel)
        (by decide) ho
    unfold counterCatalog
    rw [KeyMap.get?_insert, if_neg hne]
    rfl
  exact hempty.run hvalid (noteSession_ready _) (by decide +kernel) (u := counterUpsertion .overwrite)
    (by decide +kernel) 0 (by decide +kernel)

/-- The statement that raises the counter first and then adds a tag. -/
def counterRaise : Upsertion :=
  counterUpsertion (.update [⟨"hits", .add, .literal ⟨"1", false⟩⟩, ⟨"tags", .add, .literal ⟨"b", true⟩⟩])

/-- The statement when it is checked. -/
def counterPrepared : PreparedUpsertion where
  table := counterTable
  values := [(counterId, "1"), (counterHits, "65535"), (counterTags, "a")]
  bound := [("id", some "1")]
  key := some "{t::counters:1}"
  pattern := "{t::counters:1}"
  mode := .update [⟨counterHits, .add, "1"⟩, ⟨counterTags, .add, "b"⟩]

theorem counterPrepared_eq : counterRaise.prepare counterTable 0 = .ok counterPrepared := by decide +kernel

/-- The sum stands in front of the change of the set, so the statement is guarded. -/
theorem counterPrepared_guarded : counterPrepared.Guarded 252 counterStore where
  written _ := by decide +kernel
  updated as key hmode _ _ := by
    cases hmode
    refine ⟨by decide +kernel, by decide +kernel, fun _ => by decide +kernel⟩

/-- The counter cannot be raised, and the tag is not added. -/
theorem failed_upsert_counter : ∃ e s' d',
    (execute 0 (.upsert counterRaise)).run (noteSession counterStore) = (.error e, s') ∧
      s'.Ready 1 plainTopology d' ∧ ∀ k, d'.get? k = counterStore.get? k := by
  have hfails : ((execute 0 (.upsert counterRaise)).run (noteSession counterStore)).1.isOk = false := by
    decide +kernel
  have hprepared {pu : PreparedUpsertion} (h : counterRaise.prepare counterTable 0 = .ok pu) :
      pu = counterPrepared := Except.ok.inj (h.symm.trans counterPrepared_eq)
  cases hr : (execute 0 (.upsert counterRaise)).run (noteSession counterStore) with
  | mk r s' =>
    rw [hr] at hfails
    cases r with
    | ok _ => cases hfails
    | error e =>
      obtain ⟨d', h1, -, h2⟩ := failed_upsert 0 (noteSession_ready counterStore)
        (by decide +kernel : counterTable.Valid noteSettings) counterStore_written (by decide +kernel)
        (fun pu hpu => by rw [hprepared hpu]; rfl) hr
      exact ⟨e, s', d', rfl, h1, h2 fun pu hpu => hprepared hpu ▸ counterPrepared_guarded⟩

end SlotSql.Session
