import SlotSql.Proofs.Rows.Owned
import SlotSql.Proofs.Session.Typed
/-!
# Dropping tables

A table is dropped by a scan for its rows, as it is described now. Rows with another number of parts, and sets of columns
that the table no longer has, can only be there if a definition has replaced the one under which they were written;
they stay. Nothing else of the table does.

Results:
* `drop_ok`: the store after a table was dropped.
* `drop_leaves`: which keys are gone then, and when nothing of the table is left.
-/
namespace SlotSql.Session

open Cluster Store Simulation Dialogue

variable {s s' : Session Simulation Link} {top : Nat} {topo : Topology} {d : Data} {e : Executed}

/-- A table that is dropped is one that can be described, and it is taken out of the store with its rows and sets. -/
theorem drop_ok {now : Int} {name : TableName} (hs : s.Ready top topo d) (hroom : top + d.size ≤ Number.max64)
    (h : (drop now name).run s = (.ok e, s')) : ∃ (t : Table) (keys : List String), tableIn s.settings d name = .ok t ∧
      (∀ key, key ∈ keys ↔ d.contains key = true ∧ (t.parts? key).isSome = true) ∧
      Hosts s.settings.maxArgs topo (without d (keys.flatMap t.footprint ++ [Catalog.entryKey s.settings name]))
        s'.context := by
  obtain ⟨-, -, -, hm⟩ := bounds hs.valid
  obtain ⟨s₁, h1, h2, h3⟩ := table_run hs name
  unfold drop at h
  cases htable : tableIn s.settings d name with
  | error x =>
    rw [htable] at h1
    rw [step_bind_error h1] at h
    cases h
  | ok t =>
    rw [htable] at h1
    rw [step_bind_ok h1, step_bind_ok (step_get s₁), h3] at h
    obtain ⟨hvalid, -⟩ := valid_of_tableIn htable
    split at h
    · cases h
    · next p hp =>
      have hscan := scanning_run ⟨{}, p.emptyRows⟩ ((s₁.env now).delete p 0 none) s₁
      rcases hrun : Scanning.outcome Context.world ((s₁.env now).delete p 0 none) ⟨{}, p.emptyRows⟩ s₁.context with
        ⟨r, x', c'⟩
      rw [hrun] at hscan
      cases r with
      | error x =>
        rw [step_bind_error hscan] at h
        cases h
      | ok n =>
        have hserves := h2.serves
        have hfits := h2.fits now
        rw [h3] at hserves hfits
        obtain ⟨keys, g1, g2⟩ := deleteAll_hosts hs.valid hvalid hp h3 hfits hserves hroom hrun
        have hdrop := drop_hosts (by omega) g2 s.settings name
        rw [without_append] at hdrop
        rw [step_bind_ok hscan, step_bind, work_run] at h
        refine ⟨t, keys, rfl, g1, ?_⟩
        split at h
        · next hwork =>
          obtain ⟨-, rfl⟩ := Prod.mk.inj hwork
          cases h
          exact hdrop
        · cases h

/-- What a table loses when it is dropped: its entry, and the rows that have as many parts as its row key has columns,
with the sets of its columns. -/
def Swept (t : Table) (s : Session Simulation Link) (key : String) : Prop :=
  key = Catalog.entryKey s.settings t.tableName ∨ ∃ row, (s.context.server.value? row).isSome = true ∧
    (t.parts? row).isSome = true ∧ key ∈ t.footprint row

/-- If no definition has replaced a table, it loses all that is there of it. -/
theorem Reached.swept {t : Table} {key : String} (h : Reached s) (ht : ((table t.tableName).run s).1 = .ok t)
    (hk : Owned s.settings t.tableName key) (hv : (s.context.server.value? key).isSome = true) : Swept t s key := by
  have hs := h.over
  obtain ⟨top, topo, d, hready, ha⟩ := hs.ready
  obtain ⟨-, -, -, hm⟩ := bounds hs.valid
  obtain ⟨_, h1, -⟩ := table_run hready t.tableName
  rw [h1] at ht
  have hlive := ha.live hs.valid (by omega) ht
  rw [hready.serves.holds] at hv
  refine (ha.owned hs.valid hlive hk hv).imp_right fun ⟨row, hd, hp, hmem⟩ => ⟨row, ?_, hp, hmem⟩
  rw [hready.serves.holds]
  exact hd

/-- **What is left of a table that was dropped.** After any statements but raw commands, if a table is dropped, its entry
is gone, with each row that has as many parts as the row key of the table has columns now, and each set of such a row
that lies in a column of the table now; everything else is as it was. So nothing of the table is left if none of the
definitions before has replaced one. -/
theorem drop_leaves (h : Attained s) (hroom : s.HasRoom) {now : Int} {name : TableName}
    (hrun : (drop now name).run s = (.ok e, s')) : ∃ t, ((table name).run s).1 = .ok t ∧ t.tableName = name ∧
      (∀ key, Swept t s key → s'.context.server.value? key = none) ∧
      (∀ key, ¬ Swept t s key → s'.context.server.value? key = s.context.server.value? key) ∧
      (Reached s → ∀ key, Owned s.settings name key → s'.context.server.value? key = none) := by
  obtain ⟨_, topo, d, hready, -⟩ := h.over.ready
  obtain ⟨top, hready, htop⟩ := hready.of_room hroom
  obtain ⟨-, -, -, hm⟩ := bounds hready.valid
  obtain ⟨t, keys, htable, hkeys, _, hserves⟩ := drop_ok hready htop hrun
  obtain ⟨hvalid, rfl⟩ := valid_of_tableIn htable
  have hbefore (key : String) : s.context.server.value? key = d.get? key := hready.serves.holds key
  have hgone (key : String) : key ∈ keys.flatMap t.footprint ++ [Catalog.entryKey s.settings t.tableName] ↔
      Swept t s key := by
    rw [List.mem_append, List.mem_singleton, List.mem_flatMap, or_comm]
    refine or_congr_right (exists_congr fun row => ?_)
    rw [hkeys, hbefore, and_assoc]
    rfl
  have hafter (key : String) (hk : Swept t s key) : s'.context.server.value? key = none := by
    rw [hserves.holds, get?_without, if_pos ((hgone key).2 hk)]
  have hdescribed : ((table t.tableName).run s).1 = .ok t := by
    obtain ⟨_, h1, -⟩ := table_run hready t.tableName
    rw [h1, htable]
  refine ⟨t, hdescribed, rfl, hafter, fun key hk => ?_, fun hr key hk => ?_⟩
  · rw [hserves.holds, get?_without, if_neg (mt (hgone key).1 hk), hbefore]
  · by_cases hswept : Swept t s key
    · exact hafter key hswept
    · have hnone := mt (hr.swept hdescribed hk) hswept
      rw [hserves.holds, get?_without, if_neg (mt (hgone key).1 hswept), ← hbefore]
      exact Option.not_isSome_iff_eq_none.1 hnone

/-- The definition of notes without text and tags, which replaces the notes. -/
def bareNoteDef : TableDef where
  table := noteTable.tableName
  ifNotExists := false
  columns := [⟨"id", .ub4, none, none, true, none⟩]
  rowKey := ["id"]
  comment := none

/-- The session that has written the first note and then replaced the table. -/
def replacedSession : Session Simulation Link := ((execute 0 (.create bareNoteDef)).run firstSession).2

/-- The table of these notes. -/
def bareNoteTable : Table := { noteTable with fields := noteTable.fields.take 1 }

/-- The set of its tags is left when the note is dropped under the new definition, but not if it is dropped under the
one under which it was written. -/
theorem drop_leaves_notes :
    (∃ e s', (drop 0 noteTable.tableName).run replacedSession = (.ok e, s') ∧
      s'.context.server.value? "{t::notes:7}" = none ∧
      (s'.context.server.value? "{t::notes:7}$tags").isSome = true) ∧
    ∃ e s', (drop 0 noteTable.tableName).run firstSession = (.ok e, s') ∧
      ∀ key, Owned firstSession.settings noteTable.tableName key → s'.context.server.value? key = none := by
  have hruns {s : Session Simulation Link} (h : ((drop 0 noteTable.tableName).run s).1.isOk = true) :
      ∃ e s', (drop 0 noteTable.tableName).run s = (.ok e, s') := by
    rcases hrun : (drop 0 noteTable.tableName).run s with ⟨_ | e, s'⟩
    · rw [hrun] at h
      cases h
    · exact ⟨e, s', rfl⟩
  have hfirst : ((drop 0 noteTable.tableName).run firstSession).1.isOk = true ∧ firstSession.HasRoom := by
    unfold HasRoom
    decide +kernel
  have hreplaced : (((drop 0 noteTable.tableName).run replacedSession).1.isOk = true ∧ replacedSession.HasRoom) ∧
      ((table noteTable.tableName).run replacedSession).1 = .ok bareNoteTable ∧
      (replacedSession.context.server.value? "{t::notes:7}").isSome = true ∧
      (replacedSession.context.server.value? "{t::notes:7}$tags").isSome = true ∧
      "{t::notes:7}$tags" ≠ Catalog.entryKey replacedSession.settings bareNoteTable.tableName := by
    unfold HasRoom
    decide +kernel
  obtain ⟨⟨hok, hroom⟩, htable, hrow, htags, hentry⟩ := hreplaced
  obtain ⟨e, s', h⟩ := hruns hok
  obtain ⟨e₁, s₁, h₁⟩ := hruns hfirst.1
  obtain ⟨t, ht, -, hgone, hkept, -⟩ :=
    drop_leaves (firstSession_attained.execute 0 (show IsCommand (.create bareNoteDef) = false from rfl)) hroom h
  obtain ⟨-, -, -, -, -, hnone⟩ := drop_leaves firstSession_attained hfirst.2 h₁
  obtain rfl : t = bareNoteTable := Except.ok.inj (ht.symm.trans htable)
  have hkey : (bareNoteTable.parts? "{t::notes:7}").isSome = true ∧ bareNoteTable.parts? "{t::notes:7}$tags" = none := by
    decide +kernel
  refine ⟨⟨e, s', h, hgone _ (.inr ⟨_, hrow, hkey.1, List.mem_cons_self⟩), ?_⟩, e₁, s₁, h₁, hnone firstSession_reached⟩
  rw [hkept]
  · exact htags
  · rintro (hswept | ⟨row, -, hp, hmem⟩)
    · exact hentry hswept
    · obtain rfl := List.mem_singleton.1 hmem
      rw [hkey.2] at hp
      cases hp

end SlotSql.Session
