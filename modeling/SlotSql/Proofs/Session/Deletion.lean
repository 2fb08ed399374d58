import SlotSql.Proofs.Rows.Deletion
import SlotSql.Proofs.Session.Selection
/-!
# Deletions of statements

A deletion finds the rows of its conditions page by page, in the order of an uninterrupted scan, and deletes
each page with the sets of its rows while the scan is under way.

Results:
* `delete_exact`: what a deletion removes, what it reports, and what it leaves alone.
-/
namespace SlotSql

open Cluster Store Simulation

variable {top : Nat} {topo : Topology} {d : Data} {t : Table} {p : Plan} {cs : List Condition}

theorem limited_map {α β : Type} (f : α → β) (limit : Option Nat) (ys : List α) :
    (limited limit ys).map f = limited limit (ys.map f) := by
  cases limit with
  | none => rfl
  | some l => exact List.map_take

namespace Session

variable {s : Session Simulation Link}

/-- **A deletion removes exactly what it selects.** Of the rows of its conditions, in the order in which an
uninterrupted scan finds them, it removes those behind the offset, as many as the limit asks for, each
with all its sets; it reports their number and leaves everything else alone. Each row lies in one slot
with its sets, so no command for it is refused. -/
theorem delete_exact (now : Int) {del : Deletion} (hs : s.Ready top topo d) (ht : t.Valid s.settings)
    (hw : t.Written d) (htable : tableIn s.settings d del.table = .ok t)
    (hp : Plan.ofConditions s.settings t del.selection.conditions = .ok p)
    (hm : 2 + p.plainNames.length ≤ s.settings.maxArgs) (hsets : 2 + t.setFields.length ≤ s.settings.maxArgs)
    (hroom : top + d.size ≤ Number.max64) : ∃ keys x s₁,
    (scanning ⟨{}, p.emptyRows⟩ ((s.env now).matchingKeys p)).run s = (.ok (keys, x), s₁) ∧ keys.Nodup ∧
      (∀ key ∈ keys, OneSlot (slotOf key) (t.footprint key)) ∧
      let gone := limited del.selection.limit (keys.drop (del.selection.offset.getD 0))
      ∃ e s' d', (execute now (.delete del)).run s = (.ok e, s') ∧
        e.result = .affected "deleted" gone.length ∧ s'.Ready (top + d.size) topo d' ∧
        ∀ key, d'.get? key = if key ∈ gone.flatMap t.footprint then none else d.get? key := by
  have hkept := hw.kept ht
  obtain ⟨fs, hf⟩ := Plan.for_of_build ht hp
  obtain ⟨houtputs, hcount⟩ := Plan.build_nil hp
  have hsees := sees_of_kept ht hf hm hkept
  obtain ⟨x, s₁, h1, -, -⟩ := matchingKeys_run now hs hroom houtputs hcount hsees
  have hrows : ∀ y ∈ accepted s.settings.maxArgs topo d p,
      (t.parts? y.key).isSome = true ∧ d.contains y.key = true := by
    intro y hy
    obtain ⟨hd, parts, hparts, -⟩ := parts_of_accepted ht hf hs.serves hy
    exact ⟨by rw [hparts]; rfl, hd⟩
  refine ⟨_, x, s₁, h1, accepted_nodup hs.serves, fun key hkey => ?_, ?_⟩
  · obtain ⟨y, hy, rfl⟩ := List.mem_map.1 hkey
    exact t.oneSlot_footprint ht (hrows y hy).1
  intro gone
  obtain ⟨s₂, g1, g2, g3⟩ := table_run hs del.table
  rw [htable] at g1
  have hplan : p.table = t := by
    obtain ⟨fs', -, h, -⟩ := Plan.build_eq_ok ht hp
    exact h
  have hmax : 0 < s₂.settings.limitMax := by
    have := bounds g2.valid
    omega
  have hfits := g2.fits now
  rw [g3] at hfits
  have hserves := g2.serves
  rw [g3] at hserves
  have hlen := length_accepted_le (p := p) hs.serves
  have hpatience : ((accepted s.settings.maxArgs topo d p).drop (del.selection.offset.getD 0)).length <
      (s₂.env now).patience + 1 := by
    have := hfits.patience
    rw [List.length_drop]
    omega
  obtain ⟨x', c', e1, e2⟩ := deletePages_toCome ht hf hplan houtputs hcount hsets hmax
    del.selection.limit 0 (ToCome.start p.emptyRows hfits hserves hroom hsees) (accepted_nodup hs.serves) hrows
    (Nat.zero_le (del.selection.offset.getD 0)) hpatience rfl
  have hgone : (limited (del.selection.limit.map (· - 0)) ((accepted s.settings.maxArgs topo d p).drop
      (del.selection.offset.getD 0 - 0))).map Candidate.key = gone := by
    have hid : del.selection.limit.map (· - 0) = del.selection.limit := by
      cases del.selection.limit <;> rfl
    rw [hid, Nat.sub_zero, limited_map, List.map_drop]
  have e1 : Scanning.outcome Context.world ((s₂.env now).delete p (del.selection.offset.getD 0)
      del.selection.limit) ⟨{}, p.emptyRows⟩ s₂.context = (.ok gone.length, x', c') := by
    rw [← hgone, ← Nat.zero_add (List.length _)]
    exact e1
  have hscan := scanning_run ⟨{}, p.emptyRows⟩
    ((s₂.env now).delete p (del.selection.offset.getD 0) del.selection.limit) s₂
  rw [e1] at hscan
  have hdelete : (execute now (.delete del)).run s = (do
      let deleted ← scanning ⟨{}, p.emptyRows⟩
        ((s₂.env now).delete p (del.selection.offset.getD 0) del.selection.limit)
      planned p deleted.2 (.affected "deleted" deleted.1)).run s₂ := by
    show (delete now del).run s = _
    unfold delete
    rw [step_bind_ok g1, step_bind_ok (step_get s₂)]
    simp only [g3, hp]
  refine ⟨⟨.affected "deleted" gone.length, if s₂.verbose then p.notes x'.progress else []⟩,
    { s₂ with context := c' }, without d (gone.flatMap t.footprint), ?_, rfl, ⟨g2.valid, g2.range, ?_⟩,
    fun key => get?_without d _ key⟩
  · rw [hdelete, step_bind_ok hscan]
    rfl
  · show Serves s₂.settings.maxArgs _ _ _ _
    rw [g3, ← hgone]
    exact e2

/-- The deletion of the second note. -/
def noteDeletion : Deletion where
  table := noteTable.tableName
  selection := ⟨[⟨"id", .ge, ⟨"1", false⟩⟩], some 1, some 1⟩

/-- The plan for the notes from the first one on. -/
def allNotesPlan : Plan :=
  (Plan.ofConditions noteSettings noteTable noteDeletion.selection.conditions).toOption.getD
    ⟨noteTable, [], [], [], "", none, false⟩

theorem allNotesPlan_eq :
    Plan.ofConditions noteSettings noteTable noteDeletion.selection.conditions = .ok allNotesPlan :=
  eq_ok_of_isOk (by decide +kernel) _

/-- Of three notes the second one is removed with its tags, and the others stay. -/
theorem delete_exact_notes : ∃ x s₁,
    (scanning ⟨{}, allNotesPlan.emptyRows⟩ (((noteSession noteStore).env 0).matchingKeys allNotesPlan)).run
        (noteSession noteStore) = (.ok (["{t::notes:1}", "{t::notes:2}", "{t::notes:3}"], x), s₁) ∧
      ∃ e s' d', (execute 0 (.delete noteDeletion)).run (noteSession noteStore) = (.ok e, s') ∧
        e.result = .affected "deleted" 1 ∧ s'.Ready 8 plainTopology d' ∧
        ∀ key, d'.get? key =
          if key ∈ ["{t::notes:2}", "{t::notes:2}$tags"] then none else noteStore.get? key := by
  obtain ⟨keys, x, s₁, h1, -, -, h2⟩ := @delete_exact _ _ _ _ _ _ 0 noteDeletion (noteSession_ready noteStore)
    (by decide +kernel : noteTable.Valid noteSettings) noteStore_written (by decide +kernel) allNotesPlan_eq
    (by decide +kernel) (by decide +kernel) (by decide +kernel)
  obtain ⟨fs, hf⟩ := Plan.for_of_build (by decide +kernel : noteTable.Valid noteSettings) allNotesPlan_eq
  obtain ⟨houtputs, hcount⟩ := Plan.build_nil allNotesPlan_eq
  obtain ⟨_, _, hfound, -, -⟩ := matchingKeys_run 0 (noteSession_ready noteStore) (by decide +kernel) houtputs
    hcount (sees_of_kept (by decide +kernel : noteTable.Valid noteSettings) hf (by decide +kernel)
      (noteStore_written.kept (by decide +kernel : noteTable.Valid noteSettings)))
  have hkeys : (accepted 252 plainTopology noteStore allNotesPlan).map Candidate.key =
      ["{t::notes:1}", "{t::notes:2}", "{t::notes:3}"] := by decide +kernel
  cases (hkeys.symm.trans (congrArg Prod.fst (Except.ok.inj (congrArg Prod.fst (hfound.symm.trans h1)))))
  have hsize : 1 + KeyMap.size noteStore = 8 := by decide +kernel
  have hgone : ["{t::notes:2}"].flatMap noteTable.footprint = ["{t::notes:2}", "{t::notes:2}$tags"] := by
    decide +kernel
  obtain ⟨e, s', d', g1, g2, g3, g4⟩ := h2
  exact ⟨x, s₁, h1, e, s', d', g1, g2, hsize ▸ g3, fun key => hgone ▸ g4 key⟩

end Session
end SlotSql
