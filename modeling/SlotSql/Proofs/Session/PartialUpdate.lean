import SlotSql.Proofs.Rows.Targets
import SlotSql.Proofs.Session.Typed
/-!
# Assignments without a full key

A statement that assigns to rows may leave out columns of the row key. It means all rows whose keys have the parts that
it gives: each of them is assigned to once, and there is nothing else that changes. The values of the statement are put
into stored form, turned into conditions and compiled like those of a query; all this comes to the same rows, whatever
the types of the columns are and whichever of them are left out.

Results:
* `Assigned`: a store in which assignments have been carried out on some rows.
* `partial_update`: what a statement without a full key leaves behind and reports.
-/
namespace SlotSql

open Cluster Store Simulation Dialogue

variable {t : Table} {st : Settings} {d d' : Data} {keys : List String} {as : List PreparedAssignment}

/-- A store in which assignments have been carried out on some rows of a table. Each of these rows lies in it, with its
sets, as assignments to it alone would have left it; everything else is as it was, and there are no other rows. -/
structure Assigned (t : Table) (keys : List String) (as : List PreparedAssignment) (d d' : Data) : Prop where
  rows : ∀ key ∈ keys, ∃ d₁ pairs, Upsertion.Computed (rowImage d key) as pairs ∧
    Becomes t key (Upsertion.updated as pairs) d d₁ ∧ Upsertion.Reassigned key as d d₁ ∧
      ∀ j ∈ t.footprint key, d'.get? j = d₁.get? j
  others : ∀ j, (∀ key ∈ keys, j ∉ t.footprint key) → d'.get? j = d.get? j
  present : ∀ key, Key.parseRow? key ≠ none → d'.contains key = d.contains key

/-- A row that has been assigned to alone is there as before, and no row key is one of a set. -/
theorem assigned_of_touched (ht : t.Valid st) (hd : Typed st d) (hn : (as.map fun a => a.field.name).Nodup)
    (has : ∀ a ∈ as, Upsertion.Sound t a) (hkeys : ∀ key ∈ keys, d.contains key = true ∧ (t.parts? key).isSome = true)
    (htouched : ∀ key ∈ keys, Upsertion.Touched st t key as d d')
    (hframe : ∀ j, (∀ key ∈ keys, j ∉ t.footprint key) → d'.get? j = d.get? j) : Assigned t keys as d d' := by
  have hrow : ∀ key ∈ keys, ∃ d₁ pairs, Upsertion.Computed (rowImage d key) as pairs ∧
      Becomes t key (Upsertion.updated as pairs) d d₁ ∧ Upsertion.Reassigned key as d d₁ ∧
        ∀ j ∈ t.footprint key, d'.get? j = d₁.get? j := by
    intro key hkey
    obtain ⟨hc, hp⟩ := hkeys key hkey
    obtain ⟨d₁, pairs, hd₁, hpairs, hbecomes, hleft⟩ := htouched key hkey
    exact ⟨d₁, pairs, hpairs, hbecomes,
      Upsertion.reassigned_of_becomes ht hd hd₁ hp hc hn has hpairs hbecomes, hleft⟩
  refine ⟨hrow, hframe, fun key hparse => ?_⟩
  by_cases hmem : key ∈ keys
  · obtain ⟨d₁, -, -, -, hleft, hsame⟩ := hrow key hmem
    rw [contains_eq (hsame key List.mem_cons_self), hleft.present, (hkeys key hmem).1]
  · refine contains_eq (hframe key fun k hk hfoot => ?_)
    rcases List.mem_cons.1 hfoot with rfl | hset
    · exact hmem hk
    · obtain ⟨f, hf, rfl⟩ := List.mem_map.1 hset
      exact hparse (Key.parseRow?_set (Table.notMem_name (ht.setField hf).1 (by decide)))

namespace Session

variable {s s' : Session Simulation Link} {u : Upsertion} {e : Executed} {now : Int} {vs : List NewValue}
  {bs : List Assignment}

/-- **Assignments without a full key hit exactly their rows.** In a session that has carried out statements since it
began with an empty store, and whose nodes have cursors left, let a statement that assigns to rows succeed, and let it
leave out a column of the row key. Then the assignments have been carried out, once each, on the rows of the store whose
parts are the stored forms of the values that the statement gives for them; no other key has changed, and no row has
come about. The number of these rows is reported. They have been looked for with one pattern, which is the one that the
statement was prepared with. -/
theorem partial_update (h : Attained s) (hroom : s.HasRoom) (hsource : u.source = .values vs)
    (hdup : u.onDuplicate = .update bs) (hrun : (execute now (.upsert u)).run s = (.ok e, s'))
    (ht : ((table u.table).run s).1 = .ok t) (hopen : ∃ f ∈ t.keyFields, f.name ∉ u.columns) : ∃ d d' pu as keys,
    (∀ j, s.context.server.value? j = d.get? j) ∧ (∀ j, s'.context.server.value? j = d'.get? j) ∧
      u.prepare t now = .ok pu ∧ Upsertion.assignments t now [] bs = .ok as ∧ keys.Nodup ∧
      (∀ key, key ∈ keys ↔ d.contains key = true ∧ ∃ parts, t.parts? key = some parts ∧ u.Meets t now parts) ∧
      Assigned t keys as d d' ∧ e.result = .affected "updated" keys.length ∧
      ∀ v : ScanEnv, v.settings = s.settings → Asks (fun _ cmd => ∀ cursor pattern count,
        cmd = .scan cursor pattern count → pattern = pu.pattern) (fun _ => True) (Upsertion.targets v pu) := by
  obtain ⟨_, topo, d, hs, hd⟩ := h.over.ready
  obtain ⟨top, hs, hroom⟩ := hs.of_room hroom
  obtain ⟨-, -, -, hm⟩ := bounds hs.valid
  obtain ⟨t', pu, s₁, o, c', htable, hprep, hs₁, hsettings, hout, hresult, -, rfl⟩ := upsert_carried hs hrun
  have hfound : tableIn s.settings d u.table = .ok t := by
    obtain ⟨s₂, h1, -⟩ := table_run hs u.table
    rw [h1] at ht
    exact ht
  cases htable.symm.trans hfound
  obtain ⟨hvalid, hname⟩ := valid_of_tableIn htable
  have houtside := hd.outside (by omega) htable
  have hsound := Upsertion.prepare_sound hvalid hprep
  have hkey := Upsertion.key_eq_none hprep hsource hopen
  obtain ⟨as, has, hmode⟩ := Upsertion.mode_eq_update hprep hsource hdup
  have hserves := hs₁.serves
  have hfits := hs₁.fits now
  rw [hsettings] at hserves hfits
  have hplan : Upsertion.execute (s₁.env now) pu = (do
      let keys ← Upsertion.targets (s₁.env now) pu
      keys.forM fun key => Upsertion.updateRow key as
      return .updated keys.length : Engine UpsertOutcome) := by
    unfold Upsertion.execute
    rw [hmode, hkey]
  rw [hplan] at hout
  cases htargets : outcome Context.world (Upsertion.targets (s₁.env now) pu) s₁.context with
  | mk r c₁ =>
    cases r with
    | error e =>
      rw [outcome_bind_error htargets] at hout
      cases hout
    | ok keys =>
      rw [outcome_bind_ok htargets] at hout
      obtain ⟨hserves₁, hnodup, hmem, p, hp, hpattern⟩ := Upsertion.targets_exact hvalid
        (show (s₁.env now).settings = s.settings from hsettings) hprep hsource hfits hserves hroom htargets
      have hrows : ∀ key ∈ keys, d.contains key = true ∧ (t.parts? key).isSome = true := fun key hk => by
        obtain ⟨hc, parts, hparts, -⟩ := (hmem key).1 hk
        exact ⟨hc, by rw [hparts]; rfl⟩
      have hfields : ∀ a ∈ as, a.field ∈ t.fields := fun a ha => (hsound.mode as hmode a ha).field
      have hasks : Asks OnSlot (fun _ => True) (do
          keys.forM fun key => Upsertion.updateRow key as
          return .updated keys.length : Engine UpsertOutcome) :=
        (Asks.forM fun key _ => Upsertion.asks_updateRow (Table.rowCommands_onSlot t key) (hsound.mode as hmode)).bind
          fun _ _ => .pure trivial
      obtain ⟨c₂, h1, h2⟩ := outcome_serves hasks (fun _ _ hcmd => hcmd) hserves₁
      rw [hout] at h1
      obtain ⟨hr, rfl⟩ := Prod.mk.inj h1
      have hdistinct := (Upsertion.prepare_distinct hprep).mode as hmode
      have hyields := (Upsertion.yields_updates (m := s.settings.maxArgs) hvalid hdistinct hfields hnodup
        fun key hk => ⟨hs.valid, hvalid, houtside, (hrows key hk).2⟩).returning
        (b := UpsertOutcome.updated keys.length) (T := fun d b d' => b = .updated keys.length ∧
          (∀ key ∈ keys, Upsertion.Touched s.settings t key as d d') ∧
            ∀ j, (∀ key ∈ keys, j ∉ t.footprint key) → d'.get? j = d.get? j)
        fun _ _ _ _ _ hleft => ⟨rfl, hleft⟩
      obtain ⟨-, rfl, htouched, hframe⟩ := hyields d o _ hd (Prod.ext hr.symm rfl)
      refine ⟨d, _, pu, as, keys, hs.serves.holds, h2.holds, hprep, has, hnodup, hmem,
        assigned_of_touched hvalid hd hdistinct (hsound.mode as hmode) hrows htouched hframe, hresult, fun v hv => ?_⟩
      rw [← hpattern]
      exact Upsertion.asks_targets (by rw [hv, hsound.table]; exact hp)

/-! ## Stays of guests -/

/-- Stays of guests. -/
def stayDef : TableDef where
  table := ⟨"t", "stays"⟩
  ifNotExists := false
  columns := [⟨"guest", .ub4, none, none, false, none⟩, ⟨"nights", .ub8, none, none, false, none⟩,
    ⟨"tags", .set, none, none, false, none⟩]
  rowKey := ["guest"]
  comment := none

/-- The table of the stays. -/
def stayTable : Table := ⟨"t", "stays", stayDef.columns.map stayDef.field, 0, ""⟩

/-- The statement that writes a stay of one night. -/
def stay (guest : String) : Upsertion where
  table := stayDef.table
  columns := ["guest", "nights"]
  source := .values [.literal ⟨guest, false⟩, .literal ⟨"1", false⟩]
  onDuplicate := .overwrite

/-- The statement that prolongs the stays of all guests and marks them. -/
def longerStays : Upsertion where
  table := stayDef.table
  columns := ["nights"]
  source := .values [.literal ⟨"0", false⟩]
  onDuplicate := .update [⟨"nights", .add, .literal ⟨"3", false⟩⟩, ⟨"tags", .add, .literal ⟨"long", true⟩⟩]

/-- The session that has written the stays of two guests. -/
def staysWritten : Session Simulation Link :=
  [stay "1", stay "10"].foldl (fun s u => ((execute 0 (.upsert u)).run s).2)
    ((execute 0 (.create stayDef)).run (noteSession .empty)).2

theorem staysWritten_attained : Attained staysWritten :=
  .execute (.execute (.execute (.start (noteSession_ready .empty)) 0 rfl) 0 rfl) 0 rfl

/-- The table of the stays has the guest as its key, and the statement is carried out on two stays that are there. The
facts stand together because most of them need the session with both stays. -/
theorem longerStays_run : stayTable.keyFields.map Field.name = ["guest"] ∧
    stayTable.parts? "{t::stays:1}" = some ["1"] ∧ stayTable.parts? "{t::stays:10}" = some ["10"] ∧
    staysWritten.HasRoom ∧ ((table longerStays.table).run staysWritten).1 = .ok stayTable ∧
    (staysWritten.context.server.value? "{t::stays:1}").isSome = true ∧
    (staysWritten.context.server.value? "{t::stays:10}").isSome = true ∧
    ((execute 0 (.upsert longerStays)).run staysWritten).1.isOk = true ∧
    ((execute 0 (.upsert longerStays)).run staysWritten).1.toOption.map (fun e => match e.result with
      | .affected _ n => n
      | _ => 0) = some 2 := by
  unfold HasRoom
  decide +kernel

/-- All stays are meant, since the statement names no guest. -/
theorem longerStays_meets (guest : String) : longerStays.Meets stayTable 0 [guest] := by
  obtain ⟨f, hf, hname⟩ := List.map_eq_singleton_iff.1 longerStays_run.1
  refine ⟨_, rfl, ?_⟩
  rw [hf]
  refine .cons (fun v hv => ?_) .nil
  rw [hname] at hv
  simp [longerStays] at hv

/-- Both stays have been prolonged. -/
theorem partial_update_stays : ∃ e s' d d' as keys, (execute 0 (.upsert longerStays)).run staysWritten = (.ok e, s') ∧
    e.result = .affected "updated" 2 ∧ Assigned stayTable keys as d d' ∧
      "{t::stays:1}" ∈ keys ∧ "{t::stays:10}" ∈ keys := by
  obtain ⟨hkey, hpartsOne, hpartsTen, hroom, htable, hone, hten, hok, hcount⟩ := longerStays_run
  obtain ⟨e, hrun⟩ := run_of_isOk (execute 0 (.upsert longerStays)) staysWritten hok
  have hopen : ∃ f ∈ stayTable.keyFields, f.name ∉ longerStays.columns := by
    obtain ⟨f, hf, hname⟩ := List.map_eq_singleton_iff.1 hkey
    refine ⟨f, by rw [hf]; exact List.mem_cons_self, ?_⟩
    rw [hname]
    decide
  obtain ⟨d, d', pu, as, keys, hd, -, -, -, -, hmem, hleft, hresult, -⟩ := partial_update staysWritten_attained
    hroom rfl rfl hrun (t := stayTable) htable hopen
  rw [hrun] at hcount
  have hcount : (match e.result with
      | .affected _ n => n
      | _ => 0) = 2 := Option.some.inj hcount
  rw [hresult] at hcount
  have hlength : keys.length = 2 := hcount
  have hthere (guest key : String) (hkey : (staysWritten.context.server.value? key).isSome = true)
      (hparts : stayTable.parts? key = some [guest]) : key ∈ keys := by
    refine (hmem key).2 ⟨?_, _, hparts, longerStays_meets guest⟩
    rw [KeyMap.contains, ← hd]
    exact hkey
  exact ⟨e, _, d, d', as, keys, hrun, by rw [hresult, hlength], hleft, hthere "1" _ hone hpartsOne,
    hthere "10" _ hten hpartsTen⟩

end Session
end SlotSql
