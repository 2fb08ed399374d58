import Mathlib.Data.List.Permutation
import SlotSql.Proofs.Rows.Effect
import SlotSql.Proofs.Session.Accounted
import SlotSql.Proofs.Statement.Definition
/-!
# Tables that are defined and described

A definition goes through the text of a statement, the conditions on tables, a string of octets and a hash in the store
before it is read again. What is read is the table that was declared: the columns in their order with what was written
about them, and the columns of the row key in the order of their clause.

Results:
* `Valid.ordinals_perm`: the ordinals of a valid table count from one on.
* `declared_of_toTable`: what the table of a definition is.
* `created_described`: a table that was defined is described as it was declared.
-/
namespace SlotSql

open Cluster Store Simulation Dialogue

variable {st : Settings} {t : Table} {d : TableDef} {now : Int}

/-! ## Declarations -/

/-- A column as a definition declares it, with what goes without saying. -/
structure Field.Declared (d : TableDef) (c : ColumnDef) (f : Field) : Prop where
  name : f.name = c.name
  type : f.type = c.type
  length : f.length = c.length.getD c.type.defaultLength
  scale : f.scale = c.scale.getD 0
  nullable : f.nullable = true ↔ c.notNull = false ∧ c.name ∉ d.rowKey
  comment : f.comment = c.comment.getD ""

/-- A table as a definition declares it. -/
structure Table.Declared (d : TableDef) (now : Int) (t : Table) : Prop where
  name : t.tableName = d.table
  fields : d.columns.Forall₂ (Field.Declared d) t.fields
  key : t.keyFields.map Field.name = d.rowKey
  ordinals : t.keyFields.map Field.ordinal = List.range' 1 d.rowKey.length
  required : ∀ f ∈ t.keyFields, f.nullable = false
  created : t.created = now
  comment : t.comment = d.comment.getD ""

/-- A table whose names are names, each of its columns with its own, and whose ordinals count from one on. -/
structure Table.Shaped (t : Table) : Prop where
  tablespace : Token.isName t.tablespace.toList = true
  name : Token.isName t.name.toList = true
  fields : ∀ f ∈ t.fields, Token.isName f.name.toList = true
  unique : (t.fields.map Field.name).Nodup
  ordinals : ∃ k, 1 ≤ k ∧ ((t.fields.map Field.ordinal).filter (0 < ·)).Perm (List.range' 1 k)

namespace Table

theorem valid_of_validate (h : t.validate st = .ok ()) : t.Valid st := by
  unfold validate at h
  split at h
  · next hf => exact hf
  · cases h

/-- The ordinals of the row key, in key order. -/
theorem Valid.ordinals (h : t.Valid st) : t.keyFields.map Field.ordinal = List.range' 1 t.keyFields.length := by
  have hk := h.parts.2.2.2
  unfold keyFault? at hk
  simp only [] at hk
  split at hk
  · cases hk
  · split at hk
    · cases hk
    · next heq =>
      rw [not_not.1 heq, List.length_map, List.range'_eq_map_range]
      exact List.map_congr_left fun i _ => Nat.add_comm i 1

/-- The ordinals of a valid table count from one on. -/
theorem Valid.ordinals_perm (h : t.Valid st) :
    ((t.fields.map Field.ordinal).filter (0 < ·)).Perm (List.range' 1 t.keyFields.length) := by
  have hfilter : (t.fields.map Field.ordinal).filter (0 < ·) = (t.fields.filter Field.isKey).map Field.ordinal := by
    rw [List.filter_map]
    rfl
  rw [hfilter, ← h.ordinals]
  exact ((keyFields_perm t).map _).symm

theorem Valid.shaped (h : t.Valid st) : t.Shaped :=
  ⟨h.tablespace, h.name, fun _ hf => (h.field hf).1, h.names_nodup, _, List.length_pos_of_ne_nil h.keys_ne_nil,
    h.ordinals_perm⟩

end Table

namespace TableDef

/-- The names of a row key without a fault are those of columns, and none is named twice. -/
theorem keyFault?_eq_none {before names : List String} (h : d.keyFault? before names = none) :
    names.Nodup ∧ ∀ n ∈ names, n ∉ before ∧ ∃ c ∈ d.columns, c.name = n := by
  induction names generalizing before with
  | nil => simp
  | cons n names ih =>
    rw [keyFault?] at h
    split at h
    · cases h
    · next hb =>
      split at h
      · cases h
      · next hc =>
        obtain ⟨h1, h2⟩ := ih h
        have hcolumn : ∃ c ∈ d.columns, c.name = n := by simpa using hc
        refine ⟨List.nodup_cons.2 ⟨fun hn => (h2 n hn).1 List.mem_cons_self, h1⟩, fun x hx => ?_⟩
        rcases List.mem_cons.1 hx with rfl | hx
        · exact ⟨by simpa using hb, hcolumn⟩
        · exact ⟨fun hm => (h2 x hx).1 (List.mem_cons_of_mem _ hm), (h2 x hx).2⟩

/-- A column of the row key has its place there as its ordinal, counted from one on. -/
theorem ordinal_field {c : ColumnDef} {i : Nat} : (d.field c).ordinal = i + 1 ↔ d.rowKey.idxOf? c.name = some i := by
  show ((d.rowKey.idxOf? c.name).map (· + 1)).getD 0 = i + 1 ↔ _
  cases d.rowKey.idxOf? c.name <;> simp

/-- The other columns have none. -/
theorem ordinal_attribute {c : ColumnDef} : (d.field c).ordinal = 0 ↔ c.name ∉ d.rowKey := by
  rw [← List.idxOf?_eq_none_iff]
  show ((d.rowKey.idxOf? c.name).map (· + 1)).getD 0 = 0 ↔ _
  cases d.rowKey.idxOf? c.name <;> simp

theorem declared_field (d : TableDef) (c : ColumnDef) : (d.field c).Declared d c where
  name := rfl
  type := rfl
  length := rfl
  scale := rfl
  nullable := by
    rw [← ordinal_attribute]
    show (!c.notNull && (d.field c).ordinal == 0) = true ↔ _
    simp
  comment := rfl

end TableDef

/-- The table of a definition is as the definition declares it. -/
theorem declared_of_toTable (ht : t.Valid st) (h : d.toTable now = .ok t) : t.Declared d now := by
  obtain ⟨hkey, rfl⟩ := TableDef.toTable_eq_ok h
  obtain ⟨hnodup, hdefined⟩ := TableDef.keyFault?_eq_none hkey
  generalize ht' : (⟨d.table.tablespace, d.table.table, d.columns.map d.field, now, d.comment.getD ""⟩ : Table) = t at ht
  have hfields : t.fields = d.columns.map d.field := ht' ▸ rfl
  have hcolumn {f : Field} (hf : f ∈ t.keyFields) : ∃ c, d.field c = f ∧ 0 < f.ordinal := by
    obtain ⟨hin, hk⟩ := Table.mem_keyFields.1 hf
    rw [hfields] at hin
    obtain ⟨c, -, hc⟩ := List.mem_map.1 hin
    exact ⟨c, hc, of_decide_eq_true hk⟩
  -- The columns with an ordinal are those that the clause names, and their ordinals are their places in it.
  have hnames : (t.keyFields.map Field.name).Perm d.rowKey := by
    refine (List.perm_ext_iff_of_nodup ht.keys_nodup hnodup).2 fun n => ⟨fun hn => ?_, fun hn => ?_⟩
    · obtain ⟨f, hf, rfl⟩ := List.mem_map.1 hn
      obtain ⟨c, rfl, hpos⟩ := hcolumn hf
      by_contra hout
      exact Nat.ne_of_gt hpos (TableDef.ordinal_attribute.2 hout)
    · obtain ⟨-, c, hc, rfl⟩ := hdefined n hn
      refine List.mem_map.2 ⟨d.field c, Table.mem_keyFields.2 ⟨hfields ▸ List.mem_map_of_mem hc, ?_⟩, rfl⟩
      exact decide_eq_true (Nat.pos_of_ne_zero fun h0 => TableDef.ordinal_attribute.1 h0 hn)
  have hlen : t.keyFields.length = d.rowKey.length := by simpa using hnames.length_eq
  have hordinals := ht.ordinals
  have hplaces : t.keyFields.map Field.name = d.rowKey := by
    refine List.ext_getElem (by simpa using hlen) fun i h1 h2 => ?_
    rw [List.getElem_map]
    have hi : i < t.keyFields.length := by simpa using h1
    obtain ⟨c, hc, -⟩ := hcolumn (List.getElem_mem hi)
    have hord : (t.keyFields[i]).ordinal = i + 1 := by
      have hat := congrArg (·[i]?) hordinals
      simpa [hi, Nat.add_comm] using hat
    rw [← hc] at hord ⊢
    obtain ⟨_, hget, -⟩ := List.idxOf?_eq_some_iff.1 (TableDef.ordinal_field.1 hord)
    exact hget.symm
  subst ht'
  refine ⟨rfl, ?_, hplaces, hlen ▸ hordinals, fun f hf => ?_, rfl, rfl⟩
  · show d.columns.Forall₂ (Field.Declared d) (d.columns.map d.field)
    rw [List.forall₂_map_right_iff]
    exact List.forall₂_same.2 fun c _ => TableDef.declared_field d c
  · obtain ⟨c, rfl, hpos⟩ := hcolumn hf
    cases hnull : (d.field c).nullable with
    | false => rfl
    | true =>
      have := ((TableDef.declared_field d c).nullable.1 hnull).2
      exact absurd (TableDef.ordinal_attribute.2 this) (Nat.ne_of_gt hpos)

/-! ## Statements -/

/-- What a definition that was read holds can be stored. -/
theorem Session.storable_of_parse {text : String} (htext : (Utf8.bytes text).length < Number.max64)
    (hkey : d.rowKey.length ≤ Number.max32) (h : Parser.parse st text = .ok (.create d)) : Session.Storable d := by
  have hb := Parser.parse_create h
  exact ⟨hb.count.trans htext, hkey, fun c hc => (hb.names c hc).trans (Nat.le_of_lt htext), hb.lengths, hb.scales,
    fun c hc text ht => (hb.comments c hc text ht).trans (Nat.le_of_lt htext)⟩

/-- What a definition makes of a store: the entry of the table is written over a hash. -/
def Catalog.Writes (st : Settings) (t : Table) (data data' : Data) : Prop :=
  (∃ old, KeyCommand.hashAt data (Catalog.entryKey st t.tableName) = .ok old) ∧
    data' = ((KeyCommand.hset false (Catalog.entryKey st t.tableName) (Catalog.entry t)).run data).2

/-- A definition that succeeds has written the entry of a proper table. -/
theorem yields_create {m : Nat} (st : Settings) (t : Table) (ifNotExists : Bool) :
    Yields (Store.world m) (fun _ => True) (fun data _ data' => t.Valid st ∧ Catalog.Writes st t data data')
      (Catalog.create st t ifNotExists) := by
  have hstorable : Yields (Store.world m) (fun _ => True) (fun data _ data' => t.Valid st ∧ data' = data)
      (liftM (Catalog.storable st t) : Engine Unit) := .mk fun _ _ _ h => ⟨(storable_ok h).2, rfl⟩
  have hexists : Yields (Store.world m) (fun _ => True) (fun data _ data' => data' = data)
      (liftM (Asking.existsKey (Catalog.entryKey st t.tableName)) : Engine Bool) := by
    intro data b data' _ hrun
    obtain ⟨-, -, rfl⟩ := (reads_existsKey (Catalog.entryKey st t.tableName)).liftM.yields data b data' rfl hrun
    exact ⟨trivial, rfl⟩
  have hwrite : Yields (Store.world m) (fun _ => True) (fun data _ data' => Catalog.Writes st t data data')
      (liftM (Asking.hmset (Catalog.entryKey st t.tableName) (Catalog.entry t)) : Engine Unit) :=
    (Store.yields_hmset (List.cons_ne_nil _ _) fun _ _ => trivial).liftM
  unfold Catalog.create
  refine hstorable.bind fun _ => ?_
  split
  · refine (hexists.bind (T := fun data _ data' => Catalog.Writes st t data data') fun b => ?_).mono
      fun data' _ data'' _ _ h data _ hd => hd.2 ▸ ⟨hd.1, h⟩
    split
    · exact (Yields.throw (R := fun _ _ _ => False) _).bind fun _ =>
        hwrite.mono fun _ _ _ _ _ _ _ _ h _ _ _ => h.elim
    · exact hwrite.mono fun data' _ data'' _ _ h data _ hd => hd ▸ h
  · exact hwrite.mono fun data' _ data'' _ _ h data _ hd => hd.2 ▸ ⟨hd.1, h⟩

namespace Session

variable {s s' : Session Simulation Link} {top : Nat} {topo : Topology} {data : Data} {e : Executed}

/-- A definition that succeeds has stored the table. -/
theorem create_ok (hs : s.Ready top topo data) (hrun : (create now d).run s = (.ok e, s')) : ∃ t data',
    d.toTable now = .ok t ∧
      outcome (Store.world s.settings.maxArgs) (Catalog.create s.settings t d.ifNotExists) data = (.ok (), data') ∧
      s'.Ready top topo data' ∧ s'.settings = s.settings := by
  unfold create at hrun
  cases ht : d.toTable now with
  | error e =>
    rw [ht] at hrun
    cases hrun
  | ok t =>
    rw [ht] at hrun
    have hdefine : (ofExcept (.ok t) : SessionStep Simulation Link Table).run s = (.ok t, s) := rfl
    rw [step_bind_ok hdefine, step_bind_ok (step_get s)] at hrun
    obtain ⟨c', h1, h2⟩ := outcome_serves (asks_create_slot s.settings t d.ifNotExists) (fun _ _ h => h) hs.serves
    have hwork := work_run (Catalog.create s.settings t d.ifNotExists) s
    cases hout : outcome (Store.world s.settings.maxArgs) (Catalog.create s.settings t d.ifNotExists) data with
    | mk r data' =>
      rw [hout] at h1 h2
      rw [h1] at hwork
      cases r with
      | error e =>
        rw [step_bind_error hwork] at hrun
        cases hrun
      | ok _ =>
        rw [step_bind_ok hwork] at hrun
        cases hrun
        exact ⟨t, data', rfl, hout, ⟨hs.valid, hs.range, h2⟩, rfl⟩

/-- A table that was defined is described as it was declared. -/
theorem table_created (hs : s.Ready top topo data) {text : String} (htext : (Utf8.bytes text).length < Number.max64)
    (hkey : d.rowKey.length ≤ Number.max32) (hlo : (Number.signedRange 64).1 ≤ now) (hhi : now ≤ (Number.signedRange 64).2)
    (hparse : Parser.parse s.settings text = .ok (.create d)) (hrun : (run now text).run s = (.ok e, s')) :
    ∃ t, ((table d.table).run s').1 = .ok t ∧ t.Declared d now := by
  have hcreate : (create now d).run s = (.ok e, s') := by
    have hread : (run now text).run s = (execute now (.create d)).run s := by
      unfold run
      rw [step_bind_ok (step_get s), hparse]
    exact hread.symm.trans hrun
  obtain ⟨-, -, -, hm⟩ := bounds hs.valid
  obtain ⟨t, data', ht, hout, hnext, hsettings⟩ := create_ok hs hcreate
  obtain ⟨-, hvalid, ⟨old, hold⟩, rfl⟩ := yields_create s.settings t d.ifNotExists data _ data' trivial hout
  have hdeclared := declared_of_toTable hvalid ht
  obtain ⟨s₁, h3, -⟩ := table_run hnext d.table
  have hread := tableIn_defined (by omega) hvalid ((storable_of_parse htext hkey hparse).table ht) hold
  have hcreated : (Number.int64? (toString t.created)).getD 0 = t.created := by
    rw [hdeclared.created, Number.int64?_toString hlo hhi]
    rfl
  rw [hcreated] at hread
  refine ⟨t, ?_, hdeclared⟩
  rw [h3, ← hdeclared.name, hsettings]
  exact hread

/-- **What is defined is described.** If a session reads the text of a definition and carries it out, then the table of
its name has the columns of the text in their order, each with its type, its sizes, its comment and whether it can be
absent, or with what goes without saying; the columns of the row key in the order of their clause, numbered from one on
and never absent; and the comment and the time of the definition. The text has fewer octets and the clause has no more
names than numbers of 64 and of 32 bits can count. No table passes the conditions whose names are not proper and
different, or whose ordinals do not count from one on. -/
theorem created_described :
    (∀ (s : Session Simulation Link) (top : Nat) (topo : Topology) (data : Data) (now : Int) (text : String)
      (d : TableDef) (e : Executed), s.Ready top topo data → (Utf8.bytes text).length < Number.max64 →
      d.rowKey.length ≤ Number.max32 → (Number.signedRange 64).1 ≤ now → now ≤ (Number.signedRange 64).2 →
      Parser.parse s.settings text = .ok (.create d) → ((run now text).run s).1 = .ok e →
        ∃ t, ((table d.table).run ((run now text).run s).2).1 = .ok t ∧ t.Declared d now) ∧
    ∀ (t : Table) (st : Settings), t.validate st = .ok () → t.Shaped :=
  ⟨fun _ _ _ _ _ _ _ _ hs htext hkey hlo hhi hparse hrun =>
      table_created hs htext hkey hlo hhi hparse (Prod.ext hrun rfl),
    fun _ _ h => (Table.valid_of_validate h).shaped⟩

/-- A definition whose row key names the columns in another order than they are defined. -/
def ledgerText : String :=
  "CREATE TABLE bank.ledger (amount DEC(9, 2) NOT NULL, day DATE COMMENT 'booked, not (yet) paid', no UB4, tags SET, " ++
    "ROWKEY(no, day)) COMMENT 'the bank\x27\x27s book';"

def ledgerDef : TableDef where
  table := ⟨"bank", "ledger"⟩
  ifNotExists := false
  columns := [⟨"amount", .dec, some 9, some 2, true, none⟩,
    ⟨"day", .date, none, none, false, some "booked, not (yet) paid"⟩, ⟨"no", .ub4, none, none, false, none⟩,
    ⟨"tags", .set, none, none, false, none⟩]
  rowKey := ["no", "day"]
  comment := some "the bank's book"

theorem ledger_parse : Parser.parse (noteSession .empty).settings ledgerText = .ok (.create ledgerDef) := by
  decide +kernel

/-- The table of the ledger, defined at the time seven. -/
def ledgerTable : Table := ⟨"bank", "ledger", ledgerDef.columns.map ledgerDef.field, 7, "the bank's book"⟩

/-- The definition of the ledger is carried out on an empty store. -/
theorem ledger_created : ∃ e, ((run 7 ledgerText).run (noteSession .empty)).1 = .ok e := by
  have hread : (run 7 ledgerText).run (noteSession .empty) = (create 7 ledgerDef).run (noteSession .empty) := by
    unfold run
    rw [step_bind_ok (step_get _), ledger_parse]
    rfl
  have htable : (ofExcept (ledgerDef.toTable 7) : SessionStep Simulation Link Table).run (noteSession .empty) =
      (.ok ledgerTable, noteSession .empty) := by
    have h : ledgerDef.toTable 7 = .ok ledgerTable := by decide +kernel
    rw [h]
    rfl
  have hvalid : ledgerTable.fault? noteSettings = none := by
    have hkey : ledgerTable.keyFault? = none := by cbv
    unfold Table.fault?
    rw [hkey]
    decide +kernel
  have hstorable : Catalog.storable noteSettings ledgerTable = .ok () := by
    unfold Catalog.storable Table.validate
    rw [hvalid]
    decide +kernel
  have hcreate : outcome Context.world (Catalog.create noteSettings ledgerTable false) (noteSession .empty).context =
      outcome Context.world (liftM (Asking.hmset (Catalog.entryKey noteSettings ledgerTable.tableName)
        (Catalog.entry ledgerTable)) : Engine Unit) (noteSession .empty).context := by
    unfold Catalog.create
    rw [hstorable]
    rfl
  have hwrite : (outcome Context.world (liftM (Asking.hmset (Catalog.entryKey noteSettings ledgerTable.tableName)
      (Catalog.entry ledgerTable)) : Engine Unit) (noteSession .empty).context).1 = .ok () := by decide +kernel
  have hwork := work_run (Catalog.create noteSettings ledgerTable false) (noteSession .empty)
  rw [hcreate, hwrite] at hwork
  rw [hread]
  unfold create
  rw [step_bind_ok htable, step_bind_ok (step_get _)]
  exact ⟨_, congrArg Prod.fst (step_bind_ok (f := fun _ => pure _) hwork)⟩

/-- The ledger is described as it was declared, and the notes have the shape of a table. -/
theorem created_described_ledger :
    (∃ t, ((table ledgerDef.table).run ((run 7 ledgerText).run (noteSession .empty)).2).1 = .ok t ∧
      t.Declared ledgerDef 7) ∧ noteTable.Shaped := by
  obtain ⟨e, he⟩ := ledger_created
  exact ⟨created_described.1 _ _ _ _ 7 ledgerText ledgerDef e (noteSession_ready .empty) (by decide +kernel)
    (by decide +kernel) (by decide +kernel) (by decide +kernel) ledger_parse he,
    created_described.2 noteTable {} (by decide +kernel)⟩

end Session
end SlotSql
