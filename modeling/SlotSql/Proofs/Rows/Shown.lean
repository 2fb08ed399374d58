import SlotSql.Proofs.Plan.Lookup
import SlotSql.Proofs.Rows.Typed
import SlotSql.Proofs.Text.Integer
/-!
# Rows that are shown

A row of a result has a cell for each column of the plan, and the cells of a column of the table hold what lies in the
row of the table. A plan for one row finds it whatever lies there, and shows it.

Results:
* `read_of_accepted`: what is read of a row that a plan accepts is what lies in it.
* `row?_cells`: the cells of a row of a result.
* `cell_eq`, `cell_present`: what is shown of a column, and that it is a value if the row has one.
* `display_ofStored`: a value in stored form is shown as it is stored.
* `shown_cell`: what is shown of a column, whatever its type.
* `accepted_row`, `row?_row`: what a plan for one row accepts and shows.
-/
namespace SlotSql

open Cluster Store Simulation Dialogue

variable {m top : Nat} {topo : Topology} {t : Table} {st : Settings} {d : Data} {key : String} {f : Field} {p : Plan}
  {cs : List Condition} {fs : Plan.Filters} {ctx : Context Simulation Link} {y : Candidate} {now : Int} {parts : List String}

/-- What is read of a row that a plan accepts is what lies in it. -/
theorem read_of_accepted (ht : t.Valid st) (hf : Plan.For t cs p fs) (hm : 2 ≤ m) (hc : Serves m top topo d ctx)
    (hd : Typed st d) (hy : y ∈ accepted m topo d p) :
    d.contains y.key = true ∧ (t.parts? y.key).isSome = true ∧ y.parts.length = t.keyCount ∧
      y.fetched = p.fetches.map fun g => fetchedOf d y.key g.field := by
  obtain ⟨hkey, parts, hparts, -⟩ := parts_of_accepted ht hf hc hy
  have hrow : (t.parts? y.key).isSome = true := by
    rw [hparts]
    rfl
  obtain ⟨key, -, hacc⟩ := List.mem_filterMap.1 hy
  obtain rfl := lookupIn_key hacc
  have hlook : lookupIn (answers m d) p y.key = .ok (some y) := by
    unfold accepted? at hacc
    split at hacc
    · next c hc =>
      rw [hc, hacc]
    · cases hacc
  have hclosed := Table.isClosed_row hrow
  obtain ⟨h, hh⟩ := hd.hashAt hclosed
  refine ⟨hkey, hrow, ?_, fetched_of_lookup hm hh (fun n hn => ?_) hlook⟩
  · obtain ⟨-, hl, -⟩ := lookupIn_eq_some hlook
    exact hl.trans hf.length_keys
  · obtain ⟨g, hg, rfl⟩ := List.mem_map.1 (hf.setNames n hn)
    exact hd.setOrNone (Table.isSet_set ht hg hclosed)

/-- A row keeps its cells if it has the right number of them. -/
theorem RowOf.resize_self {γ : Type} (r : RowOf γ) : r.resize r.cells.length = r := by
  cases r
  simp [RowOf.resize]

/-- The cells of a row of a result, one for each column. -/
theorem Plan.row?_cells {row : Row} (h : p.row? now p.emptyRows.width y = some row) :
    p.outputs.Forall₂ (fun o x => Scan.cell now y o = .ok x) row.cells := by
  unfold Plan.row? at h
  split at h
  · cases h
  · next cells hcells =>
    have hall := mapM_eq_ok.1 hcells
    cases h
    have hwidth : p.emptyRows.width = cells.length := (List.length_map ..).trans hall.length_eq
    rw [hwidth, RowOf.resize_self ⟨y.key, cells⟩]
    exact hall

/-! ## Cells -/

/-- What a result shows of what was read of an attribute. -/
def Fetched.cell (type : ValueType) : Fetched → Option Cell
  | .missing => none
  | .value b => some (Cell.ofStored type b)
  | .members ms => some (.text (",".intercalate ms))

/-- What a result shows of a column of a row. -/
def Table.cell (t : Table) (d : Data) (key : String) (parts : List String) (f : Field) : Option Cell :=
  if f.isKey then (t.partOf parts f).map fun x => Cell.ofStored f.type (Utf8.bytes x) else (fetchedOf d key f).cell f.type

/-- The part for a column stands at the place of the column. -/
theorem partOf_of_place (ht : t.Valid st) (hp : parts.length = t.keyCount) {i : Nat} (hi : t.keyFields[i]? = some f) :
    ∃ x, parts[i]? = some x ∧ t.partOf parts f = some x := by
  obtain ⟨hlt, rfl⟩ := List.getElem?_eq_some_iff.1 hi
  have hlt' : i < parts.length := hp.symm ▸ hlt
  refine ⟨parts[i], List.getElem?_eq_getElem hlt', lookup_zip ht.keys_nodup ?_⟩
  refine List.mem_of_getElem? (i := i) ?_
  rw [List.getElem?_zip_eq_some, List.getElem?_map, hi]
  exact ⟨rfl, List.getElem?_eq_getElem hlt'⟩

/-- What is shown of a column is what lies in the row. -/
theorem cell_eq (ht : t.Valid st) (hf : Plan.For t cs p fs) {source : Source}
    (hs : (Output.field f source).Sourced t.keyFields (p.fetches.map FetchFilter.field))
    (hparts : y.parts.length = t.keyCount) (hread : y.fetched = p.fetches.map fun g => fetchedOf d y.key g.field) :
    Scan.cell now y (.field f source) = .ok (t.cell d y.key y.parts f) := by
  cases source with
  | key i =>
    have hi : t.keyFields[i]? = some f := hs
    obtain ⟨-, hkey⟩ := Table.mem_keyFields.1 (List.mem_of_getElem? hi)
    obtain ⟨x, hx, hpart⟩ := partOf_of_place ht hparts hi
    unfold Scan.cell Table.cell
    simp only [hx, hpart, if_pos hkey]
  | fetch i =>
    have hplace : (p.fetches.map FetchFilter.field)[i]? = some f := hs
    rw [List.getElem?_map] at hplace
    obtain ⟨g, hg, rfl⟩ := Option.map_eq_some_iff.1 hplace
    have hattr : g.field.isKey = false := (hf.covers.fetched g (hf.fetches ▸ List.mem_of_getElem? hg)).2
    have hcell : y.fetched[i]? = some (fetchedOf d y.key g.field) := by
      rw [hread, List.getElem?_map, hg]
      rfl
    unfold Scan.cell Table.cell
    rw [if_neg (by rw [hattr]; exact Bool.false_ne_true)]
    simp only [hcell]
    cases fetchedOf d y.key g.field <;> rfl

/-- A column in which a row has a value is shown with one. -/
theorem cell_present (ht : t.Valid st) (hp : parts.length = t.keyCount) (hf : f ∈ t.fields)
    (hpresent : f.isKey = false → fetchedOf d key f ≠ .missing) : ∃ x, t.cell d key parts f = some x := by
  unfold Table.cell
  split
  · next hkey =>
    obtain ⟨i, hi, rfl⟩ := List.mem_iff_getElem.1 (Table.mem_keyFields.2 ⟨hf, hkey⟩)
    obtain ⟨x, -, hx⟩ := partOf_of_place ht hp (List.getElem?_eq_getElem hi)
    exact ⟨_, by rw [hx]; rfl⟩
  · next hattr =>
    cases hv : fetchedOf d key f with
    | missing => exact absurd hv (hpresent (by simpa using hattr))
    | value b => exact ⟨_, rfl⟩
    | members ms => exact ⟨_, rfl⟩

/-- A value in stored form is shown as it is stored, unless it is a double or a blob. -/
theorem display_ofStored {x : String} (h : f.Holds x) (hd : f.type ≠ .flt64) (hb : f.type ≠ .blob) :
    (Cell.ofStored f.type (Utf8.bytes x)).display = x := by
  have hfloat : f.type.isFloat = false := by
    rw [ValueType.isFloat, beq_eq_false_iff_ne]
    exact hd
  unfold Cell.ofStored
  rw [if_neg hb, Utf8.decode?_bytes]
  simp only [hfloat, Bool.false_eq_true, ↓reduceIte]
  split
  · next hi =>
    obtain ⟨hint, hhex⟩ := (Bool.and_eq_true _ _).mp hi
    obtain ⟨n, -, hx⟩ := stored_integer hint (h.2 hd)
    have hx : x = toString n := by
      rw [hx, Evaluation.integerText, if_neg (by simpa using hhex)]
    -- If the number is read at all, it is the one that was written.
    cases hread : Number.int64? x with
    | none => rfl
    | some m =>
      have hm := (Option.filter_eq_some_iff.1 hread).1
      rw [hx, Number.signed?_toString] at hm
      cases hm
      exact hx.symm
  · rfl

/-- The members of a set are in order. -/
theorem Store.membersOf_sorted (d : Data) (key n : String) : (membersOf d key n).Pairwise (· < ·) := by
  unfold membersOf
  split
  · exact KeyMap.keys_sorted _
  · exact .nil

/-- What a result shows of a column of a row. A part of the key is shown as it stands, and so is a text in stored form;
but a double is shown as the number that the text writes, and a blob as its octets. Of a set the members are shown in
their order, with commas between them. What is not there is not shown. -/
structure Table.Shown (t : Table) (d : Data) (key : String) (parts : List String) (f : Field) (c : Option Cell) : Prop where
  part : f.isKey = true → ∃ x cell, t.partOf parts f = some x ∧ c = some cell ∧ cell.display = x
  absent : f.isPlain = true → plainOf d key f.name = none → c = none
  text : f.isPlain = true → f.type ≠ .flt64 → f.type ≠ .blob → ∀ x, f.Holds x →
    plainOf d key f.name = some (Utf8.bytes x) → ∃ cell, c = some cell ∧ cell.display = x
  double : f.isPlain = true → f.type = .flt64 → ∀ x y, Number.double? x = some y →
    plainOf d key f.name = some (Utf8.bytes x) → c = some (.double y)
  blob : f.isPlain = true → f.type = .blob → ∀ b, plainOf d key f.name = some b → c = some (.binary b)
  set : f.type.isSet = true → (membersOf d key f.name).Pairwise (· < ·) ∧ c =
    if membersOf d key f.name = [] then none else some (.text (",".intercalate (membersOf d key f.name)))

theorem shown_cell (ht : t.Valid st) (hparts : t.keyFields.Forall₂ (fun f x => ∃ v, f.normalize v = .ok x) parts)
    (hf : f ∈ t.fields) : t.Shown d key parts f (t.cell d key parts f) := by
  have hplain (hp : f.isPlain = true) : t.cell d key parts f = (plainOf d key f.name).map (Cell.ofStored f.type) := by
    obtain ⟨hattr, hset⟩ := (Bool.and_eq_true _ _).mp (show (!f.isKey && !f.type.isSet) = true from hp)
    unfold Table.cell fetchedOf
    rw [if_neg (by simpa using hattr), if_neg (by simpa using hset)]
    cases plainOf d key f.name <;> rfl
  have hstored (hp : f.isPlain = true) {b : Bytes} (hb : plainOf d key f.name = some b) :
      t.cell d key parts f = some (Cell.ofStored f.type b) := by
    rw [hplain hp, hb]
    rfl
  refine ⟨fun hkey => ?_, fun hp hnone => ?_, fun hp hd hb x hx hstore => ?_, fun hp hd x y hy hstore => ?_,
    fun hp hb b hstore => ?_, fun hset => ⟨membersOf_sorted d key f.name, ?_⟩⟩
  · obtain ⟨i, hi, rfl⟩ := List.mem_iff_getElem.1 (Table.mem_keyFields.2 ⟨hf, hkey⟩)
    obtain ⟨x, hx, hpart⟩ := partOf_of_place ht hparts.length_eq.symm (List.getElem?_eq_getElem hi)
    obtain ⟨hi', hget⟩ := List.getElem?_eq_some_iff.1 hx
    obtain ⟨v, hv⟩ := hparts.get hi hi'
    have hty := ht.keyType hf hkey
    have hne : (t.keyFields[i]).type ≠ .flt64 ∧ (t.keyFields[i]).type ≠ .blob := by
      constructor <;> intro he <;> rw [he] at hty <;> cases hty
    refine ⟨x, Cell.ofStored (t.keyFields[i]).type (Utf8.bytes x), hpart, ?_, ?_⟩
    · unfold Table.cell
      rw [if_pos hkey, hpart]
      rfl
    · refine display_ofStored (holds_of_stored (stored_of_normalize (v := v) ?_)) hne.1 hne.2
      simpa [hget] using hv
  · rw [hplain hp, hnone]
    rfl
  · exact ⟨_, hstored hp hstore, display_ofStored hx hd hb⟩
  · rw [hstored hp hstore, hd, Cell.ofStored, if_neg (by decide), Utf8.decode?_bytes]
    show some (((Number.double? x).map Cell.double).getD (.text x)) = _
    rw [hy]
    rfl
  · rw [hstored hp hstore, hb, Cell.ofStored, if_pos rfl]
  · have hattr : f.isKey = false := by
      by_contra hkey
      have hty := ht.keyType hf (by simpa using hkey)
      rw [show f.type = .set by simpa [ValueType.isSet] using hset] at hty
      cases hty
    unfold Table.cell fetchedOf
    rw [if_neg (by rw [hattr]; exact Bool.false_ne_true), if_pos hset]
    cases membersOf d key f.name <;> rfl

/-! ## Plans for one row -/

/-- A plan for one row accepts it if it is there. -/
theorem accepted_row (ht : t.Valid st) (hf : Plan.For t cs p fs) (hs : Plan.ShowsRow t key p)
    (hm : 2 + p.plainNames.length ≤ m) (hd : Typed st d) (hp : t.parts? key = some parts) (hc : d.contains key = true) :
    (∃ y, lookupIn (answers m d) p key = .ok y) ∧
      accepted m topo d p = [⟨key, parts, p.fetches.map fun g => fetchedOf d key g.field⟩] := by
  obtain ⟨hread, hlen⟩ := Table.parse_of_parts? hp
  have hclosed := Key.isClosed_of_parse hread
  have hrow : IsRow d key p.setNames := by
    refine ⟨?_, fun n hn => ?_⟩
    · obtain ⟨v, hv⟩ := Option.isSome_iff_exists.1 hc
      cases v with
      | hash h => exact ⟨h, hv⟩
      | set ms => exact absurd hclosed (hd key _ hv).1.1
    · obtain ⟨g, hg, rfl⟩ := List.mem_map.1 (hf.setNames n hn)
      exact hd.setOrNone (Table.isSet_set ht hg hclosed)
  have hlook := lookupIn_row hrow hm hread (hlen.trans hf.length_keys.symm) (keyAccepted_of_nil hs.keys parts)
    (attributesAccepted_of_nil hs.fetches _)
  refine ⟨⟨_, hlook⟩, ?_⟩
  have hkeys : keysFor topo d p = [key] := by
    unfold keysFor
    rw [hs.direct]
    exact List.filter_cons_of_pos hc
  unfold accepted
  rw [hkeys, List.filterMap_cons_some (by rw [accepted?, hlook]; rfl), List.filterMap_nil]

/-- It shows all columns of the row. -/
theorem row?_row {items : List SelectItem} (ht : t.Valid st) (hb : Plan.build st t cs items = .ok p)
    (hs : Plan.ShowsRow t key p) (hf : Plan.For t cs p fs) (hp : parts.length = t.keyCount) :
    p.row? now p.emptyRows.width ⟨key, parts, p.fetches.map fun g => fetchedOf d key g.field⟩ =
      some ⟨key, t.fields.map (t.cell d key parts)⟩ := by
  have hsourced := Plan.build_sourced ht hb hs.shows
  have hcells : p.outputs.mapM (Scan.cell now ⟨key, parts, p.fetches.map fun g => fetchedOf d key g.field⟩) =
      .ok (t.fields.map (t.cell d key parts)) := by
    rw [mapM_eq_ok, List.forall₂_map_right_iff, List.forall₂_iff_zip]
    obtain ⟨hlen, hall⟩ := List.forall₂_iff_zip.1 hs.outputs.flip
    refine ⟨hlen, fun {o f} hof => ?_⟩
    obtain ⟨source, rfl⟩ := hall hof
    exact cell_eq ht hf (hsourced _ (List.of_mem_zip hof).1) hp rfl
  have hwidth : p.emptyRows.width = (t.fields.map (t.cell d key parts)).length := by
    rw [List.length_map, hs.outputs.length_eq]
    exact List.length_map ..
  unfold Plan.row?
  rw [hcells, hwidth]
  exact congrArg some (RowOf.resize_self ⟨key, t.fields.map (t.cell d key parts)⟩)

end SlotSql
