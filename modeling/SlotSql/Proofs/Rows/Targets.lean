import SlotSql.Proofs.Rows.Overwritten
import SlotSql.Proofs.Rows.Sweep
import SlotSql.Proofs.Rows.Written
import SlotSql.Proofs.Scan.Asked
/-!
# Rows that a statement without a full key means

Such a statement gives some parts of the row key. Their stored forms are turned into equations once more, and these
equations into a plan; the plan takes the rows that have just these parts, of whatever type the columns are, and its
pattern is the one that the statement was prepared with.

Results:
* `given_eq_some`: the parts of the row key that a statement gives, in stored form.
* `Meets`, `meets_iff`: rows whose parts are those that a statement gives.
* `targets_exact`: the keys of the rows that a statement means.
-/
namespace SlotSql

open Cluster Store Simulation Dialogue

variable {m top : Nat} {topo : Topology} {t : Table} {st : Settings} {d : Data} {key x : String} {f : Field} {now : Int}
  {parts : List String} {u : Upsertion} {pu : PreparedUpsertion} {vs : List NewValue}

/-- The value of a prepared statement for a column, in stored form. -/
def PreparedUpsertion.given (pu : PreparedUpsertion) (f : Field) : Option String :=
  (pu.values.find? fun v => v.1.name == f.name).map Prod.snd

namespace Upsertion

/-! ## Parts of the row key -/

/-- What a statement with values is prepared to: the values in stored form, and what they make of its key, its pattern
and its mode. -/
theorem prepare_values (h : prepare t now u = .ok pu) (hsource : u.source = .values vs) :
    ∃ fs, fields t [] u.columns = .ok fs ∧ vs.length = fs.length ∧ storedValues now (fs.zip vs) = .ok pu.values ∧
      pu.bound = t.keyFields.map (fun f => (f.name, pu.given f)) ∧
      pu.key = ((t.keyFields.map pu.given).mapM id).map t.rowKey ∧
      pu.pattern = t.rowKey ((t.keyFields.map pu.given).map fun x => (x.map Glob.escape).getD "*") ∧
      mode t now pu.values pu.key u.onDuplicate = .ok pu.mode := by
  unfold prepare at h
  obtain ⟨fs, hfs, h⟩ := except_bind_eq_ok.1 h
  rw [hsource] at h
  simp only [] at h
  by_cases hl : vs.length ≠ fs.length
  · rw [if_pos hl] at h
    cases h
  · rw [if_neg hl] at h
    obtain ⟨values, hvalues, h⟩ := except_bind_eq_ok.1 h
    obtain ⟨md, hmode, h⟩ := except_bind_eq_ok.1 h
    cases h
    refine ⟨fs, hfs, not_not.1 hl, hvalues, rfl, ?_, ?_, hmode⟩
    · show Option.map t.rowKey _ = Option.map t.rowKey _
      rw [List.mapM_map, List.mapM_map]
      rfl
    · show t.rowKey _ = t.rowKey _
      rw [List.map_map, List.map_map]
      rfl

theorem conditions_eq (h : pu.bound = t.keyFields.map fun f => (f.name, pu.given f)) :
    pu.conditions = Plan.equations t pu.given := by
  unfold PreparedUpsertion.conditions Plan.equations
  rw [h, List.filterMap_map]
  rfl

/-- What is given is the stored form of the value that the statement has for the column. -/
theorem given_of_find (ht : t.Valid st) (h : prepare t now u = .ok pu) (hsource : u.source = .values vs) (hf : f ∈ t.fields)
    (hx : pu.given f = some x) :
    ∃ v raw, (f.name, v) ∈ u.columns.zip vs ∧ resolve now v = .ok raw ∧ f.normalize raw = .ok x := by
  obtain ⟨fs, hfs, -, hvalues, -⟩ := prepare_values h hsource
  obtain ⟨hnames, -, -⟩ := fields_names hfs
  obtain ⟨gx, hgx, rfl⟩ := Option.map_eq_some_iff.1 hx
  obtain ⟨v, raw, hv, hraw, hnorm⟩ := storedValues_mem hvalues gx (List.mem_of_find?_eq_some hgx)
  obtain rfl : gx.1 = f := ht.eq_of_name (fields_mem hfs gx.1 (List.of_mem_zip hv).1) hf
    (by simpa using List.find?_some hgx)
  refine ⟨v, raw, ?_, hraw, hnorm⟩
  rw [← hnames, List.zip_map_left]
  exact List.mem_map.2 ⟨(gx.1, v), hv, rfl⟩

/-- Something is given for every column that the statement names. -/
theorem given_isSome (h : prepare t now u = .ok pu) (hsource : u.source = .values vs) :
    (pu.given f).isSome = true ↔ f.name ∈ u.columns := by
  obtain ⟨fs, hfs, hlen, hvalues, -⟩ := prepare_values h hsource
  obtain ⟨hnames, -, -⟩ := fields_names hfs
  have hfields : pu.values.map Prod.fst = fs := by
    rw [storedValues_fields hvalues, List.map_fst_zip (Nat.le_of_eq hlen.symm)]
  unfold PreparedUpsertion.given
  rw [Option.isSome_map, List.find?_isSome, ← hnames, ← hfields, List.map_map, List.mem_map]
  simp only [beq_iff_eq]
  exact Iff.rfl

/-- A part is given just when the statement has a value for its column, and it is the stored form of this value. -/
theorem given_eq_some (ht : t.Valid st) (h : prepare t now u = .ok pu) (hsource : u.source = .values vs) (hf : f ∈ t.fields) :
    pu.given f = some x ↔ ∃ v raw, (f.name, v) ∈ u.columns.zip vs ∧ resolve now v = .ok raw ∧ f.normalize raw = .ok x := by
  refine ⟨given_of_find ht h hsource hf, ?_⟩
  rintro ⟨v, raw, hv, hraw, hnorm⟩
  obtain ⟨fs, hfs, -⟩ := prepare_values h hsource
  obtain ⟨-, hnodup, -⟩ := fields_names hfs
  obtain ⟨y, hy⟩ := Option.isSome_iff_exists.1 ((given_isSome h hsource).2 (List.of_mem_zip hv).1)
  obtain ⟨v', raw', hv', hraw', hnorm'⟩ := given_of_find ht h hsource hf hy
  -- The columns are named apart, so there is only one value for each.
  cases (lookup_zip hnodup hv).symm.trans (lookup_zip hnodup hv')
  cases hraw.symm.trans hraw'
  cases hnorm.symm.trans hnorm'
  exact hy

/-- The parts of a row key are the stored forms of the values that a statement has for them. -/
def Meets (u : Upsertion) (t : Table) (now : Int) (parts : List String) : Prop :=
  ∃ vs, u.source = .values vs ∧ t.keyFields.Forall₂ (fun f x => ∀ v, (f.name, v) ∈ u.columns.zip vs →
    ∃ raw, resolve now v = .ok raw ∧ f.normalize raw = .ok x) parts

theorem meets_iff (ht : t.Valid st) (h : prepare t now u = .ok pu) (hsource : u.source = .values vs) :
    u.Meets t now parts ↔ Agree (t.keyFields.map pu.given) parts := by
  have hone (f : Field) (hf : f ∈ t.keyFields) (x : String) : (∀ v, (f.name, v) ∈ u.columns.zip vs →
      ∃ raw, resolve now v = .ok raw ∧ f.normalize raw = .ok x) ↔ ∀ y, pu.given f = some y → x = y := by
    have hgiven (y : String) := given_eq_some (x := y) ht h hsource (Table.mem_keyFields.1 hf).1
    constructor
    · intro hall y hy
      obtain ⟨v, raw, hv, hraw, hnorm⟩ := (hgiven y).1 hy
      obtain ⟨raw', hraw', hnorm'⟩ := hall v hv
      cases hraw.symm.trans hraw'
      exact Except.ok.inj (hnorm'.symm.trans hnorm)
    · intro hall v hv
      obtain ⟨y, hy⟩ := Option.isSome_iff_exists.1 ((given_isSome h hsource).2 (List.of_mem_zip hv).1)
      obtain ⟨v', raw, hv', hraw, hnorm⟩ := (hgiven y).1 hy
      obtain ⟨fs, hfs, -⟩ := prepare_values h hsource
      cases (lookup_zip (fields_names hfs).2.1 hv).symm.trans (lookup_zip (fields_names hfs).2.1 hv')
      exact ⟨raw, hraw, hall y hy ▸ hnorm⟩
  unfold Meets Agree
  rw [List.forall₂_map_left_iff]
  constructor
  · rintro ⟨vs', hsource', hall⟩
    cases hsource.symm.trans hsource'
    rw [List.forall₂_iff_zip] at hall ⊢
    exact ⟨hall.1, fun {f x} hfx => (hone f (List.of_mem_zip hfx).1 x).1 (hall.2 hfx)⟩
  · intro hall
    refine ⟨vs, hsource, ?_⟩
    rw [List.forall₂_iff_zip] at hall ⊢
    exact ⟨hall.1, fun {f x} hfx => (hone f (List.of_mem_zip hfx).1 x).2 (hall.2 hfx)⟩

/-- There is no key if the statement leaves out a column of the row key. -/
theorem key_eq_none (h : prepare t now u = .ok pu) (hsource : u.source = .values vs)
    (hopen : ∃ f ∈ t.keyFields, f.name ∉ u.columns) : pu.key = none := by
  obtain ⟨-, -, -, -, -, hkey, -⟩ := prepare_values h hsource
  obtain ⟨f, hf, hname⟩ := hopen
  have hnone : pu.given f = none := by
    rw [← Option.not_isSome_iff_eq_none, given_isSome h hsource]
    exact hname
  rw [hkey, Option.map_eq_none_iff]
  cases hall : (t.keyFields.map pu.given).mapM id with
  | none => rfl
  | some xs =>
    have hzip := (forall₂_of_mapM hall).imp fun x y hxy => hxy
    rw [List.forall₂_map_left_iff] at hzip
    obtain ⟨y, -, hy⟩ := exists_of_mem_right hzip.flip hf
    rw [id, hnone] at hy
    cases hy

/-- The statement has no other mode than assignments then. -/
theorem mode_eq_update {bs : List Assignment} (h : prepare t now u = .ok pu) (hsource : u.source = .values vs)
    (hdup : u.onDuplicate = .update bs) : ∃ as, assignments t now [] bs = .ok as ∧ pu.mode = .update as := by
  obtain ⟨-, -, -, -, -, -, -, hmode⟩ := prepare_values h hsource
  rw [hdup] at hmode
  obtain ⟨as, has, hmode⟩ := except_bind_eq_ok.1 hmode
  exact ⟨as, has, (Except.ok.inj hmode).symm⟩

/-! ## The rows that are meant -/

/-- Stored forms of values are parts of row keys. -/
theorem given_normal (ht : t.Valid st) (h : prepare t now u = .ok pu) (hsource : u.source = .values vs) :
    ∀ f ∈ t.keyFields, ∀ x, pu.given f = some x → ∃ raw, f.normalize raw = .ok x := by
  intro f hf x hx
  obtain ⟨-, raw, -, -, hnorm⟩ := (given_eq_some ht h hsource (Table.mem_keyFields.1 hf).1).1 hx
  exact ⟨raw, hnorm⟩

/-- Whatever is answered, the rows are looked for with one pattern, that of their plan. -/
theorem asks_targets {v : ScanEnv} {p : Plan} (hp : Plan.ofConditions v.settings pu.table pu.conditions = .ok p) :
    Asks (fun _ cmd => ∀ cursor pattern count, cmd = .scan cursor pattern count → pattern = p.pattern) (fun _ => True)
      (targets v pu) := by
  have hother {n : String} (ws : List String) (hn : n ≠ "SCAN") (cursor : Nat) (pattern : String) (count : Nat)
      (h : Command.ofTexts (n :: ws) = .scan cursor pattern count) : pattern = p.pattern :=
    absurd (List.cons.inj (Command.ofTexts_inj h)).1 hn
  rw [targets_eq, hp]
  refine (asks_matchingKeys { page := ?_, existsKey := ?_, row := ?_ }).alone _
  · intro _ cursor cursor' pattern count h
    have hwords := Command.ofTexts_inj h
    simp only [List.cons.injEq] at hwords
    exact hwords.2.2.2.1.symm
  · exact fun key _ => hother [key] (by decide)
  · exact fun key => ⟨fun _ => hother _ (by decide), fun f _ _ => hother _ (by decide)⟩

/-- If the rows that a statement means are found, they are those with the parts that it gives, each of them once, and
they have been found by the pattern that the statement was prepared with. -/
theorem targets_exact {v : ScanEnv} {c c' : Context Simulation Link} {keys : List String} (ht : t.Valid st)
    (hst : v.settings = st) (h : prepare t now u = .ok pu) (hsource : u.source = .values vs) (hv : Simulation.Fits v m topo d)
    (hc : Serves m top topo d c) (hroom : top + d.size ≤ Number.max64)
    (hrun : outcome Context.world (targets v pu) c = (.ok keys, c')) :
    Serves m (top + d.size) topo d c' ∧ keys.Nodup ∧
      (∀ key, key ∈ keys ↔ d.contains key = true ∧ ∃ parts, t.parts? key = some parts ∧ u.Meets t now parts) ∧
      ∃ p, Plan.ofConditions st t pu.conditions = .ok p ∧ p.pattern = pu.pattern := by
  obtain ⟨-, -, -, -, hbound, -, hpattern, -⟩ := prepare_values h hsource
  have htable := (prepare_sound ht h).table
  cases hp : Plan.ofConditions v.settings pu.table pu.conditions with
  | error e =>
    rw [targets_eq, hp] at hrun
    cases hrun
  | ok p =>
    obtain ⟨r, c₁, h1, h2, h3⟩ := targets_accepted hv hc hroom hp
    rw [hrun] at h1
    obtain ⟨rfl, rfl⟩ := Prod.mk.inj h1
    rw [hst, htable] at hp
    obtain ⟨fs, hf⟩ := Plan.for_of_build ht hp
    have hsweep := sweeps_of_equations ht (given_normal ht h hsource) (conditions_eq hbound ▸ hp)
    obtain rfl := h3 keys rfl
    refine ⟨h2, accepted_nodup hc, fun key => ?_, p, hp, (hsweep.pattern hf).trans hpattern.symm⟩
    rw [hsweep.mem_accepted ht hf hc]
    simp only [meets_iff ht h hsource]

end Upsertion
end SlotSql
