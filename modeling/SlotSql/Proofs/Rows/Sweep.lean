import SlotSql.Proofs.Plan.Lookup
import SlotSql.Proofs.Rows.Deletion
/-!
# Plans that compare nothing

A plan whose only conditions are equations with stored parts of the row key reads no attribute and compares nothing: the
equations go into the pattern of its keys. So whatever the store holds, it accepts just the keys of the table with as
many parts as the row key has columns, and with the given parts among them. A plan without conditions is one of these,
for which every row will do.

Results:
* `sweeps_of_equations`: what a plan for some parts of the row key consists of.
* `Plan.Sweeps.pattern`, `Plan.Sweeps.direct`: its pattern, and whether it looks up a single key.
* `Plan.Sweeps.mem_accepted`: the keys that it accepts.
-/
namespace SlotSql

open Cluster Store Simulation Dialogue

variable {m top : Nat} {topo : Topology} {t : Table} {st : Settings} {d : Data} {p : Plan} {key : String}
  {parts : List String} {xs : List (Option String)} {c : Context Simulation Link}

/-! ## What such a plan does -/

/-- The parts of a plan that takes the rows whose keys have some given parts. -/
structure Plan.Sweeps (t : Table) (xs : List (Option String)) (p : Plan) : Prop where
  table : p.table = t
  keys : p.keys.map KeyFilter.bound = xs
  chains : ∀ k ∈ p.keys, k.chain = []
  fetches : p.fetches = []
  outputs : p.outputs = []
  count : p.countOnly = false

/-- The conditions that ask for parts of the row key as they are stored. -/
def Plan.equations (t : Table) (value? : Field → Option String) : List Condition :=
  t.keyFields.filterMap fun f => (value? f).map fun v => ⟨f.name, .eq, ⟨v, true⟩⟩

namespace Plan

variable {value? : Field → Option String} {fs fs' : Filters} {cs more : List Condition} {cond : Condition}

theorem mem_equations : cond ∈ equations t value? ↔
    ∃ f ∈ t.keyFields, ∃ v, value? f = some v ∧ cond = ⟨f.name, .eq, ⟨v, true⟩⟩ := by
  unfold equations
  simp only [List.mem_filterMap, Option.map_eq_some_iff, eq_comm (b := cond)]

theorem equations_none : equations t (fun _ => none) = [] :=
  List.filterMap_eq_nil_iff.2 fun _ _ => rfl

theorem equations_nodup (ht : t.Valid st) : ((equations t value?).map Condition.column).Nodup := by
  have hsub : ((equations t value?).map Condition.column).Sublist (t.keyFields.map Field.name) := by
    unfold equations
    generalize t.keyFields = gs
    induction gs with
    | nil => exact List.Sublist.slnil
    | cons g gs ih =>
      cases hg : value? g with
      | none =>
        rw [List.filterMap_cons_none (by rw [hg]; rfl)]
        exact ih.cons _
      | some v =>
        rw [List.filterMap_cons_some (by rw [hg]; rfl)]
        exact ih.cons_cons _
  exact ht.keys_nodup.sublist hsub

/-- A condition on a part of the row key reads no attribute. -/
theorem Filters.addCondition_fetches (h : fs.Covers t cs) (hkey : ∃ f ∈ t.keyFields, f.name = cond.column)
    (ha : addCondition t fs cond = .ok fs') : fs'.fetches = fs.fetches := by
  unfold addCondition at ha
  obtain ⟨f, hf, ha⟩ := except_bind_eq_ok.1 ha
  obtain ⟨flt, -, ha⟩ := except_bind_eq_ok.1 ha
  obtain ⟨g, hg, hname⟩ := hkey
  split at ha
  · cases ha
    rfl
  · next hnone =>
    -- The column is one of the row key, so there is a filter for it.
    rw [← h.keys] at hg
    obtain ⟨k, hk, rfl⟩ := List.mem_map.1 hg
    have hne := List.findIdx?_eq_none_iff.1 hnone k hk
    rw [hname, (Table.mem_of_field? (fieldOf_eq_ok.1 hf)).2] at hne
    simp at hne

theorem Filters.conditions_fetches (ht : t.Valid st) (h : fs.Covers t cs)
    (hkey : ∀ c ∈ more, ∃ f ∈ t.keyFields, f.name = c.column)
    (ha : more.foldlM (addCondition t) fs = .ok fs') : fs'.fetches = fs.fetches := by
  induction more generalizing cs fs with
  | nil =>
    cases ha
    rfl
  | cons c more ih =>
    rw [List.foldlM_cons] at ha
    obtain ⟨fs₁, hc, ha⟩ := except_bind_eq_ok.1 ha
    rw [ih (addCondition_covers ht h hc) (fun c hc => hkey c (List.mem_cons_of_mem _ hc)) ha,
      addCondition_fetches h (hkey c List.mem_cons_self) hc]

end Plan

/-- Equations with stored parts of the row key make a plan that takes the rows with these parts. -/
theorem sweeps_of_equations (ht : t.Valid st) {value? : Field → Option String}
    (hvalue : ∀ f ∈ t.keyFields, ∀ x, value? f = some x → ∃ v, f.normalize v = .ok x)
    (hp : Plan.ofConditions st t (Plan.equations t value?) = .ok p) : p.Sweeps t (t.keyFields.map value?) := by
  obtain ⟨fs, os, fs', h1, h2, -, rfl⟩ := Plan.build_iff.1 hp
  cases h2
  have hequation : ∀ c ∈ Plan.equations t value?, c.comparison = .eq := fun c hc => by
    obtain ⟨f, -, v, -, rfl⟩ := Plan.mem_equations.1 hc
    rfl
  have hcolumn : ∀ c ∈ Plan.equations t value?, ∃ f ∈ t.keyFields, f.name = c.column := fun c hc => by
    obtain ⟨f, hf, v, -, rfl⟩ := Plan.mem_equations.1 hc
    exact ⟨f, hf, rfl⟩
  obtain ⟨hcovers, hone⟩ := Plan.bound_of_distinct ht h1 (Plan.equations_nodup ht) hequation
  refine ⟨rfl, ?_, fun k hk => ?_, Plan.Filters.conditions_fetches ht (Plan.Filters.covers_start t) hcolumn h1, rfl, rfl⟩
  · show (fs.keys.map Plan.bind).map KeyFilter.bound = t.keyFields.map value?
    rw [← hcovers.keys, List.map_map, List.map_map]
    refine List.map_congr_left fun k hk => ?_
    show (Plan.bind k).bound = value? k.field
    obtain ⟨hmem, hkey⟩ := hcovers.mem_key hk
    have hfield : k.field ∈ t.keyFields := Table.mem_keyFields.2 ⟨hmem, hkey⟩
    rcases (hone k hk).2 with ⟨c, hc, hname, flt, hflt, hbound⟩ | ⟨hno, hbound⟩
    · obtain ⟨f, hf, x, hx, rfl⟩ := Plan.mem_equations.1 hc
      obtain rfl : f = k.field := ht.eq_of_name (Table.mem_keyFields.1 hf).1 hmem hname
      obtain ⟨v, hv⟩ := hvalue k.field hf x hx
      obtain ⟨flt', hflt', hsame⟩ := Plan.filterFor_part hkey (ht.keyType hmem hkey) hv
        (c := ⟨k.field.name, .eq, ⟨x, true⟩⟩) rfl rfl
      cases hflt.symm.trans hflt'
      rw [hbound, hsame, hx]
    · rw [hbound]
      cases hx : value? k.field with
      | none => rfl
      | some x =>
        exact absurd (List.mem_map_of_mem (f := Condition.column) (Plan.mem_equations.2 ⟨k.field, hfield, x, hx, rfl⟩)) hno
  · obtain ⟨k₀, hk₀, rfl⟩ := List.mem_map.1 hk
    exact (hone k₀ hk₀).1

/-- A plan without conditions takes all rows. -/
theorem sweeps_of_build (ht : t.Valid st) (hp : Plan.ofConditions st t [] = .ok p) :
    p.Sweeps t (t.keyFields.map fun _ => none) :=
  sweeps_of_equations ht (fun _ _ _ hx => by cases hx) (by rwa [Plan.equations_none])

/-- Parts of a row key are those that are given. -/
def Agree (xs : List (Option String)) (parts : List String) : Prop :=
  xs.Forall₂ (fun x part => ∀ v, x = some v → part = v) parts

namespace Plan.Sweeps

variable {cs : List Condition} {fs : Plan.Filters}

theorem length_keys (hp : p.Sweeps t xs) (hf : Plan.For t cs p fs) : xs.length = t.keyCount := by
  rw [← hp.keys, List.length_map, hf.length_keys]

/-- The given parts stand in the pattern as they are. -/
theorem pattern (hp : p.Sweeps t xs) (hf : Plan.For t cs p fs) :
    p.pattern = t.rowKey (xs.map fun x => (x.map Glob.escape).getD "*") := by
  rw [hf.pattern, ← hp.keys, List.map_map]
  refine congrArg t.rowKey (List.map_congr_left fun k hk => ?_)
  show Plan.partPattern k = (k.bound.map Glob.escape).getD "*"
  unfold Plan.partPattern
  rw [hp.chains k hk]
  cases k.bound <;> rfl

/-- A single key is looked up if all parts are given. -/
theorem direct (hp : p.Sweeps t xs) (hf : Plan.For t cs p fs) : p.directKey = (xs.mapM id).map t.rowKey := by
  rw [hf.direct, ← hp.keys]
  refine congrArg (Option.map t.rowKey) ?_
  generalize p.keys = ks
  induction ks with
  | nil => rfl
  | cons k ks ih => rw [List.map_cons, List.mapM_cons, List.mapM_cons, ih]; rfl

theorem bound_iff (hp : p.Sweeps t xs) (hf : Plan.For t cs p fs) (hk : t.parts? key = some parts) :
    p.Bound parts ↔ Agree xs parts := by
  obtain ⟨-, hlen⟩ := Table.parse_of_parts? hk
  unfold Agree
  rw [← hp.keys, List.forall₂_map_left_iff, List.forall₂_iff_zip]
  exact ⟨fun h => ⟨hf.length_keys.trans hlen.symm, fun hkx v hv => h _ hkx v hv⟩, fun h kx hkx v hv => h.2 hkx v hv⟩

/-- Every key of a row is accepted once it is looked at, and nothing of it is read. -/
theorem lookup (hp : p.Sweeps t xs) (hf : Plan.For t cs p fs) (hk : t.parts? key = some parts) :
    lookupIn (answers m d) p key = .ok (some ⟨key, parts, []⟩) := by
  obtain ⟨hread, hlen⟩ := Table.parse_of_parts? hk
  have hkeys : Scan.keyAccepted p parts = .ok true := keyAccepted_of_nil hp.chains parts
  have hattributes : Scan.attributesAccepted p [] = .ok true := attributesAccepted_of_nil (fun g hg => by
    rw [hp.fetches] at hg
    cases hg) []
  have hfetch : outcome (fixedWorld (answers m d)) (liftM (Scan.fetch p key) : OnRow (List Fetched)) () =
      (.ok [], ()) := by
    unfold Scan.fetch
    rw [hp.fetches]
    rfl
  have hverdict (x : Bool) : outcome (fixedWorld (answers m d))
      (OnRow.ofExcept EvalError.toEngine (.ok x)) () = (.ok x, ()) := rfl
  unfold lookupIn Scan.candidate?
  simp only [hread]
  rw [if_neg (by rw [hlen, hf.length_keys]; exact fun h => h rfl), hkeys, outcome_bind_ok (hverdict true),
    if_neg (by decide), outcome_bind_ok hfetch, hattributes, outcome_bind_ok (hverdict true)]
  rfl

theorem sees (ht : t.Valid st) (hp : p.Sweeps t xs) (hf : Plan.For t cs p fs) : Sees m d p := by
  intro key hd _
  obtain ⟨parts, hk, -⟩ := direct_parts ht hf hd
  exact ⟨_, hp.lookup hf hk⟩

/-- A row with the given parts is looked at. -/
theorem mem_keysFor (ht : t.Valid st) (hp : p.Sweeps t xs) (hf : Plan.For t cs p fs) (hc : Serves m top topo d c)
    (hd : d.contains key = true) (hk : t.parts? key = some parts) (ha : Agree xs parts) : key ∈ keysFor topo d p := by
  unfold keysFor
  split
  · next k hdirect =>
    obtain rfl := eq_direct hf hdirect hk ((hp.bound_iff hf hk).2 ha)
    exact List.mem_filter.2 ⟨List.mem_singleton_self _, hd⟩
  · refine List.mem_filter.2 ⟨?_, ?_⟩
    · rw [← hc.topology]
      exact (mem_scanOrder hc.healthy).2 hd
    · obtain ⟨hread, -⟩ := Table.parse_of_parts? hk
      rw [hf.pattern, (Key.parseRow?_eq_some hread).1]
      refine Glob.matchesRow_of_parts ht.tablespace ht.name (hf.whole ht) ?_
      unfold Agree at ha
      rw [← hp.keys, List.forall₂_map_left_iff, List.forall₂_iff_zip] at ha
      rw [List.forall₂_map_left_iff, List.forall₂_iff_zip]
      refine ⟨ha.1, fun {k x} hkx => ?_⟩
      have hmem := (List.of_mem_zip hkx).1
      have hnone : ∀ flt ∈ k.chain, flt.accepts (some k.field.type) x = .ok true := by
        rw [hp.chains k hmem]
        simp
      obtain ⟨k₀, hon, rfl⟩ := hf.onKey ht hmem
      exact Plan.matches_of_accepts hon (ha.2 hkx) (by rwa [Plan.bind_field] at hnone)

/-- The keys that such a plan accepts: those in the store with as many parts as the row key has columns, among them the
given ones. -/
theorem mem_accepted (ht : t.Valid st) (hp : p.Sweeps t xs) (hf : Plan.For t cs p fs) (hc : Serves m top topo d c) :
    key ∈ (accepted m topo d p).map Candidate.key ↔
      d.contains key = true ∧ ∃ parts, t.parts? key = some parts ∧ Agree xs parts := by
  constructor
  · intro h
    obtain ⟨y, hy, rfl⟩ := List.mem_map.1 h
    obtain ⟨h1, parts, h2, h3⟩ := parts_of_accepted ht hf hc hy
    exact ⟨h1, parts, h2, (hp.bound_iff hf h2).1 h3⟩
  · rintro ⟨h1, parts, h2, h3⟩
    exact List.mem_map.2 ⟨⟨key, parts, []⟩, List.mem_filterMap.2 ⟨key, hp.mem_keysFor ht hf hc h1 h2 h3,
      by rw [accepted?, hp.lookup hf h2]⟩, rfl⟩

/-- A plan without conditions accepts the keys of all rows. -/
theorem mem_accepted_all (ht : t.Valid st) (hp : p.Sweeps t (t.keyFields.map fun _ => none)) (hf : Plan.For t cs p fs)
    (hc : Serves m top topo d c) : key ∈ (accepted m topo d p).map Candidate.key ↔
      d.contains key = true ∧ (t.parts? key).isSome = true := by
  rw [hp.mem_accepted ht hf hc, Option.isSome_iff_exists]
  refine and_congr_right fun _ => exists_congr fun parts => and_iff_left_of_imp fun hk => ?_
  unfold Agree
  rw [List.forall₂_map_left_iff, List.forall₂_iff_zip]
  exact ⟨(Table.parse_of_parts? hk).2.symm, fun _ v hv => by cases hv⟩

end Plan.Sweeps

end SlotSql
