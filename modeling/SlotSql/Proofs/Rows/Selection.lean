import SlotSql.Proofs.Rows.Kept
import SlotSql.Proofs.Simulation.Rows
/-!
# Rows that plans select

A plan looks at no more keys than its pattern or its bound values let through, and at none of another table;
a row that passes all conditions is never among the keys that it leaves out. So in a store that keeps the
table well, a plan accepts just the rows that pass all conditions as they are meant.

Results:
* `lookup_row`: what looking at a row of the table comes to.
* `mem_accepted_iff`: the rows that a plan accepts.
* `accepted_perm`: a full scan that compares row by row finds the same rows.
-/
namespace SlotSql

open Cluster Store Simulation

variable {m top : Nat} {topo : Topology} {t : Table} {st : Settings} {d : Data} {cs : List Condition}
  {items : List SelectItem} {p : Plan} {key : String} {parts : List String} {c : Context Simulation Link}

/-! ## The parts of a plan -/

namespace Plan

/-- What is used of a plan for conditions on a table. -/
structure For (t : Table) (cs : List Condition) (p : Plan) (fs : Filters) : Prop where
  covers : fs.Covers t cs
  keys : p.keys = fs.keys.map bind
  fetches : p.fetches = fs.fetches
  pattern : p.pattern = t.rowKey (p.keys.map partPattern)
  direct : p.directKey = (p.keys.mapM KeyFilter.bound).map t.rowKey

theorem for_of_build (ht : t.Valid st) (hp : build st t cs items = .ok p) : ∃ fs, For t cs p fs := by
  obtain ⟨fs, h1, -, h2, h3, h4, h5⟩ := build_eq_ok ht hp
  exact ⟨fs, h1, h2, h3, h4, h5⟩

namespace For

variable {fs : Filters}

theorem length_keys (hf : For t cs p fs) : p.keys.length = t.keyCount := by
  have h := congrArg List.length hf.covers.keys
  rw [List.length_map] at h
  rw [hf.keys, List.length_map]
  exact h

theorem keys_ne_nil (ht : t.Valid st) (hf : For t cs p fs) : p.keys ≠ [] := by
  intro he
  refine ht.keys_ne_nil (List.length_eq_zero_iff.1 ?_)
  show t.keyCount = 0
  rw [← hf.length_keys, he]
  rfl

theorem onKey (ht : t.Valid st) (hf : For t cs p fs) {k : KeyFilter} (hk : k ∈ p.keys) :
    ∃ k₀, OnKey k₀ ∧ k = bind k₀ := by
  rw [hf.keys] at hk
  obtain ⟨k₀, h, rfl⟩ := List.mem_map.1 hk
  exact ⟨k₀, SlotSql.onKey ht hf.covers h, rfl⟩

/-- The patterns of the parts do not run into one another. -/
theorem whole (ht : t.Valid st) (hf : For t cs p fs) : ∀ q ∈ p.keys.map partPattern, Glob.Whole q := by
  intro q hq
  obtain ⟨k, hk, rfl⟩ := List.mem_map.1 hq
  obtain ⟨k₀, h, rfl⟩ := hf.onKey ht hk
  exact whole_partPattern h

/-- A bound value holds no structural character. -/
theorem plain_bound (ht : t.Valid st) (hf : For t cs p fs) {k : KeyFilter} (hk : k ∈ p.keys) {v : String}
    (hv : k.bound = some v) {ch : Char} (hc : ch ∈ Key.structural) : ch ∉ v.toList := by
  obtain ⟨k₀, h, rfl⟩ := hf.onKey ht hk
  exact h.plain_bound hv hc

/-- The sets that a plan reads are sets of the table. -/
theorem setNames (hf : For t cs p fs) : ∀ n ∈ p.setNames, n ∈ t.setFields.map Field.name := by
  intro n hn
  obtain ⟨g, hg, rfl⟩ := List.mem_map.1 hn
  obtain ⟨hg, hset⟩ := List.mem_filter.1 hg
  rw [hf.fetches] at hg
  exact List.mem_map_of_mem (Table.mem_setFields.2 ⟨(hf.covers.fetched g hg).1, hset⟩)

end For
end Plan

open Plan (For)

variable {fs : Plan.Filters}

/-! ## Looking at a row -/

/-- What looking at a row of the table comes to: it is accepted just when it passes all conditions. -/
theorem lookup_row (ht : t.Valid st) (hf : For t cs p fs) (hm : 2 + p.plainNames.length ≤ m)
    (hr : t.RowIn d key parts) (hp : t.parts? key = some parts) : ∃ b y,
    lookupIn (answers m d) p key = .ok (if b then some y else none) ∧ y.key = key ∧
      (b = true ∧ p.Bound parts ↔ ∀ c ∈ cs, c.holdsAt t d key parts = .ok true) := by
  obtain ⟨hread, hlen⟩ := Table.parse_of_parts? hp
  obtain ⟨a, b, ha, hb, hiff⟩ := verdict ht hf.covers hf.keys hf.fetches hr
  have hrow : IsRow d key p.setNames := ⟨hr.row.hash, fun n hn => hr.row.set n (hf.setNames n hn)⟩
  exact ⟨a && b, _, lookupIn_row hrow hm hread (hlen.trans hf.length_keys.symm) ha hb, rfl, hiff⟩

/-! ## Keys that a plan looks at -/

/-- The only key of a plan is that of the row whose parts are the bound values. -/
theorem direct_parts (ht : t.Valid st) (hf : For t cs p fs) (hd : p.directKey = some key) :
    ∃ parts, t.parts? key = some parts ∧ p.Bound parts := by
  rw [hf.direct] at hd
  obtain ⟨vs, hvs, rfl⟩ := Option.map_eq_some_iff.1 hd
  have hall := List.forall₂_iff_zip.1 (forall₂_of_mapM hvs)
  have hne : vs ≠ [] := by
    rintro rfl
    exact hf.keys_ne_nil ht (List.length_eq_zero_iff.1 hall.1)
  have hcolon : ∀ v ∈ vs, ':' ∉ v.toList := by
    intro v hv
    obtain ⟨i, hi, rfl⟩ := List.mem_iff_getElem.1 hv
    have hik : i < p.keys.length := hall.1 ▸ hi
    have hmem : (p.keys[i], vs[i]) ∈ p.keys.zip vs :=
      List.mem_iff_getElem.2 ⟨i, by rw [List.length_zip]; omega, List.getElem_zip⟩
    exact hf.plain_bound ht (List.getElem_mem hik) (hall.2 hmem) (by decide)
  have hname {s : String} (h : Token.isName s.toList = true) : s ≠ "" := by
    rintro rfl
    cases h
  have hread := Key.parseRow?_row (hname ht.tablespace) (Table.notMem_name ht.tablespace (by decide))
    (hname ht.name) (Table.notMem_name ht.name (by decide)) hne hcolon
  refine ⟨vs, Table.parts?_of_parse hread (hall.1.symm.trans hf.length_keys), ?_⟩
  rintro ⟨k, x⟩ hkx v hv
  exact Option.some.inj ((hall.2 hkx).symm.trans hv)

/-- A row whose parts are the bound values is the one that a plan with one key looks up. -/
theorem eq_direct (hf : For t cs p fs) (hd : p.directKey = some key) {k : String}
    (hp : t.parts? k = some parts) (hb : p.Bound parts) : k = key := by
  rw [hf.direct] at hd
  obtain ⟨vs, hvs, rfl⟩ := Option.map_eq_some_iff.1 hd
  have hall := List.forall₂_iff_zip.1 (forall₂_of_mapM hvs)
  obtain ⟨hread, hlen⟩ := Table.parse_of_parts? hp
  rw [(Key.parseRow?_eq_some hread).1]
  show Key.row t.tablespace t.name parts = Key.row t.tablespace t.name vs
  congr 1
  have hlen' : p.keys.length = parts.length := hf.length_keys.trans hlen.symm
  refine List.ext_getElem (hlen'.symm.trans hall.1) fun i hi hi' => ?_
  have hik : i < p.keys.length := hlen' ▸ hi
  have h1 : (p.keys[i], vs[i]) ∈ p.keys.zip vs :=
    List.mem_iff_getElem.2 ⟨i, by rw [List.length_zip]; omega, List.getElem_zip⟩
  have h2 : (p.keys[i], parts[i]) ∈ p.keys.zip parts :=
    List.mem_iff_getElem.2 ⟨i, by rw [List.length_zip]; omega, List.getElem_zip⟩
  exact hb _ h2 _ (hall.2 h1)

/-- A row key that matches the pattern of a plan is of the table, and its parts are the bound values. -/
theorem pattern_parts (ht : t.Valid st) (hf : For t cs p fs) (hm : Glob.matchesKey p.pattern key = true)
    {ts tb : String} (hk : Key.parseRow? key = some (ts, tb, parts)) (hl : parts.length = p.keys.length) :
    t.parts? key = some parts ∧ p.Bound parts := by
  rw [hf.pattern] at hm
  have hne : p.keys.map Plan.partPattern ≠ [] := by simpa using hf.keys_ne_nil ht
  obtain ⟨rfl, rfl, hall⟩ := Glob.parts_of_matchesRow ht.tablespace ht.name (hf.whole ht) hne hm hk
    (by rw [List.length_map, hl])
  refine ⟨Table.parts?_of_parse hk (hl.trans hf.length_keys), ?_⟩
  rintro ⟨k, x⟩ hkx v hv
  rw [List.forall₂_map_left_iff] at hall
  have hmatch := (List.forall₂_iff_zip.1 hall).2 hkx
  obtain ⟨k₀, h, rfl⟩ := hf.onKey ht (List.of_mem_zip hkx).1
  exact (Plan.matches_bound h hv).1 hmatch

/-- A row that passes all conditions matches the pattern of their plan. -/
theorem pattern_of_holds (ht : t.Valid st) (hf : For t cs p fs) (hr : t.RowIn d key parts)
    (hp : t.parts? key = some parts) (h : ∀ c ∈ cs, c.holdsAt t d key parts = .ok true) :
    Glob.matchesKey p.pattern key = true := by
  obtain ⟨hread, hlen⟩ := Table.parse_of_parts? hp
  rw [hf.pattern, (Key.parseRow?_eq_some hread).1]
  refine Glob.matchesRow_of_parts ht.tablespace ht.name (hf.whole ht) ?_
  rw [List.forall₂_map_left_iff, List.forall₂_iff_zip]
  refine ⟨hf.length_keys.trans hlen.symm, fun {k x} hkx => ?_⟩
  rw [hf.keys, List.zip_map_left] at hkx
  obtain ⟨⟨k₀, y⟩, hky, he⟩ := List.mem_map.1 hkx
  cases he
  have hon := onKey ht hf.covers (List.of_mem_zip hky).1
  have hall := (keyChains_iff ht hf.covers hr).2 (fun c hcs f _ _ => h c hcs) _ hky
  obtain ⟨h1, h2⟩ := (Plan.bind_accepts hon (stored_of_zip hf.covers hr hky)).1 hall
  exact Plan.matches_of_accepts hon h1 h2

/-! ## The rows of a plan -/

theorem lookup_parse {y : Candidate} (h : accepted? (lookupIn (answers m d) p) key = some y) :
    ∃ ts tb ps, Key.parseRow? key = some (ts, tb, ps) ∧ ps.length = p.keys.length := by
  cases hread : Key.parseRow? key with
  | none =>
    rw [accepted?, lookupIn_other m d p hread] at h
    cases h
  | some r =>
    obtain ⟨ts, tb, ps⟩ := r
    refine ⟨ts, tb, ps, rfl, ?_⟩
    by_contra hl
    rw [accepted?, lookupIn_length m d hread hl] at h
    cases h

/-- Every key that a plan looks at and accepts is one of a row whose parts are the bound values. -/
theorem parts_of_accepted (ht : t.Valid st) (hf : For t cs p fs) (hc : Serves m top topo d c) {y : Candidate}
    (hy : y ∈ accepted m topo d p) :
    d.contains y.key = true ∧ ∃ parts, t.parts? y.key = some parts ∧ p.Bound parts := by
  obtain ⟨key, hkey, hacc⟩ := List.mem_filterMap.1 hy
  obtain rfl := lookupIn_key hacc
  unfold keysFor at hkey
  split at hkey
  · next k hd =>
    obtain ⟨h1, h2⟩ := List.mem_filter.1 hkey
    rw [List.mem_singleton] at h1
    exact ⟨h2, direct_parts ht hf (h1 ▸ hd)⟩
  · obtain ⟨h1, h2⟩ := List.mem_filter.1 hkey
    rw [← hc.topology] at h1
    obtain ⟨ts, tb, ps, hread, hl⟩ := lookup_parse hacc
    exact ⟨(mem_scanOrder hc.healthy).1 h1, ps, pattern_parts ht hf h2 hread hl⟩

/-- The rows that a plan accepts in a store that keeps the table well: those that pass all conditions. -/
theorem mem_accepted_iff (ht : t.Valid st) (hf : For t cs p fs) (hm : 2 + p.plainNames.length ≤ m)
    (hk : t.Kept d) (hc : Serves m top topo d c) :
    key ∈ (accepted m topo d p).map Candidate.key ↔ d.contains key = true ∧
      ∃ parts, t.parts? key = some parts ∧ ∀ c ∈ cs, c.holdsAt t d key parts = .ok true := by
  constructor
  · intro h
    obtain ⟨y, hy, rfl⟩ := List.mem_map.1 h
    obtain ⟨h1, parts, h2, h3⟩ := parts_of_accepted ht hf hc hy
    obtain ⟨b, z, hlook, -, hiff⟩ := lookup_row ht hf hm (hk.rowIn h2 h1) h2
    refine ⟨h1, parts, h2, hiff.1 ⟨?_, h3⟩⟩
    obtain ⟨key, -, hacc⟩ := List.mem_filterMap.1 hy
    rw [← lookupIn_key hacc, accepted?, hlook] at hacc
    cases b with
    | true => rfl
    | false => cases hacc
  · rintro ⟨h1, parts, h2, h3⟩
    have hrow := hk.rowIn h2 h1
    obtain ⟨b, y, hlook, hy, hiff⟩ := lookup_row ht hf hm hrow h2
    obtain ⟨rfl, hbound⟩ := hiff.2 h3
    refine List.mem_map.2 ⟨y, List.mem_filterMap.2 ⟨key, ?_, by rw [accepted?, hlook]; rfl⟩, hy⟩
    unfold keysFor
    split
    · next k hd =>
      obtain rfl := eq_direct hf hd h2 hbound
      exact List.mem_filter.2 ⟨List.mem_singleton_self _, h1⟩
    · refine List.mem_filter.2 ⟨?_, pattern_of_holds ht hf hrow h2 h3⟩
      rw [← hc.topology]
      exact (mem_scanOrder hc.healthy).2 h1

/-- The row that a plan looks up can be read and compared. -/
theorem sees_of_kept (ht : t.Valid st) (hf : For t cs p fs) (hm : 2 + p.plainNames.length ≤ m)
    (hk : t.Kept d) : Sees m d p := by
  intro key hd hcontains
  obtain ⟨parts, hp, -⟩ := direct_parts ht hf hd
  obtain ⟨b, y, hlook, -⟩ := lookup_row ht hf hm (hk.rowIn hp hcontains) hp
  exact ⟨_, hlook⟩

/-! ## A full scan -/

namespace Table

/-- Whether a key is one of a row that passes all conditions. -/
def selects (t : Table) (d : Data) (cs : List Condition) (key : String) : Except EvalError Bool :=
  match t.parts? key with
  | none => .ok false
  | some parts => do return (← cs.mapM fun c => c.holdsAt t d key parts).all id

/-- The keys among some that are of rows that pass all conditions. -/
def selectFrom (t : Table) (d : Data) (cs : List Condition) : List String → Except EvalError (List String)
  | [] => .ok []
  | key :: keys => do
    let chosen ← t.selects d cs key
    let rest ← t.selectFrom d cs keys
    return if chosen then key :: rest else rest

/-- The rows of a table that pass all conditions, found by a full scan that compares every row with every
condition and stops at the first comparison that fails. -/
def select (t : Table) (d : Data) (cs : List Condition) : Except EvalError (List String) :=
  t.selectFrom d cs d.keys

theorem all_of_mapM {α ε : Type} {q : α → Except ε Bool} {as : List α} {bs : List Bool}
    (h : as.mapM q = .ok bs) : bs.all id = true ↔ ∀ a ∈ as, q a = .ok true := by
  induction as generalizing bs with
  | nil =>
    cases h
    simp
  | cons a as ih =>
    rw [List.mapM_cons] at h
    obtain ⟨b, hb, h⟩ := except_bind_eq_ok.1 h
    obtain ⟨rest, hrest, h⟩ := except_bind_eq_ok.1 h
    cases h
    rw [List.all_cons, Bool.and_eq_true, ih hrest, List.forall_mem_cons, hb, Except.ok.injEq]
    rfl

/-- Comparing a row of a well kept store with all conditions does not fail. -/
theorem selects_total (ht : t.Valid st) (hf : For t cs p fs) (hk : t.Kept d) (hd : d.contains key = true) :
    ∃ b, t.selects d cs key = .ok b ∧ (b = true ↔ ∃ parts, t.parts? key = some parts ∧
      ∀ c ∈ cs, c.holdsAt t d key parts = .ok true) := by
  unfold selects
  cases hp : t.parts? key with
  | none => exact ⟨false, rfl, by simp⟩
  | some parts =>
    obtain ⟨bs, hbs⟩ := mapM_ok (p := fun c : Condition => c.holdsAt t d key parts) (l := cs)
      fun c hc => holdsAt_total ht hf.covers (hk.rowIn hp hd) hc
    refine ⟨bs.all id, by simp only [hbs]; rfl, ?_⟩
    rw [all_of_mapM hbs]
    simp

/-- A full scan keeps the order of the keys. -/
theorem selectFrom_sublist {keys rows : List String} (h : t.selectFrom d cs keys = .ok rows) :
    rows.Sublist keys := by
  induction keys generalizing rows with
  | nil =>
    cases h
    exact List.Sublist.refl _
  | cons key keys ih =>
    obtain ⟨chosen, -, h⟩ := except_bind_eq_ok.1 h
    obtain ⟨rest, hrest, h⟩ := except_bind_eq_ok.1 h
    cases h
    cases chosen with
    | true => exact (ih hrest).cons_cons key
    | false => exact (ih hrest).cons key

theorem select_sublist {rows : List String} (h : t.select d cs = .ok rows) : rows.Sublist d.keys :=
  selectFrom_sublist h

/-- A full scan over keys that can be compared keeps those that pass. -/
theorem selectFrom_total {keys : List String} (h : ∀ key ∈ keys, ∃ b, t.selects d cs key = .ok b) :
    ∃ rows, t.selectFrom d cs keys = .ok rows ∧
      ∀ key, key ∈ rows ↔ key ∈ keys ∧ t.selects d cs key = .ok true := by
  induction keys with
  | nil => exact ⟨[], rfl, by simp⟩
  | cons key keys ih =>
    obtain ⟨chosen, hchosen⟩ := h key List.mem_cons_self
    obtain ⟨rest, hrest, hmem⟩ := ih fun k hk => h k (List.mem_cons_of_mem _ hk)
    refine ⟨if chosen then key :: rest else rest, by simp only [selectFrom, hchosen, hrest]; rfl, ?_⟩
    intro k
    cases chosen with
    | true =>
      simp only [if_true, List.mem_cons, hmem]
      constructor
      · rintro (rfl | ⟨h1, h2⟩)
        · exact ⟨.inl rfl, hchosen⟩
        · exact ⟨.inr h1, h2⟩
      · rintro ⟨rfl | h1, h2⟩
        · exact .inl rfl
        · exact .inr ⟨h1, h2⟩
    | false =>
      simp only [Bool.false_eq_true, if_false, List.mem_cons, hmem]
      constructor
      · rintro ⟨h1, h2⟩
        exact ⟨.inr h1, h2⟩
      · rintro ⟨rfl | h1, h2⟩
        · rw [hchosen] at h2
          cases h2
        · exact ⟨h1, h2⟩

/-- A full scan of a well kept store does not fail, and it selects the rows that pass all conditions. -/
theorem select_total (ht : t.Valid st) (hf : For t cs p fs) (hk : t.Kept d) :
    ∃ rows, t.select d cs = .ok rows ∧
      ∀ key, key ∈ rows ↔ d.contains key = true ∧ ∃ parts, t.parts? key = some parts ∧
        ∀ c ∈ cs, c.holdsAt t d key parts = .ok true := by
  have htotal := fun key (hkey : key ∈ d.keys) => selects_total ht hf hk (KeyMap.contains_iff.2 hkey)
  obtain ⟨rows, hrows, hmem⟩ := selectFrom_total fun key hkey => (htotal key hkey).imp fun _ hb => hb.1
  refine ⟨rows, hrows, fun key => ?_⟩
  rw [hmem, ← KeyMap.contains_iff]
  refine and_congr_right fun hd => ?_
  obtain ⟨b, hb, hiff⟩ := selects_total ht hf hk hd
  rw [hb, Except.ok.injEq, hiff]

end Table

/-- **Key pushdown keeps the meaning of the conditions.** The rows that a plan accepts, found through a single
key or a key pattern and by comparing what the key leaves open, are those that a full scan selects. -/
theorem accepted_perm (ht : t.Valid st) (hf : For t cs p fs) (hm : 2 + p.plainNames.length ≤ m)
    (hk : t.Kept d) (hc : Serves m top topo d c) :
    ∃ rows, t.select d cs = .ok rows ∧ ((accepted m topo d p).map Candidate.key).Perm rows := by
  obtain ⟨rows, hrows, hmem⟩ := Table.select_total ht hf hk
  have hnodup : rows.Nodup := (Table.select_sublist hrows).nodup d.keys_nodup
  refine ⟨rows, hrows, (List.perm_ext_iff_of_nodup (accepted_nodup hc) hnodup).2 fun key => ?_⟩
  rw [mem_accepted_iff ht hf hm hk hc, hmem]

end SlotSql
