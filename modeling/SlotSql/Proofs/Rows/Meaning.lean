import SlotSql.Proofs.Plan.Pattern
import SlotSql.Proofs.Rows.Reading
/-!
# What conditions mean

Conditions are meant for the rows of a table one by one: a row passes if the value in the column of each
condition compares with the literal as asked, by the type of the column. Of a set one member has to compare so,
and all of them to differ from a literal; a missing value passes no condition.

Results:
* `holdsAt_total`: on a row as it is kept, no condition fails.
* `verdict`: the filters of a plan say of a row what its conditions mean.
-/
namespace SlotSql

open Store Evaluation

/-! ## Rows and conditions -/

/-- The parts of a key that is one of a row of a table. -/
def Table.parts? (t : Table) (key : String) : Option (List String) :=
  match Key.parseRow? key with
  | some (tablespace, name, parts) =>
    if tablespace = t.tablespace ∧ name = t.name ∧ parts.length = t.keyCount then some parts else none
  | none => none

/-- The part of a row key for a column. -/
def Table.partOf (t : Table) (parts : List String) (f : Field) : Option String :=
  ((t.keyFields.map Field.name).zip parts).lookup f.name

namespace Condition

/-- Whether a value of a column passes. -/
def passes (c : Condition) (f : Field) (x : String) : Except EvalError Bool :=
  evaluate (some f.type) x c.comparison c.value.value

/-- Whether a set passes; an empty one is missing. -/
def passesSet (c : Condition) (f : Field) : List String → Except EvalError Bool
  | [] => .ok false
  | ms => do
    let results ← ms.mapM (c.passes f)
    return if c.comparison = .ne then results.all id else results.any id

/-- Whether a value passes, if there is one. -/
def passesAny (c : Condition) (f : Field) : Option String → Except EvalError Bool
  | none => .ok false
  | some x => c.passes f x

/-- Whether what is stored of a column passes. -/
def passesStored (c : Condition) (d : Data) (key : String) (f : Field) : Except EvalError Bool :=
  if f.type.isSet then c.passesSet f (membersOf d key f.name)
  else c.passesAny f ((plainOf d key f.name).map Utf8.decodeLossy)

/-- Whether a row of a table passes. -/
def holdsAt (c : Condition) (t : Table) (d : Data) (key : String) (parts : List String) :
    Except EvalError Bool :=
  match t.field? c.column with
  | none => .ok false
  | some f => if f.isKey then c.passesAny f (t.partOf parts f) else c.passesStored d key f

end Condition

/-- A row as the engine keeps it: the parts of its key are in stored form, its attributes lie where they
belong, and its numbers can be read. -/
structure Table.RowIn (t : Table) (d : Data) (key : String) (parts : List String) : Prop where
  parts : t.keyFields.Forall₂ (fun f x => Filter.Stored f.type x) parts
  row : IsRow d key (t.setFields.map Field.name)
  readable : ∀ f ∈ t.fields, f.isPlain = true → ∀ v, plainOf d key f.name = some v →
    Readable f.type (Utf8.decodeLossy v)

variable {t : Table} {st : Settings} {d : Data} {key : String} {parts : List String} {cs : List Condition}
  {c : Condition} {f : Field} {flt : Filter} {fs : Plan.Filters} {k : KeyFilter} {g : FetchFilter} {x : String}

theorem readable_of_stored (h : Filter.Stored f.type x) (hf : f.type.isFloat = false) : Readable f.type x :=
  ⟨fun hi => let ⟨n, hn, _⟩ := h hi; ⟨n, hn⟩, fun hfl => absurd (hfl.symm.trans hf) (by decide)⟩

theorem readable_of_text (hf : f.type.isNumeric = false) : Readable f.type x := by
  unfold ValueType.isNumeric at hf
  obtain ⟨h1, h2⟩ := Bool.or_eq_false_iff.1 hf
  exact ⟨fun h => absurd (h.symm.trans h1) (by decide), fun h => absurd (h.symm.trans h2) (by decide)⟩

/-! ## One condition and its filter -/

/-- The filter of a condition says the same of a value. -/
theorem passes_of_gives (h : c.Gives t f flt) (x : String) : flt.accepts (some f.type) x = c.passes f x :=
  Filter.accepts_filterFor h.2 x

/-- The filter of a condition says the same of a set. -/
theorem passesSet_of_gives (h : c.Gives t f flt) (hf : f.type.isSet = true) {ms : List String} (hne : ms ≠ []) :
    flt.acceptsSet ms = c.passesSet f ms := by
  have ht : f.type = .set := by simpa [ValueType.isSet] using hf
  have hfun : flt.accepts (some .set) = c.passes f := funext fun x => ht ▸ passes_of_gives h x
  obtain ⟨m, ms, rfl⟩ := List.exists_cons_of_ne_nil hne
  unfold Filter.acceptsSet Condition.passesSet
  rw [hfun, Filter.comparison_filterFor h.2]

theorem mapM_ok {α β ε : Type} {p : α → Except ε β} {l : List α} (h : ∀ a ∈ l, ∃ b, p a = .ok b) :
    ∃ bs, l.mapM p = .ok bs := by
  induction l with
  | nil => exact ⟨[], rfl⟩
  | cons a as ih =>
    obtain ⟨b, hb⟩ := h a List.mem_cons_self
    obtain ⟨bs, hbs⟩ := ih fun x hx => h x (List.mem_cons_of_mem _ hx)
    exact ⟨b :: bs, by rw [List.mapM_cons, hb, hbs]; rfl⟩

theorem forall₂_of_mapM {α β : Type} {g : α → Option β} {as : List α} {bs : List β}
    (h : as.mapM g = some bs) : as.Forall₂ (fun a b => g a = some b) bs := by
  induction as generalizing bs with
  | nil =>
    rw [List.mapM_nil] at h
    cases h
    exact .nil
  | cons a as ih =>
    rw [List.mapM_cons] at h
    obtain ⟨b, hb, h⟩ := Option.bind_eq_some_iff.1 h
    obtain ⟨cs, hcs, h⟩ := Option.bind_eq_some_iff.1 h
    cases h
    exact .cons hb (ih hcs)

theorem exists_of_mem_right {α β : Type} {as : List α} {bs : List β} {R : α → β → Prop} {b : β}
    (h : as.Forall₂ R bs) (hb : b ∈ bs) : ∃ a ∈ as, R a b := by
  induction h with
  | nil => cases hb
  | cons hr _ ih =>
    rcases List.mem_cons.1 hb with rfl | hb
    · exact ⟨_, List.mem_cons_self, hr⟩
    · obtain ⟨a, ha, hr'⟩ := ih hb
      exact ⟨a, List.mem_cons_of_mem _ ha, hr'⟩

theorem passesSet_total (h : c.Gives t f flt) (hf : f.type.isSet = true) (ms : List String) :
    ∃ b, c.passesSet f ms = .ok b := by
  have ht : f.type = .set := by simpa [ValueType.isSet] using hf
  cases ms with
  | nil => exact ⟨false, rfl⟩
  | cons m ms =>
    obtain ⟨bs, hbs⟩ := mapM_ok (p := c.passes f) (l := m :: ms) fun x _ => by
      rw [← passes_of_gives h x]
      exact Filter.accepts_readable h.2 (readable_of_text (by rw [ht]; rfl))
    unfold Condition.passesSet
    simp only [hbs]
    exact ⟨_, rfl⟩

theorem passesAny_total (h : c.Gives t f flt) {v : Option String} (hx : ∀ x, v = some x → Readable f.type x) :
    ∃ b, c.passesAny f v = .ok b := by
  cases v with
  | none => exact ⟨false, rfl⟩
  | some x =>
    show ∃ b, c.passes f x = .ok b
    rw [← passes_of_gives h x]
    exact Filter.accepts_readable h.2 (hx x rfl)

/-- On a row as it is kept, no condition on an attribute fails. -/
theorem passesStored_total (hr : t.RowIn d key parts) (h : c.Gives t f flt) (hf : f ∈ t.fields)
    (hk : f.isKey = false) : ∃ b, c.passesStored d key f = .ok b := by
  unfold Condition.passesStored
  split
  · next hset => exact passesSet_total h hset _
  · next hset =>
    refine passesAny_total h fun x hx => ?_
    obtain ⟨v, hv, rfl⟩ := Option.map_eq_some_iff.1 hx
    have hplain : f.isPlain = true := by
      unfold Field.isPlain
      simp [hk, hset]
    exact hr.readable f hf hplain v hv

/-! ## Chains and conditions -/

/-- A chain holds just when the conditions on its column do. -/
theorem chain_iff (hc : Chained t cs f chain) (hall : ∀ c ∈ cs, ∃ f flt, c.Gives t f flt)
    {a : Filter → Except EvalError Bool} {pass : Condition → Except EvalError Bool}
    (h : ∀ (c : Condition) flt, c.Gives t f flt → a flt = pass c) :
    (∀ flt ∈ chain, a flt = .ok true) ↔ ∀ c ∈ cs, t.field? c.column = some f → pass c = .ok true := by
  constructor
  · intro hs c hm hf
    obtain ⟨f', flt, hg⟩ := hall c hm
    obtain rfl : f = f' := Option.some.inj (hf.symm.trans hg.1)
    rw [← h c flt hg]
    exact hs flt ((hc flt).2 ⟨c, hm, hg⟩)
  · intro hm flt hflt
    obtain ⟨c, hcs, hg⟩ := (hc flt).1 hflt
    rw [h c flt hg]
    exact hm c hcs hg.1

theorem chain_total (hc : Chained t cs f chain) {accept : Filter → Except EvalError Bool}
    (h : ∀ (c : Condition) flt, c.Gives t f flt → ∃ b, accept flt = .ok b) :
    ∃ b, Filter.allHold accept chain = .ok b ∧ (b = true ↔ ∀ flt ∈ chain, accept flt = .ok true) :=
  Filter.allHold_total fun flt hflt =>
    let ⟨c, _, hg⟩ := (hc flt).1 hflt
    h c flt hg

/-! ## The parts of a key -/

theorem onKey (ht : t.Valid st) (hc : fs.Covers t cs) (hk : k ∈ fs.keys) : Plan.OnKey k where
  isKey := (hc.mem_key hk).2
  keyType := ht.keyType (hc.mem_key hk).1 (hc.mem_key hk).2
  unbound := hc.unbound k hk
  made := fun flt hm => let ⟨c, _, hg⟩ := (hc.keyChain k hk flt).1 hm; ⟨c, hg.2⟩

theorem lookup_zip {α : Type} {names : List String} {xs : List α} {x : α} (hn : names.Nodup) {n : String}
    (h : (n, x) ∈ names.zip xs) : (names.zip xs).lookup n = some x := by
  induction names generalizing xs with
  | nil => cases h
  | cons a names ih =>
    cases xs with
    | nil => cases h
    | cons y xs =>
      rw [List.nodup_cons] at hn
      rw [List.zip_cons_cons] at h ⊢
      rw [KeyMap.lookup_cons_if]
      rcases List.mem_cons.1 h with h | h
      · cases h
        rw [if_pos rfl]
      · rw [if_neg fun he : n = a => hn.1 (he ▸ (List.of_mem_zip h).1), ih hn.2 h]

/-- A filter on a part of the key stands at the place of the part. -/
theorem partOf_of_zip (ht : t.Valid st) (hc : fs.Covers t cs) (h : (k, x) ∈ fs.keys.zip parts) :
    t.partOf parts k.field = some x := by
  refine lookup_zip ht.keys_nodup ?_
  rw [← hc.keys, List.map_map, List.zip_map_left]
  exact List.mem_map.2 ⟨(k, x), h, rfl⟩

theorem stored_of_zip (hc : fs.Covers t cs) (hr : t.RowIn d key parts) (h : (k, x) ∈ fs.keys.zip parts) :
    Filter.Stored k.field.type x := by
  have hparts := hr.parts
  rw [← hc.keys, List.forall₂_map_left_iff] at hparts
  exact (List.forall₂_iff_zip.1 hparts).2 h

theorem mem_zip_of_key (hc : fs.Covers t cs) (hr : t.RowIn d key parts) (hf : f ∈ t.fields)
    (hk : f.isKey = true) : ∃ kx ∈ fs.keys.zip parts, kx.1.field = f := by
  have hmem := Table.mem_keyFields.2 ⟨hf, hk⟩
  rw [← hc.keys] at hmem
  obtain ⟨i, hi, he⟩ := List.mem_iff_getElem.1 hmem
  have hlen : fs.keys.length = parts.length := by
    rw [← hr.parts.length_eq, ← hc.keys, List.length_map]
  rw [List.length_map] at hi
  refine ⟨(fs.keys[i], parts.get ⟨i, hlen ▸ hi⟩), ?_, ?_⟩
  · exact List.mem_iff_getElem.2 ⟨i, by rw [List.length_zip]; omega, List.getElem_zip⟩
  · rw [List.getElem_map] at he
    exact he

/-- Whether the parts of a key are the values that a plan binds them to. -/
def Plan.Bound (p : Plan) (parts : List String) : Prop :=
  ∀ kx ∈ p.keys.zip parts, ∀ v, kx.1.bound = some v → kx.2 = v

variable {p : Plan}

theorem zip_bind (hp : p.keys = fs.keys.map Plan.bind) :
    p.keys.zip parts = (fs.keys.zip parts).map fun kx => (Plan.bind kx.1, kx.2) := by
  rw [hp, List.zip_map_left]
  rfl

/-- All filters on a key, equations included, say what the conditions on its parts mean. -/
theorem keyChains_iff (ht : t.Valid st) (hc : fs.Covers t cs) (hr : t.RowIn d key parts) :
    (∀ kx ∈ fs.keys.zip parts, ∀ flt ∈ kx.1.chain, flt.accepts (some kx.1.field.type) kx.2 = .ok true) ↔
      ∀ c ∈ cs, ∀ f, t.field? c.column = some f → f.isKey = true → c.holdsAt t d key parts = .ok true := by
  have hholds {c : Condition} {kx : KeyFilter × String} (hkx : kx ∈ fs.keys.zip parts)
      (hf : t.field? c.column = some kx.1.field) : c.holdsAt t d key parts = c.passes kx.1.field kx.2 := by
    unfold Condition.holdsAt
    simp only [hf]
    rw [if_pos (onKey ht hc (List.of_mem_zip hkx).1).isKey, partOf_of_zip ht hc hkx]
    rfl
  have hcomplete : ∀ c ∈ cs, ∃ f flt, c.Gives t f flt := fun c hcs =>
    let ⟨f, flt, hg, _⟩ := hc.complete c hcs
    ⟨f, flt, hg⟩
  have hone : ∀ kx ∈ fs.keys.zip parts, ((∀ flt ∈ kx.1.chain,
      flt.accepts (some kx.1.field.type) kx.2 = .ok true) ↔
        ∀ c ∈ cs, t.field? c.column = some kx.1.field → c.passes kx.1.field kx.2 = .ok true) := fun kx hkx =>
    chain_iff (hc.keyChain kx.1 (List.of_mem_zip hkx).1) hcomplete fun c flt hg => passes_of_gives hg kx.2
  constructor
  · intro h c hcs f hf hk
    obtain ⟨kx, hkx, rfl⟩ := mem_zip_of_key hc hr (Table.mem_of_field? hf).1 hk
    rw [hholds hkx hf]
    exact (hone kx hkx).1 (h kx hkx) c hcs hf
  · intro h kx hkx
    refine (hone kx hkx).2 fun c hcs hf => ?_
    rw [← hholds hkx hf]
    exact h c hcs _ hf (onKey ht hc (List.of_mem_zip hkx).1).isKey

/-- The bound values and the filters that are left on a key say what the conditions on its parts mean. -/
theorem keyAccepted_iff (ht : t.Valid st) (hc : fs.Covers t cs) (hp : p.keys = fs.keys.map Plan.bind)
    (hr : t.RowIn d key parts) : ∃ a, Scan.keyAccepted p parts = .ok a ∧
      (a = true ∧ p.Bound parts ↔ ∀ c ∈ cs, ∀ f, t.field? c.column = some f → f.isKey = true →
        c.holdsAt t d key parts = .ok true) := by
  have hchain : ∀ kx ∈ fs.keys.zip parts, ∃ b,
      Filter.chainAccepts (Plan.bind kx.1).chain (Plan.bind kx.1).field.type (some kx.2) = .ok b ∧
        (b = true ↔ ∀ flt ∈ (Plan.bind kx.1).chain, flt.accepts (some kx.1.field.type) kx.2 = .ok true) := by
    rintro ⟨k, x⟩ hkx
    have hk := onKey ht hc (List.of_mem_zip hkx).1
    rw [Plan.bind_field]
    refine Filter.allHold_total fun flt hflt => ?_
    obtain ⟨c, hg⟩ := hk.made flt (Plan.mem_of_bind hflt)
    exact Filter.accepts_readable hg (readable_of_stored (stored_of_zip hc hr hkx) hk.isFloat)
  obtain ⟨a, ha, hiff⟩ := Filter.allHold_total (l := p.keys.zip parts)
    (p := fun kx : KeyFilter × String => Filter.chainAccepts kx.1.chain kx.1.field.type (some kx.2))
    fun kx hkx => by
      rw [zip_bind hp] at hkx
      obtain ⟨ky, hky, rfl⟩ := List.mem_map.1 hkx
      obtain ⟨b, hb, -⟩ := hchain ky hky
      exact ⟨b, hb⟩
  refine ⟨a, ha, ?_⟩
  rw [← keyChains_iff ht hc hr, hiff, Plan.Bound, zip_bind hp]
  simp only [List.forall_mem_map]
  rw [← forall₂_and]
  refine forall₂_congr fun kx hkx => ?_
  obtain ⟨b, hb, hb'⟩ := hchain kx hkx
  rw [Plan.bind_accepts (onKey ht hc (List.of_mem_zip hkx).1) (stored_of_zip hc hr hkx), hb,
    Except.ok.injEq, hb', and_comm]

/-! ## Attributes -/

/-- Whether what was read of an attribute passes the filters on it. -/
def FetchFilter.passes (g : FetchFilter) : Fetched → Except EvalError Bool
  | .members ms => Filter.chainAcceptsSet g.chain ms
  | y => Filter.chainAccepts g.chain g.field.type y.text?

theorem attributesAccepted_eq (fetched : List Fetched) : Scan.attributesAccepted p fetched =
    Filter.allHold (fun gy => gy.1.passes gy.2) (p.fetches.zip fetched) := by
  unfold Scan.attributesAccepted
  simp only []
  congr 1
  funext ⟨g, y⟩
  cases y <;> rfl

/-- A plan without conditions on the parts of a key accepts them all. -/
theorem keyAccepted_of_nil (h : ∀ k ∈ p.keys, k.chain = []) (parts : List String) :
    Scan.keyAccepted p parts = .ok true := by
  have hall : ∀ kx ∈ p.keys.zip parts, Filter.chainAccepts kx.1.chain kx.1.field.type (some kx.2) = .ok true := by
    intro kx hkx
    rw [h _ (List.of_mem_zip hkx).1]
    rfl
  obtain ⟨b, hb, hiff⟩ := Filter.allHold_total fun kx hkx => ⟨true, hall kx hkx⟩
  rw [← hiff.2 hall]
  exact hb

/-- A plan without conditions on attributes accepts them all. -/
theorem attributesAccepted_of_nil (h : ∀ g ∈ p.fetches, g.chain = []) (fetched : List Fetched) :
    Scan.attributesAccepted p fetched = .ok true := by
  have hall : ∀ gy ∈ p.fetches.zip fetched, gy.1.passes gy.2 = .ok true := by
    rintro ⟨g, y⟩ hgy
    have hnil : g.chain = [] := h g (List.of_mem_zip hgy).1
    cases y with
    | missing => exact congrArg (fun c => Filter.chainAccepts c g.field.type none) hnil
    | value b => exact congrArg (fun c => Filter.chainAccepts c g.field.type (some (Utf8.decodeLossy b))) hnil
    | members ms =>
      show Filter.chainAcceptsSet g.chain ms = .ok true
      rw [hnil, Filter.chainAcceptsSet]
      split <;> rfl
  obtain ⟨b, hb, hiff⟩ := Filter.allHold_total fun gy hgy => ⟨true, hall gy hgy⟩
  rw [attributesAccepted_eq, ← hiff.2 hall]
  exact hb

/-- A missing value passes just the empty chain. -/
theorem missing_iff (hc : Chained t cs f chain) (hall : ∀ c ∈ cs, ∃ f flt, c.Gives t f flt)
    {pass : Condition → Except EvalError Bool} (h : ∀ c, pass c = .ok false) (type : ValueType) :
    ∃ b, Filter.chainAccepts chain type none = .ok b ∧
      (b = true ↔ ∀ c ∈ cs, t.field? c.column = some f → pass c = .ok true) := by
  refine ⟨chain.isEmpty, rfl, ?_⟩
  rw [← chain_iff hc hall (a := fun _ => .ok false) fun c _ _ => (h c).symm, List.isEmpty_iff,
    List.eq_nil_iff_forall_not_mem]
  simp

/-- The filters on an attribute say what the conditions on it mean. -/
theorem fetched_iff (hc : fs.Covers t cs) (hr : t.RowIn d key parts) (hg : g ∈ fs.fetches) :
    ∃ b, g.passes (fetchedOf d key g.field) = .ok b ∧ (b = true ↔ ∀ c ∈ cs,
      t.field? c.column = some g.field → c.passesStored d key g.field = .ok true) := by
  obtain ⟨hfield, hkey⟩ := hc.fetched g hg
  have hchain := hc.fetchChain g hg
  have hcomplete : ∀ c ∈ cs, ∃ f flt, c.Gives t f flt := fun c hcs =>
    let ⟨f, flt, hg, _⟩ := hc.complete c hcs
    ⟨f, flt, hg⟩
  unfold fetchedOf
  cases hset : g.field.type.isSet with
  | true =>
    rw [if_pos rfl]
    simp only []
    have hpass (c : Condition) : c.passesStored d key g.field =
        c.passesSet g.field (membersOf d key g.field.name) := by
      unfold Condition.passesStored
      rw [if_pos hset]
    cases hms : membersOf d key g.field.name with
    | nil =>
      refine missing_iff hchain hcomplete (fun c => ?_) g.field.type
      rw [hpass, hms]
      rfl
    | cons m ms =>
      have htotal : ∀ (c : Condition) flt, c.Gives t g.field flt → ∃ b, flt.acceptsSet (m :: ms) = .ok b := by
        intro c flt hgives
        rw [passesSet_of_gives hgives hset (List.cons_ne_nil m ms)]
        exact passesSet_total hgives hset _
      obtain ⟨b, hb, hiff⟩ := chain_total hchain htotal
      refine ⟨b, hb, hiff.trans ?_⟩
      refine chain_iff hchain hcomplete fun c flt hgives => ?_
      rw [hpass, hms, passesSet_of_gives hgives hset (List.cons_ne_nil m ms)]
  | false =>
    rw [if_neg Bool.false_ne_true]
    have hpass (c : Condition) : c.passesStored d key g.field =
        c.passesAny g.field ((plainOf d key g.field.name).map Utf8.decodeLossy) := by
      unfold Condition.passesStored
      rw [if_neg (by rw [hset]; exact Bool.false_ne_true)]
    cases hv : plainOf d key g.field.name with
    | none =>
      refine missing_iff hchain hcomplete (fun c => ?_) g.field.type
      rw [hpass, hv]
      rfl
    | some v =>
      have hplain : g.field.isPlain = true := by
        unfold Field.isPlain
        rw [hkey, hset]
        rfl
      have hread := hr.readable g.field hfield hplain v hv
      obtain ⟨b, hb, hiff⟩ := chain_total hchain fun c flt hgives =>
        Filter.accepts_readable hgives.2 hread
      refine ⟨b, hb, hiff.trans ?_⟩
      refine chain_iff hchain hcomplete fun c flt hgives => ?_
      rw [hpass, hv, passes_of_gives hgives]
      rfl

/-- The filters on the attributes of a row say what the conditions on them mean. -/
theorem attributesAccepted_iff (hc : fs.Covers t cs) (hp : p.fetches = fs.fetches)
    (hr : t.RowIn d key parts) :
    ∃ b, Scan.attributesAccepted p (p.fetches.map fun g => fetchedOf d key g.field) = .ok b ∧
      (b = true ↔ ∀ c ∈ cs, ∀ f, t.field? c.column = some f → f.isKey = false →
        c.holdsAt t d key parts = .ok true) := by
  have hzip : p.fetches.zip (p.fetches.map fun g => fetchedOf d key g.field) =
      fs.fetches.map fun g => (g, fetchedOf d key g.field) := by
    rw [hp, List.zip_map_right, List.zip, List.zipWith_self, List.map_map]
    rfl
  rw [attributesAccepted_eq, hzip]
  obtain ⟨b, hb, hiff⟩ := Filter.allHold_total
    (l := fs.fetches.map fun g => (g, fetchedOf d key g.field))
    (p := fun gy : FetchFilter × Fetched => gy.1.passes gy.2) fun gy hgy => by
      obtain ⟨g, hg, rfl⟩ := List.mem_map.1 hgy
      obtain ⟨b, hb, -⟩ := fetched_iff hc hr hg
      exact ⟨b, hb⟩
  refine ⟨b, hb, ?_⟩
  rw [hiff]
  simp only [List.forall_mem_map]
  have hholds {c : Condition} {f : Field} (hf : t.field? c.column = some f) (hk : f.isKey = false) :
      c.holdsAt t d key parts = c.passesStored d key f := by
    unfold Condition.holdsAt
    simp only [hf]
    rw [if_neg (by rw [hk]; exact Bool.false_ne_true)]
  have hone : ∀ g ∈ fs.fetches, (g.passes (fetchedOf d key g.field) = .ok true ↔
      ∀ c ∈ cs, t.field? c.column = some g.field → c.passesStored d key g.field = .ok true) := by
    intro g hg
    obtain ⟨b, hb, hiff⟩ := fetched_iff hc hr hg
    rw [hb, Except.ok.injEq, hiff]
  constructor
  · intro h c hcs f hf hk
    obtain ⟨f', flt, hgives, hread⟩ := hc.complete c hcs
    obtain rfl : f = f' := Option.some.inj (hf.symm.trans hgives.1)
    obtain ⟨g, hg, rfl⟩ := hread hk
    rw [hholds hf hk]
    exact (hone g hg).1 (h g hg) c hcs hf
  · intro h g hg
    refine (hone g hg).2 fun c hcs hf => ?_
    have hk := (hc.fetched g hg).2
    rw [← hholds hf hk]
    exact h c hcs _ hf hk

/-! ## All conditions -/

/-- On a row as it is kept, no condition fails. -/
theorem holdsAt_total (ht : t.Valid st) (hc : fs.Covers t cs) (hr : t.RowIn d key parts) (hcs : c ∈ cs) :
    ∃ b, c.holdsAt t d key parts = .ok b := by
  obtain ⟨f, flt, hg, -⟩ := hc.complete c hcs
  have hf := (Table.mem_of_field? hg.1).1
  unfold Condition.holdsAt
  simp only [hg.1]
  split
  · next hk =>
    obtain ⟨⟨k, x⟩, hkx, rfl⟩ := mem_zip_of_key hc hr hf hk
    refine passesAny_total hg fun y hy => ?_
    have hxy : x = y := Option.some.inj ((partOf_of_zip ht hc hkx).symm.trans hy)
    subst hxy
    exact readable_of_stored (stored_of_zip hc hr hkx) (onKey ht hc (List.of_mem_zip hkx).1).isFloat
  · next hk => exact passesStored_total hr hg hf (by simpa using hk)

/-- What a plan says of a row is what its conditions mean: neither its filters nor the values that it binds
parts to lose or add a row. -/
theorem verdict (ht : t.Valid st) (hc : fs.Covers t cs) (hk : p.keys = fs.keys.map Plan.bind)
    (hf : p.fetches = fs.fetches) (hr : t.RowIn d key parts) : ∃ a b,
    Scan.keyAccepted p parts = .ok a ∧
      Scan.attributesAccepted p (p.fetches.map fun g => fetchedOf d key g.field) = .ok b ∧
      ((a && b) = true ∧ p.Bound parts ↔ ∀ c ∈ cs, c.holdsAt t d key parts = .ok true) := by
  obtain ⟨a, ha, ha'⟩ := keyAccepted_iff ht hc hk hr
  obtain ⟨b, hb, hb'⟩ := attributesAccepted_iff hc hf hr
  refine ⟨a, b, ha, hb, ?_⟩
  have hboth : (a && b) = true ∧ p.Bound parts ↔ (a = true ∧ p.Bound parts) ∧ b = true := by
    rw [Bool.and_eq_true]
    exact ⟨fun h => ⟨⟨h.1.1, h.2⟩, h.1.2⟩, fun h => ⟨⟨h.1.1, h.2⟩, h.1.2⟩⟩
  rw [hboth, ha', hb']
  constructor
  · rintro ⟨h1, h2⟩ c hcs
    obtain ⟨f, flt, hg, -⟩ := hc.complete c hcs
    cases hkey : f.isKey with
    | true => exact h1 c hcs f hg.1 hkey
    | false => exact h2 c hcs f hg.1 hkey
  · exact fun h => ⟨fun c hcs _ _ _ => h c hcs, fun c hcs _ _ _ => h c hcs⟩

end SlotSql
