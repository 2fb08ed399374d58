import SlotSql.Plan.Build
import SlotSql.Proofs.Table
/-!
# What plans are made of

Conditions are taken in one by one, and the items of a query after them. At every stage the filters on a
column are those of the conditions on it, and every attribute with a condition is read; the items only add
attributes without conditions.

Results:
* `addCondition_covers`, `addItems_covers`: one step of each kind.
* `build_iff`, `build_eq_ok`: what a plan consists of.
* `build_count`: counting reads no more than any other query with the same conditions.
-/
namespace SlotSql

/-- A result of two steps is a result of the second on one of the first. -/
theorem except_bind_eq_ok {ε α β : Type} {x : Except ε α} {f : α → Except ε β} {b : β} :
    (x >>= f) = .ok b ↔ ∃ a, x = .ok a ∧ f a = .ok b := by
  cases x with
  | error e =>
    constructor
    · rintro ⟨⟩
    · rintro ⟨a, ⟨⟩, -⟩
  | ok a =>
    constructor
    · exact fun h => ⟨a, rfl, h⟩
    · rintro ⟨a', ha, h⟩
      cases ha
      exact h

/-- A result that is there is the one that stands in for it otherwise. -/
theorem eq_ok_of_isOk {ε α : Type} {x : Except ε α} (h : x.isOk = true) (a : α) : x = .ok (x.toOption.getD a) := by
  cases x with
  | error e => cases h
  | ok b => rfl

theorem mapM_eq_ok {α β ε : Type} {f : α → Except ε β} {as : List α} {bs : List β} :
    as.mapM f = .ok bs ↔ as.Forall₂ (fun a b => f a = .ok b) bs := by
  induction as generalizing bs with
  | nil =>
    cases bs with
    | nil => exact iff_of_true rfl .nil
    | cons b bs => exact iff_of_false (fun h => nomatch h) fun h => nomatch h
  | cons a as ih =>
    rw [List.mapM_cons, except_bind_eq_ok]
    constructor
    · rintro ⟨b, hb, h⟩
      obtain ⟨cs, hcs, h⟩ := except_bind_eq_ok.1 h
      cases h
      exact .cons hb (ih.1 hcs)
    · intro h
      cases h with
      | cons hb hrest => exact ⟨_, hb, by rw [ih.2 hrest]; rfl⟩

/-! ## The first element of a kind -/

section Modify

variable {α : Type} {p : α → Bool} {f : α → α} {l : List α} {i : Nat}

/-- Changing the first of the elements that satisfy a condition changes all, if there is just one. -/
theorem modify_findIdx? (h : l.findIdx? p = some i) (hu : l.Pairwise fun a b => ¬ (p a = true ∧ p b = true)) :
    l.modify i f = l.map fun a => if p a = true then f a else a := by
  induction l generalizing i with
  | nil => cases h
  | cons a l ih =>
    obtain ⟨h1, h2⟩ := List.pairwise_cons.1 hu
    rw [List.findIdx?_cons] at h
    by_cases ha : p a = true
    · rw [if_pos ha] at h
      cases h
      rw [List.modify_zero_cons, List.map_cons, if_pos ha]
      refine congrArg _ (Eq.symm ?_)
      refine (List.map_congr_left fun b hb => ?_).trans (List.map_id l)
      rw [if_neg fun hp => h1 b hb ⟨ha, hp⟩]
      rfl
    · rw [if_neg ha] at h
      obtain ⟨j, hj, rfl⟩ := Option.map_eq_some_iff.1 h
      rw [List.modify_succ_cons, ih hj h2, List.map_cons, if_neg ha]

theorem pairwise_name {name : α → String} (h : (l.map name).Nodup) (n : String) :
    l.Pairwise fun a b => ¬ ((name a == n) = true ∧ (name b == n) = true) := by
  rw [List.Nodup, List.pairwise_map] at h
  refine h.imp fun hab => ?_
  rintro ⟨ha, hb⟩
  exact hab ((beq_iff_eq.1 ha).trans (beq_iff_eq.1 hb).symm)

end Modify

/-- A condition gives a filter on a column. -/
def Condition.Gives (t : Table) (c : Condition) (f : Field) (flt : Filter) : Prop :=
  t.field? c.column = some f ∧ Plan.filterFor f c = .ok flt

/-- A chain has the filters that conditions give on a column. -/
def Chained (t : Table) (cs : List Condition) (f : Field) (chain : List Filter) : Prop :=
  ∀ flt, flt ∈ chain ↔ ∃ c ∈ cs, c.Gives t f flt

section Chained

variable {t : Table} {cs : List Condition} {c : Condition} {f g : Field} {flt : Filter} {chain : List Filter}

theorem Chained.take (h : Chained t cs f chain) (hc : c.Gives t f flt) :
    Chained t (cs ++ [c]) f (chain ++ [flt]) := by
  intro flt'
  rw [List.mem_append, h flt', List.mem_singleton]
  constructor
  · rintro (⟨c', hc', hg⟩ | rfl)
    · exact ⟨c', List.mem_append_left _ hc', hg⟩
    · exact ⟨c, List.mem_append_right _ (List.mem_singleton_self c), hc⟩
  · rintro ⟨c', hc', hg⟩
    rcases List.mem_append.1 hc' with hc' | hc'
    · exact .inl ⟨c', hc', hg⟩
    · rw [List.mem_singleton.1 hc'] at hg
      exact .inr (Except.ok.inj (hg.2.symm.trans hc.2))

theorem Chained.skip (h : Chained t cs g chain) (hc : c.Gives t f flt) (hne : g ≠ f) :
    Chained t (cs ++ [c]) g chain := by
  intro flt'
  rw [h flt']
  constructor
  · rintro ⟨c', hc', hg⟩
    exact ⟨c', List.mem_append_left _ hc', hg⟩
  · rintro ⟨c', hc', hg⟩
    rcases List.mem_append.1 hc' with hc' | hc'
    · exact ⟨c', hc', hg⟩
    · rw [List.mem_singleton.1 hc'] at hg
      exact absurd (Option.some.inj (hg.1.symm.trans hc.1)) hne

end Chained

namespace Plan.Filters

variable {t : Table} {st : Settings} {cs : List Condition} {c : Condition} {fs fs' : Filters} {f : Field}
  {flt : Filter}

/-- Filters that are those of some conditions, column by column. -/
structure Covers (t : Table) (cs : List Condition) (fs : Filters) : Prop where
  keys : fs.keys.map KeyFilter.field = t.keyFields
  unbound : ∀ k ∈ fs.keys, k.bound = none
  keyChain : ∀ k ∈ fs.keys, Chained t cs k.field k.chain
  fetched : ∀ g ∈ fs.fetches, g.field ∈ t.fields ∧ g.field.isKey = false
  nodup : ((fs.fetches.map FetchFilter.field).map Field.name).Nodup
  fetchChain : ∀ g ∈ fs.fetches, Chained t cs g.field g.chain
  complete : ∀ c ∈ cs, ∃ f flt, c.Gives t f flt ∧ (f.isKey = false → ∃ g ∈ fs.fetches, g.field = f)

theorem covers_start (t : Table) : Covers t [] { keys := t.keyFields.map fun f => { field := f } } where
  keys := by
    rw [List.map_map]
    exact List.map_id _
  unbound := by
    intro k hk
    obtain ⟨f, -, rfl⟩ := List.mem_map.1 hk
    rfl
  keyChain := by
    intro k hk flt
    obtain ⟨f, -, rfl⟩ := List.mem_map.1 hk
    simp
  fetched := by simp
  nodup := List.nodup_nil
  fetchChain := by simp
  complete := by simp

/-! ## Columns and their places -/

theorem Covers.keys_nodup (h : fs.Covers t cs) (ht : t.Valid st) :
    (fs.keys.map fun k => k.field.name).Nodup := by
  have := ht.keys_nodup
  rw [← h.keys, List.map_map] at this
  exact this

theorem Covers.mem_key {k : KeyFilter} (h : fs.Covers t cs) (hk : k ∈ fs.keys) :
    k.field ∈ t.fields ∧ k.field.isKey = true := by
  rw [← Table.mem_keyFields, ← h.keys]
  exact List.mem_map_of_mem hk

/-- A column has a place in the row key just when it is a part of it. -/
theorem Covers.keyIndex?_eq_none (h : fs.Covers t cs) (ht : t.Valid st) (hf : f ∈ t.fields) :
    fs.keyIndex? f = none ↔ f.isKey = false := by
  unfold keyIndex?
  rw [List.findIdx?_eq_none_iff]
  constructor
  · intro hn
    by_contra hk
    have hmem := Table.mem_keyFields.2 ⟨hf, by simpa using hk⟩
    rw [← h.keys] at hmem
    obtain ⟨k, hk', rfl⟩ := List.mem_map.1 hmem
    have := hn k hk'
    simp at this
  · intro hk k hmem
    obtain ⟨h1, h2⟩ := h.mem_key hmem
    rw [beq_eq_false_iff_ne]
    intro he
    rw [ht.eq_of_name h1 hf he, hk] at h2
    cases h2

/-- Reading an attribute: it has a place then, and nothing else changes. -/
theorem Covers.fetch (h : fs.Covers t cs) (hf : f ∈ t.fields) (hk : f.isKey = false) :
    (fs.fetch f).2.Covers t cs ∧
      (fs.fetch f).2.fetches.findIdx? (fun g => g.field.name == f.name) = some (fs.fetch f).1 := by
  unfold Filters.fetch
  split
  · next i hi => exact ⟨h, hi⟩
  · next hnone =>
    rw [List.findIdx?_eq_none_iff] at hnone
    have hnew : ∀ g ∈ fs.fetches, g.field.name ≠ f.name := fun g hg => by simpa using hnone g hg
    refine ⟨⟨h.keys, h.unbound, h.keyChain, ?_, ?_, ?_, ?_⟩, ?_⟩
    · intro g hg
      rcases List.mem_append.1 hg with hg | hg
      · exact h.fetched g hg
      · rw [List.mem_singleton.1 hg]
        exact ⟨hf, hk⟩
    · rw [List.map_append, List.map_append, List.nodup_append]
      refine ⟨h.nodup, List.nodup_singleton _, ?_⟩
      rintro a ha b hb rfl
      rw [List.map_map] at ha
      obtain ⟨g, hg, rfl⟩ := List.mem_map.1 ha
      exact hnew g hg (List.mem_singleton.1 hb)
    · intro g hg flt
      rcases List.mem_append.1 hg with hg | hg
      · exact h.fetchChain g hg flt
      · rw [List.mem_singleton.1 hg]
        -- No condition is on the new column, or it would have been read before.
        simp only [List.not_mem_nil, false_iff, not_exists, not_and]
        intro c hc hgives
        obtain ⟨f', flt', hgives', hread⟩ := h.complete c hc
        have hff : f' = f := Option.some.inj (hgives'.1.symm.trans hgives.1)
        subst hff
        obtain ⟨g', hg', hfield⟩ := hread hk
        exact hnew g' hg' (by rw [hfield])
    · intro c hc
      obtain ⟨f', flt, h1, h2⟩ := h.complete c hc
      refine ⟨f', flt, h1, fun hk' => ?_⟩
      obtain ⟨g, hg, he⟩ := h2 hk'
      exact ⟨g, List.mem_append_left _ hg, he⟩
    · rw [List.findIdx?_append, List.findIdx?_eq_none_iff.2 hnone]
      simp

/-- Taking in the filter of a condition on a part of the row key. -/
theorem Covers.takeKey (h : fs.Covers t cs) (ht : t.Valid st) {i : Nat} (hi : fs.keyIndex? f = some i)
    (hf : f ∈ t.fields) (hg : c.Gives t f flt) :
    ({ fs with keys := fs.keys.modify i fun k => { k with chain := k.chain ++ [flt] } } : Filters).Covers t
      (cs ++ [c]) := by
  have hmap : fs.keys.modify i (fun k => { k with chain := k.chain ++ [flt] }) = fs.keys.map fun k =>
      if (k.field.name == f.name) = true then { k with chain := k.chain ++ [flt] } else k :=
    modify_findIdx? hi (pairwise_name (h.keys_nodup ht) f.name)
  have hkey : f.isKey = true := by
    cases hk : f.isKey with
    | true => rfl
    | false => rw [(h.keyIndex?_eq_none ht hf).2 hk] at hi; cases hi
  rw [hmap]
  refine ⟨?_, ?_, ?_, h.fetched, h.nodup, ?_, ?_⟩
  · rw [← h.keys, List.map_map]
    refine List.map_congr_left fun k _ => ?_
    simp only [Function.comp]
    split <;> rfl
  · intro k hk
    obtain ⟨k₀, hk₀, rfl⟩ := List.mem_map.1 hk
    split <;> exact h.unbound k₀ hk₀
  · intro k hk
    obtain ⟨k₀, hk₀, rfl⟩ := List.mem_map.1 hk
    split
    · next hname =>
      obtain rfl : k₀.field = f := ht.eq_of_name (h.mem_key hk₀).1 hf (beq_iff_eq.1 hname)
      exact (h.keyChain k₀ hk₀).take hg
    · next hname => exact (h.keyChain k₀ hk₀).skip hg fun he => hname (by rw [he, beq_self_eq_true])
  · intro g hmem
    refine (h.fetchChain g hmem).skip hg fun he => ?_
    rw [← he, (h.fetched g hmem).2] at hkey
    cases hkey
  · intro c' hc'
    rcases List.mem_append.1 hc' with hc' | hc'
    · exact h.complete c' hc'
    · rw [List.mem_singleton.1 hc']
      exact ⟨f, flt, hg, fun hk => by rw [hkey] at hk; cases hk⟩

/-- Taking in the filter of a condition on an attribute that is read. -/
theorem Covers.takeFetch (h : fs.Covers t cs) (ht : t.Valid st) {i : Nat}
    (hi : fs.fetches.findIdx? (fun g => g.field.name == f.name) = some i) (hf : f ∈ t.fields)
    (hk : f.isKey = false) (hg : c.Gives t f flt) :
    ({ fs with fetches := fs.fetches.modify i fun g => { g with chain := g.chain ++ [flt] } } : Filters).Covers
      t (cs ++ [c]) := by
  have hmap : fs.fetches.modify i (fun g => { g with chain := g.chain ++ [flt] }) = fs.fetches.map fun g =>
      if (g.field.name == f.name) = true then { g with chain := g.chain ++ [flt] } else g :=
    modify_findIdx? hi (pairwise_name (by have := h.nodup; rw [List.map_map] at this; exact this) f.name)
  have hfields : (fs.fetches.map fun g => if (g.field.name == f.name) = true then
      { g with chain := g.chain ++ [flt] } else g).map FetchFilter.field = fs.fetches.map FetchFilter.field := by
    rw [List.map_map]
    refine List.map_congr_left fun g _ => ?_
    simp only [Function.comp]
    split <;> rfl
  rw [hmap]
  refine ⟨h.keys, h.unbound, ?_, ?_, ?_, ?_, ?_⟩
  · intro k hmem
    refine (h.keyChain k hmem).skip hg fun he => ?_
    have := (h.mem_key hmem).2
    rw [he, hk] at this
    cases this
  · intro g hmem
    obtain ⟨g₀, hg₀, rfl⟩ := List.mem_map.1 hmem
    split <;> exact h.fetched g₀ hg₀
  · show ((List.map FetchFilter.field (List.map _ _)).map Field.name).Nodup
    rw [hfields]
    exact h.nodup
  · intro g hmem
    obtain ⟨g₀, hg₀, rfl⟩ := List.mem_map.1 hmem
    split
    · next hname =>
      obtain rfl : g₀.field = f := ht.eq_of_name (h.fetched g₀ hg₀).1 hf (beq_iff_eq.1 hname)
      exact (h.fetchChain g₀ hg₀).take hg
    · next hname => exact (h.fetchChain g₀ hg₀).skip hg fun he => hname (by rw [he, beq_self_eq_true])
  · have hread {f' : Field} (h' : ∃ g ∈ fs.fetches, g.field = f') : ∃ g ∈ fs.fetches.map fun g =>
        if (g.field.name == f.name) = true then { g with chain := g.chain ++ [flt] } else g,
        g.field = f' := by
      obtain ⟨g, hmem, rfl⟩ := h'
      have := List.mem_map_of_mem (f := FetchFilter.field) hmem
      rw [← hfields] at this
      exact List.mem_map.1 this
    intro c' hc'
    rcases List.mem_append.1 hc' with hc' | hc'
    · obtain ⟨f', flt', h1, h2⟩ := h.complete c' hc'
      exact ⟨f', flt', h1, fun hk' => hread (h2 hk')⟩
    · rw [List.mem_singleton.1 hc']
      refine ⟨f, flt, hg, fun _ => hread ?_⟩
      obtain ⟨hlt, hname, -⟩ := List.findIdx?_eq_some_iff_getElem.1 hi
      have hmem := List.getElem_mem hlt
      exact ⟨_, hmem, ht.eq_of_name (h.fetched _ hmem).1 hf (beq_iff_eq.1 hname)⟩

/-! ## Conditions -/

theorem fieldOf_eq_ok {name : String} : fieldOf t name = .ok f ↔ t.field? name = some f := by
  unfold fieldOf
  cases t.field? name with
  | none => simp
  | some g => simp

/-- Taking in a condition. -/
theorem addCondition_covers (ht : t.Valid st) (h : fs.Covers t cs)
    (ha : addCondition t fs c = .ok fs') : fs'.Covers t (cs ++ [c]) := by
  unfold addCondition at ha
  obtain ⟨f, hf, ha⟩ := except_bind_eq_ok.1 ha
  obtain ⟨flt, hflt, ha⟩ := except_bind_eq_ok.1 ha
  have hf := fieldOf_eq_ok.1 hf
  have hmem := (Table.mem_of_field? hf).1
  have hg : c.Gives t f flt := ⟨hf, hflt⟩
  split at ha
  · next i hi =>
    cases ha
    exact h.takeKey ht hi hmem hg
  · next hi =>
    cases ha
    have hk := (h.keyIndex?_eq_none ht hmem).1 hi
    obtain ⟨h1, h2⟩ := h.fetch hmem hk
    exact h1.takeFetch ht h2 hmem hk hg

/-- Taking in conditions. -/
theorem conditions_cover (ht : t.Valid st) {more : List Condition} (h : fs.Covers t cs)
    (ha : more.foldlM (addCondition t) fs = .ok fs') : fs'.Covers t (cs ++ more) := by
  induction more generalizing cs fs with
  | nil =>
    cases ha
    rw [List.append_nil]
    exact h
  | cons c more ih =>
    rw [List.foldlM_cons] at ha
    obtain ⟨fs₁, hc, ha⟩ := except_bind_eq_ok.1 ha
    rw [List.append_cons]
    exact ih (addCondition_covers ht h hc) ha

/-! ## Items -/

theorem Covers.congr (h : fs.Covers t cs) (hk : fs'.keys = fs.keys)
    (hf : (fs'.fetches.map fun g => (g.field, g.chain)) = fs.fetches.map fun g => (g.field, g.chain)) :
    fs'.Covers t cs := by
  have hfields : fs'.fetches.map FetchFilter.field = fs.fetches.map FetchFilter.field := by
    have := congrArg (List.map Prod.fst) hf
    rw [List.map_map, List.map_map] at this
    exact this
  have hmem {g : FetchFilter} (hg : g ∈ fs'.fetches) : ∃ g₀ ∈ fs.fetches, g₀.field = g.field ∧ g₀.chain = g.chain := by
    have := List.mem_map_of_mem (f := fun g : FetchFilter => (g.field, g.chain)) hg
    rw [hf] at this
    obtain ⟨g₀, hg₀, he⟩ := List.mem_map.1 this
    exact ⟨g₀, hg₀, congrArg Prod.fst he, congrArg Prod.snd he⟩
  refine ⟨hk ▸ h.keys, hk ▸ h.unbound, hk ▸ h.keyChain, ?_, hfields ▸ h.nodup, ?_, ?_⟩
  · intro g hg
    obtain ⟨g₀, hg₀, he, -⟩ := hmem hg
    exact he ▸ h.fetched g₀ hg₀
  · intro g hg
    obtain ⟨g₀, hg₀, he, hc⟩ := hmem hg
    exact he ▸ hc ▸ h.fetchChain g₀ hg₀
  · intro c hc
    obtain ⟨f, flt, h1, h2⟩ := h.complete c hc
    refine ⟨f, flt, h1, fun hk' => ?_⟩
    obtain ⟨g, hg, rfl⟩ := h2 hk'
    have := List.mem_map_of_mem (f := FetchFilter.field) hg
    rw [← hfields] at this
    exact List.mem_map.1 this

theorem Covers.source (h : fs.Covers t cs) (ht : t.Valid st) (hf : f ∈ t.fields) : (fs.source f).2.Covers t cs := by
  unfold Filters.source
  split
  · exact h
  · next hi => exact (h.fetch hf ((h.keyIndex?_eq_none ht hf).1 hi)).1

/-- Showing a column changes neither which attributes are read nor their filters. -/
theorem fetches_addField {α : Type} (fs : Filters) (f : Field) {get : FetchFilter → α}
    (hget : ∀ g : FetchFilter, get { g with projected := true } = get g) :
    (fs.addField f).2.fetches.map get = (fs.source f).2.fetches.map get := by
  unfold Filters.addField
  simp only []
  split
  · rfl
  · refine List.ext_getElem? fun j => ?_
    rw [List.getElem?_map, List.getElem?_map, List.getElem?_modify]
    cases (fs.source f).2.fetches[j]? with
    | none => rfl
    | some g =>
      simp only [Option.map_eq_map, Option.map_some]
      split
      · rw [hget]
      · rfl

theorem Covers.addField (h : fs.Covers t cs) (ht : t.Valid st) (hf : f ∈ t.fields) :
    (fs.addField f).2.Covers t cs := by
  refine (h.source ht hf).congr ?_ (fetches_addField fs f fun _ => rfl)
  unfold Filters.addField
  simp only []
  split <;> rfl

theorem Covers.addFields (ht : t.Valid st) {more : List Field} (h : fs.Covers t cs)
    (hf : ∀ f ∈ more, f ∈ t.fields) : (fs.addFields more).2.Covers t cs := by
  induction more generalizing fs with
  | nil => exact h
  | cons f more ih =>
    exact ih (h.addField ht (hf f List.mem_cons_self)) fun g hg => hf g (List.mem_cons_of_mem _ hg)

/-- Taking in an item. -/
theorem addItem_covers (ht : t.Valid st) (h : fs.Covers t cs) {alone : Bool} {item : SelectItem} {os : List Output}
    (ha : fs.addItem t alone item = .ok (os, fs')) : fs'.Covers t cs := by
  unfold addItem at ha
  split at ha
  · split at ha <;> cases ha
    exact h
  · have hfs : fs' = (fs.addFields t.fields).2 := by rw [Except.ok.inj ha]
    exact hfs ▸ h.addFields ht fun f hf => hf
  · obtain ⟨f, hf, ha⟩ := except_bind_eq_ok.1 ha
    cases ha
    exact h.addFields ht fun g hg => by
      rw [List.mem_singleton.1 hg]
      exact (Table.mem_of_field? (fieldOf_eq_ok.1 hf)).1
  · split at ha
    · obtain ⟨f, hf, ha⟩ := except_bind_eq_ok.1 ha
      cases ha
      exact h.source ht (Table.mem_of_field? (fieldOf_eq_ok.1 hf)).1
    · cases ha
      exact h

/-- Taking in items. -/
theorem addItems_covers (ht : t.Valid st) {alone : Bool} {items : List SelectItem} {os : List Output}
    (h : fs.Covers t cs) (ha : fs.addItems t alone items = .ok (os, fs')) : fs'.Covers t cs := by
  induction items generalizing fs os with
  | nil => cases ha; exact h
  | cons item items ih =>
    unfold addItems at ha
    obtain ⟨⟨os₁, fs₁⟩, h1, ha⟩ := except_bind_eq_ok.1 ha
    obtain ⟨⟨os₂, fs₂⟩, h2, ha⟩ := except_bind_eq_ok.1 ha
    cases ha
    exact ih (addItem_covers ht h h1) h2

/-- The attributes that are read stay where they are when others are added. -/
def Grows (fs fs' : Filters) : Prop :=
  fs.fetches.map FetchFilter.field <+: fs'.fetches.map FetchFilter.field

theorem Grows.refl (fs : Filters) : Grows fs fs := List.prefix_refl _

theorem Grows.trans {fs'' : Filters} (h : Grows fs fs') (h' : Grows fs' fs'') : Grows fs fs'' :=
  List.IsPrefix.trans h h'

theorem grows_fetch (fs : Filters) (f : Field) : Grows fs (fs.fetch f).2 := by
  unfold Filters.fetch
  split
  · exact .refl fs
  · show fs.fetches.map FetchFilter.field <+:
      (fs.fetches ++ [({ field := f } : FetchFilter)]).map FetchFilter.field
    rw [List.map_append]
    exact List.prefix_append _ _

theorem grows_source (fs : Filters) (f : Field) : Grows fs (fs.source f).2 := by
  unfold Filters.source
  split
  · exact .refl fs
  · exact grows_fetch fs f

theorem grows_addField (fs : Filters) (f : Field) : Grows fs (fs.addField f).2 := by
  unfold Grows
  rw [fetches_addField fs f fun _ => rfl]
  exact grows_source fs f

theorem grows_addFields (fs : Filters) (more : List Field) : Grows fs (fs.addFields more).2 := by
  induction more generalizing fs with
  | nil => exact .refl fs
  | cons f more ih => exact (grows_addField fs f).trans (ih _)

theorem grows_addItem {alone : Bool} {item : SelectItem} {os : List Output}
    (ha : fs.addItem t alone item = .ok (os, fs')) : Grows fs fs' := by
  unfold addItem at ha
  split at ha
  · split at ha <;> cases ha
    exact .refl fs
  · have hfs : fs' = (fs.addFields t.fields).2 := by rw [Except.ok.inj ha]
    exact hfs ▸ grows_addFields fs t.fields
  · obtain ⟨f, hf, ha⟩ := except_bind_eq_ok.1 ha
    cases ha
    exact grows_addFields fs [f]
  · split at ha
    · obtain ⟨f, hf, ha⟩ := except_bind_eq_ok.1 ha
      cases ha
      exact grows_source fs f
    · cases ha
      exact .refl fs

theorem grows_addItems {alone : Bool} {items : List SelectItem} {os : List Output}
    (ha : fs.addItems t alone items = .ok (os, fs')) : Grows fs fs' := by
  induction items generalizing fs os with
  | nil => cases ha; exact .refl _
  | cons item items ih =>
    unfold addItems at ha
    obtain ⟨⟨os₁, fs₁⟩, h1, ha⟩ := except_bind_eq_ok.1 ha
    obtain ⟨⟨os₂, fs₂⟩, h2, ha⟩ := except_bind_eq_ok.1 ha
    cases ha
    exact (grows_addItem h1).trans (ih h2)

end Filters

/-! ## The whole plan -/

variable {t : Table} {st : Settings} {cs : List Condition} {items : List SelectItem} {p : Plan}

/-- A plan is made of the filters of the conditions and of what the items add. -/
theorem build_iff : build st t cs items = .ok p ↔ ∃ fs os fs',
    cs.foldlM (Filters.addCondition t) { keys := t.keyFields.map fun f => { field := f } } = .ok fs ∧
      fs.addItems t (items.length ≤ 1) items = .ok (os, fs') ∧ fs'.fetches.length ≤ st.maxFields ∧
      p = { table := t, keys := fs.keys.map Plan.bind, fetches := fs'.fetches, outputs := os
            pattern := t.rowKey ((fs.keys.map Plan.bind).map partPattern)
            directKey := ((fs.keys.map Plan.bind).mapM KeyFilter.bound).map t.rowKey
            countOnly := items.contains .count } := by
  unfold build
  simp only []
  constructor
  · intro hp
    obtain ⟨fs, h1, hp⟩ := except_bind_eq_ok.1 hp
    obtain ⟨⟨os, fs'⟩, h2, hp⟩ := except_bind_eq_ok.1 hp
    simp only [] at hp
    split at hp
    · cases hp
    · next hl =>
      cases hp
      exact ⟨fs, os, fs', h1, h2, Nat.le_of_not_lt hl, rfl⟩
  · rintro ⟨fs, os, fs', h1, h2, hl, rfl⟩
    refine except_bind_eq_ok.2 ⟨fs, h1, except_bind_eq_ok.2 ⟨(os, fs'), h2, ?_⟩⟩
    simp only []
    rw [if_neg (Nat.not_lt.2 hl)]
    rfl

/-- What a plan for conditions and items consists of. -/
theorem build_eq_ok (ht : t.Valid st) (hp : build st t cs items = .ok p) : ∃ fs : Filters, fs.Covers t cs ∧
    p.table = t ∧ p.keys = fs.keys.map Plan.bind ∧ p.fetches = fs.fetches ∧
      p.pattern = t.rowKey (p.keys.map partPattern) ∧
      p.directKey = (p.keys.mapM KeyFilter.bound).map t.rowKey := by
  obtain ⟨fs, os, fs', h1, h2, -, rfl⟩ := build_iff.1 hp
  have hc : fs.Covers t cs := by
    have := Filters.conditions_cover ht (Filters.covers_start t) h1
    rwa [List.nil_append] at this
  have hc' := Filters.addItems_covers ht hc h2
  exact ⟨{ keys := fs.keys, fetches := fs'.fetches }, ⟨hc.keys, hc.unbound, hc.keyChain, hc'.fetched,
    hc'.nodup, hc'.fetchChain, hc'.complete⟩, rfl, rfl, rfl, rfl, rfl⟩

/-- A search for keys shows no columns. -/
theorem build_nil (hp : build st t cs [] = .ok p) : p.outputs = [] ∧ p.countOnly = false := by
  obtain ⟨fs, os, fs', -, h2, -, rfl⟩ := build_iff.1 hp
  cases h2
  exact ⟨rfl, rfl⟩

/-- Conditions of any query can be those of a query that counts, which reads no more attributes. -/
theorem build_count (hp : build st t cs items = .ok p) : ∃ q, build st t cs [.count] = .ok q ∧
    q.table = t ∧ q.outputs = [.count] ∧ q.countOnly = true ∧
      q.fetches.map FetchFilter.field <+: p.fetches.map FetchFilter.field := by
  obtain ⟨fs, os, fs', h1, h2, h3, rfl⟩ := build_iff.1 hp
  have hgrows := Filters.grows_addItems h2
  have hlen := hgrows.length_le
  rw [List.length_map, List.length_map] at hlen
  exact ⟨_, build_iff.2 ⟨fs, [.count], fs, h1, rfl, Nat.le_trans hlen h3, rfl⟩, rfl, rfl, rfl, hgrows⟩

end Plan
end SlotSql
