import SlotSql.Proofs.Rows.Attribute
/-!
# Rows after a statement

What a statement with a full key leaves of its row, attribute by attribute. Values are written over those of the hash,
and the sets that are named get new members; assignments give attributes new values that may depend on the old ones. All
that is not named stays, in the row as well as in the rest of the store.

A statement that gives only some parts of the row key assigns to one row after another. The rows of a table lie apart
with their sets, so each of them ends as if it alone had been assigned to, in the store as it was before the first.

Results:
* `Typed.set_unchanged`: a set lies unchanged in the store if its members are the same.
* `Overwritten`, `Reassigned`: what is left when values are written, and when assignments are carried out.
* `effect_exact`: which of the two is left, or neither, and what is reported.
* `Touched`: a row as assignments to it alone would leave it.
* `yields_updates`: what assignments to several rows leave.
-/
namespace SlotSql

open Cluster Store Simulation Dialogue

variable {t : Table} {st : Settings} {d d' : Data} {key n : String} {w : RowImage}

/-! ## Sets in the store -/

namespace Store

theorem eq_of_members {ms ms' : KeyMap Unit} (h : ms.keys = ms'.keys) : ms = ms' := by
  have hfst : Function.Injective (Prod.fst : String × Unit → String) := fun _ _ he => Prod.ext he rfl
  have hentries : ms.entries = ms'.entries := List.map_injective_iff.2 hfst h
  cases ms
  cases ms'
  cases hentries
  rfl

/-- A set that has no members is not in the store. -/
theorem Typed.set_memberless (hd : Typed st d) (hk : Key.IsSet (Key.set key n)) (h : ∀ x, x ∉ membersOf d key n) :
    d.get? (Key.set key n) = none := by
  rcases hd.setOrNone hk with hnone | ⟨ms, hms⟩
  · exact hnone
  · have hempty : ms.keys = [] := by
      refine List.eq_nil_iff_forall_not_mem.2 fun x hx => h x ?_
      unfold membersOf
      rwa [hms]
    have hne := (hd _ _ hms).1.2
    rw [show ms.isEmpty = true from List.isEmpty_iff.2 (List.map_eq_nil_iff.1 hempty)] at hne
    cases hne

/-- A set lies unchanged in the store if its members are the same. -/
theorem Typed.set_unchanged (hd : Typed st d) (hd' : Typed st d') (hk : Key.IsSet (Key.set key n))
    (h : ∀ x, x ∈ membersOf d' key n ↔ x ∈ membersOf d key n) : d'.get? (Key.set key n) = d.get? (Key.set key n) := by
  have hmembers {e : Data} {ms : KeyMap Unit} (hms : e.get? (Key.set key n) = some (.set ms)) :
      membersOf e key n = ms.keys := by
    unfold membersOf
    rw [hms]
  rcases hd.setOrNone hk with hnone | ⟨ms, hms⟩
  · rw [hnone]
    refine hd'.set_memberless hk fun x hx => ?_
    have hx := (h x).1 hx
    unfold membersOf at hx
    rw [hnone] at hx
    cases hx
  · rcases hd'.setOrNone hk with hnone | ⟨ms', hms'⟩
    · rw [hnone, hd.set_memberless hk fun x hx => ?_]
      have hx := (h x).2 hx
      unfold membersOf at hx
      rw [hnone] at hx
      cases hx
    · rw [hms, hms', eq_of_members (keys_unique ms'.keys_sorted ms.keys_sorted fun x => ?_)]
      rw [← hmembers hms, ← hmembers hms']
      exact h x

/-- A change of a row leaves all keys as they are but that of the row and those of the sets that change. -/
theorem unchanged_of_becomes {g : RowImage → RowImage} {j : String} (ht : t.Valid st) (hd : Typed st d)
    (hd' : Typed st d') (hp : (t.parts? key).isSome = true) (h : Becomes t key g d d') (hkey : j ≠ key)
    (hsets : ∀ f ∈ t.setFields, j = Key.set key f.name → (g (rowImage d key)).members f.name =
      (rowImage d key).members f.name) : d'.get? j = d.get? j := by
  by_cases hj : j ∈ t.footprint key
  · obtain ⟨f, hf, rfl⟩ := List.mem_map.1 ((List.mem_cons.1 hj).resolve_left hkey)
    refine hd.set_unchanged hd' (Table.isSet_set ht hf (Table.isClosed_row hp)) fun x => ?_
    have hsame := hsets f hf rfl
    rw [← h.image] at hsame
    exact Set.ext_iff.1 hsame x
  · exact h.frame j hj

/-- A row is there if its hash holds something. -/
theorem contains_of_plain (h : (plainOf d key n).isSome = true) : d.contains key = true := by
  unfold plainOf at h
  unfold KeyMap.contains
  split at h
  · next hv =>
    rw [hv]
    rfl
  · cases h

/-- The hash of a row that is there holds something. -/
theorem Typed.plain_of_contains (hd : Typed st d) (hk : Key.IsClosed key) (hc : d.contains key = true) :
    ∃ n, (plainOf d key n).isSome = true := by
  obtain ⟨v, hv⟩ := Option.isSome_iff_exists.1 hc
  have hfits := (hd key v hv).1
  cases v with
  | set ms => exact absurd hk hfits.1
  | hash h =>
    have hne : ¬ ∀ n, h.get? n = none := fun hn => by
      have hempty := KeyMap.isEmpty_iff.2 hn
      rw [hfits.2] at hempty
      cases hempty
    obtain ⟨n, hn⟩ := not_forall.1 hne
    refine ⟨n, ?_⟩
    have hv : d.get? key = some (.hash h) := hv
    unfold plainOf
    rw [hv]
    exact Option.isSome_iff_ne_none.2 hn

end Store

namespace Upsertion

variable {u : PreparedUpsertion} {values : List (Field × String)} {as : List PreparedAssignment}
  {pairs : List (String × Bytes)} {o : UpsertOutcome}

/-! ## Values -/

/-- A store in which values have been written into a row. The plain attributes among them lie in the hash of the row, a
marker if there are none, over whatever else was there; each set among them has just the members that its value lists,
and none lies in the store that has no members. No other key has changed. -/
structure Overwritten (key : String) (values : List (Field × String)) (d d' : Data) : Prop where
  present : d'.contains key = true
  holds : ∀ v ∈ values, v.1.Holds v.2
  plain : ∀ v ∈ values, v.1.isPlain = true → plainOf d' key v.1.name = some (Utf8.bytes v.2)
  marker : (∀ v ∈ values, v.1.isPlain = false) → plainOf d' key rowMarker = some []
  kept : ∀ n, (∀ v ∈ values, v.1.isPlain = true → n ≠ v.1.name) →
    (n = rowMarker → ∃ v ∈ values, v.1.isPlain = true) → plainOf d' key n = plainOf d key n
  members : ∀ v ∈ values, v.1.type.isSet = true → ∀ x, x ∈ membersOf d' key v.1.name ↔ x ∈ setMembers v.2
  memberless : ∀ v ∈ values, v.1.type.isSet = true → setMembers v.2 = [] → d'.get? (Key.set key v.1.name) = none
  others : ∀ j, j ≠ key → (∀ v ∈ values, v.1.type.isSet = true → j ≠ Key.set key v.1.name) → d'.get? j = d.get? j

theorem hashFields_marker (h : ∀ v ∈ values, v.1.isPlain = false) : hashFields values = [(rowMarker, [])] := by
  have hnil : values.filter (fun v => v.1.isPlain) = [] :=
    List.filter_eq_nil_iff.2 fun v hv => by rw [h v hv]; exact Bool.false_ne_true
  unfold hashFields
  rw [hnil]
  rfl

/-- What is written into the hash of a row are plain attributes of the statement, or the marker. -/
theorem mem_hashFields_names (h : n ∈ (hashFields values).map Prod.fst) :
    (∃ v ∈ values, v.1.isPlain = true ∧ n = v.1.name) ∨ n = rowMarker ∧ ∀ v ∈ values, v.1.isPlain = false := by
  by_cases hplain : ∃ v ∈ values, v.1.isPlain = true
  · obtain ⟨v, hv, hp⟩ := hplain
    have hpairs : hashFields values = (values.filter fun v => v.1.isPlain).map fun v => (v.1.name, Utf8.bytes v.2) := by
      unfold hashFields
      split
      · next hnil =>
        exact absurd (List.mem_filter.2 ⟨hv, hp⟩) (by rw [List.map_eq_nil_iff.1 hnil]; exact List.not_mem_nil)
      · rfl
    rw [hpairs, List.map_map] at h
    obtain ⟨v, hv, rfl⟩ := List.mem_map.1 h
    obtain ⟨hv, hp⟩ := List.mem_filter.1 hv
    exact .inl ⟨v, hv, hp, rfl⟩
  · have hnone : ∀ v ∈ values, v.1.isPlain = false := fun v hv => by simpa using fun hp => hplain ⟨v, hv, hp⟩
    rw [hashFields_marker hnone] at h
    exact .inr ⟨List.mem_singleton.1 h, hnone⟩

theorem plain_written_eq : (written values w).plain = (w.overlay (hashFields values)).plain := RowImage.plain_changes

theorem members_written_other (h : ∀ v ∈ values, v.1.type.isSet = true → v.1.name ≠ n) :
    (written values w).members n = w.members n :=
  RowImage.members_changes_other (c := fun v : Field × String => v.1.name)
    fun v hv => let ⟨h1, h2⟩ := List.mem_filter.1 hv; h v h1 h2

theorem overwritten_of_becomes (ht : t.Valid st) (hd : Typed st d) (hd' : Typed st d')
    (hp : (t.parts? key).isSome = true) (hn : (values.map fun v => v.1.name).Nodup)
    (hv : ∀ v ∈ values, v.1 ∈ t.fields ∧ v.1.Holds v.2) (h : Becomes t key (written values) d d') :
    Overwritten key values d d' := by
  have hplain : plainOf d' key = ((rowImage d key).overlay (hashFields values)).plain := by
    rw [← plain_written_eq, ← h.image]
    rfl
  have hmembers (n : String) : {x | x ∈ membersOf d' key n} = (written values (rowImage d key)).members n := by
    rw [← h.image]
    rfl
  have hset {v : Field × String} (hmem : v ∈ values) (hs : v.1.type.isSet = true) :
      Key.IsSet (Key.set key v.1.name) :=
    Table.isSet_set ht (Table.mem_setFields.2 ⟨(hv v hmem).1, hs⟩) (Table.isClosed_row hp)
  have hlisted : ∀ v ∈ values, v.1.type.isSet = true → ∀ x, x ∈ membersOf d' key v.1.name ↔ x ∈ setMembers v.2 := by
    intro v hmem hs x
    exact Set.ext_iff.1 ((hmembers _).trans (members_written hn hmem hs)) x
  have hnamed : ∀ v ∈ values, v.1.isPlain = true → plainOf d' key v.1.name = some (Utf8.bytes v.2) := by
    intro v hmem hpl
    rw [hplain, RowImage.plain_overlay (hashFields_nodup hn) (mem_hashFields hmem hpl)]
  have hmarker : (∀ v ∈ values, v.1.isPlain = false) → plainOf d' key rowMarker = some [] := by
    intro hnone
    rw [hplain, hashFields_marker hnone]
    exact RowImage.plain_overlay (List.nodup_singleton _) (List.mem_singleton_self _)
  refine ⟨?_, fun v hmem => (hv v hmem).2, hnamed, hmarker, ?_, hlisted, ?_, ?_⟩
  · by_cases hpl : ∃ v ∈ values, v.1.isPlain = true
    · obtain ⟨v, hmem, hpl⟩ := hpl
      exact contains_of_plain (by rw [hnamed v hmem hpl]; rfl)
    · exact contains_of_plain (by rw [hmarker fun v hmem => by simpa using fun hp => hpl ⟨v, hmem, hp⟩]; rfl)
  · intro n hother hmark
    rw [hplain]
    refine RowImage.plain_overlay_other fun hmem => ?_
    rcases mem_hashFields_names hmem with ⟨v, hmem, hpl, he⟩ | ⟨he, hnone⟩
    · exact hother v hmem hpl he
    · obtain ⟨v, hmem, hpl⟩ := hmark he
      rw [hnone v hmem] at hpl
      cases hpl
  · intro v hmem hs hnil
    exact hd'.set_memberless (hset hmem hs) fun x hx => by rw [hlisted v hmem hs, hnil] at hx; cases hx
  · intro j hj hother
    refine unchanged_of_becomes ht hd hd' hp h hj fun f hf he => members_written_other fun v hmem hs hname => ?_
    exact hother v hmem hs (he.trans (congrArg _ hname.symm))

/-! ## Assignments -/

/-- A store in which assignments have been carried out on a row. An attribute to which a value is assigned has this
value; an integer to which one is added, or from which one is taken, is the sum or difference; a set has the members
that are assigned to it, or with its old ones those that are added, or without those that are taken from it. No other
attribute of the row has changed, and no other key. -/
structure Reassigned (key : String) (as : List PreparedAssignment) (d d' : Data) : Prop where
  present : d'.contains key = true
  holds : ∀ a ∈ as, a.op = .set → a.field.Holds a.value
  value : ∀ a ∈ as, a.field.type.isSet = false → a.op = .set → plainOf d' key a.field.name = some (Utf8.bytes a.value)
  total : ∀ a ∈ as, a.field.type.isInteger = true → a.op ≠ .set → ∃ k,
    Totals a ((plainOf d key a.field.name).map Utf8.decodeLossy) k ∧
      a.field.Holds (Evaluation.integerText a.field.type k) ∧
      plainOf d' key a.field.name = some (Utf8.bytes (Evaluation.integerText a.field.type k))
  members : ∀ a ∈ as, a.field.type.isSet = true → ∀ x, x ∈ membersOf d' key a.field.name ↔
    match a.op with
    | .set => x ∈ setMembers a.value
    | .add => x ∈ membersOf d key a.field.name ∨ x ∈ setMembers a.value
    | .sub => x ∈ membersOf d key a.field.name ∧ x ∉ setMembers a.value
  memberless : ∀ a ∈ as, a.field.type.isSet = true → (∀ x, x ∉ membersOf d' key a.field.name) →
    d'.get? (Key.set key a.field.name) = none
  kept : ∀ n, (∀ a ∈ as, a.field.type.isSet = false → n ≠ a.field.name) → plainOf d' key n = plainOf d key n
  others : ∀ j, j ≠ key → (∀ a ∈ as, a.field.type.isSet = true → j ≠ Key.set key a.field.name) → d'.get? j = d.get? j

theorem plain_updated_eq : (updated as pairs w).plain = (w.overlay pairs).plain := by
  have hsets : (allAssigned as w).plain = w.plain := RowImage.plain_changes
  unfold updated RowImage.overlay
  rw [hsets]

theorem plain_updated_other (hp : Computed w as pairs) (h : ∀ a ∈ as, a.field.type.isSet = false → n ≠ a.field.name) :
    (updated as pairs w).plain n = w.plain n := by
  rw [plain_updated_eq]
  refine RowImage.plain_overlay_other fun hmem => ?_
  rw [hp.names] at hmem
  obtain ⟨a, ha, rfl⟩ := List.mem_map.1 hmem
  obtain ⟨ha, hs⟩ := List.mem_filter.1 ha
  exact h a ha (by simpa using hs) rfl

theorem reassigned_of_becomes (ht : t.Valid st) (hd : Typed st d) (hd' : Typed st d')
    (hp : (t.parts? key).isSome = true) (hc : d.contains key = true) (hn : (as.map fun a => a.field.name).Nodup)
    (has : ∀ a ∈ as, Sound t a) (hpairs : Computed (rowImage d key) as pairs)
    (h : Becomes t key (updated as pairs) d d') : Reassigned key as d d' := by
  have hplain : plainOf d' key = (updated as pairs (rowImage d key)).plain := by
    rw [← h.image]
    rfl
  have hmembers (n : String) : {x | x ∈ membersOf d' key n} = (updated as pairs (rowImage d key)).members n := by
    rw [← h.image]
    rfl
  refine ⟨?_, fun a ha hop => (has a ha).holds (.inl hop), ?_, ?_, ?_, ?_, ?_, ?_⟩
  · obtain ⟨n, hsome⟩ := hd.plain_of_contains (Table.isClosed_row hp) hc
    exact contains_of_plain (hplain ▸ plain_updated_isSome hsome)
  · intro a ha hs hop
    obtain ⟨x, hx, hstored⟩ := plain_updated hn hpairs ha hs
    rw [Gives, if_pos hop] at hx
    rw [hplain, hstored, hx]
  · intro a ha hi hop
    have hs : a.field.type.isSet = false := by
      cases hty : a.field.type <;> rw [hty] at hi <;> first | rfl | cases hi
    obtain ⟨x, hx, hstored⟩ := plain_updated hn hpairs ha hs
    rw [Gives, if_neg hop] at hx
    obtain ⟨k, hk, rfl⟩ := arithmetic_integer hi hx
    exact ⟨k, hk, arithmetic_holds ((has a ha).numeric hop hs) hx, by rw [hplain, hstored]⟩
  · intro a ha hs x
    have hx := Set.ext_iff.1 ((hmembers _).trans (members_updated hn ha hs)) x
    unfold assignedMembers at hx
    cases hop : a.op <;> rw [hop] at hx <;> exact hx
  · intro a ha hs hnone
    exact hd'.set_memberless (Table.isSet_set ht (Table.mem_setFields.2 ⟨(has a ha).field, hs⟩) (Table.isClosed_row hp)) hnone
  · intro n hother
    rw [hplain]
    exact plain_updated_other hpairs hother
  · intro j hj hother
    refine unchanged_of_becomes ht hd hd' hp h hj fun f hf he => members_updated_other fun a ha hs hname => ?_
    exact hother a ha hs (he.trans (congrArg _ hname.symm))

/-! ## Statements -/

/-- What a statement with a full key leaves and reports, in each of its modes; afterwards the row is there. -/
theorem effect_exact (ht : t.Valid st) (hd : Typed st d) (hd' : Typed st d') (hp : (t.parts? key).isSome = true)
    (hu : u.Sound t) (hdistinct : Distinct u) (he : Effect u t key d o d') : d'.contains key = true ∧
    (u.mode = .overwrite ∨ d.contains key = false → o = .written 1 ∧ Overwritten key u.values d d') ∧
    (u.mode = .ignore → d.contains key = true → o = .ignored ∧ d' = d) ∧
    ∀ as, u.mode = .update as → d.contains key = true → o = .updated 1 ∧ Reassigned key as d d' := by
  cases he with
  | written _ hnew _ h =>
    have hover : ∀ {m : PreparedMode}, u.mode = m → m ≠ .overwrite → d.contains key = true → False := by
      intro m hm hne hc
      rcases hnew with hmode | hno
      · exact hne (hm ▸ hmode)
      · rw [hc] at hno
        cases hno
    have hleft := overwritten_of_becomes ht hd hd' hp hdistinct.values hu.values h
    exact ⟨hleft.present, fun _ => ⟨rfl, hleft⟩, fun hm hc => (hover hm nofun hc).elim,
      fun as hm hc => (hover hm nofun hc).elim⟩
  | ignored hmode hc =>
    refine ⟨hc, fun hnew => ?_, fun _ _ => ⟨rfl, rfl⟩, fun as hm => ?_⟩
    · rw [hmode, hc] at hnew
      rcases hnew with hnew | hnew <;> cases hnew
    · rw [hmode] at hm
      cases hm
  | updated hmode hc hpairs h =>
    have hleft := reassigned_of_becomes ht hd hd' hp hc (hdistinct.mode _ hmode) (hu.mode _ hmode) hpairs h
    refine ⟨hleft.present, fun hnew => ?_, fun hm => ?_, fun as hm _ => ?_⟩
    · rw [hmode, hc] at hnew
      rcases hnew with hnew | hnew <;> cases hnew
    · rw [hmode] at hm
      cases hm
    · cases hmode.symm.trans hm
      exact ⟨rfl, hleft⟩

end Upsertion

/-! ## Assignments to several rows -/

variable {m : Nat} {d₁ d₂ : Data} {k : String}

namespace Store

/-- A store in which the given keys are as in another one. -/
def patched (d d' : Data) (js : List String) : Data :=
  js.foldr (fun j e => match d'.get? j with
    | some v => e.insert j v
    | none => e.erase j) d

theorem get?_patched (js : List String) (j : String) :
    (patched d d' js).get? j = if j ∈ js then d'.get? j else d.get? j := by
  induction js with
  | nil => rfl
  | cons i js ih =>
    have hstep : (patched d d' (i :: js)).get? j = if j = i then d'.get? i else (patched d d' js).get? j := by
      unfold patched
      rw [List.foldr_cons]
      split
      · next v hv => rw [KeyMap.get?_insert, hv]
      · next hv => rw [KeyMap.get?_erase, hv]
    rw [hstep, ih]
    by_cases hj : j = i <;> simp [hj]

theorem Typed.patched (hd : Typed st d) (hd' : Typed st d') (js : List String) : Typed st (patched d d' js) := by
  intro j v hv
  rw [get?_patched] at hv
  split at hv
  · exact hd' j v hv
  · exact hd j v hv

end Store

namespace Table

/-- Rows have no key in common, not even one of a set. -/
theorem notMem_of_footprint (ht : t.Valid st) (hp : (t.parts? key).isSome = true) (hk : (t.parts? k).isSome = true)
    (hne : k ≠ key) : ∀ j ∈ t.footprint k, j ∉ t.footprint key := by
  intro j hj hmem
  rcases List.mem_cons.1 hj with rfl | hj
  · exact hne (eq_of_footprint ht hk hmem)
  · obtain ⟨f, hf, rfl⟩ := List.mem_map.1 hj
    exact hne (eq_of_set_footprint ht hp hf hmem)

end Table

namespace Upsertion

variable {as : List PreparedAssignment} {pairs : List (String × Bytes)} {w' : RowImage} {keys : List String}

/-- What assignments make of one set depends on this set only. -/
theorem members_updated_congr (hn : (as.map fun a => a.field.name).Nodup) (h : w.members n = w'.members n) :
    (updated as pairs w).members n = (updated as pairs w').members n := by
  by_cases hex : ∃ a ∈ as, a.field.type.isSet = true ∧ a.field.name = n
  · obtain ⟨a, ha, hs, rfl⟩ := hex
    rw [members_updated hn ha hs, members_updated hn ha hs, h]
  · have hother : ∀ a ∈ as, a.field.type.isSet = true → a.field.name ≠ n := fun a ha hs he => hex ⟨a, ha, hs, he⟩
    rw [members_updated_other hother, members_updated_other hother, h]

/-- A row as assignments to it alone would leave it, in a store of which the rest may have changed as well. -/
def Touched (st : Settings) (t : Table) (key : String) (as : List PreparedAssignment) (d d' : Data) : Prop :=
  ∃ d₁ pairs, Typed st d₁ ∧ Computed (rowImage d key) as pairs ∧ Becomes t key (updated as pairs) d d₁ ∧
    ∀ j ∈ t.footprint key, d'.get? j = d₁.get? j

/-- It is so too in a store from which another row has been changed before. -/
theorem Touched.before (hd : Typed st d) (hn : (as.map fun a => a.field.name).Nodup)
    (hfields : ∀ a ∈ as, a.field ∈ t.fields) (hsame : ∀ j ∈ t.footprint key, d₁.get? j = d.get? j)
    (h : Touched st t key as d₁ d') : Touched st t key as d d' := by
  obtain ⟨d₂, pairs, htyped, hpairs, hbecomes, hleft⟩ := h
  have hplain : plainOf d₁ key = plainOf d key := funext fun n => plainOf_congr (hsame key List.mem_cons_self)
  have hpatched (j : String) (hj : j ∈ t.footprint key) : (patched d d₂ (t.footprint key)).get? j = d₂.get? j := by
    rw [get?_patched, if_pos hj]
  refine ⟨patched d d₂ (t.footprint key), pairs, hd.patched htyped _, ?_, ⟨?_, fun j hj => ?_⟩, fun j hj => ?_⟩
  · unfold Computed at hpairs ⊢
    rwa [show (rowImage d₁ key).plain = (rowImage d key).plain from hplain] at hpairs
  · refine RowImage.ext ?_ (funext fun n => ?_)
    · calc plainOf (patched d d₂ (t.footprint key)) key
          = plainOf d₂ key := funext fun n => plainOf_congr (hpatched key List.mem_cons_self)
        _ = (updated as pairs (rowImage d₁ key)).plain := congrArg RowImage.plain hbecomes.image
        _ = (updated as pairs (rowImage d key)).plain := by
          rw [plain_updated_eq, plain_updated_eq]
          exact congrArg (fun old => RowImage.plain (RowImage.overlay pairs ⟨old, (rowImage d key).members⟩)) hplain
    · show {x | x ∈ membersOf (patched d d₂ (t.footprint key)) key n} = _
      by_cases hmem : Key.set key n ∈ t.footprint key
      · rw [membersOf_congr (hpatched _ hmem)]
        calc {x | x ∈ membersOf d₂ key n}
            = (updated as pairs (rowImage d₁ key)).members n := congrArg (fun w => RowImage.members w n) hbecomes.image
          _ = (updated as pairs (rowImage d key)).members n := members_updated_congr hn
            (congrArg (fun ms => {x | x ∈ ms}) (membersOf_congr (hsame _ hmem)))
      · -- No assignment is to such a set.
        have hother : ∀ a ∈ as, a.field.type.isSet = true → a.field.name ≠ n := fun a ha hs he =>
          hmem (he ▸ Table.set_mem_footprint (Table.mem_setFields.2 ⟨hfields a ha, hs⟩))
        have hrow : membersOf (patched d d₂ (t.footprint key)) key n = membersOf d key n :=
          membersOf_congr (by rw [get?_patched, if_neg hmem])
        rw [members_updated_other hother, hrow]
        rfl
  · rw [get?_patched, if_neg hj]
  · rw [hleft j hj, hpatched j hj]

/-- Assignments to several rows leave each of them as assignments to it alone would, and nothing else changes. -/
theorem yields_updates (ht : t.Valid st) (hn : (as.map fun a => a.field.name).Nodup)
    (hfields : ∀ a ∈ as, a.field ∈ t.fields) (hkeys : keys.Nodup) (hplace : ∀ key ∈ keys, t.Place st key) :
    Yields (world m) (Typed st) (fun d _ d' => (∀ key ∈ keys, Touched st t key as d d') ∧
      ∀ j, (∀ key ∈ keys, j ∉ t.footprint key) → d'.get? j = d.get? j) (keys.forM fun key => updateRow key as) := by
  induction keys with
  | nil => exact .pure fun d _ => ⟨by simp, fun _ _ => rfl⟩
  | cons key keys ih =>
    obtain ⟨hfresh, hrest⟩ := List.nodup_cons.1 hkeys
    have hfirst := hplace key List.mem_cons_self
    have hothers : ∀ k ∈ keys, t.Place st k := fun k hk => hplace k (List.mem_cons_of_mem _ hk)
    have hapart : ∀ k ∈ keys, ∀ j ∈ t.footprint k, j ∉ t.footprint key := fun k hk =>
      Table.notMem_of_footprint ht hfirst.row (hothers k hk).row fun he => hfresh (he ▸ hk)
    have hhead : Yields (world m) (Typed st) (fun d _ d₁ => Typed st d₁ ∧ ∃ pairs, Computed (rowImage d key) as pairs ∧
        Becomes t key (updated as pairs) d d₁) (updateRow key as) :=
      (yields_updateRow hfirst hfields).mono fun _ _ _ _ hd₁ h => ⟨hd₁, h⟩
    refine hhead.bind fun _ => (ih hrest hothers).mono ?_
    rintro d₁ _ d' - - ⟨htail, hframe⟩ d hd ⟨hd₁, pairs, hpairs, hbecomes⟩
    refine ⟨fun k hk => ?_, fun j hj => ?_⟩
    · rcases List.mem_cons.1 hk with rfl | hk
      · exact ⟨d₁, pairs, hd₁, hpairs, hbecomes, fun j hj => hframe j fun k hk hmem => hapart k hk j hmem hj⟩
      · exact (htail k hk).before hd hn hfields fun j hj => hbecomes.frame j (hapart k hk j hj)
    · rw [hframe j fun k hk => hj k (List.mem_cons_of_mem _ hk), hbecomes.frame j (hj key List.mem_cons_self)]

end Upsertion
end SlotSql
