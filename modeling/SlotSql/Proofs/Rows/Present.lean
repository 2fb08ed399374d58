import SlotSql.Proofs.Rows.Attribute
import SlotSql.Proofs.Rows.Owned
/-!
# Columns that are never absent

A row that is written has a value for each column that cannot be absent, and assignments take no value from a plain
attribute. A set is different: its value may list no members, and assignments may take all members from it. As long as no
statement does so, every row has a value in the column.

Results:
* `Filled`: a store whose rows have a value in a column.
* `Drains`: a statement that leaves a row without members in a set.
* `filled_closed`, `filled_deletion`: statements on other tables, and deletions, keep such stores.
* `filled_effect`, `yields_updateRows`: so do statements that write rows, if they do not drain the column.
-/
namespace SlotSql

open Cluster Store Simulation Dialogue Session

variable {m : Nat} {t : Table} {st : Settings} {d d' : Data} {key k : String} {f : Field} {w : RowImage}
  {G : Set String → Prop} {g : RowImage → RowImage}

/-! ## Rows -/

/-- A row has a value in an attribute; the members of a set make one if they are of some kind. -/
def RowImage.Has (f : Field) (G : Set String → Prop) (w : RowImage) : Prop :=
  if f.type.isSet then G (w.members f.name) else (w.plain f.name).isSome = true

theorem RowImage.Has.mono {G' : Set String → Prop} (h : w.Has f G) (hG : ∀ ms, G ms → G' ms) : w.Has f G' := by
  unfold RowImage.Has at h ⊢
  split
  · next hset =>
    rw [if_pos hset] at h
    exact hG _ h
  · next hset =>
    rwa [if_neg hset] at h

/-- What is read of such an attribute is a value. -/
theorem Store.fetchedOf_ne_missing (h : (rowImage d key).Has f Set.Nonempty) : fetchedOf d key f ≠ .missing := by
  unfold RowImage.Has at h
  unfold fetchedOf
  split
  · next hset =>
    rw [if_pos hset] at h
    obtain ⟨x, hx⟩ := h
    have hne : (membersOf d key f.name).isEmpty = false := by
      rw [List.isEmpty_eq_false_iff]
      exact List.ne_nil_of_mem hx
    simp only [hne, Bool.false_eq_true, ↓reduceIte, ne_eq, reduceCtorEq, not_false_eq_true]
  · next hset =>
    rw [if_neg hset] at h
    obtain ⟨b, hb⟩ := Option.isSome_iff_exists.1 h
    rw [show plainOf d key f.name = some b from hb]
    exact fun he => nomatch he

/-- The row of a key is the same in a store that agrees on the key and its sets. -/
theorem Store.rowImage_has_congr (hkey : d'.get? k = d.get? k)
    (hset : f.type.isSet = true → d'.get? (Key.set k f.name) = d.get? (Key.set k f.name)) (h : (rowImage d k).Has f G) :
    (rowImage d' k).Has f G := by
  unfold RowImage.Has at h ⊢
  split
  · next hs =>
    rw [if_pos hs] at h
    have he : (rowImage d' k).members f.name = (rowImage d k).members f.name :=
      congrArg (fun ms : List String => {x | x ∈ ms}) (membersOf_congr (hset hs))
    exact he.symm ▸ h
  · next hs =>
    rw [if_neg hs] at h
    have he : (rowImage d' k).plain f.name = (rowImage d k).plain f.name := plainOf_congr hkey
    exact he.symm ▸ h

/-- A change of a row leaves the other rows of its table alone. -/
theorem Becomes.other (ht : t.Valid st) (h : Becomes t key g d d') (hp : (t.parts? key).isSome = true)
    (hk : (t.parts? k).isSome = true) (hne : k ≠ key) (hf : f ∈ t.fields) :
    d'.contains k = d.contains k ∧ ((rowImage d k).Has f G → (rowImage d' k).Has f G) := by
  have hkey : d'.get? k = d.get? k := h.frame k fun hm => hne (Table.eq_of_footprint ht hk hm)
  exact ⟨contains_eq hkey, rowImage_has_congr hkey fun hset =>
    h.frame _ fun hm => hne (Table.eq_of_set_footprint ht hp (Table.mem_setFields.2 ⟨hf, hset⟩) hm)⟩

/-! ## Stores -/

/-- A store of a session in which the rows of some keys, and all others of a table that are there, have a value in a
column; the members of a set make one if they are of some kind. -/
structure Stocked (st : Settings) (t : Table) (f : Field) (G : Set String → Prop) (keys : List String) (d : Data) :
    Prop where
  typed : Typed st d
  table : tableIn st d t.tableName = .ok t
  rows : f.isKey = false → ∀ key, (t.parts? key).isSome = true → key ∈ keys ∨ d.contains key = true →
    (rowImage d key).Has f G

/-- A store of a session in which every row of a table has a value in a column. -/
def Filled (st : Settings) (t : Table) (f : Field) (d : Data) : Prop := Stocked st t f Set.Nonempty [] d

namespace Stocked

variable {keys : List String}

theorem live (h : Stocked st t f G keys d) (hm : 6 ≤ st.maxArgs) : Live st d t :=
  ⟨h.table, h.typed.outside hm h.table⟩

theorem filled (h : Stocked st t f G keys d) (hG : ∀ ms, G ms → ms.Nonempty) : Filled st t f d :=
  ⟨h.typed, h.table, fun hattr key hp hc => (h.rows hattr key hp (.inr (hc.resolve_left (List.not_mem_nil)))).mono hG⟩

/-- A change of a row keeps such stores if the row has a value afterwards. -/
theorem becomes (hst : st.Valid) (h : Stocked st t f G keys d) (hm : 6 ≤ st.maxArgs) (hf : f ∈ t.fields)
    (hd : Becomes t key g d d') (htyped : Typed st d') (hp : (t.parts? key).isSome = true)
    (hnew : f.isKey = false → (g (rowImage d key)).Has f G) : Stocked st t f G keys d' where
  typed := htyped
  table := (tableIn_congr (hd.frame _ (entryKey_notMem hst (h.live hm).valid (h.live hm).tablespace hp))).trans h.table
  rows hattr k hk hc := by
    by_cases hne : k = key
    · rw [hne, hd.image]
      exact hnew hattr
    · obtain ⟨hsame, hhas⟩ := hd.other (G := G) (h.live hm).valid hp hk hne hf
      exact hhas (h.rows hattr k hk (hc.imp_right fun hc => hsame ▸ hc))

end Stocked

theorem Filled.has (h : Filled st t f d) (hattr : f.isKey = false) (hp : (t.parts? key).isSome = true)
    (hc : d.contains key = true) : (rowImage d key).Has f Set.Nonempty :=
  h.rows hattr key hp (.inr hc)

/-- Statements on other tables keep such stores. -/
theorem filled_closed (hst : st.Valid) (hm : 6 ≤ st.maxArgs) (hf : f ∈ t.fields) {name : TableName}
    (hne : name ≠ t.tableName) : Closed st name (Filled st t f) where
  typed _ h := h.typed
  step d d' h hd := by
    have hlive := h.live hm
    have hout := hlive.valid.outside hlive.tablespace
    obtain ⟨hother, hframe⟩ := hd.frame
    have hsame {j : String} (hj : Owned st t.tableName j) : d'.get? j = d.get? j :=
      hframe j fun hj' => hne (hj'.apart hst hother hout hj)
    refine ⟨hd.typed hst h.typed, (tableIn_congr (hsame .entry)).trans h.table, fun hattr k hk hc => ?_⟩
    have hrow := hsame (.footprint hlive.valid hk List.mem_cons_self)
    exact rowImage_has_congr hrow (fun hset => hsame (.footprint hlive.valid hk
      (Table.set_mem_footprint (Table.mem_setFields.2 ⟨hf, hset⟩)))) (h.has hattr hk (contains_eq hrow ▸ hc.resolve_left List.not_mem_nil))

/-- So do deletions. -/
theorem filled_deletion (hst : st.Valid) (hm : 6 ≤ st.maxArgs) (hf : f ∈ t.fields) :
    ClosedUnderDeletion t (Filled st t f) := by
  intro key d hp h
  have hlive := h.live hm
  have hget (j : String) := KeyCommand.get?_eraseAll d (t.footprint key) j
  have hout {j : String} (hj : j ∉ t.footprint key) := (hget j).trans (if_neg hj)
  refine ⟨h.typed.eraseAll _, (tableIn_congr (hout (entryKey_notMem hst hlive.valid hlive.tablespace hp))).trans h.table,
    fun hattr k hk hc => ?_⟩
  have hc := hc.resolve_left List.not_mem_nil
  have hne : k ∉ t.footprint key := fun hgone => by
    rw [KeyMap.contains, hget k, if_pos hgone] at hc
    cases hc
  have hset (hs : f.type.isSet = true) : Key.set k f.name ∉ t.footprint key := fun hgone =>
    hne (Table.eq_of_set_footprint hlive.valid hp (Table.mem_setFields.2 ⟨hf, hs⟩) hgone ▸ List.mem_cons_self)
  exact rowImage_has_congr (hout hne) (fun hs => hout (hset hs)) (h.has hattr hk (contains_eq (hout hne) ▸ hc))

/-! ## Statements that write rows -/

namespace Upsertion

variable {u : PreparedUpsertion} {as : List PreparedAssignment} {a : PreparedAssignment} {values : List (Field × String)}
  {pairs : List (String × Bytes)} {v : ScanEnv} {now : Int}

/-- A statement leaves a row without members in a set: it writes a set that has none, or its assignment leaves none. The
row is that of the key of the statement, or any row of the table if the statement has no full key. -/
inductive Drains (u : PreparedUpsertion) (t : Table) (f : Field) (d : Data) : Prop
  | written {key x : String} (hset : f.type.isSet = true) (hkey : u.key = some key)
    (hnew : u.mode = .overwrite ∨ d.contains key = false) (hx : (f, x) ∈ u.values) (hnone : ¬ (listed x).Nonempty)
  | assigned {as : List PreparedAssignment} {a : PreparedAssignment} {key : String} (hset : f.type.isSet = true)
    (hmode : u.mode = .update as) (ha : a ∈ as) (hf : a.field = f) (hkey : u.key = some key ∨ u.key = none)
    (hp : (t.parts? key).isSome = true) (hd : d.contains key = true)
    (hnone : ¬ (assignedMembers a ((rowImage d key).members f.name)).Nonempty)

/-- A row that is written has a value in each attribute that cannot be absent. -/
theorem has_written (ht : t.Valid st) (hdistinct : (values.map fun v => v.1.name).Nodup)
    (hvalues : ∀ v ∈ values, v.1 ∈ t.fields) (hpresent : checkPresent t values = .ok ()) (hf : f ∈ t.fields)
    (hn : f.nullable = false) (hattr : f.isKey = false)
    (hmembers : f.type.isSet = true → ∀ x, (f, x) ∈ values → (listed x).Nonempty) :
    (written values w).Has f Set.Nonempty := by
  obtain ⟨⟨g, x⟩, hv, hname⟩ := checkPresent_ok hpresent hf hn
  obtain rfl : g = f := ht.eq_of_name (hvalues _ hv) hf hname
  unfold RowImage.Has
  split
  · next hset =>
    rw [members_written hdistinct hv hset]
    exact hmembers hset x hv
  · next hset =>
    rw [plain_written hdistinct hv (by rw [Field.isPlain, hattr]; simpa using hset)]
    rfl

/-- An assignment that is carried out twice leaves what it leaves at first. -/
theorem assignedMembers_twice (a : PreparedAssignment) (ms : Set String) :
    assignedMembers a (assignedMembers a ms) = assignedMembers a ms := by
  unfold assignedMembers
  cases a.op with
  | set => rfl
  | add => exact Set.union_assoc .. |>.trans (congrArg _ (Set.union_self _))
  | sub => exact Set.ext fun x => ⟨fun h => h.1, fun h => ⟨h, h.2⟩⟩

/-- The members of a set that has some, and has some after the assignments too. -/
def Lasting (as : List PreparedAssignment) (f : Field) (ms : Set String) : Prop :=
  ms.Nonempty ∧ ∀ a ∈ as, a.field = f → (assignedMembers a ms).Nonempty

/-- A row has a value in an attribute after assignments that leave members in its set. -/
theorem has_updated (ht : t.Valid st) (hdistinct : (as.map fun a => a.field.name).Nodup)
    (hfields : ∀ a ∈ as, a.field ∈ t.fields) (hf : f ∈ t.fields) (h : w.Has f (Lasting as f)) :
    (updated as pairs w).Has f (Lasting as f) := by
  unfold RowImage.Has at h ⊢
  split
  · next hset =>
    rw [if_pos hset] at h
    by_cases hex : ∃ a ∈ as, a.field = f
    · obtain ⟨a, ha, rfl⟩ := hex
      rw [members_updated hdistinct ha hset]
      refine ⟨h.2 a ha rfl, fun b hb he => ?_⟩
      obtain rfl : b = a := List.inj_on_of_nodup_map hdistinct hb ha (congrArg Field.name he)
      rw [assignedMembers_twice]
      exact h.2 b hb rfl
    · rw [members_updated_other fun a ha _ he => hex ⟨a, ha, ht.eq_of_name (hfields a ha) hf he⟩]
      exact h
  · next hset =>
    rw [if_neg hset] at h
    exact plain_updated_isSome h

/-- Rows of a store in which every row has a value have one after assignments too, unless these drain the column. -/
theorem has_lasting (h : Filled st t f d) (hattr : f.isKey = false) (hmode : u.mode = .update as)
    (hkey : u.key = some key ∨ u.key = none) (hno : ¬ Drains u t f d) (hp : (t.parts? key).isSome = true)
    (hc : d.contains key = true) : (rowImage d key).Has f (Lasting as f) := by
  have hhas := h.has hattr hp hc
  unfold RowImage.Has at hhas ⊢
  split
  · next hset =>
    rw [if_pos hset] at hhas
    refine ⟨hhas, fun a ha he => ?_⟩
    by_contra hnone
    exact hno (.assigned hset hmode ha he hkey hp hc hnone)
  · next hset =>
    rwa [if_neg hset] at hhas

/-- What a statement with a full key leaves is filled again. -/
theorem filled_effect (hst : st.Valid) (hm : 6 ≤ st.maxArgs) (h : Filled st t f d) (hf : f ∈ t.fields)
    (hn : f.nullable = false) (hu : u.Sound t) (hdistinct : Distinct u) (hp : (t.parts? key).isSome = true)
    (hkey : u.key = some key)
    (hpresent : u.mode = .overwrite ∨ u.mode = .ignore → checkPresent t u.values = .ok ()) (hno : ¬ Drains u t f d)
    {o : UpsertOutcome} (he : Effect u t key d o d') (htyped : Typed st d') : Filled st t f d' := by
  have ht := (h.live hm).valid
  cases he with
  | written hmode hnew hvalues hd =>
    have hall : checkPresent t u.values = .ok () := by
      cases hu' : u.mode with
      | overwrite => exact hpresent (.inl hu')
      | ignore => exact hpresent (.inr hu')
      | update as => exact hu.table ▸ hvalues as hu'
      | query q => exact absurd hu' (hmode q)
    refine h.becomes hst hm hf hd htyped hp fun hattr => has_written ht hdistinct.values (fun v hv => (hu.values v hv).1)
      hall hf hn hattr fun hset x hx => ?_
    by_contra hnone
    exact hno (.written hset hkey hnew hx hnone)
  | ignored => exact h
  | updated hmode hc hpairs hd =>
    exact h.becomes hst hm hf hd htyped hp fun hattr =>
      (has_updated ht (hdistinct.mode _ hmode) (fun a ha => (hu.mode _ hmode a ha).field) hf
        (has_lasting h hattr hmode (.inl hkey) hno hp hc)).mono fun _ hms => hms.1

/-- Assignments to rows, one after another, keep stores in which the values of the rows last. -/
theorem yields_updateRows (hst : st.Valid) (hm : 6 ≤ st.maxArgs) (ht : t.Valid st) (hts : t.tablespace ≠ st.systemPrefix)
    (hf : f ∈ t.fields) (hdistinct : (as.map fun a => a.field.name).Nodup) (hfields : ∀ a ∈ as, a.field ∈ t.fields)
    {all keys : List String} (hall : ∀ key ∈ keys, key ∈ all ∧ (t.parts? key).isSome = true) :
    Yields (world m) (Stocked st t f (Lasting as f) all) (fun _ _ _ => True) (keys.forM fun key => updateRow key as) := by
  induction keys with
  | nil => exact .pure fun _ _ => trivial
  | cons key keys ih =>
    obtain ⟨hkey, hp⟩ := hall key List.mem_cons_self
    have hfirst : Yields (world m) (Stocked st t f (Lasting as f) all) (fun _ _ _ => True) (updateRow key as) := by
      intro d x d' h hrun
      obtain ⟨htyped, pairs, -, hd⟩ := yields_updateRow ⟨hst, ht, hts, hp⟩ hfields d x d' h.typed hrun
      exact ⟨h.becomes hst hm hf hd htyped hp fun hattr =>
        has_updated ht hdistinct hfields hf (h.rows hattr key hp (.inl hkey)), trivial⟩
    exact hfirst.bind fun _ => (ih fun k hk => hall k (List.mem_cons_of_mem _ hk)).mono fun _ _ _ _ _ _ _ _ _ => trivial

/-- A statement that succeeds leaves every row with a value in a column that cannot be absent, unless it drains it. -/
theorem hosting_execute {topo : Topology} {c c' : Context Simulation Link} {o : UpsertOutcome} {up : Upsertion}
    (hst : st.Valid) (hm : 6 ≤ st.maxArgs) (h : Filled st t f d) (hf : f ∈ t.fields) (hn : f.nullable = false)
    (hu : prepare t now up = .ok u) (hno : ¬ Drains u t f d) (hv : Scans v st m topo) (hc : Hosts m topo d c)
    (hrun : outcome Context.world (execute v u) c = (.ok o, c')) : Hosting m topo (Filled st t f) c' := by
  have hlive := h.live hm
  have hsound := prepare_sound hlive.valid hu
  cases hkey : u.key with
  | some key =>
    obtain ⟨d', hhosts, htyped, he⟩ := effect_of_execute hst hlive.valid hlive.tablespace h.typed hu hkey hc hrun
    exact ⟨d', hhosts, filled_effect hst hm h hf hn hsound (prepare_distinct hu) (prepare_parts hlive.valid hu hkey) hkey
      (prepare_present hu) hno he htyped⟩
  | none =>
    unfold execute at hrun
    rw [hkey] at hrun
    split at hrun
    · cases hrun
    · next hnone => cases hnone
    · next hnone => cases hnone
    · next hnone => cases hnone
    · next as hmode _ =>
      obtain ⟨r, c₁, h1, h2, h3⟩ := targets_hosts hlive.valid hsound.table hv hc
      cases r with
      | error e =>
        rw [outcome_bind_error h1] at hrun
        cases hrun
      | ok keys =>
        rw [outcome_bind_ok h1] at hrun
        obtain ⟨top', hserves'⟩ := h2
        have hrows (key : String) (hk : key ∈ keys) := h3 keys rfl key hk
        have hfields : ∀ a ∈ as, a.field ∈ t.fields := fun a ha => (hsound.mode as hmode a ha).field
        have hasks : Asks OnSlot (fun _ => True) (do
            keys.forM fun key => updateRow key as
            return .updated keys.length : Engine UpsertOutcome) :=
          (Asks.forM fun key _ => asks_updateRow (Table.rowCommands_onSlot t key) (hsound.mode as hmode)).bind
            fun _ _ => .pure trivial
        obtain ⟨c₂, h4, h5⟩ := outcome_serves hasks (fun _ _ hcmd => hcmd) hserves'
        rw [hrun] at h4
        obtain ⟨hr, rfl⟩ := Prod.mk.inj h4
        have hyields := (yields_updateRows (m := m) hst hm hlive.valid hlive.tablespace hf
          ((prepare_distinct hu).mode as hmode) hfields fun key hk => ⟨hk, (hrows key hk).2⟩).returning
          (b := UpsertOutcome.updated keys.length) (T := fun _ _ _ => True) fun _ _ _ _ _ _ => trivial
        have hstocked : Stocked st t f (Lasting as f) keys d := ⟨h.typed, h.table, fun hattr key hp hk =>
          has_lasting h hattr hmode (.inr hkey) hno hp (hk.elim (fun hk => (hrows key hk).1) id)⟩
        exact ⟨_, ⟨top', h5⟩, (hyields d o _ hstocked (Prod.ext hr.symm rfl)).1.filled fun _ hms => hms.1⟩
    · cases hrun

end Upsertion
end SlotSql
