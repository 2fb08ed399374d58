import SlotSql.Engine.Upsertion
import SlotSql.Proofs.Calendar
import SlotSql.Proofs.Rows.Kept
/-!
# Writing rows

A statement that writes rows brings its values into stored form before it asks for anything, and the keys that it
writes to are made of such values or are keys of rows that exist. So whatever the answers are and wherever
it fails, it asks only for commands that keep its table well.

Results:
* `stored_readable`, `stored_stored`, `holds_of_stored`: values in stored form.
* `prepare_sound`: what is checked of a statement before it is carried out.
* `asks_writeRow`, `asks_updateRow`: all that it asks for is on the row and its sets.
-/
namespace SlotSql

open Cluster Store Evaluation Dialogue

variable {t : Table} {st : Settings} {f : Field} {v x : String} {key : String} {now : Int}

/-! ## Values in stored form -/

theorem stored_integer (hi : f.type.isInteger = true) (h : f.stored v = .ok x) :
    ∃ n, integer f.type v = .ok n ∧ x = integerText f.type n := by
  unfold Field.stored at h
  rw [if_pos hi] at h
  cases hn : integer f.type v with
  | error e => rw [hn] at h; cases h
  | ok n => rw [hn] at h; exact ⟨n, rfl, (Except.ok.inj h).symm⟩

theorem stored_float (hf : f.type.isFloat = true) (h : f.stored v = .ok x) :
    ∃ y, double f.type v = .ok y ∧ y.isInf = false ∧ x = Text.trimmed v := by
  have ht : f.type = .flt64 := by simpa [ValueType.isFloat] using hf
  have hi : f.type.isInteger = false := by rw [ht]; rfl
  unfold Field.stored at h
  rw [if_neg (by rw [hi]; exact Bool.false_ne_true)] at h
  simp only [ht] at h ⊢
  cases hd : double .flt64 v with
  | error e => rw [hd] at h; cases h
  | ok y =>
    rw [hd] at h
    simp only [] at h
    cases hy : y.isInf with
    | true =>
      rw [hy] at h
      cases h
    | false =>
      rw [hy] at h
      exact ⟨y, rfl, hy, (Except.ok.inj h).symm⟩

/-- What is neither a number nor a day or time is stored as it stands. -/
theorem stored_verbatim (h : f.stored v = .ok x) (hn : f.type.isNumeric = false)
    (ht : f.type.isTemporal = false) : x = v := by
  have hi : ¬ f.type.isInteger = true := fun hi => by
    unfold ValueType.isNumeric at hn
    rw [hi] at hn
    cases hn
  unfold Field.stored at h
  rw [if_neg hi] at h
  split at h
  · next hty => rw [hty] at hn; cases hn
  · split at h <;> cases h
    rfl
  · split at h <;> cases h
    rfl
  · unfold Field.unlessFault at h
    split at h <;> cases h
    rfl
  · next hty => rw [hty] at ht; cases ht
  · next hty => rw [hty] at ht; cases ht
  · next hty => rw [hty] at ht; cases ht
  · split at h <;> cases h
    rfl
  · cases h
    rfl

/-- A day or a time is stored as the text of what is read. -/
theorem stored_temporal (ht : f.type.isTemporal = true) (h : f.stored v = .ok x) :
    (f.type = .date ∧ ∃ d, Calendar.Date.read? v = some d ∧ x = d.text) ∨
    (f.type = .time ∧ ∃ c, Calendar.Clock.read? v = some c ∧ x = c.text) ∨
    (f.type = .stamp ∧ ∃ m, Calendar.Moment.read? v = some m ∧ x = m.text) := by
  have hread {α : Type} {y : Option α} {text : α → String} {e : ValueFault}
      (hs : (y.map text).elim (.error e) Except.ok = .ok x) : ∃ a, y = some a ∧ x = text a := by
    cases y with
    | none => cases hs
    | some a => exact ⟨a, rfl, (Except.ok.inj hs).symm⟩
  have hty : f.type = .date ∨ f.type = .time ∨ f.type = .stamp := by
    simpa [ValueType.isTemporal, or_assoc] using ht
  rcases hty with hty | hty | hty
  · rw [Field.stored_date hty] at h
    exact .inl ⟨hty, hread h⟩
  · rw [Field.stored_time hty] at h
    exact .inr (.inl ⟨hty, hread h⟩)
  · rw [Field.stored_stamp hty] at h
    exact .inr (.inr ⟨hty, hread h⟩)

/-- A value in stored form can be read. -/
theorem stored_readable (h : f.stored v = .ok x) : Readable f.type x := by
  refine ⟨fun hi => ?_, fun hf => ?_⟩
  · obtain ⟨n, hn, rfl⟩ := stored_integer hi h
    exact ⟨n, integer_stored hi hn⟩
  · obtain ⟨y, hy, -, rfl⟩ := stored_float hf h
    exact ⟨y, double_trimmed _ _ hy⟩

theorem stored_stored (h : f.stored v = .ok x) : Filter.Stored f.type x := by
  intro hi
  obtain ⟨n, hn, rfl⟩ := stored_integer hi h
  exact ⟨n, integer_stored hi hn, rfl⟩

theorem normalize_eq_ok : f.normalize v = .ok x ↔
    (f.isKey = true → ∀ c ∈ Key.structural, c ∉ v.toList) ∧ f.stored v = .ok x := by
  rw [← Key.holdsStructural_eq_false_iff, ← Bool.and_eq_false_imp]
  unfold Field.normalize Field.normalize?
  cases hs : f.isKey && Key.holdsStructural v with
  | true => simp
  | false => cases f.stored v <;> simp

theorem stored_of_normalize (h : f.normalize v = .ok x) : f.stored v = .ok x := (normalize_eq_ok.1 h).2

/-- A value that a column can hold: one that can be read, and that is its own stored form unless it is a double. -/
def Field.Holds (f : Field) (x : String) : Prop := Readable f.type x ∧ (f.type ≠ .flt64 → f.stored x = .ok x)

/-- What a column stores, it can hold: bringing a value into its stored form once more does not change it. -/
theorem holds_of_stored (h : f.stored v = .ok x) : f.Holds x := by
  refine ⟨stored_readable h, fun hfloat => ?_⟩
  by_cases hi : f.type.isInteger = true
  · obtain ⟨n, hn, rfl⟩ := stored_integer hi h
    unfold Field.stored
    rw [if_pos hi, integer_stored hi hn]
  · by_cases ht : f.type.isTemporal = true
    · rcases stored_temporal ht h with ⟨hty, d, hd, rfl⟩ | ⟨hty, c, hc, rfl⟩ | ⟨hty, m, hm, rfl⟩
      · rw [Field.stored_date hty, Calendar.Date.read?_text (Calendar.Date.valid_of_read? hd)]
        rfl
      · rw [Field.stored_time hty, Calendar.Clock.read?_text (Calendar.Clock.valid_of_read? hc)]
        rfl
      · rw [Field.stored_stamp hty, Calendar.Moment.read?_text (Calendar.Moment.valid_of_read? hm)]
        rfl
    · have hn : f.type.isNumeric = false := by
        cases hty : f.type <;> rw [hty] at hi hfloat <;> first | rfl | exact absurd rfl hi | exact absurd rfl hfloat
      rw [← stored_verbatim h hn (by simpa using ht)] at h
      exact h

/-- The sum or difference of two integers: a missing value counts as zero, and the result lies in the range of the type. -/
structure Upsertion.Totals (a : PreparedAssignment) (old : Option String) (k : Int) : Prop where
  sum : ∃ m n, (∀ v ∈ old, integer a.field.type v = .ok m) ∧ (old = none → m = 0) ∧
    integer a.field.type a.value = .ok n ∧ k = if a.op = .add then m + n else m - n
  range : ∃ lo hi, a.field.type.integerRange? = some (lo, hi) ∧ lo ≤ k ∧ k ≤ hi

/-- What arithmetic on integers comes to. -/
theorem arithmetic_integer {a : PreparedAssignment} {old : Option String} (hi : a.field.type.isInteger = true)
    (h : Upsertion.arithmetic a old = .ok x) : ∃ k, Upsertion.Totals a old k ∧ x = integerText a.field.type k := by
  obtain ⟨lo, hi', hr⟩ := isInteger_iff.1 hi
  have hf : a.field.type.isFloat = false := by
    cases ht : a.field.type <;> rw [ht] at hi <;> first | rfl | cases hi
  unfold Upsertion.arithmetic at h
  simp only [] at h
  rw [if_neg (by rw [hf]; exact Bool.false_ne_true)] at h
  obtain ⟨m, hm, h⟩ := except_bind_eq_ok.1 h
  obtain ⟨n, hn, h⟩ := except_bind_eq_ok.1 h
  rw [hr] at h
  simp only [] at h
  have hold : (∀ v ∈ old, integer a.field.type v = .ok m) ∧ (old = none → m = 0) := by
    cases old with
    | none =>
      cases hm
      exact ⟨nofun, fun _ => rfl⟩
    | some v =>
      simp only [] at hm
      refine ⟨fun w hw => ?_, nofun⟩
      cases hw
      split at hm
      · next hv =>
        cases hm
        exact hv
      · cases hm
  have hvalue : integer a.field.type a.value = .ok n := by
    split at hn
    · next hv =>
      cases hn
      exact hv
    · cases hn
  by_cases hrange : (if a.op = .add then m + n else m - n) < lo ∨ hi' < (if a.op = .add then m + n else m - n)
  · rw [if_pos hrange] at h
    cases h
  · rw [if_neg hrange] at h
    cases h
    exact ⟨_, ⟨⟨m, n, hold.1, hold.2, hvalue, rfl⟩, lo, hi', hr, by omega⟩, rfl⟩

/-- The sum or difference of two numbers is in stored form. -/
theorem arithmetic_holds {a : PreparedAssignment} {old : Option String} (hn : a.field.type.isNumeric = true)
    (h : Upsertion.arithmetic a old = .ok x) : a.field.Holds x := by
  cases hf : a.field.type.isFloat with
  | true =>
    have ht : a.field.type = .flt64 := by simpa [ValueType.isFloat] using hf
    unfold Upsertion.arithmetic at h
    simp only [] at h
    rw [if_pos hf] at h
    obtain ⟨y, -, h⟩ := except_bind_eq_ok.1 h
    obtain ⟨z, -, h⟩ := except_bind_eq_ok.1 h
    refine ⟨⟨fun hi => ?_, fun _ => ?_⟩, fun hne => absurd ht hne⟩
    · rw [ht] at hi
      cases hi
    · generalize (if a.op = .add then y + z else y - z) = w at h
      by_cases hfin : (!w.isFinite) = true
      · rw [if_pos hfin] at h
        cases h
      · rw [if_neg hfin] at h
        cases h
        exact double_display _ (by simpa using hfin)
  | false =>
    have hi : a.field.type.isInteger = true := by
      unfold ValueType.isNumeric at hn
      rwa [hf, Bool.or_false] at hn
    obtain ⟨k, ⟨-, lo, hi', hr, hlo, hhi⟩, rfl⟩ := arithmetic_integer hi h
    have hread := integer_integerText hr hlo hhi
    refine ⟨⟨fun _ => ⟨k, hread⟩, fun hf' => absurd (hf'.symm.trans hf) (by decide)⟩, fun _ => ?_⟩
    unfold Field.stored
    rw [if_pos hi, hread]

/-! ## Statements that are checked -/

namespace Upsertion

theorem fields_mem {before : List String} {names : List String} {fs : List Field}
    (h : fields t before names = .ok fs) : ∀ f ∈ fs, f ∈ t.fields := by
  induction names generalizing before fs with
  | nil =>
    cases h
    simp
  | cons n names ih =>
    unfold fields at h
    cases hf : t.field? n with
    | none => rw [hf] at h; cases h
    | some f =>
      rw [hf] at h
      simp only [] at h
      by_cases hb : before.contains n = true
      · rw [if_pos hb] at h
        cases h
      · rw [if_neg hb] at h
        obtain ⟨rest, hr, h⟩ := except_bind_eq_ok.1 h
        cases h
        intro g hg
        rcases List.mem_cons.1 hg with rfl | hg
        · exact (Table.mem_of_field? hf).1
        · exact ih hr g hg

/-- The columns of a statement are those that it names, each of them once. -/
theorem fields_names {before names : List String} {fs : List Field} (h : fields t before names = .ok fs) :
    fs.map Field.name = names ∧ names.Nodup ∧ ∀ n ∈ names, n ∉ before := by
  induction names generalizing before fs with
  | nil =>
    cases h
    exact ⟨rfl, List.nodup_nil, by simp⟩
  | cons n names ih =>
    unfold fields at h
    cases hf : t.field? n with
    | none => rw [hf] at h; cases h
    | some f =>
      rw [hf] at h
      simp only [] at h
      by_cases hb : before.contains n = true
      · rw [if_pos hb] at h
        cases h
      · rw [if_neg hb] at h
        obtain ⟨rest, hr, h⟩ := except_bind_eq_ok.1 h
        cases h
        obtain ⟨h1, h2, h3⟩ := ih hr
        refine ⟨by rw [List.map_cons, h1, (Table.mem_of_field? hf).2], List.nodup_cons.2 ⟨fun hm => ?_, h2⟩,
          fun m hm => ?_⟩
        · exact h3 n hm List.mem_cons_self
        · rcases List.mem_cons.1 hm with rfl | hm
          · simpa using hb
          · exact fun hm' => h3 m hm (List.mem_cons_of_mem _ hm')

/-- Every stored value is the form of one of the values of the statement. -/
theorem storedValues_mem {fvs : List (Field × NewValue)} {values : List (Field × String)}
    (h : storedValues now fvs = .ok values) : ∀ gx ∈ values, ∃ v raw, (gx.1, v) ∈ fvs ∧
      resolve now v = .ok raw ∧ gx.1.normalize raw = .ok gx.2 := by
  induction fvs generalizing values with
  | nil =>
    cases h
    simp
  | cons fv fvs ih =>
    unfold storedValues at h
    obtain ⟨raw, hraw, h⟩ := except_bind_eq_ok.1 h
    obtain ⟨x, hx, h⟩ := except_bind_eq_ok.1 h
    obtain ⟨rest, hr, h⟩ := except_bind_eq_ok.1 h
    cases h
    intro gx hgx
    rcases List.mem_cons.1 hgx with rfl | hgx
    · exact ⟨fv.2, raw, List.mem_cons_self, hraw, hx⟩
    · obtain ⟨v, raw', hm, hrest⟩ := ih hr gx hgx
      exact ⟨v, raw', List.mem_cons_of_mem _ hm, hrest⟩

/-- An assignment to an attribute: its value is in stored form if it is to be written as it is or lists members of a
set, and otherwise the attribute is a number. -/
structure Sound (t : Table) (a : PreparedAssignment) : Prop where
  field : a.field ∈ t.fields
  noKey : a.field.isKey = false
  holds : a.op = .set ∨ a.field.type.isSet = true → a.field.Holds a.value
  numeric : a.op ≠ .set → a.field.type.isSet = false → a.field.type.isNumeric = true

/-- What is added to or taken from a column is a number, or members of a set. -/
theorem operand_ok (h : operand f v = .ok x) :
    (f.type.isSet = true → f.Holds x) ∧ (f.type.isSet = false → f.type.isNumeric = true) := by
  unfold operand at h
  simp only [] at h
  unfold ValueType.isNumeric
  cases hs : f.type.isSet with
  | true =>
    rw [if_pos hs] at h
    exact ⟨fun _ => holds_of_stored (stored_of_normalize h), nofun⟩
  | false =>
    rw [if_neg (by rw [hs]; exact Bool.false_ne_true)] at h
    refine ⟨nofun, fun _ => ?_⟩
    cases hi : f.type.isInteger with
    | true => rfl
    | false =>
      rw [if_neg (by rw [hi]; exact Bool.false_ne_true)] at h
      cases hf : f.type.isFloat with
      | true => rfl
      | false =>
        rw [if_neg (by rw [hf]; exact Bool.false_ne_true)] at h
        cases h

theorem assignments_sound {before : List String} {as : List Assignment} {ps : List PreparedAssignment}
    (h : assignments t now before as = .ok ps) : ∀ a ∈ ps, Sound t a := by
  induction as generalizing before ps with
  | nil =>
    cases h
    simp
  | cons a as ih =>
    unfold assignments at h
    cases hf : t.field? a.column with
    | none => rw [hf] at h; cases h
    | some f =>
      rw [hf] at h
      simp only [] at h
      by_cases hk : f.isKey = true
      · rw [if_pos hk] at h
        cases h
      · rw [if_neg hk] at h
        have hk : f.isKey = false := by simpa using hk
        by_cases hb : before.contains f.name = true
        · rw [if_pos hb] at h
          cases h
        · rw [if_neg hb] at h
          obtain ⟨raw, -, h⟩ := except_bind_eq_ok.1 h
          have hmem := (Table.mem_of_field? hf).1
          intro b hb'
          by_cases hop : a.op = .set
          · rw [if_pos hop] at h
            obtain ⟨x, hx, h⟩ := except_bind_eq_ok.1 h
            obtain ⟨rest, hr, h⟩ := except_bind_eq_ok.1 h
            cases h
            rcases List.mem_cons.1 hb' with rfl | hb'
            · exact ⟨hmem, hk, fun _ => holds_of_stored (stored_of_normalize hx), fun hne => absurd hop hne⟩
            · exact ih hr b hb'
          · rw [if_neg hop] at h
            obtain ⟨x, hx, h⟩ := except_bind_eq_ok.1 h
            obtain ⟨rest, hr, h⟩ := except_bind_eq_ok.1 h
            cases h
            obtain ⟨hset, hnum⟩ := operand_ok hx
            rcases List.mem_cons.1 hb' with rfl | hb'
            · exact ⟨hmem, hk, fun he => hset (he.resolve_left hop), fun _ => hnum⟩
            · exact ih hr b hb'

end Upsertion

/-- A statement that has been checked: its values are in stored form, and so is the key that they make. -/
structure PreparedUpsertion.Sound (t : Table) (u : PreparedUpsertion) : Prop where
  table : u.table = t
  values : ∀ fx ∈ u.values, fx.1 ∈ t.fields ∧ fx.1.Holds fx.2
  key : ∀ key, u.key = some key → ∃ parts, key = t.rowKey parts ∧
    t.keyFields.Forall₂ (fun f x => ∃ v, f.normalize v = .ok x) parts
  mode : ∀ as, u.mode = .update as → ∀ a ∈ as, Upsertion.Sound t a

namespace Upsertion

/-- What to do with a row that exists is checked in one of two ways. -/
theorem mode_ok {values : List (Field × String)} {k : Option String} {d : OnDuplicate} {md : PreparedMode}
    (h : mode t now values k d = .ok md) :
    (∃ bs as, d = .update bs ∧ assignments t now [] bs = .ok as ∧ md = .update as) ∨
      checkPresent t values = .ok () ∧ (md = .ignore ∨ md = .overwrite) := by
  have hwhole (hd : mode t now values k d = (do
      if k.isNone then throw (unboundKey t)
      checkPresent t values
      return if d = .ignore then .ignore else .overwrite)) :
      checkPresent t values = .ok () ∧ (md = .ignore ∨ md = .overwrite) := by
    rw [hd] at h
    by_cases hk : k.isNone = true
    · simp only [if_pos hk] at h
      cases h
    · simp only [if_neg hk] at h
      obtain ⟨_, hpresent, h⟩ := except_bind_eq_ok.1 h
      cases h
      refine ⟨hpresent, ?_⟩
      split
      · exact .inl rfl
      · exact .inr rfl
  cases d with
  | update bs =>
    obtain ⟨as, has, h⟩ := except_bind_eq_ok.1 h
    exact .inl ⟨bs, as, rfl, has, (Except.ok.inj h).symm⟩
  | overwrite => exact .inr (hwhole rfl)
  | ignore => exact .inr (hwhole rfl)

/-- What a checked statement is made of: its values in stored form, and what they make of its key and mode. -/
theorem prepare_ok {u : Upsertion} {pu : PreparedUpsertion} (h : prepare t now u = .ok pu) : pu.table = t ∧
    ((∃ q, pu.values = [] ∧ pu.key = none ∧ pu.mode = .query q) ∨ ∃ fs vs, u.source = .values vs ∧
      fields t [] u.columns = .ok fs ∧ vs.length = fs.length ∧ storedValues now (fs.zip vs) = .ok pu.values ∧
      pu.key = ((t.keyFields.map fun f => (f.name, (pu.values.find? fun v => v.1.name == f.name).map Prod.snd)).mapM
        Prod.snd).map t.rowKey ∧
      mode t now pu.values pu.key u.onDuplicate = .ok pu.mode) := by
  unfold prepare at h
  obtain ⟨fs, hfs, h⟩ := except_bind_eq_ok.1 h
  cases hsource : u.source with
  | query q =>
    rw [hsource] at h
    cases h
    exact ⟨rfl, .inl ⟨q, rfl, rfl, rfl⟩⟩
  | values vs =>
    rw [hsource] at h
    simp only [] at h
    by_cases hl : vs.length ≠ fs.length
    · rw [if_pos hl] at h
      cases h
    · rw [if_neg hl] at h
      obtain ⟨values, hvalues, h⟩ := except_bind_eq_ok.1 h
      obtain ⟨m, hm, h⟩ := except_bind_eq_ok.1 h
      cases h
      exact ⟨rfl, .inr ⟨fs, vs, rfl, hfs, not_not.1 hl, hvalues, rfl, hm⟩⟩

/-- The parts of the key of a prepared statement are the stored forms of its values. -/
theorem prepare_key (ht : t.Valid st) {u : Upsertion} {pu : PreparedUpsertion} (h : prepare t now u = .ok pu)
    (hk : pu.key = some key) : ∃ vs ws, u.source = .values vs ∧ u.columns.Nodup ∧ key = t.rowKey ws ∧
      t.keyFields.Forall₂ (fun f w => ∃ v raw, (f.name, v) ∈ u.columns.zip vs ∧ resolve now v = .ok raw ∧
        f.normalize raw = .ok w) ws := by
  obtain ⟨-, ⟨q, -, hnone, -⟩ | ⟨fs, vs, hsource, hfs, -, hvalues, hkey, -⟩⟩ := prepare_ok h
  · rw [hnone] at hk
    cases hk
  · obtain ⟨hnames, hnodup, -⟩ := fields_names hfs
    obtain ⟨ws, hws, rfl⟩ := Option.map_eq_some_iff.1 (hkey.symm.trans hk)
    refine ⟨vs, ws, hsource, hnodup, rfl, ?_⟩
    have hall := forall₂_of_mapM hws
    rw [List.forall₂_map_left_iff, List.forall₂_iff_zip] at hall
    refine List.forall₂_iff_zip.2 ⟨hall.1, fun {f w} hfw => ?_⟩
    obtain ⟨gx, hfind, rfl⟩ := Option.map_eq_some_iff.1 (hall.2 hfw)
    obtain ⟨v, raw, hv, hraw, hnorm⟩ := storedValues_mem hvalues gx (List.mem_of_find?_eq_some hfind)
    obtain rfl : gx.1 = f := ht.eq_of_name (fields_mem hfs gx.1 (List.of_mem_zip hv).1)
      (Table.mem_keyFields.1 (List.of_mem_zip hfw).1).1 (by simpa using List.find?_some hfind)
    refine ⟨v, raw, ?_, hraw, hnorm⟩
    rw [← hnames, List.zip_map_left]
    exact List.mem_map.2 ⟨(gx.1, v), hv, rfl⟩

/-- What is checked of a statement before it is carried out. -/
theorem prepare_sound (ht : t.Valid st) {u : Upsertion} {pu : PreparedUpsertion}
    (h : prepare t now u = .ok pu) : pu.Sound t := by
  obtain ⟨htable, ⟨q, hnil, hnone, hmode⟩ | ⟨fs, vs, -, hfs, -, hvalues, -, hmode⟩⟩ := prepare_ok h
  · refine ⟨htable, by rw [hnil]; simp, fun key hkey => ?_, fun as has => ?_⟩
    · rw [hnone] at hkey
      cases hkey
    · rw [hmode] at has
      cases has
  · refine ⟨htable, fun fx hfx => ?_, fun key hkey => ?_, fun as has => ?_⟩
    · obtain ⟨v, raw, hv, -, hnorm⟩ := storedValues_mem hvalues fx hfx
      exact ⟨fields_mem hfs _ (List.of_mem_zip hv).1, holds_of_stored (stored_of_normalize hnorm)⟩
    · obtain ⟨_, parts, -, -, rfl, hparts⟩ := prepare_key ht h hkey
      exact ⟨parts, rfl, hparts.imp fun f w ⟨_, raw, _, _, hnorm⟩ => ⟨raw, hnorm⟩⟩
    · rw [has] at hmode
      obtain ⟨bs, ps, -, hps, hm⟩ | ⟨-, hm⟩ := mode_ok hmode
      · cases hm
        exact assignments_sound hps
      · rcases hm with hm | hm <;> cases hm

end Upsertion

/-! ## What is asked -/

/-- The commands of the engine that keep a table well. -/
def Table.Asked (t : Table) (g : Target) (c : Command) : Prop := g = .active ∧ t.Keeps c

namespace Upsertion

/-- What a field of the hash of a row can hold: the marker anything, and a plain attribute a text that can be read, and
that is its own stored form unless it is a double. -/
def StoredField (t : Table) (name : String) (b : Bytes) : Prop :=
  name = rowMarker ∨ ∃ f ∈ t.fields, f.isPlain = true ∧ name = f.name ∧
    ∃ x, b = Utf8.bytes x ∧ Readable f.type x ∧ (f.type ≠ .flt64 → f.normalize x = .ok x)

theorem stored_field (hf : f ∈ t.fields) (hp : f.isPlain = true) (h : f.Holds x) :
    StoredField t f.name (Utf8.bytes x) := by
  refine .inr ⟨f, hf, hp, rfl, x, rfl, h.1, fun hne => ?_⟩
  have hkey : f.isKey = false := by
    unfold Field.isPlain at hp
    simpa using (Bool.and_eq_true_iff.1 hp).1
  exact normalize_eq_ok.2 ⟨fun hk => absurd (hk.symm.trans hkey) (by decide), h.2 hne⟩

/-- Pairs of names and values that the hash of a row can hold. -/
def StoredPairs (t : Table) (pairs : List (String × Bytes)) : Prop := ∀ p ∈ pairs, StoredField t p.1 p.2

/-- No column has the name of the marker. -/
theorem name_ne_marker (ht : t.Valid st) (hf : f ∈ t.fields) : f.name ≠ rowMarker := by
  intro hname
  have := (ht.field hf).1
  rw [hname] at this
  exact absurd this (by decide)

/-- Such values can be read where they are of numbers of the table. -/
theorem StoredPairs.readable (ht : t.Valid st) {pairs : List (String × Bytes)} (h : StoredPairs t pairs) :
    ∀ f ∈ t.fields, f.isPlain = true → ∀ v, (f.name, v) ∈ pairs → Readable f.type (Utf8.decodeLossy v) := by
  intro f hf _ v hm
  rcases h _ hm with he | ⟨g, hg, -, he, x, hx, hread, -⟩
  · exact absurd he (name_ne_marker ht hf)
  · obtain rfl := ht.eq_of_name hf hg he
    have hx : v = Utf8.bytes x := hx
    rw [hx, Utf8.decodeLossy_bytes]
    exact hread

/-- A key of a row to which a statement may write. -/
def Writable (t : Table) (key : String) : Prop := Key.parseRow? key ≠ none ∧
  ∀ parts, t.parts? key = some parts → t.keyFields.Forall₂ (fun f x => Filter.Stored f.type x) parts

theorem writable_rowKey (ht : t.Valid st) {parts : List String}
    (h : t.keyFields.Forall₂ (fun f x => Filter.Stored f.type x) parts) : Writable t (t.rowKey parts) := by
  have hne : parts ≠ [] := by
    rintro rfl
    exact ht.keys_ne_nil (List.length_eq_zero_iff.1 h.length_eq)
  obtain ⟨ps, hread, -⟩ := Table.parse_rowKey ht hne
  refine ⟨by rw [hread]; rintro ⟨⟩, fun qs hqs => ?_⟩
  rw [Table.parts?_rowKey ht h.length_eq.symm hqs]
  exact h

/-- The parts of a key in stored form. -/
theorem stored_parts {parts : List String} (h : t.keyFields.Forall₂ (fun f x => ∃ v, f.normalize v = .ok x) parts) :
    t.keyFields.Forall₂ (fun f x => Filter.Stored f.type x) parts :=
  h.imp fun _ _ ⟨_, hv⟩ => stored_stored (stored_of_normalize hv)

end Upsertion

/-- A member of a set: a text without blanks around it, and no longer than the column allows. -/
structure Field.Member (f : Field) (x : String) : Prop where
  nonempty : x ≠ ""
  trimmed : Text.trimmed x = x
  short : x.length ≤ f.length

/-- The members of a set in stored form. -/
theorem Field.Holds.members (hf : f.type.isSet = true) (h : f.Holds x) : ∀ y ∈ setMembers x, f.Member y := by
  have hset : f.type = .set := by simpa [ValueType.isSet] using hf
  have hstored := h.2 (by rw [hset]; decide)
  unfold Field.stored at hstored
  rw [hset] at hstored
  rw [if_neg (by decide)] at hstored
  simp only [] at hstored
  intro y hy
  split at hstored
  · cases hstored
  · next hnone =>
    have hshort := List.find?_eq_none.1 hnone y hy
    unfold setMembers at hy
    obtain ⟨cs, hcs, rfl⟩ := List.mem_map.1 hy
    obtain ⟨hcs, hne⟩ := List.mem_filter.1 hcs
    obtain ⟨piece, -, rfl⟩ := List.mem_map.1 hcs
    refine ⟨?_, ?_, by simpa using hshort⟩
    · intro he
      have := congrArg String.toList he
      rw [String.toList_ofList] at this
      rw [this] at hne
      cases hne
    · unfold Text.trimmed
      rw [String.toList_ofList, Text.trim_trim]

/-- A kind of commands among which are those of the engine on one row and its sets. -/
structure Table.RowCommands (t : Table) (key : String) (P : Target → Command → Prop) : Prop where
  existsKey : P .active (.existsKey key)
  hmget : ∀ fields, fields ≠ [] → P .active (.hmget key fields)
  hmset : ∀ pairs, pairs ≠ [] → Upsertion.StoredPairs t pairs → P .active (.hmset key pairs)
  del : ∀ f ∈ t.setFields, P .active (.del [Key.set key f.name])
  sadd : ∀ f ∈ t.setFields, ∀ members, members ≠ [] → (∀ x ∈ members, f.Member x) →
    P .active (.sadd (Key.set key f.name) members)
  srem : ∀ f ∈ t.setFields, ∀ members, members ≠ [] → P .active (.srem (Key.set key f.name) members)

theorem Table.rowCommands_asked (ht : t.Valid st) (hk : Upsertion.Writable t key) : t.RowCommands key t.Asked where
  existsKey := ⟨rfl, .existsKey key⟩
  hmget _ hne := ⟨rfl, .hmget key hne⟩
  hmset _ hne hp := ⟨rfl, .hmset hk.1 hne hk.2 (hp.readable ht)⟩
  del _ _ := ⟨rfl, .del _⟩
  sadd _ hf _ hne _ := ⟨rfl, .sadd key hf hne⟩
  srem _ hf _ hne := ⟨rfl, .srem key hf hne⟩

section Asked

variable {P : Target → Command → Prop} {members : List String}

theorem asks_integerOf (name : String) (r : Reply) : Asks P (fun _ => True) (Asking.integerOf name r) := by
  unfold Asking.integerOf
  split
  · exact .pure trivial
  · exact .throw _

theorem asks_existsKey (h : P .active (.existsKey key)) : Asks P (fun _ => True) (Asking.existsKey key) :=
  (Asks.command h).bind fun r _ => (asks_integerOf _ r).bind fun _ _ => .pure trivial

theorem asks_del {keys : List String} (h : P .active (.del keys)) : Asks P (fun _ => True) (Asking.del keys) := by
  unfold Asking.del
  split
  · exact .pure trivial
  · exact (Asks.command h).bind fun r _ => asks_integerOf _ r

theorem asks_sadd (h : members ≠ [] → P .active (.sadd key members)) :
    Asks P (fun _ => True) (Asking.sadd key members) := by
  cases members with
  | nil => exact .pure trivial
  | cons m ms => exact (Asks.command (h (List.cons_ne_nil m ms))).bind fun r _ => asks_integerOf _ r

theorem asks_srem (h : members ≠ [] → P .active (.srem key members)) :
    Asks P (fun _ => True) (Asking.srem key members) := by
  cases members with
  | nil => exact .pure trivial
  | cons m ms => exact (Asks.command (h (List.cons_ne_nil m ms))).bind fun r _ => asks_integerOf _ r

theorem asks_hmget {fields : List String} (h : P .active (.hmget key fields)) :
    Asks P (fun _ => True) (Asking.hmget key fields) := by
  have hvalue (r : Reply) : Asks P (fun _ => True) (Asking.fieldValue r) := by
    cases r <;> first | exact .pure trivial | exact .throw _
  have hvalues (rs : List Reply) : Asks P (fun _ => True) (rs.mapM Asking.fieldValue) := by
    induction rs with
    | nil =>
      rw [List.mapM_nil]
      exact .pure trivial
    | cons r rs ih =>
      rw [List.mapM_cons]
      exact (hvalue r).bind fun _ _ => ih.bind fun _ _ => .pure trivial
  refine (Asks.command h).bind fun r _ => ?_
  have harray : Asks P (fun _ => True) (liftM (r.toArray "HMGET") : Asking (List Reply)) := by
    cases r <;> exact fun _ _ => trivial
  refine harray.bind fun items _ => ?_
  split
  · exact (Asks.throw (Q := fun _ => True) _).bind fun _ _ => hvalues items
  · exact hvalues items

end Asked

namespace Upsertion

variable {P : Target → Command → Prop} {a : PreparedAssignment} {as : List PreparedAssignment}
  {pairs : List (String × Bytes)}

theorem asks_hmset (h : t.RowCommands key P) (hp : StoredPairs t pairs) (hne : pairs ≠ []) :
    Asks P (fun _ => True) (Asking.hmset key pairs) :=
  (Asks.command (h.hmset pairs hne hp)).bind fun _ _ => .pure trivial

theorem hashFields_stored {values : List (Field × String)}
    (hv : ∀ fx ∈ values, fx.1 ∈ t.fields ∧ fx.1.Holds fx.2) :
    StoredPairs t (hashFields values) ∧ hashFields values ≠ [] := by
  unfold hashFields
  split
  · refine ⟨fun p hp => ?_, List.cons_ne_nil _ _⟩
    rw [List.mem_singleton.1 hp]
    exact .inl rfl
  · next hne =>
    refine ⟨fun p hp => ?_, hne⟩
    obtain ⟨⟨f, x⟩, hf, rfl⟩ := List.mem_map.1 hp
    obtain ⟨hmem, hplain⟩ := List.mem_filter.1 hf
    obtain ⟨h1, h2⟩ := hv _ hmem
    exact stored_field h1 hplain h2

theorem asks_replaceSet (h : t.RowCommands key P) (hf : f ∈ t.setFields) {value : String} (hv : f.Holds value) :
    Asks P (fun _ => True) (replaceSet key f.name value) :=
  (Engine.asks_liftM (asks_del (h.del f hf))).bind fun _ _ =>
    (Engine.asks_liftM (asks_sadd fun hne => h.sadd f hf _ hne (hv.members (Table.mem_setFields.1 hf).2))).bind
      fun _ _ => .pure trivial

/-- Writing a row asks for commands on the row only. -/
theorem asks_writeRow (h : t.RowCommands key P) {values : List (Field × String)}
    (hv : ∀ fx ∈ values, fx.1 ∈ t.fields ∧ fx.1.Holds fx.2) :
    Asks P (fun _ => True) (writeRow key values) := by
  obtain ⟨h1, h2⟩ := hashFields_stored hv
  refine (Engine.asks_liftM (asks_hmset h h1 h2)).bind fun _ _ => Asks.forM fun fx hfx => ?_
  obtain ⟨hmem, hset⟩ := List.mem_filter.1 hfx
  exact asks_replaceSet h (Table.mem_setFields.2 ⟨(hv fx hmem).1, hset⟩) (hv fx hmem).2

theorem asks_assignSet (h : t.RowCommands key P) (hf : a.field ∈ t.setFields) (ha : Sound t a) :
    Asks P (fun _ => True) (assignSet key a) := by
  have hset := (Table.mem_setFields.1 hf).2
  have hv := ha.holds (.inr hset)
  unfold assignSet
  simp only []
  split
  · exact asks_replaceSet h hf hv
  · exact (Engine.asks_liftM (asks_sadd fun hne => h.sadd _ hf _ hne (hv.members hset))).bind
      fun _ _ => .pure trivial
  · exact (Engine.asks_liftM (asks_srem (h.srem _ hf _))).bind fun _ _ => .pure trivial

theorem StoredPairs.cons (ha : Sound t a) (hset : a.field.type.isSet = false) (hx : a.field.Holds x)
    (hp : StoredPairs t pairs) : StoredPairs t ((a.field.name, Utf8.bytes x) :: pairs) := by
  have hplain : a.field.isPlain = true := by
    unfold Field.isPlain
    rw [ha.noKey, hset]
    rfl
  intro p hm
  rcases List.mem_cons.1 hm with rfl | hm
  · exact stored_field ha.field hplain hx
  · exact hp p hm

/-- Assignments ask for commands on the row only, and the values that are left to write are in stored form. -/
theorem asks_assign (h : t.RowCommands key P) (old : List (String × Option Bytes))
    (has : ∀ a ∈ as, Sound t a) : Asks P (StoredPairs t) (assign key old as) := by
  induction as with
  | nil => exact .pure fun p hm => by cases hm
  | cons a as ih =>
    have ha := has a List.mem_cons_self
    have ih := ih fun b hb => has b (List.mem_cons_of_mem _ hb)
    unfold assign
    split
    · next hset => exact (asks_assignSet h (Table.mem_setFields.2 ⟨ha.field, hset⟩) ha).bind fun _ _ => ih
    · next hset =>
      have hset : a.field.type.isSet = false := by simpa using hset
      split
      · next hop =>
        refine (Asks.pure (Q := a.field.Holds) (ha.holds (.inl hop))).bind fun x hx => ih.bind fun pairs hp => ?_
        exact .pure (hp.cons ha hset hx)
      · next hop =>
        refine (Asks.mk (Q := a.field.Holds) fun x hx => arithmetic_holds (ha.numeric hop hset) hx).bind
          fun x hx => ih.bind fun pairs hp => ?_
        exact .pure (hp.cons ha hset hx)

/-- Carrying assignments out asks for commands on the row only. -/
theorem asks_updateRow (h : t.RowCommands key P) (has : ∀ a ∈ as, Sound t a) :
    Asks P (fun _ => True) (updateRow key as) := by
  have hrest (old : List (Option Bytes)) : Asks P (fun _ => True) (do
      let pairs ← assign key (((as.filter needsOld).map fun a => a.field.name).zip old) as
      if !pairs.isEmpty then liftM (Asking.hmset key pairs) : Engine Unit) := by
    refine (asks_assign h _ has).bind fun pairs hp => ?_
    cases pairs with
    | nil => exact .pure trivial
    | cons p ps => exact Engine.asks_liftM (asks_hmset h hp (List.cons_ne_nil p ps))
  unfold updateRow
  simp only []
  split
  · exact (Asks.pure (Q := fun _ => True) trivial).bind fun _ _ => hrest _
  · next hne =>
    refine (Engine.asks_liftM (asks_hmget (h.hmget _ ?_))).bind fun _ _ => hrest _
    exact fun he => hne (by rw [he]; rfl)

/-- A statement with a full key asks for commands on its row only. -/
theorem asks_execute {u : PreparedUpsertion} (hu : u.Sound t) (hkey : u.key = some key)
    (h : t.RowCommands key P) (v : ScanEnv) : Asks P (fun _ => True) (execute v u) := by
  have hexists : Asks P (fun _ => True) (liftM (Asking.existsKey key) : Engine Bool) :=
    Engine.asks_liftM (asks_existsKey h.existsKey)
  have hwritten {α : Type} (a : α) : Asks P (fun _ => True) (pure a : Engine α) := .pure trivial
  have hwrite := asks_writeRow h hu.values
  unfold execute
  rw [hkey]
  split
  · exact .throw _
  · next hk => cases hk; exact hwrite.bind fun _ _ => hwritten _
  · next hk =>
    cases hk
    refine hexists.bind fun b _ => ?_
    split
    · exact hwritten _
    · exact hwrite.bind fun _ _ => hwritten _
  · next as _ hmode hk =>
    cases hk
    refine hexists.bind fun b _ => ?_
    split
    · exact (asks_updateRow h (hu.mode as hmode)).bind fun _ _ => hwritten _
    · exact (Asks.mk (Q := fun _ => True) fun _ _ => trivial).bind fun _ _ => hwrite.bind fun _ _ => hwritten _
  · next hk => cases hk
  · next hk _ _ => cases hk

end Upsertion
end SlotSql
