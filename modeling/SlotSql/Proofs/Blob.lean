import SlotSql.Proofs.Text.Utf8
import SlotSql.Table.Blob
/-!
# Columns that are read back

A list of columns is stored as a string of octets without marks between its parts: each part says how long it is, or
has a fixed width. A reader that takes a part off the front leaves what was behind it, so reading undoes writing
part by part, as long as the numbers fit their widths. And writing undoes reading: every number has one form of its
width, every text one encoding, a truth value is zero or one, and a type has one number.

Results:
* `text?_text`, `field?_field`: a text and a column are read back, and what follows them is left.
* `text?_eq_some`, `field?_eq_some`: what is read as a text or a column begins with the octets of it.
* `decode?_eq_some_iff`: the octets from which a list of columns is read.
* `columns_canonical`: no octets of a list of columns begin another's, and no list has two forms.
-/
namespace SlotSql.Blob

/-- A column whose numbers fit the widths in which they are stored. -/
structure Storable (f : Field) : Prop where
  name : (Utf8.bytes f.name).length ≤ Number.max64
  length : f.length ≤ Number.max32
  scale : f.scale ≤ Number.max32
  ordinal : f.ordinal ≤ Number.max32
  comment : (Utf8.bytes f.comment).length ≤ Number.max64

theorem lt_eight {n : Nat} (h : n ≤ Number.max64) : n < Nat.pow 256 8 :=
  Nat.lt_of_le_of_lt h (by decide)

theorem lt_four {n : Nat} (h : n ≤ Number.max32) : n < Nat.pow 256 4 :=
  Nat.lt_of_le_of_lt h (by decide)

theorem text?_text {s : String} (h : (Utf8.bytes s).length ≤ Number.max64) (r : Bytes) :
    text? (text s ++ r) = some (s, r) := by
  unfold text? text
  simp only [List.append_assoc, natural?_number (lt_eight h), Option.bind_eq_bind, Option.bind_some,
    List.take_left, List.drop_left, Utf8.decode?_bytes]
  rw [if_neg (by rw [List.length_append]; omega)]
  rfl

theorem flag?_flag (b : Bool) (r : Bytes) : flag? ((if b then 1 else 0) :: r) = some (b, r) := by
  cases b <;> rfl

theorem index_le (t : ValueType) : t.index ≤ Number.max32 := by cases t <;> decide

theorem field?_field {f : Field} (h : Storable f) (r : Bytes) : field? (field f ++ r) = some (f, r) := by
  unfold field? field
  simp only [List.append_assoc, List.cons_append, List.nil_append, text?_text h.name, text?_text h.comment, flag?_flag,
    natural?_number (lt_four (index_le f.type)), natural?_number (lt_four h.length), natural?_number (lt_four h.scale),
    natural?_number (lt_four h.ordinal), ValueType.ofIndex?_index, Option.bind_eq_bind, Option.bind_some]
  rfl

theorem fieldsOf?_fields {fs : List Field} (h : ∀ f ∈ fs, Storable f) (r : Bytes) :
    fieldsOf? fs.length (fs.flatMap field ++ r) = some (fs, r) := by
  induction fs with
  | nil => rfl
  | cons f fs ih =>
    have hrest := ih fun g hg => h g (List.mem_cons_of_mem _ hg)
    simp only [List.length_cons, List.flatMap_cons, List.append_assoc, fieldsOf?,
      field?_field (h f List.mem_cons_self), hrest, Option.bind_eq_bind, Option.bind_some]
    rfl

/-! ## What can be read -/

theorem natural?_eq_some {w : Nat} {bs : Bytes} {n : Nat} {r : Bytes} (h : natural? w bs = some (n, r)) :
    n < Nat.pow 256 w ∧ bs = number w n ++ r := by
  induction w generalizing bs n with
  | zero =>
    cases h
    exact ⟨by decide, rfl⟩
  | succ w ih =>
    cases bs with
    | nil => cases h
    | cons b bs =>
      obtain ⟨⟨m, r'⟩, hm, he⟩ := Option.map_eq_some_iff.1 h
      cases he
      obtain ⟨hlt, rfl⟩ := ih hm
      have hb := b.toNat_lt
      have hdiv : (b.toNat + 256 * m) / 256 = m := by omega
      have hoctet : UInt8.ofNat (b.toNat + 256 * m) = b :=
        UInt8.toNat_inj.1 (by rw [UInt8.toNat_ofNat']; omega)
      have hpow : Nat.pow 256 (w + 1) = Nat.pow 256 w * 256 := rfl
      exact ⟨by omega, by rw [number, hdiv, hoctet]; rfl⟩

theorem le_max64 {n : Nat} (h : n < Nat.pow 256 8) : n ≤ Number.max64 := Nat.le_of_lt_succ h

theorem le_max32 {n : Nat} (h : n < Nat.pow 256 4) : n ≤ Number.max32 := Nat.le_of_lt_succ h

theorem text?_eq_some {bs : Bytes} {s : String} {r : Bytes} (h : text? bs = some (s, r)) :
    (Utf8.bytes s).length ≤ Number.max64 ∧ bs = text s ++ r := by
  unfold text? at h
  simp only [Option.bind_eq_bind, Option.bind_eq_some_iff] at h
  obtain ⟨⟨n, bs'⟩, hn, h⟩ := h
  obtain ⟨hlt, rfl⟩ := natural?_eq_some hn
  split at h
  · cases h
  · next hle =>
    obtain ⟨s', hs, h⟩ := Option.bind_eq_some_iff.1 h
    cases h
    have hbytes := Utf8.bytes_of_decode? hs
    have hlen : (Utf8.bytes s).length = n := by
      rw [hbytes, List.length_take]
      exact Nat.min_eq_left (Nat.not_lt.1 hle)
    refine ⟨hlen ▸ le_max64 hlt, ?_⟩
    show _ = number 8 (Utf8.bytes s).length ++ Utf8.bytes s ++ bs'.drop n
    rw [hlen, hbytes, List.append_assoc, List.take_append_drop]

theorem flag?_eq_some {bs : Bytes} {b : Bool} {r : Bytes} (h : flag? bs = some (b, r)) :
    bs = (if b then 1 else 0) :: r := by
  unfold flag? at h
  split at h
  · cases h; rfl
  · cases h; rfl
  · cases h

theorem field?_eq_some {bs : Bytes} {f : Field} {r : Bytes} (h : field? bs = some (f, r)) :
    Storable f ∧ bs = field f ++ r := by
  unfold field? at h
  simp only [Option.bind_eq_bind, Option.bind_eq_some_iff] at h
  obtain ⟨⟨name, b₁⟩, h₁, ⟨index, b₂⟩, h₂, type, ht, ⟨length, b₃⟩, h₃, ⟨scale, b₄⟩, h₄, ⟨ordinal, b₅⟩, h₅,
    ⟨nullable, b₆⟩, h₆, ⟨comment, b₇⟩, h₇, h⟩ := h
  cases h
  obtain ⟨hname, rfl⟩ := text?_eq_some h₁
  obtain ⟨-, rfl⟩ := natural?_eq_some h₂
  obtain ⟨hlength, rfl⟩ := natural?_eq_some h₃
  obtain ⟨hscale, rfl⟩ := natural?_eq_some h₄
  obtain ⟨hordinal, rfl⟩ := natural?_eq_some h₅
  obtain rfl := flag?_eq_some h₆
  obtain ⟨hcomment, rfl⟩ := text?_eq_some h₇
  obtain rfl := ValueType.index_of_ofIndex? ht
  refine ⟨⟨hname, le_max32 hlength, le_max32 hscale, le_max32 hordinal, hcomment⟩, ?_⟩
  simp only [field, List.append_assoc, List.cons_append, List.nil_append]

theorem fieldsOf?_eq_some {n : Nat} {bs : Bytes} {fs : List Field} {r : Bytes} (h : fieldsOf? n bs = some (fs, r)) :
    fs.length = n ∧ (∀ f ∈ fs, Storable f) ∧ bs = fs.flatMap field ++ r := by
  induction n generalizing bs fs with
  | zero =>
    cases h
    exact ⟨rfl, by simp, rfl⟩
  | succ n ih =>
    unfold fieldsOf? at h
    simp only [Option.bind_eq_bind, Option.bind_eq_some_iff] at h
    obtain ⟨⟨f, b₁⟩, h₁, ⟨fs', b₂⟩, h₂, h⟩ := h
    cases h
    obtain ⟨hf, rfl⟩ := field?_eq_some h₁
    obtain ⟨rfl, hfs, rfl⟩ := ih h₂
    refine ⟨rfl, List.forall_mem_cons.2 ⟨hf, hfs⟩, ?_⟩
    rw [List.flatMap_cons, List.append_assoc]

/-- A list of columns whose number and parts fit the widths in which they are stored. -/
structure Recordable (fs : List Field) : Prop where
  count : fs.length ≤ Number.max64
  fields : ∀ f ∈ fs, Storable f

/-- A list of columns is what is read from its octets, whatever follows them, and from no others. -/
theorem decode?_eq_some_iff {bs : Bytes} {fs : List Field} :
    decode? bs = some fs ↔ Recordable fs ∧ encode fs <+: bs := by
  unfold decode? encode
  constructor
  · intro h
    simp only [Option.bind_eq_bind, Option.bind_eq_some_iff] at h
    obtain ⟨⟨n, b₁⟩, h₁, ⟨fs', b₂⟩, h₂, h⟩ := h
    cases h
    obtain ⟨hlt, rfl⟩ := natural?_eq_some h₁
    obtain ⟨rfl, hfs, rfl⟩ := fieldsOf?_eq_some h₂
    exact ⟨⟨le_max64 hlt, hfs⟩, b₂, List.append_assoc ..⟩
  · rintro ⟨⟨hl, hfs⟩, r, rfl⟩
    rw [List.append_assoc]
    simp only [natural?_number (lt_eight hl), fieldsOf?_fields hfs, Option.bind_eq_bind, Option.bind_some]
    rfl

theorem decode_eq_ok_iff {bs : Bytes} {fs : List Field} : decode bs = .ok fs ↔ Recordable fs ∧ encode fs <+: bs := by
  rw [← decode?_eq_some_iff]
  unfold decode
  cases decode? bs <;> simp

/-- The error for octets from which no list of columns can be read. -/
def corrupt : EngineError := .schema "corrupt field descriptor blob: unreadable"

theorem decode_eq_error_iff {bs : Bytes} {e : EngineError} :
    decode bs = .error e ↔ e = corrupt ∧ ∀ fs, decode? bs ≠ some fs := by
  unfold decode
  cases decode? bs <;> simp [eq_comm, corrupt]

/-- The octets of a list of columns are read back, whatever follows them. -/
theorem decode_append {fs : List Field} (h : Recordable fs) (r : Bytes) : decode (encode fs ++ r) = .ok fs :=
  decode_eq_ok_iff.2 ⟨h, List.prefix_append ..⟩

/-- No list of columns is read from octets that end before those of a list do. -/
theorem decode_of_prefix {fs : List Field} (h : Recordable fs) {p : Bytes} (hp : p <+: encode fs)
    (hne : p ≠ encode fs) : decode p = .error corrupt := by
  refine decode_eq_error_iff.2 ⟨rfl, fun gs hgs => hne ?_⟩
  obtain ⟨hg, hgp⟩ := decode?_eq_some_iff.1 hgs
  -- The other list would be read from the octets of this one as well.
  have hsame : decode? (encode fs) = some gs := decode?_eq_some_iff.2 ⟨hg, hgp.trans hp⟩
  have hself : decode? (encode fs) = some fs := decode?_eq_some_iff.2 ⟨h, List.prefix_rfl⟩
  cases hself.symm.trans hsame
  exact hp.eq_of_length_le hgp.length_le

/-- A list of columns is read back. -/
theorem decode_encode {fs : List Field} (hl : fs.length ≤ Number.max64) (h : ∀ f ∈ fs, Storable f) :
    decode (encode fs) = .ok fs :=
  decode_eq_ok_iff.2 ⟨⟨hl, h⟩, List.prefix_rfl⟩

/-- The octets of columns are prefix-free and canonical: a list of columns is read from its octets whatever follows
them, no beginning of them that is shorter can be read, and octets from which the list is read begin with them. -/
theorem columns_canonical :
    (∀ fs, Recordable fs → (∀ r, decode (encode fs ++ r) = .ok fs) ∧
      ∀ p, p <+: encode fs → p ≠ encode fs → decode p = .error corrupt) ∧
    ∀ bs fs, decode bs = .ok fs → Recordable fs ∧ encode fs <+: bs :=
  ⟨fun _ h => ⟨decode_append h, fun _ => decode_of_prefix h⟩, fun _ _ => decode_eq_ok_iff.1⟩

/-- A key and a decimal number with a comment. -/
def weights : List Field :=
  [⟨"sid", .ub4, 4, 0, 1, false, ""⟩, ⟨"weight", .dec, 9, 2, 0, true, "in ½ kg"⟩]

theorem columns_canonical_weights : Recordable weights ∧ decode (encode weights ++ [0xFF]) = .ok weights ∧
    decode (encode weights).dropLast = .error corrupt ∧ encode weights <+: encode weights ++ [0xFF] := by
  have hfits : ∀ f ∈ weights, (Utf8.bytes f.name).length ≤ Number.max64 ∧ f.length ≤ Number.max32 ∧
      f.scale ≤ Number.max32 ∧ f.ordinal ≤ Number.max32 ∧ (Utf8.bytes f.comment).length ≤ Number.max64 := by
    decide +kernel
  have hw : Recordable weights := ⟨by decide, fun f hf =>
    let ⟨h1, h2, h3, h4, h5⟩ := hfits f hf; ⟨h1, h2, h3, h4, h5⟩⟩
  obtain ⟨hread, hshort⟩ := columns_canonical.1 weights hw
  have hne : (encode weights).dropLast ≠ encode weights := by decide +kernel
  exact ⟨hw, hread _, hshort _ (List.dropLast_prefix _) hne, (columns_canonical.2 _ _ (hread _)).2⟩

end SlotSql.Blob
