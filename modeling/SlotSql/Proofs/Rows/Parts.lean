import SlotSql.Proofs.Rows.Upsertion
/-!
# Stored forms, and parts of keys

A value that is written into a part of a row key holds no character that has a meaning in keys, neither as it is given
nor as it is stored: numbers and days are stored without one, and a time of day, which has to hold a colon, is never
accepted there. So the key of a statement is read as the key of a row of its table.

Whatever is stored is its own stored form, and integers are stored alike if they are the same number.

Results:
* `notMem_of_normalize`: the stored form of a part holds no such character.
* `prepare_parts`: the key of a prepared statement is one of a row of its table.
* `stored_idem`, `normalize_idem`, `normalize_integer`: values that are stored once more, and integers.
* `normalize_canonical`: stored forms are canonical.
-/
namespace SlotSql

variable {t : Table} {st : Settings} {f : Field} {v w : String} {now : Int}

/-! ## Days and times -/

namespace Calendar

open Number

variable {cs r : List Char} {ch : Char}

theorem notMem_padded (hch : ch ∈ Key.structural) (width n : Nat) : ch ∉ padded width n := by
  have hall : (Key.structural.all fun c => c != '0' && !(digit? 10 c).isSome) = true := by decide
  have hdigit : ch ≠ '0' ∧ (digit? 10 ch).isSome = false := by simpa using List.all_eq_true.1 hall ch hch
  unfold padded
  rw [List.mem_append, not_or]
  refine ⟨fun h => hdigit.1 (List.eq_of_mem_replicate h), fun h => ?_⟩
  have hd := Evaluation.digit?_of_mem_toDigits (by decide) (by decide) h
  rw [hdigit.2] at hd
  cases hd

/-- A day is written without a character that has a meaning in keys. -/
theorem notMem_dateText (hch : ch ∈ Key.structural) (d : Date) : ch ∉ d.text.toList := by
  have hall : (Key.structural.all fun c => c != '-' && c != '+') = true := by decide
  obtain ⟨hminus, hplus⟩ : ch ≠ '-' ∧ ch ≠ '+' := by simpa using List.all_eq_true.1 hall ch hch
  have hyear : ch ∉ yearText d.year := by
    unfold yearText
    split
    · exact notMem_padded hch _ _
    · rw [List.mem_cons, not_or]
      refine ⟨?_, notMem_padded hch _ _⟩
      split
      · exact hminus
      · exact hplus
  unfold Date.text Date.chars
  rw [String.toList_ofList]
  simp only [List.mem_append, List.mem_singleton, not_or]
  exact ⟨⟨⟨⟨hyear, hminus⟩, notMem_padded hch _ _⟩, hminus⟩, notMem_padded hch _ _⟩

theorem suffix_digits? {width n : Nat} (h : digits? width cs = some (n, r)) : r <:+ cs := by
  unfold digits? at h
  obtain ⟨k, -, h⟩ := Option.map_eq_some_iff.1 h
  cases h
  exact List.drop_suffix _ _

theorem suffix_trimStart (cs : List Char) : Text.trimStart cs <:+ cs := List.dropWhile_suffix _

theorem suffix_pair? {n : Nat} (h : pair? cs = some (n, r)) : r <:+ cs :=
  (suffix_digits? h).trans (suffix_trimStart cs)

theorem mem_of_skip? {c : Char} (h : skip? c cs = some r) : c ∈ cs ∧ r <:+ cs := by
  cases cs with
  | nil => cases h
  | cons d ds =>
    rw [skip?] at h
    by_cases he : d = c
    · rw [if_pos he] at h
      cases h
      exact ⟨he ▸ List.mem_cons_self, List.suffix_cons d _⟩
    · rw [if_neg he] at h
      cases h

/-- A time of day is read behind a colon. -/
theorem mem_of_clock {x : Clock × List Char} (h : Clock.front? cs = some x) : ':' ∈ cs := by
  unfold Clock.front? at h
  obtain ⟨⟨n, r⟩, h1, h⟩ := Option.bind_eq_some_iff.1 h
  obtain ⟨r', h2, -⟩ := Option.bind_eq_some_iff.1 h
  exact (suffix_pair? h1).subset (mem_of_skip? h2).1

theorem suffix_year? {y : Int} (h : year? cs = some (y, r)) : r <:+ cs := by
  have hdigits {width : Nat} {r' : List Char} {g : Nat × List Char → Int × List Char}
      (hg : ∀ x, (g x).2 = x.2) (hr : r' <:+ Text.trimStart cs)
      (h : (digits? width r').map g = some (y, r)) : r <:+ cs := by
    obtain ⟨x, hx, he⟩ := Option.map_eq_some_iff.1 h
    have hrest : x.2 = r := (hg x).symm.trans (congrArg Prod.snd he)
    exact hrest ▸ ((suffix_digits? hx).trans hr).trans (suffix_trimStart cs)
  unfold year? at h
  split at h
  · next hr => exact hdigits (fun _ => rfl) (hr ▸ List.suffix_cons _ _) h
  · next hr => exact hdigits (fun _ => rfl) (hr ▸ List.suffix_cons _ _) h
  · exact hdigits (fun _ => rfl) (List.suffix_refl _) h

theorem suffix_date {d : Date} (h : Date.front? cs = some (d, r)) : r <:+ cs := by
  unfold Date.front? at h
  obtain ⟨⟨y, r₁⟩, h1, h⟩ := Option.bind_eq_some_iff.1 h
  obtain ⟨r₂, h2, h⟩ := Option.bind_eq_some_iff.1 h
  obtain ⟨⟨m, r₃⟩, h3, h⟩ := Option.bind_eq_some_iff.1 h
  obtain ⟨r₄, h4, h⟩ := Option.bind_eq_some_iff.1 h
  obtain ⟨⟨n, r₅⟩, h5, h⟩ := Option.bind_eq_some_iff.1 h
  have hr : r₅ = r := by
    simp only [] at h
    by_cases hv : (Date.mk y m n).Valid
    · rw [if_pos hv] at h
      cases h
      rfl
    · rw [if_neg hv] at h
      cases h
  rw [← hr]
  exact (suffix_pair? h5).trans <| (mem_of_skip? h4).2.trans <| (suffix_pair? h3).trans <|
    (mem_of_skip? h2).2.trans (suffix_year? h1)

/-- So is a day with a time. -/
theorem mem_of_moment {s : String} {m : Moment} (h : Moment.read? s = some m) : ':' ∈ s.toList := by
  unfold Moment.read? at h
  obtain ⟨⟨d, r⟩, h1, h⟩ := Option.bind_eq_some_iff.1 h
  obtain ⟨x, h2, -⟩ := Option.bind_eq_some_iff.1 h
  exact ((suffix_trimStart r).trans (suffix_date h1)).subset (mem_of_clock h2)

end Calendar

/-! ## Parts -/

/-- The stored form of a part of a row key holds no character that has a meaning in keys. -/
theorem notMem_of_normalize (h : f.normalize v = .ok w) (hk : f.isKey = true) {ch : Char}
    (hch : ch ∈ Key.structural) : ch ∉ w.toList := by
  obtain ⟨hlegal, hs⟩ := normalize_eq_ok.1 h
  have hplain := hlegal hk
  have hv : ':' ∉ v.toList := hplain ':' (by decide)
  cases hi : f.type.isInteger with
  | true =>
    obtain ⟨n, -, rfl⟩ := stored_integer hi hs
    exact Evaluation.structural_integerText hch
  | false =>
    cases hf : f.type.isFloat with
    | true =>
      obtain ⟨y, -, -, rfl⟩ := stored_float hf hs
      rw [Text.trimmed, String.toList_ofList]
      exact fun hm => hplain ch hch (Text.mem_of_mem_trim hm)
    | false =>
      cases htemp : f.type.isTemporal with
      | false =>
        have hn : f.type.isNumeric = false := by rw [ValueType.isNumeric, hi, hf, Bool.or_false]
        rw [stored_verbatim hs hn htemp]
        exact hplain ch hch
      | true =>
        rcases stored_temporal htemp hs with ⟨-, d, -, rfl⟩ | ⟨-, c, hc, -⟩ | ⟨-, m, hm, -⟩
        · exact Calendar.notMem_dateText hch d
        · obtain ⟨x, hx, -⟩ := Option.bind_eq_some_iff.1 hc
          exact absurd (Calendar.mem_of_clock hx) hv
        · exact absurd (Calendar.mem_of_moment hm) hv

/-- The key of a prepared statement is one of a row of its table. -/
theorem Upsertion.prepare_parts (ht : t.Valid st) {u : Upsertion} {pu : PreparedUpsertion} {key : String}
    (h : prepare t now u = .ok pu) (hk : pu.key = some key) : (t.parts? key).isSome = true := by
  obtain ⟨_, ws, -, -, rfl, hall⟩ := prepare_key ht h hk
  have hne : ws ≠ [] := by
    rintro rfl
    exact ht.keys_ne_nil (List.length_eq_zero_iff.1 hall.length_eq)
  have hplain : ∀ w ∈ ws, ':' ∉ w.toList := by
    intro w hw
    obtain ⟨f, hf, _, _, -, -, hnorm⟩ := exists_of_mem_right hall hw
    obtain ⟨hmem, hkey⟩ := Table.mem_keyFields.1 hf
    exact notMem_of_normalize hnorm hkey (by decide)
  have hname {s : String} (hs : Token.isName s.toList = true) : s ≠ "" ∧ ':' ∉ s.toList := by
    refine ⟨?_, Table.notMem_name hs (by decide)⟩
    rintro rfl
    cases hs
  have hread : Key.parseRow? (t.rowKey ws) = _ := Key.parseRow?_row (hname ht.tablespace).1 (hname ht.tablespace).2 (hname ht.name).1
    (hname ht.name).2 hne hplain
  rw [Table.parts?_of_parse hread hall.length_eq.symm]
  rfl

/-! ## Stored forms -/

/-- Bringing a value into its stored form once more does not change it, not even a double. -/
theorem stored_idem (h : f.stored v = .ok w) : f.stored w = .ok w := by
  cases hf : f.type.isFloat with
  | true =>
    have ht : f.type = .flt64 := by simpa [ValueType.isFloat] using hf
    obtain ⟨y, hy, hfinite, rfl⟩ := stored_float hf h
    have hread := Evaluation.double_trimmed _ _ hy
    have hi : ValueType.flt64.isInteger = false := rfl
    unfold Field.stored
    rw [ht] at hread ⊢
    simp [hi, hread, hfinite, Text.trimmed_trimmed]
  | false =>
    refine (holds_of_stored h).2 ?_
    rintro ht
    rw [ht] at hf
    cases hf

theorem normalize_idem (h : f.normalize v = .ok w) : f.normalize w = .ok w :=
  normalize_eq_ok.2 ⟨fun hk _ hc => notMem_of_normalize h hk hc, stored_idem (normalize_eq_ok.1 h).2⟩

/-- A column of integers takes what is read as an integer of its type, whether it is a part of the row key or not. -/
theorem normalize_integer (hi : f.type.isInteger = true) : f.normalize v = .ok w ↔
    ∃ n, Evaluation.integer f.type v = .ok n ∧ w = Evaluation.integerText f.type n := by
  constructor
  · exact fun h => stored_integer hi (normalize_eq_ok.1 h).2
  · rintro ⟨n, hn, rfl⟩
    refine normalize_eq_ok.2 ⟨fun _ _ hc => Evaluation.structural_integer hn hc, ?_⟩
    unfold Field.stored
    rw [if_pos hi, hn]

/-- Stored forms are canonical: they stay as they are when they are stored once more, one in a part of the row key holds no
character that has a meaning in keys, and two spellings of integers have one stored form if they write the same number. -/
theorem normalize_canonical (f : Field) {v w : String} (h : f.normalize v = .ok w) :
    f.normalize w = .ok w ∧ (f.isKey = true → ∀ c ∈ Key.structural, c ∉ w.toList) ∧
    ∀ (f' : Field) {v' w' : String}, f'.type = f.type → f.type.isInteger = true → f'.normalize v' = .ok w' →
      ∃ m n, Evaluation.integer f.type v = .ok m ∧ Evaluation.integer f.type v' = .ok n ∧ (w = w' ↔ m = n) := by
  refine ⟨normalize_idem h, fun hk _ hc => notMem_of_normalize h hk hc, fun f' v' w' ht hi h' => ?_⟩
  obtain ⟨m, hm, rfl⟩ := (normalize_integer hi).1 h
  obtain ⟨n, hn, rfl⟩ := (normalize_integer (by rw [ht]; exact hi)).1 h'
  rw [ht] at hn ⊢
  refine ⟨m, n, hm, hn, Evaluation.integerText_inj hi hm hn, ?_⟩
  rintro rfl
  rfl

/-- A column of hexadecimal numbers. -/
def maskField (ordinal : Nat) : Field := ⟨"mask", .ub8x, 8, 0, ordinal, true, ""⟩

/-- A hexadecimal number in a part of a row key, and another spelling of it in an attribute. -/
theorem normalize_canonical_hex : (maskField 1).normalize " 0x00FF " = .ok "ff" ∧ (maskField 0).normalize "+fF" = .ok "ff" ∧
    (maskField 1).normalize "ff" = .ok "ff" ∧ (∀ c ∈ Key.structural, c ∉ "ff".toList) ∧
    ∃ m n, Evaluation.integer .ub8x " 0x00FF " = .ok m ∧ Evaluation.integer .ub8x "+fF" = .ok n ∧ m = n := by
  have hpart : (maskField 1).normalize " 0x00FF " = .ok "ff" := by rfl
  have hattribute : (maskField 0).normalize "+fF" = .ok "ff" := by rfl
  obtain ⟨hidem, hlegal, hsame⟩ := normalize_canonical (maskField 1) hpart
  obtain ⟨m, n, hm, hn, hiff⟩ := hsame (maskField 0) rfl rfl hattribute
  exact ⟨hpart, hattribute, hidem, hlegal rfl, m, n, hm, hn, hiff.1 rfl⟩

end SlotSql
