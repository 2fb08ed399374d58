import SlotSql.Text.Utf8
/-!
# Decoding what was encoded

Every text survives the way through octets, read strictly or forgivingly. A character of one to four
octets is one piece, whatever follows it.

Results:
* `pieces_encode`: the pieces of an encoded text are its characters.
* `decode?_bytes`, `decodeLossy_bytes`: both readers give an encoded string back.
* `bytes_injective`: different strings have different octets.
* `mem_encode_iff`: an ASCII character stands in a text if its octet does.
* `encode_eq_append`: a text whose octets begin with those of another one begins with it.
* `bytes_of_decode?`: what is read as a text is how the text is encoded, so no text has two encodings.
-/
namespace SlotSql.Utf8

theorem toNat_ofNat {n : Nat} (h : n < 256) : (UInt8.ofNat n).toNat = n := by
  rw [UInt8.toNat_ofNat']; omega

theorem within_iff {lo hi b : UInt8} :
    within lo hi b = true ↔ lo.toNat ≤ b.toNat ∧ b.toNat ≤ hi.toNat := by
  simp [within, UInt8.le_iff_toNat_le]

theorem shape?_two : ∀ n, n < 0xE0 → 0xC2 ≤ n → shape? (UInt8.ofNat n) = some (0x80, 0xBF, 1) := by
  decide +kernel

theorem shape?_three : ∀ n, n < 0xF0 → 0xE0 ≤ n → shape? (UInt8.ofNat n) =
    some (if n = 0xE0 then 0xA0 else 0x80, if n = 0xED then 0x9F else 0xBF, 2) := by
  decide +kernel

theorem shape?_four : ∀ n, n < 0xF5 → 0xF0 ≤ n → shape? (UInt8.ofNat n) =
    some (if n = 0xF0 then 0x90 else 0x80, if n = 0xF4 then 0x8F else 0xBF, 3) := by
  decide +kernel

theorem char_valid (c : Char) : c.toNat < 0xD800 ∨ 0xDFFF < c.toNat ∧ c.toNat < 0x110000 := c.valid

/-- The first piece of an encoded character with more behind it is the character. -/
theorem pieces_one {n : Nat} (hn : n < 0x80) (r : Bytes) :
    pieces (UInt8.ofNat n :: r) = some (Char.ofNat n) :: pieces r := by
  have ha : (UInt8.ofNat n).toNat = n := toNat_ofNat (by omega)
  have hh : head (UInt8.ofNat n) r = (some (Char.ofNat n), 0) := by
    unfold head
    rw [if_pos (by rw [UInt8.lt_iff_toNat_lt, ha]; exact hn), ha]
  rw [pieces, hh, List.drop_zero]

theorem takeWhile_of_all {q : UInt8 → Bool} {l : Bytes} (h : ∀ b ∈ l, q b = true) : l.takeWhile q = l := by
  induction l with
  | nil => rfl
  | cons b l ih =>
    rw [List.takeWhile_cons, if_pos (h b List.mem_cons_self), ih fun c hc => h c (List.mem_cons_of_mem _ hc)]

/-- The first octet `a` of a longer character, the octets `b` and `tail` behind it, and more. -/
theorem pieces_more {a b : Nat} {r : Bytes} (lead : Nat) (tail : Bytes) {lo hi : UInt8} {m : Nat} (ha : a < 256)
    (ha' : 0x80 ≤ a) (hb : b < 256) (hs : shape? (UInt8.ofNat a) = some (lo, hi, m))
    (hlo : lo.toNat ≤ b) (hhi : b ≤ hi.toNat) (hl : tail.length + 1 = m)
    (ht : ∀ t ∈ tail, within 0x80 0xBF t = true)
    (hlead : (if m = 1 then a - 0xC0 else if m = 2 then a - 0xE0 else a - 0xF0) = lead) :
    pieces (UInt8.ofNat a :: UInt8.ofNat b :: (tail ++ r)) =
      some (Char.ofNat (value lead (UInt8.ofNat b :: tail))) :: pieces r := by
  have hna : (UInt8.ofNat a).toNat = a := toNat_ofNat ha
  have hw : within lo hi (UInt8.ofNat b) = true := by
    rw [within_iff, toNat_ofNat hb]; exact ⟨hlo, hhi⟩
  have htake : ((tail ++ r).take (m - 1)).takeWhile (within 0x80 0xBF) = tail := by
    rw [← hl, Nat.add_sub_cancel, List.take_left']
    · exact takeWhile_of_all ht
    · rfl
  have hlen : (UInt8.ofNat b :: tail).length = m := hl
  have hh : head (UInt8.ofNat a) (UInt8.ofNat b :: (tail ++ r)) =
      (some (Char.ofNat (value lead (UInt8.ofNat b :: tail))), m) := by
    unfold head
    rw [if_neg (by rw [UInt8.lt_iff_toNat_lt, hna]; exact Nat.not_lt.2 ha'), hs]
    simp only [hw, ↓reduceIte, htake, hlen, hna, hlead]
  have hdrop : (UInt8.ofNat b :: (tail ++ r)).drop m = r := by
    rw [← hl, List.drop_succ_cons, List.drop_left']
    rfl
  rw [pieces, hh, hdrop]

theorem pieces_encodeChar (c : Char) (r : Bytes) :
    pieces (String.utf8EncodeChar c ++ r) = some c :: pieces r := by
  have hv := char_valid c
  have hc : c.val.toNat = c.toNat := rfl
  have hback : Char.ofNat c.toNat = c := Char.ofNat_toNat c
  unfold String.utf8EncodeChar
  rw [hc]
  simp only []
  generalize hn : c.toNat = n at *
  have mid (k : Nat) : within 0x80 0xBF (UInt8.ofNat (k % 0x40 + 0x80)) = true := by
    rw [within_iff, toNat_ofNat (by omega)]
    show 128 ≤ _ ∧ _ ≤ 191
    omega
  have midNat (k : Nat) : (UInt8.ofNat (k % 0x40 + 0x80)).toNat - 0x80 = k % 0x40 := by
    rw [toNat_ofNat (by omega)]; omega
  split
  · next h => rw [List.singleton_append, pieces_one (by omega), hback]
  split
  · next h1 h2 =>
    have ha : n / 64 % 0x20 + 0xC0 < 256 := by omega
    have hp := pieces_more (n / 64 % 0x20) [] (r := r) (b := n % 0x40 + 0x80) ha (by omega) (by omega)
      (shape?_two _ (by omega) (by omega))
      (by show 128 ≤ _; omega) (by show _ ≤ 191; omega) rfl (by simp) (Nat.add_sub_cancel ..)
    have hval : value (n / 64 % 0x20) [UInt8.ofNat (n % 0x40 + 0x80)] = n := by
      simp only [value, List.foldl_cons, List.foldl_nil, midNat]; omega
    simp only [List.cons_append, List.nil_append] at hp ⊢
    rw [hp, hval, hback]
  split
  · next h1 h2 h3 =>
    have ha : n / 4096 % 0x10 + 0xE0 < 256 := by omega
    have hp := pieces_more (n / 4096 % 0x10) [UInt8.ofNat (n % 0x40 + 0x80)] (r := r)
      (b := n / 64 % 0x40 + 0x80) ha (by omega) (by omega)
      (shape?_three _ (by omega) (by omega))
      (by
        split
        · show 160 ≤ _; omega
        · show 128 ≤ _; omega)
      (by
        split
        · show _ ≤ 159; omega
        · show _ ≤ 191; omega) rfl (by simpa using mid n) (Nat.add_sub_cancel ..)
    have hval : value (n / 4096 % 0x10)
        [UInt8.ofNat (n / 64 % 0x40 + 0x80), UInt8.ofNat (n % 0x40 + 0x80)] = n := by
      simp only [value, List.foldl_cons, List.foldl_nil, midNat]; omega
    simp only [List.cons_append, List.nil_append] at hp ⊢
    rw [hp, hval, hback]
  · next h1 h2 h3 =>
    have ha : n / 262144 % 0x08 + 0xF0 < 256 := by omega
    have hp := pieces_more (n / 262144 % 0x08)
      [UInt8.ofNat (n / 64 % 0x40 + 0x80), UInt8.ofNat (n % 0x40 + 0x80)] (r := r)
      (b := n / 4096 % 0x40 + 0x80) ha (by omega) (by omega)
      (shape?_four _ (by omega) (by omega))
      (by
        split
        · show 144 ≤ _; omega
        · show 128 ≤ _; omega)
      (by
        split
        · show _ ≤ 143; omega
        · show _ ≤ 191; omega) rfl
      (by
        intro t ht
        rcases List.mem_cons.1 ht with rfl | ht
        · exact mid _
        · rw [List.mem_singleton.1 ht]; exact mid _) (Nat.add_sub_cancel ..)
    have hval : value (n / 262144 % 0x08)
        [UInt8.ofNat (n / 4096 % 0x40 + 0x80), UInt8.ofNat (n / 64 % 0x40 + 0x80),
          UInt8.ofNat (n % 0x40 + 0x80)] = n := by
      simp only [value, List.foldl_cons, List.foldl_nil, midNat]; omega
    simp only [List.cons_append, List.nil_append] at hp ⊢
    rw [hp, hval, hback]

/-- The pieces of an encoded text are its characters. -/
theorem pieces_encode (cs : List Char) : pieces (encode cs) = cs.map some := by
  induction cs with
  | nil => rw [encode, List.flatMap_nil, pieces]; rfl
  | cons c cs ih =>
    have : encode (c :: cs) = String.utf8EncodeChar c ++ encode cs := rfl
    rw [this, pieces_encodeChar, ih, List.map_cons]

theorem mapM_id_some (cs : List Char) : (cs.map some).mapM id = some cs := by
  induction cs with
  | nil => rfl
  | cons c cs ih => rw [List.map_cons, List.mapM_cons, ih]; rfl

theorem decode?_bytes (s : String) : decode? (bytes s) = some s := by
  rw [decode?, bytes, pieces_encode, mapM_id_some, Option.map_some, String.ofList_toList]

theorem decodeLossy_bytes (s : String) : decodeLossy (bytes s) = s := by
  rw [decodeLossy, bytes, pieces_encode, List.map_map]
  show String.ofList (s.toList.map id) = s
  rw [List.map_id, String.ofList_toList]

theorem bytes_injective {s t : String} (h : bytes s = bytes t) : s = t := by
  rw [← decodeLossy_bytes s, h, decodeLossy_bytes]

/-! ## Octets of characters -/

theorem encode_append (cs ds : List Char) : encode (cs ++ ds) = encode cs ++ encode ds := List.flatMap_append

theorem bytes_append (s t : String) : bytes (s ++ t) = bytes s ++ bytes t := by
  unfold bytes
  rw [String.toList_append, encode_append]

theorem bytes_ofList (cs : List Char) : bytes (String.ofList cs) = encode cs := by
  unfold bytes
  rw [String.toList_ofList]

/-- An ASCII character is one octet. -/
theorem encodeChar_ascii {c : Char} (h : c.toNat < 128) :
    String.utf8EncodeChar c = [UInt8.ofNat c.toNat] := by
  have hc : c.val.toNat = c.toNat := rfl
  unfold String.utf8EncodeChar
  rw [hc]
  simp only []
  rw [if_pos (by omega)]

/-- No octet of another character is ASCII. -/
theorem le_of_mem_encodeChar {c : Char} (h : 128 ≤ c.toNat) {b : UInt8} (hb : b ∈ String.utf8EncodeChar c) :
    128 ≤ b.toNat := by
  have hv := char_valid c
  have hc : c.val.toNat = c.toNat := rfl
  unfold String.utf8EncodeChar at hb
  rw [hc] at hb
  simp only [] at hb
  rw [if_neg (by omega)] at hb
  split at hb
  · simp only [List.mem_cons, List.not_mem_nil, or_false] at hb
    rcases hb with rfl | rfl <;> rw [toNat_ofNat (by omega)] <;> omega
  split at hb
  · simp only [List.mem_cons, List.not_mem_nil, or_false] at hb
    rcases hb with rfl | rfl | rfl <;> rw [toNat_ofNat (by omega)] <;> omega
  · simp only [List.mem_cons, List.not_mem_nil, or_false] at hb
    rcases hb with rfl | rfl | rfl | rfl <;> rw [toNat_ofNat (by omega)] <;> omega

/-- An ASCII character stands in a text if its octet does. -/
theorem mem_encode_iff {c : Char} (h : c.toNat < 128) {cs : List Char} :
    UInt8.ofNat c.toNat ∈ encode cs ↔ c ∈ cs := by
  unfold encode
  rw [List.mem_flatMap]
  constructor
  · rintro ⟨d, hd, hm⟩
    rcases Nat.lt_or_ge d.toNat 128 with hlt | hge
    · rw [encodeChar_ascii hlt, List.mem_singleton] at hm
      have hn := congrArg UInt8.toNat hm
      rw [toNat_ofNat (by omega), toNat_ofNat (by omega)] at hn
      have : c = d := Char.ext (UInt32.toNat_inj.1 hn)
      exact this ▸ hd
    · have := le_of_mem_encodeChar hge hm
      rw [toNat_ofNat (by omega)] at this
      omega
  · exact fun hc => ⟨c, hc, by rw [encodeChar_ascii h]; exact List.mem_singleton_self _⟩

/-- A text whose octets begin with those of another one begins with it. -/
theorem encode_eq_append {cs ds : List Char} {r : Bytes} (h : encode cs = encode ds ++ r) :
    ∃ es, cs = ds ++ es ∧ r = encode es := by
  have hp : cs.map some = ds.map some ++ pieces r := by
    have hr (ds : List Char) : pieces (encode ds ++ r) = ds.map some ++ pieces r := by
      induction ds with
      | nil => rfl
      | cons d ds ih =>
        have : encode (d :: ds) ++ r = String.utf8EncodeChar d ++ (encode ds ++ r) := by
          rw [← List.append_assoc]; rfl
        rw [this, pieces_encodeChar, ih]
        rfl
    rw [← pieces_encode, h, hr]
  obtain ⟨a, es, rfl, ha, -⟩ := List.map_eq_append_iff.1 hp
  have had : a = ds := (List.map_inj_right fun _ _ => Option.some.inj).1 ha
  subst had
  refine ⟨es, rfl, ?_⟩
  rw [encode_append] at h
  exact (List.append_cancel_left h).symm

/-! ## Octets that are read -/

theorem octet_of_toNat {b : UInt8} {n : Nat} (h : n = b.toNat) : UInt8.ofNat n = b :=
  UInt8.toNat_inj.1 (by rw [h, toNat_ofNat b.toNat_lt])

/-- The octets of the character of a number. -/
theorem encodeChar_ofNat {n : Nat} (h : n.isValidChar) : String.utf8EncodeChar (Char.ofNat n) =
    if n < 0x80 then [UInt8.ofNat n]
    else if n < 0x800 then [UInt8.ofNat (n / 64 % 0x20 + 0xC0), UInt8.ofNat (n % 0x40 + 0x80)]
    else if n < 0x10000 then
      [UInt8.ofNat (n / 4096 % 0x10 + 0xE0), UInt8.ofNat (n / 64 % 0x40 + 0x80), UInt8.ofNat (n % 0x40 + 0x80)]
    else [UInt8.ofNat (n / 262144 % 0x08 + 0xF0), UInt8.ofNat (n / 4096 % 0x40 + 0x80),
      UInt8.ofNat (n / 64 % 0x40 + 0x80), UInt8.ofNat (n % 0x40 + 0x80)] := by
  have hval : (Char.ofNat n).val.toNat = n := by
    unfold Char.ofNat
    rw [dif_pos h]
    rfl
  unfold String.utf8EncodeChar
  simp only [hval, Nat.lt_succ_iff]

theorem encodeChar_two {a b : UInt8} (ha : 0xC2 ≤ a.toNat ∧ a.toNat ≤ 0xDF) (hb : 0x80 ≤ b.toNat ∧ b.toNat ≤ 0xBF) :
    String.utf8EncodeChar (Char.ofNat (value (a.toNat - 0xC0) [b])) = [a, b] := by
  simp only [value, List.foldl_cons, List.foldl_nil]
  have hv : ((a.toNat - 0xC0) * 64 + (b.toNat - 0x80)).isValidChar := .inl (by omega)
  rw [encodeChar_ofNat hv, if_neg (by omega), if_pos (by omega)]
  rw [octet_of_toNat (b := a) (by omega), octet_of_toNat (b := b) (by omega)]

theorem encodeChar_three {a b c : UInt8} (ha : 0xE0 ≤ a.toNat ∧ a.toNat ≤ 0xEF)
    (hb : 0x80 ≤ b.toNat ∧ b.toNat ≤ 0xBF) (hlo : a.toNat = 0xE0 → 0xA0 ≤ b.toNat)
    (hhi : a.toNat = 0xED → b.toNat ≤ 0x9F) (hc : 0x80 ≤ c.toNat ∧ c.toNat ≤ 0xBF) :
    String.utf8EncodeChar (Char.ofNat (value (a.toNat - 0xE0) [b, c])) = [a, b, c] := by
  simp only [value, List.foldl_cons, List.foldl_nil]
  have hv : (((a.toNat - 0xE0) * 64 + (b.toNat - 0x80)) * 64 + (c.toNat - 0x80)).isValidChar := by
    unfold Nat.isValidChar
    omega
  rw [encodeChar_ofNat hv, if_neg (by omega), if_neg (by omega), if_pos (by omega)]
  rw [octet_of_toNat (b := a) (by omega), octet_of_toNat (b := b) (by omega), octet_of_toNat (b := c) (by omega)]

theorem encodeChar_four {a b c d : UInt8} (ha : 0xF0 ≤ a.toNat ∧ a.toNat ≤ 0xF4)
    (hb : 0x80 ≤ b.toNat ∧ b.toNat ≤ 0xBF) (hlo : a.toNat = 0xF0 → 0x90 ≤ b.toNat)
    (hhi : a.toNat = 0xF4 → b.toNat ≤ 0x8F) (hc : 0x80 ≤ c.toNat ∧ c.toNat ≤ 0xBF)
    (hd : 0x80 ≤ d.toNat ∧ d.toNat ≤ 0xBF) :
    String.utf8EncodeChar (Char.ofNat (value (a.toNat - 0xF0) [b, c, d])) = [a, b, c, d] := by
  simp only [value, List.foldl_cons, List.foldl_nil]
  have hv : ((((a.toNat - 0xF0) * 64 + (b.toNat - 0x80)) * 64 + (c.toNat - 0x80)) * 64 +
      (d.toNat - 0x80)).isValidChar := .inr (by omega)
  rw [encodeChar_ofNat hv, if_neg (by omega), if_neg (by omega), if_neg (by omega)]
  rw [octet_of_toNat (b := a) (by omega), octet_of_toNat (b := b) (by omega), octet_of_toNat (b := c) (by omega),
    octet_of_toNat (b := d) (by omega)]

/-- The first octet of a longer character, the range of the octet behind it, and how many octets follow. -/
theorem shape?_eq_some {a lo hi : UInt8} {m : Nat} (h : shape? a = some (lo, hi, m)) :
    m = 1 ∧ (0xC2 ≤ a.toNat ∧ a.toNat ≤ 0xDF) ∧ lo = 0x80 ∧ hi = 0xBF ∨
    m = 2 ∧ (0xE0 ≤ a.toNat ∧ a.toNat ≤ 0xEF) ∧ lo = (if a.toNat = 0xE0 then 0xA0 else 0x80) ∧
      hi = (if a.toNat = 0xED then 0x9F else 0xBF) ∨
    m = 3 ∧ (0xF0 ≤ a.toNat ∧ a.toNat ≤ 0xF4) ∧ lo = (if a.toNat = 0xF0 then 0x90 else 0x80) ∧
      hi = (if a.toNat = 0xF4 then 0x8F else 0xBF) := by
  have hall : ∀ n, n < 256 → ∀ s ∈ shape? (UInt8.ofNat n),
      s.2.2 = 1 ∧ (0xC2 ≤ n ∧ n ≤ 0xDF) ∧ s.1 = 0x80 ∧ s.2.1 = 0xBF ∨
      s.2.2 = 2 ∧ (0xE0 ≤ n ∧ n ≤ 0xEF) ∧ s.1 = (if n = 0xE0 then 0xA0 else 0x80) ∧
        s.2.1 = (if n = 0xED then 0x9F else 0xBF) ∨
      s.2.2 = 3 ∧ (0xF0 ≤ n ∧ n ≤ 0xF4) ∧ s.1 = (if n = 0xF0 then 0x90 else 0x80) ∧
        s.2.1 = (if n = 0xF4 then 0x8F else 0xBF) := by
    decide +kernel
  exact hall a.toNat a.toNat_lt (lo, hi, m) (by rw [octet_of_toNat rfl]; exact h)

/-- A first octet and the octets behind it that belong to the same piece are a character. -/
theorem encodeChar_more {a b lo hi : UInt8} {m : Nat} {tail : Bytes} (hs : shape? a = some (lo, hi, m))
    (hb : within lo hi b = true) (ht : ∀ c ∈ tail, within 0x80 0xBF c = true) (hl : tail.length + 1 = m) :
    String.utf8EncodeChar (Char.ofNat (value
      (if m = 1 then a.toNat - 0xC0 else if m = 2 then a.toNat - 0xE0 else a.toNat - 0xF0) (b :: tail))) =
        a :: b :: tail := by
  have hmid {c : UInt8} (hc : c ∈ tail) : 0x80 ≤ c.toNat ∧ c.toNat ≤ 0xBF := within_iff.1 (ht c hc)
  obtain ⟨h1, h2⟩ := within_iff.1 hb
  rcases shape?_eq_some hs with ⟨rfl, ha, rfl, rfl⟩ | ⟨rfl, ha, rfl, rfl⟩ | ⟨rfl, ha, rfl, rfl⟩
  · obtain rfl := List.length_eq_zero_iff.1 (Nat.succ.inj hl)
    exact encodeChar_two ha ⟨h1, h2⟩
  · obtain ⟨c, rfl⟩ := List.length_eq_one_iff.1 (Nat.succ.inj hl)
    have hc := hmid (List.mem_singleton_self c)
    refine encodeChar_three ha ⟨?_, ?_⟩ (fun h => ?_) (fun h => ?_) hc
    · split at h1
      · exact Nat.le_trans (by decide) h1
      · exact h1
    · split at h2
      · exact Nat.le_trans h2 (by decide)
      · exact h2
    · rwa [if_pos h] at h1
    · rwa [if_pos h] at h2
  · obtain ⟨c, d, rfl⟩ : ∃ c d, tail = [c, d] := by
      match tail, hl with
      | [c, d], _ => exact ⟨c, d, rfl⟩
    have hc := hmid (c := c) (by simp)
    have hd := hmid (c := d) (by simp)
    refine encodeChar_four ha ⟨?_, ?_⟩ (fun h => ?_) (fun h => ?_) hc hd
    · split at h1
      · exact Nat.le_trans (by decide) h1
      · exact h1
    · split at h2
      · exact Nat.le_trans h2 (by decide)
      · exact h2
    · rwa [if_pos h] at h1
    · rwa [if_pos h] at h2

/-- A piece that is a character is the octets of that character. -/
theorem encodeChar_of_head {a : UInt8} {r : Bytes} {c : Char} {n : Nat} (h : head a r = (some c, n)) :
    String.utf8EncodeChar c ++ r.drop n = a :: r := by
  unfold head at h
  split at h
  · next ha =>
    cases h
    have hlt : a.toNat < 0x80 := UInt8.lt_iff_toNat_lt.1 ha
    rw [encodeChar_ofNat (.inl (by omega)), if_pos hlt, octet_of_toNat rfl]
    rfl
  · split at h
    · cases h
    · next lo hi m hs =>
      have hm : 0 < m := by rcases shape?_eq_some hs with ⟨rfl, -⟩ | ⟨rfl, -⟩ | ⟨rfl, -⟩ <;> decide
      cases r with
      | nil =>
        simp only [List.length_nil] at h
        rw [if_neg (by omega)] at h
        cases h
      | cons b r =>
        by_cases hb : within lo hi b = true
        · simp only [if_pos hb] at h
          by_cases hl : (b :: (r.take (m - 1)).takeWhile (within 0x80 0xBF)).length = m
          · rw [if_pos hl] at h
            cases h
            rw [List.length_cons] at hl
            -- As many octets as the first one asks for means that none of them was left out.
            have hall : (r.take (n - 1)).takeWhile (within 0x80 0xBF) = r.take (n - 1) :=
              (List.takeWhile_prefix _).eq_of_length_le (Nat.le_trans (List.length_take_le ..) (by omega))
            rw [hall] at hl ⊢
            have htail : ∀ c ∈ r.take (n - 1), within 0x80 0xBF c = true := by
              rw [← List.all_eq_true, ← hall]
              exact List.all_takeWhile
            rw [encodeChar_more hs hb htail hl]
            obtain ⟨k, rfl⟩ := Nat.exists_eq_succ_of_ne_zero (Nat.ne_of_gt hm)
            simp
          · rw [if_neg hl] at h
            cases h
        · simp only [if_neg hb] at h
          rw [if_neg (by simp only [List.length_nil]; omega)] at h
          cases h

theorem encode_of_pieces {bs : Bytes} : ∀ {cs : List Char}, (pieces bs).mapM id = some cs → encode cs = bs := by
  fun_induction pieces bs with
  | case1 => rintro _ ⟨⟩; rfl
  | case2 a r hd =>
    rename_i ih
    intro cs h
    rw [List.mapM_cons] at h
    simp only [id, Option.bind_eq_bind, Option.bind_eq_some_iff] at h
    obtain ⟨c, hc, ds, hds, hcs⟩ := h
    cases hcs
    have hhead : head a r = (some c, (head a r).2) := Prod.ext hc rfl
    rw [← encodeChar_of_head hhead, ← ih hds]
    rfl

/-- Octets that are read as a text are the octets of the text. -/
theorem bytes_of_decode? {bs : Bytes} {s : String} (h : decode? bs = some s) : bytes s = bs := by
  obtain ⟨cs, hcs, rfl⟩ := Option.map_eq_some_iff.1 h
  rw [bytes_ofList, encode_of_pieces hcs]

end SlotSql.Utf8
