import SlotSql.Key
import SlotSql.Proofs.Number.Double
import SlotSql.Table.Value
/-!
# Values that are read back

An integer is read back from the form in which it is stored, which holds no character that has a meaning
in keys; no spelling of it does. So is a double.

Results:
* `integer_integerText`: an integer in the range of its type is read back.
* `structural_integerText`, `structural_integer`: no stored integer holds a structural character, nor does a text that is read as
  one.
* `double_display`, `double_trimmed`: the texts in which doubles are stored are read as numbers.
-/
namespace SlotSql.Evaluation

open Number Text

variable {t : ValueType} {n lo hi : Int} {v : String}

theorem integerRange?_bounds (h : t.integerRange? = some (lo, hi)) :
    (signedRange 128).1 ≤ lo ∧ hi ≤ (signedRange 128).2 ∧ (t.isHex = true → 0 ≤ lo) := by
  cases t <;> cases h <;> decide

theorem digit?_of_mem_toDigits {b k : Nat} (hb : 1 < b) (hb' : b ≤ 16) {c : Char}
    (hc : c ∈ Nat.toDigits b k) : (digit? b c).isSome = true :=
  (digits?_isSome.1 (by rw [digits?_toDigits hb hb']; rfl)).2 c hc

/-- A stored integer is made of digits, perhaps with a minus sign in front. -/
theorem toList_integerText (t : ValueType) (n : Int) : ∃ b k, 1 < b ∧ b ≤ 16 ∧
    ((integerText t n).toList = Nat.toDigits b k ∨ (integerText t n).toList = '-' :: Nat.toDigits b k) := by
  unfold integerText
  split
  · exact ⟨16, n.toNat, by omega, by omega, .inl String.toList_ofList⟩
  · cases n with
    | ofNat k => exact ⟨10, k, by omega, by omega, .inl Nat.toList_repr⟩
    | negSucc k =>
      refine ⟨10, k + 1, by omega, by omega, .inr ?_⟩
      show ("-" ++ Nat.repr (k + 1)).toList = _
      rw [String.toList_append, Nat.toList_repr]
      rfl

theorem mem_integerText {c : Char} (hc : c ∈ (integerText t n).toList) :
    (∃ b k, 1 < b ∧ b ≤ 16 ∧ c ∈ Nat.toDigits b k) ∨ c = '-' := by
  obtain ⟨b, k, hb, hb', h | h⟩ := toList_integerText t n
  · exact .inl ⟨b, k, hb, hb', h ▸ hc⟩
  · rw [h] at hc
    exact (List.mem_cons.1 hc).symm.imp (fun hc => ⟨b, k, hb, hb', hc⟩) id

/-- A digit of some base is a hexadecimal digit. -/
theorem digit?_hex {b : Nat} (hb : b ≤ 16) {c : Char} (h : (digit? b c).isSome = true) : (digit? 16 c).isSome = true := by
  obtain ⟨d, hd⟩ := Option.isSome_iff_exists.1 h
  simp only [digit?, Option.filter_eq_some_iff, decide_eq_true_eq] at hd
  refine Option.isSome_iff_exists.2 ⟨d, ?_⟩
  simp only [digit?, Option.filter_eq_some_iff, decide_eq_true_eq]
  exact ⟨hd.1, by omega⟩

/-- Digits, signs and the letter that marks a hexadecimal number. -/
def isNumeral (c : Char) : Bool := (digit? 16 c).isSome || c == '-' || c == '+' || c == 'x' || c == 'X'

theorem isNumeral_of_digit {b : Nat} (hb : b ≤ 16) {c : Char} (h : (digit? b c).isSome = true) : isNumeral c = true := by
  unfold isNumeral
  rw [digit?_hex hb h]
  rfl

/-- No structural character stands in a written integer, or around it. -/
theorem not_isNumeral {c : Char} (hc : c ∈ Key.structural) : isNumeral c = false ∧ isBlank c = false := by
  have htable : (Key.structural.all fun c => !isNumeral c && !isBlank c) = true := by decide +kernel
  simpa using List.all_eq_true.1 htable c hc

/-- No stored integer holds a structural character. -/
theorem structural_integerText {c : Char} (hc : c ∈ Key.structural) : c ∉ (integerText t n).toList := by
  intro hm
  have hnumeral : isNumeral c = true := by
    rcases mem_integerText hm with ⟨b, k, hb, hb', h⟩ | rfl
    · exact isNumeral_of_digit hb' (digit?_of_mem_toDigits hb hb' h)
    · decide
  rw [(not_isNumeral hc).1] at hnumeral
  cases hnumeral

theorem isNumeral_of_signed? {b : Nat} (hb : b ≤ 16) {cs : List Char} (h : signed? b cs = some n) :
    ∀ c ∈ cs, isNumeral c = true := by
  have hdigits {cs : List Char} {f : Option Nat → Option Int} (hf : f none = none) (h : f (digits? b cs) = some n) :
      ∀ c ∈ cs, isNumeral c = true := fun c hc => by
    cases hd : digits? b cs with
    | none =>
      rw [hd, hf] at h
      cases h
    | some k => exact isNumeral_of_digit hb ((digits?_isSome.1 (by rw [hd]; rfl)).2 c hc)
  unfold signed? at h
  split at h
  · exact List.forall_mem_cons.2 ⟨by decide, hdigits (f := fun o => (o.bind (some ∘ Int.ofNat)).map (-·)) rfl h⟩
  · exact List.forall_mem_cons.2 ⟨by decide, hdigits (f := Option.map Int.ofNat) rfl h⟩
  · exact hdigits (f := Option.map Int.ofNat) rfl h

theorem isNumeral_of_hexDigits {cs : List Char} (h : ∀ c ∈ hexDigits cs, isNumeral c = true) :
    ∀ c ∈ cs, isNumeral c = true := by
  unfold hexDigits at h
  split at h
  · next ds hds =>
    rw [Option.orElse_eq_orElse, Option.orElse_eq_or, Option.or_eq_some_iff] at hds
    rcases hds with hds | ⟨-, hds⟩
    · rw [stripStart?_eq_some.1 hds]
      exact List.forall_mem_cons.2 ⟨by decide, List.forall_mem_cons.2 ⟨by decide, h⟩⟩
    · rw [stripStart?_eq_some.1 hds]
      exact List.forall_mem_cons.2 ⟨by decide, List.forall_mem_cons.2 ⟨by decide, h⟩⟩
  · exact h

/-- Nor does a text that is read as an integer, whatever its spelling. -/
theorem structural_integer (h : integer t v = .ok n) {c : Char} (hc : c ∈ Key.structural) : c ∉ v.toList := by
  have hread {b : Nat} {cs : List Char} (hb : b ≤ 16) (h : int128? b (String.ofList cs) = some n) :
      ∀ c ∈ cs, isNumeral c = true := by
    have hsigned := (Option.filter_eq_some_iff.1 h).1
    rw [String.toList_ofList] at hsigned
    exact isNumeral_of_signed? hb hsigned
  have hnumeral : ∀ c ∈ trim v.toList, isNumeral c = true := by
    unfold integer at h
    simp only [] at h
    split at h
    · next m hm =>
      cases h
      have hvalue := (Option.filter_eq_some_iff.1 hm).1
      split at hvalue
      · exact isNumeral_of_hexDigits (hread (by decide) hvalue)
      · exact hread (by decide) hvalue
    · cases h
  obtain ⟨hnot, hblank⟩ := not_isNumeral hc
  intro hm
  rw [hnumeral c (mem_trim_of_mem hm hblank)] at hnot
  cases hnot

theorem isBlank_integerText : ∀ c ∈ (integerText t n).toList, isBlank c = false := by
  intro c hc
  rcases mem_integerText hc with ⟨b, k, hb, hb', h⟩ | rfl
  · exact isBlank_toDigits hb hb' k c h
  · decide

theorem hexDigits_toDigits (k : Nat) : hexDigits (Nat.toDigits 16 k) = Nat.toDigits 16 k := by
  have hnone {x : Char} (hx : digit? 16 x = none) : stripStart? ['0', x] (Nat.toDigits 16 k) = none := by
    cases h : stripStart? ['0', x] (Nat.toDigits 16 k) with
    | none => rfl
    | some r =>
      have hm : x ∈ Nat.toDigits 16 k := by rw [stripStart?_eq_some.1 h]; simp
      have := digit?_of_mem_toDigits (by omega) (by omega) hm
      rw [hx] at this
      cases this
  unfold hexDigits
  rw [hnone (x := 'x') (by decide), hnone (x := 'X') (by decide)]
  rfl

/-- An integer in the range of its type is read back. -/
theorem integer_integerText (hr : t.integerRange? = some (lo, hi)) (h1 : lo ≤ n) (h2 : n ≤ hi) :
    integer t (integerText t n) = .ok n := by
  obtain ⟨g1, g2, g3⟩ := integerRange?_bounds hr
  have hrange : (signedRange 128).1 ≤ n ∧ n ≤ (signedRange 128).2 := ⟨by omega, by omega⟩
  have hread : (if t.isHex = true then int128? 16 (String.ofList (hexDigits (integerText t n).toList))
      else int128? 10 (String.ofList (integerText t n).toList)) = some n := by
    unfold integerText
    split
    · next hx =>
      have hpos := g3 hx
      unfold int128? signedInteger? integer?
      simp only [String.toList_ofList]
      rw [hexDigits_toDigits, signed?_toDigits (by omega) (by omega), Int.toNat_of_nonneg (by omega), Option.filter_some, if_pos (by simpa using hrange)]
    · unfold int128? signedInteger? integer?
      rw [String.toList_ofList, signed?_toString, Option.filter_some, if_pos (by simpa using hrange)]
  unfold integer
  simp only [trim_eq_self isBlank_integerText, hread, hr, Option.filter_some]
  rw [if_pos (by simp [h1, h2])]

/-- An integer that is read lies in the range of its type. -/
theorem integer_range (h : integer t v = .ok n) (hr : t.integerRange? = some (lo, hi)) : lo ≤ n ∧ n ≤ hi := by
  unfold integer at h
  simp only [hr] at h
  split at h
  · next m hm =>
    cases h
    have := (Option.filter_eq_some_iff.1 hm).2
    simpa using this
  · cases h

theorem isInteger_iff : t.isInteger = true ↔ ∃ lo hi, t.integerRange? = some (lo, hi) := by
  unfold ValueType.isInteger
  rw [Option.isSome_iff_exists]
  exact ⟨fun ⟨⟨a, b⟩, h⟩ => ⟨a, b, h⟩, fun ⟨a, b, h⟩ => ⟨(a, b), h⟩⟩

/-- What an integer that was read is stored as is read as the same integer. -/
theorem integer_stored (ht : t.isInteger = true) (h : integer t v = .ok n) :
    integer t (integerText t n) = .ok n := by
  obtain ⟨lo, hi, hr⟩ := isInteger_iff.1 ht
  obtain ⟨h1, h2⟩ := integer_range h hr
  exact integer_integerText hr h1 h2

/-- A double that is read from a text is read from the trimmed text. -/
theorem double_trimmed (t : ValueType) (v : String) {x : Float} (h : double t v = .ok x) :
    double t (trimmed v) = .ok x := by
  unfold double at *
  rw [trimmed_trimmed]
  split at h
  · exact h
  · cases h

/-- What is written of a finite double is read as a number. -/
theorem double_display (t : ValueType) {x : Float} (hx : x.isFinite = true) :
    ∃ y, double t (display x) = .ok y := by
  obtain ⟨c, cs, y, h1, h2, h3, h4⟩ := double?_display hx
  have hblank : ∀ z ∈ (display x).toList, isBlank z = false := by
    intro z hz
    rw [h1, String.toList_ofList] at hz
    rcases h4 z hz with h | rfl | rfl
    · simp only [Char.isDigit, Bool.and_eq_true, decide_eq_true_eq] at h
      have hlo : 48 ≤ z.toNat := h.1
      have hhi : z.toNat ≤ 57 := h.2
      simp only [isBlank, Bool.or_eq_false_iff, Bool.and_eq_false_iff, decide_eq_false_iff_not,
        beq_eq_false_iff_ne]
      omega
    · decide
    · decide
  refine ⟨y, ?_⟩
  unfold double trimmed
  rw [trim_eq_self hblank, String.ofList_toList, h2, Option.filter_some, if_pos (by rw [h3]; rfl)]

end SlotSql.Evaluation
