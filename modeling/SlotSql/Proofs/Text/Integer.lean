import SlotSql.Number.Integer
/-!
# Reading what was written

A number that is written in some base is read back from its digits.

Results:
* `digits?_toDigits`: the digits of a number, in a base up to sixteen.
* `natural?_toString`, `signed?_toString`, `int64?_toString`: a natural number and an integer in base ten.
-/
namespace SlotSql.Number

variable {b d n : Nat}

theorem digit?_table : ∀ d, d < 16 → digit? 16 (Nat.digitChar d) = some d := by
  decide +kernel

theorem digit?_digitChar (hd : d < b) (hb : b ≤ 16) : digit? b (Nat.digitChar d) = some d := by
  have h := digit?_table d (by omega)
  unfold digit? at h ⊢
  simp only [Option.filter_eq_some_iff, decide_eq_true_eq] at h ⊢
  exact ⟨h.1, hd⟩

theorem digitsFrom?_append (m : Nat) (xs ys : List Char) :
    digitsFrom? b m (xs ++ ys) = (digitsFrom? b m xs).bind fun k => digitsFrom? b k ys := by
  induction xs generalizing m with
  | nil => rfl
  | cons x xs ih =>
    rw [List.cons_append, digitsFrom?, digitsFrom?]
    cases digit? b x with
    | none => rfl
    | some d => exact ih _

theorem digitsFrom?_toDigits (hb : 1 < b) (hb' : b ≤ 16) (n : Nat) :
    digitsFrom? b 0 (Nat.toDigits b n) = some n := by
  induction n using Nat.strongRecOn with
  | ind n ih =>
    rw [Nat.toDigits_eq_if hb]
    split
    · next h => simp [digitsFrom?, digit?_digitChar h hb']
    · next h =>
      have hlt : n / b < n := Nat.div_lt_self (by omega) hb
      have hmod : n % b < b := Nat.mod_lt _ (by omega)
      rw [digitsFrom?_append, ih _ hlt, Option.bind_some, digitsFrom?, digit?_digitChar hmod hb']
      show some (n / b * b + n % b) = some n
      rw [Nat.div_add_mod']

/-- The digits of a number are read as the number. -/
theorem digits?_toDigits (hb : 1 < b) (hb' : b ≤ 16) (n : Nat) :
    digits? b (Nat.toDigits b n) = some n := by
  have h := digitsFrom?_toDigits hb hb' n
  cases hd : Nat.toDigits b n with
  | nil => exact absurd hd Nat.toDigits_ne_nil
  | cons c cs => rw [hd] at h; exact h

/-- A text of digits has no sign. -/
theorem toDigits_head (hb : 1 < b) (hb' : b ≤ 16) (n : Nat) :
    ∃ c cs, Nat.toDigits b n = c :: cs ∧ c ≠ '+' ∧ c ≠ '-' := by
  have h := digits?_toDigits hb hb' n
  cases hd : Nat.toDigits b n with
  | nil => exact absurd hd Nat.toDigits_ne_nil
  | cons c cs =>
    rw [hd] at h
    have hsome := (digits?_isSome.1 (by rw [h]; rfl)).2 c List.mem_cons_self
    refine ⟨c, cs, rfl, ?_, ?_⟩
    · rintro rfl; simp [digit?] at hsome
    · rintro rfl; simp [digit?] at hsome

/-- A text of digits is read as a number without a sign. -/
theorem signed?_toDigits (hb : 1 < b) (hb' : b ≤ 16) (n : Nat) :
    signed? b (Nat.toDigits b n) = some (n : Int) := by
  obtain ⟨c, cs, hd, h1, h2⟩ := toDigits_head hb hb' n
  have h := digits?_toDigits hb hb' n
  rw [hd] at h ⊢
  unfold signed?
  split
  · next he => cases he; exact absurd rfl h2
  · next he => cases he; exact absurd rfl h1
  · rw [h]; rfl

theorem natural?_toString {hi : Nat} (hn : n ≤ hi) : natural? hi (toString n) = some n := by
  obtain ⟨c, cs, hd, h1, -⟩ := toDigits_head (b := 10) (by omega) (by omega) n
  have h := digits?_toDigits (b := 10) (by omega) (by omega) n
  have hs : (toString n).toList = Nat.toDigits 10 n := Nat.toList_repr
  unfold natural?
  rw [hs, hd] at *
  split
  · next he => cases he; exact absurd rfl h1
  · rw [h]; simp [hn]

/-- A count is read back. -/
theorem nat64?_toString (hn : n ≤ max64) : nat64? (toString n) = some n := natural?_toString hn

theorem signed?_toString (n : Int) : signed? 10 (toString n).toList = some n := by
  cases n with
  | ofNat n =>
    have hs : (toString (Int.ofNat n)).toList = Nat.toDigits 10 n := Nat.toList_repr
    rw [hs]
    exact signed?_toDigits (by omega) (by omega) n
  | negSucc n =>
    have hs : (toString (Int.negSucc n)).toList = '-' :: Nat.toDigits 10 (n + 1) := by
      show ("-" ++ Nat.repr (n + 1)).toList = _
      rw [String.toList_append, Nat.toList_repr]
      rfl
    rw [hs, signed?, digits?_toDigits (by omega) (by omega)]
    rfl

/-- A number of 64 bits with a sign is read back. -/
theorem int64?_toString {n : Int} (hlo : (signedRange 64).1 ≤ n) (hhi : n ≤ (signedRange 64).2) :
    int64? (toString n) = some n := by
  unfold int64? signedInteger? integer?
  rw [signed?_toString, Option.filter_some, if_pos (by simpa using ⟨hlo, hhi⟩)]

end SlotSql.Number
