import Mathlib.Algebra.Group.Nat.Defs
import SlotSql.Calendar
import SlotSql.Proofs.Evaluation
/-!
# Reading dates and times back

A date, a time of day or a moment is read back from the text that is written of it, whatever the length of its
year.

Results:
* `Date.read?_text`, `Clock.read?_text`, `Moment.read?_text`.
* `Date.valid_of_read?`, `Clock.valid_of_read?`, `Moment.valid_of_read?`: what is read exists.
-/
namespace SlotSql.Calendar

variable {n k width : Nat} {r : List Char} {c : Char}

/-! ## Numbers -/

theorem isDigit_of_digit? (h : (Number.digit? 10 c).isSome = true) : isDigit c = true := by
  unfold Number.digit? at h
  unfold isDigit
  split at h
  · next hc => simpa using hc
  · exfalso
    obtain ⟨v, hv⟩ := Option.isSome_iff_exists.1 h
    obtain ⟨hv, hlt⟩ := Option.filter_eq_some_iff.1 hv
    have hlt : v < 10 := by simpa using hlt
    split at hv
    · next hc =>
      cases hv
      have : 97 ≤ c.toNat := hc.1
      omega
    · split at hv
      · next hc =>
        cases hv
        have : 65 ≤ c.toNat := hc.1
        omega
      · cases hv

theorem isDigit_padded (hc : c ∈ padded width n) : isDigit c = true := by
  unfold padded at hc
  rcases List.mem_append.1 hc with hc | hc
  · rw [List.eq_of_mem_replicate hc]
    decide
  · exact isDigit_of_digit? (Evaluation.digit?_of_mem_toDigits (by decide) (by decide) hc)

theorem isBlank_of_isDigit (h : isDigit c = true) : Text.isBlank c = false := by
  have h1 : 48 ≤ c.toNat ∧ c.toNat ≤ 57 := by
    simpa [isDigit, Char.le_def, UInt32.le_iff_toNat_le] using h
  unfold Text.isBlank
  simp only [Bool.or_eq_false_iff, Bool.and_eq_false_iff, decide_eq_false_iff_not, beq_eq_false_iff_ne]
  omega

/-- The zeros in front of a number do not count. -/
theorem digitsFrom?_padded (width n : Nat) : Number.digitsFrom? 10 0 (padded width n) = some n := by
  have hzeros (j : Nat) (cs : List Char) :
      Number.digitsFrom? 10 0 (List.replicate j '0' ++ cs) = Number.digitsFrom? 10 0 cs := by
    induction j with
    | zero => rfl
    | succ j ih =>
      rw [List.replicate_succ, List.cons_append, Number.digitsFrom?]
      exact ih
  unfold padded
  rw [hzeros]
  exact Number.digitsFrom?_toDigits (by decide) (by decide) n

/-- A number is read back from its digits, whatever zeros stand in front. -/
theorem digits?_padded (width n : Nat) : Number.digits? 10 (padded width n) = some n := by
  have h := digitsFrom?_padded width n
  cases hp : padded width n with
  | nil =>
    unfold padded at hp
    exact absurd (List.append_eq_nil_iff.1 hp).2 Nat.toDigits_ne_nil
  | cons c cs =>
    rw [hp] at h
    exact h

theorem le_length_padded (width n : Nat) : width ≤ (padded width n).length := by
  unfold padded
  rw [List.length_append, List.length_replicate]
  omega

/-- A number has no more digits than it needs, or than are asked for. -/
theorem length_padded_le_iff {j : Nat} (hj : 0 < j) : (padded width n).length ≤ j ↔ width ≤ j ∧ n < 10 ^ j := by
  rw [← Nat.length_toDigits_le_iff (by decide) hj]
  unfold padded
  rw [List.length_append, List.length_replicate]
  omega

/-- A number of few digits is as long as it is asked to be. -/
theorem length_padded (hw : 0 < width) (h : n < 10 ^ width) : (padded width n).length = width :=
  Nat.le_antisymm ((length_padded_le_iff hw).2 ⟨Nat.le_refl width, h⟩) (le_length_padded width n)

theorem padded_ne_nil (width n : Nat) : padded width n ≠ [] := by
  intro h
  have := digits?_padded width n
  rw [h] at this
  cases this

/-- Blanks are not dropped in front of a number. -/
theorem trimStart_padded (width n : Nat) (r : List Char) :
    Text.trimStart (padded width n ++ r) = padded width n ++ r := by
  obtain ⟨c, cs, hp⟩ := List.exists_cons_of_ne_nil (padded_ne_nil width n)
  rw [hp]
  refine Text.dropWhile_blank_eq_self fun x hx => ?_
  cases hx
  exact isBlank_of_isDigit (isDigit_padded (hp ▸ List.mem_cons_self))

/-- A number is read from the front of a text if it ends where its digits end. -/
theorem digits?_front (n : Nat) {pad : Nat} (hw : (padded pad n).length ≤ width)
    (hr : (padded pad n).length = width ∨ ∀ c ∈ r.head?, isDigit c = false) :
    digits? width (padded pad n ++ r) = some (n, r) := by
  have hall : ∀ c ∈ padded pad n, isDigit c = true := fun c hc => isDigit_padded hc
  have htake : ((padded pad n ++ r).take width).takeWhile isDigit = padded pad n := by
    rw [List.take_append, List.take_of_length_le hw, List.takeWhile_append_of_pos hall]
    have hrest : (r.take (width - (padded pad n).length)).takeWhile isDigit = [] := by
      rcases hr with he | hr
      · rw [he, Nat.sub_self]
        rfl
      · cases width - (padded pad n).length with
        | zero => rfl
        | succ j =>
          cases r with
          | nil => rfl
          | cons c cs =>
            rw [List.take_succ_cons, List.takeWhile_cons_of_neg]
            rw [hr c rfl]
            decide
    rw [hrest, List.append_nil]
  unfold digits?
  simp only [htake, digits?_padded, Option.map_some, List.drop_left]

theorem pair?_padded (hn : n < 100) (r : List Char) : pair? (padded 2 n ++ r) = some (n, r) := by
  have hlen : (padded 2 n).length = 2 := length_padded (by decide) hn
  unfold pair?
  rw [trimStart_padded, digits?_front n (Nat.le_of_eq hlen) (.inl hlen)]

theorem skip?_cons (c : Char) (r : List Char) : skip? c (c :: r) = some r := if_pos rfl

/-! ## Years -/

theorem trimStart_cons (hc : Text.isBlank c = false) (r : List Char) : Text.trimStart (c :: r) = c :: r :=
  Text.dropWhile_blank_eq_self fun x hx => by
    cases hx
    exact hc

/-- A year is read back in front of a hyphen. -/
theorem year?_text (y : Int) (r : List Char) : year? (yearText y ++ '-' :: r) = some (y, '-' :: r) := by
  have hhyphen : ∀ c ∈ ('-' :: r).head?, isDigit c = false := by
    intro c hc
    cases hc
    decide
  unfold yearText
  split
  · next hy =>
    obtain ⟨m, rfl⟩ := Int.eq_ofNat_of_zero_le hy.1
    have hlt : m < 10 ^ 4 := by omega
    have hlen : (padded 4 m).length = 4 := length_padded (by decide) hlt
    obtain ⟨c, cs, hp⟩ := List.exists_cons_of_ne_nil (padded_ne_nil 4 m)
    have hdigit : isDigit c = true := isDigit_padded (hp ▸ List.mem_cons_self)
    unfold year?
    rw [Int.toNat_natCast, trimStart_padded]
    split
    · next h =>
      rw [hp] at h
      cases h
      cases hdigit
    · next h =>
      rw [hp] at h
      cases h
      cases hdigit
    · rw [digits?_front m (Nat.le_of_eq hlen) (.inl hlen)]
      rfl
  · next hy =>
    have hlong (m : Nat) : digits? (padded 4 m ++ '-' :: r).length (padded 4 m ++ '-' :: r) = some (m, '-' :: r) :=
      digits?_front m (by rw [List.length_append]; omega) (.inr hhyphen)
    unfold year?
    by_cases hneg : y < 0
    · rw [if_pos hneg, List.cons_append, trimStart_cons (by decide)]
      simp only [hlong, Option.map_some, Option.some.injEq, Prod.mk.injEq, and_true]
      omega
    · rw [if_neg hneg, List.cons_append, trimStart_cons (by decide)]
      simp only [hlong, Option.map_some, Option.some.injEq, Prod.mk.injEq, and_true]
      omega

/-! ## Dates and times -/

variable {d : Date} {t : Clock} {m : Moment}

theorem monthLengths_le : ∀ leap, ∀ i < 12, (monthLengths leap).getD i 0 ≤ 31 := by decide

/-- A month has no more than 31 days, and there is none behind the twelfth. -/
theorem daysIn_le (y : Int) (month : Nat) : daysIn y month ≤ 31 ∧ (12 < month → daysIn y month = 0) := by
  have hlong {i : Nat} (hi : 12 ≤ i) : (monthLengths (isLeap y)).getD i 0 = 0 := by
    rw [List.getD_eq_getElem?_getD, List.getElem?_eq_none (by exact hi)]
    rfl
  unfold daysIn
  split
  · exact ⟨Nat.zero_le _, fun _ => rfl⟩
  · refine ⟨?_, fun h => hlong (by omega)⟩
    by_cases hi : month - 1 < 12
    · exact monthLengths_le _ _ hi
    · rw [hlong (by omega)]
      exact Nat.zero_le _

theorem Date.Valid.bounds (h : d.Valid) : d.month < 100 ∧ d.day < 100 := by
  obtain ⟨-, -, hday, hdays⟩ := h
  obtain ⟨hle, hno⟩ := daysIn_le d.year d.month
  refine ⟨?_, by omega⟩
  by_contra hm
  have := hno (by omega)
  omega

/-- A date is read back, and what follows it is left. -/
theorem Date.front?_chars (h : d.Valid) (r : List Char) : Date.front? (d.chars ++ r) = some (d, r) := by
  obtain ⟨hmonth, hday⟩ := h.bounds
  unfold Date.front? Date.chars
  simp only [List.append_assoc, List.cons_append, List.nil_append, year?_text, pair?_padded hmonth, pair?_padded hday,
    skip?_cons, Option.bind_eq_bind, Option.bind_some]
  rw [if_pos h]

/-- So is a time of day. -/
theorem Clock.front?_chars (h : t.Valid) (r : List Char) : Clock.front? (t.chars ++ r) = some (t, r) := by
  obtain ⟨hh, hm, hs⟩ := id h
  unfold Clock.front? Clock.chars
  simp only [List.append_assoc, List.cons_append, List.nil_append, pair?_padded (show t.hour < 100 by omega),
    pair?_padded (show t.minute < 100 by omega), pair?_padded (show t.second < 100 by omega), skip?_cons,
    Option.bind_eq_bind, Option.bind_some]
  rw [if_pos h]

theorem Date.valid_of_front? {cs : List Char} (h : Date.front? cs = some (d, r)) : d.Valid := by
  unfold Date.front? at h
  obtain ⟨_, -, h⟩ := Option.bind_eq_some_iff.1 h
  obtain ⟨_, -, h⟩ := Option.bind_eq_some_iff.1 h
  obtain ⟨_, -, h⟩ := Option.bind_eq_some_iff.1 h
  obtain ⟨_, -, h⟩ := Option.bind_eq_some_iff.1 h
  obtain ⟨_, -, h⟩ := Option.bind_eq_some_iff.1 h
  obtain ⟨hv, h⟩ := Option.ite_none_right_eq_some.1 h
  cases h
  exact hv

theorem Clock.valid_of_front? {cs : List Char} (h : Clock.front? cs = some (t, r)) : t.Valid := by
  unfold Clock.front? at h
  obtain ⟨_, -, h⟩ := Option.bind_eq_some_iff.1 h
  obtain ⟨_, -, h⟩ := Option.bind_eq_some_iff.1 h
  obtain ⟨_, -, h⟩ := Option.bind_eq_some_iff.1 h
  obtain ⟨_, -, h⟩ := Option.bind_eq_some_iff.1 h
  obtain ⟨_, -, h⟩ := Option.bind_eq_some_iff.1 h
  obtain ⟨hv, h⟩ := Option.ite_none_right_eq_some.1 h
  cases h
  exact hv

/-- What is read is nothing but what stands at the front. -/
theorem eq_of_whole {α : Type} {x : α × List Char} {a : α} (h : whole x = some a) : x.1 = a := by
  obtain ⟨b, r⟩ := x
  cases r with
  | nil => exact Option.some.inj h
  | cons c cs => cases h

/-- What is read exists. -/
theorem Date.valid_of_read? {s : String} (h : Date.read? s = some d) : d.Valid := by
  obtain ⟨x, hx, h⟩ := Option.bind_eq_some_iff.1 h
  exact eq_of_whole h ▸ Date.valid_of_front? hx

theorem Clock.valid_of_read? {s : String} (h : Clock.read? s = some t) : t.Valid := by
  obtain ⟨x, hx, h⟩ := Option.bind_eq_some_iff.1 h
  exact eq_of_whole h ▸ Clock.valid_of_front? hx

theorem Moment.valid_of_read? {s : String} (h : Moment.read? s = some m) : m.Valid := by
  unfold Moment.read? at h
  obtain ⟨x, hx, h⟩ := Option.bind_eq_some_iff.1 h
  obtain ⟨y, hy, h⟩ := Option.bind_eq_some_iff.1 h
  have he := eq_of_whole h
  subst he
  exact ⟨Date.valid_of_front? hx, Clock.valid_of_front? hy⟩

theorem Date.read?_text (h : d.Valid) : Date.read? d.text = some d := by
  have hfront := Date.front?_chars h []
  rw [List.append_nil] at hfront
  unfold Date.read? Date.text
  rw [String.toList_ofList, hfront]
  rfl

theorem Clock.read?_text (h : t.Valid) : Clock.read? t.text = some t := by
  have hfront := Clock.front?_chars h []
  rw [List.append_nil] at hfront
  unfold Clock.read? Clock.text
  rw [String.toList_ofList, hfront]
  rfl

theorem Moment.read?_text (h : m.Valid) : Moment.read? m.text = some m := by
  have hfront := Clock.front?_chars h.2 []
  rw [List.append_nil] at hfront
  have htrim : Text.trimStart (' ' :: m.clock.chars) = m.clock.chars := by
    unfold Clock.chars
    simp only [List.append_assoc]
    show List.dropWhile Text.isBlank (' ' :: _) = _
    rw [List.dropWhile_cons_of_pos (by decide)]
    exact trimStart_padded 2 m.clock.hour _
  unfold Moment.read? Moment.text Moment.chars
  rw [String.toList_ofList, List.append_assoc]
  simp only [Date.front?_chars h.1, Option.bind_eq_bind, Option.bind_some, List.cons_append, List.nil_append, htrim,
    hfront]
  rfl

end SlotSql.Calendar
