import SlotSql.Proofs.Calendar
/-!
# The order of time

Dates follow each other by year, month and day, times of day by hour, minute and second, and moments by date and time.
A leap second stands behind the sixtieth second of its minute and in front of the next minute.

This is the order in which time is counted: what lies more days, or more seconds, after 1970-01-01 comes later.

Results:
* `Date.valid_ofDays`, `Moment.valid_ofSeconds?`: what is counted exists.
* `Date.before_ofDays`, `Moment.before_ofSeconds?`: what is counted later comes later.
-/
namespace SlotSql.Calendar

/-- A date comes in front of another one. -/
def Date.Before (d e : Date) : Prop :=
  d.year < e.year ∨ d.year = e.year ∧ (d.month < e.month ∨ d.month = e.month ∧ d.day < e.day)

/-- A time of day comes in front of another one. -/
def Clock.Before (t u : Clock) : Prop :=
  t.hour < u.hour ∨ t.hour = u.hour ∧ (t.minute < u.minute ∨ t.minute = u.minute ∧ t.second < u.second)

/-- A moment comes in front of another one. -/
def Moment.Before (m n : Moment) : Prop := m.date.Before n.date ∨ m.date = n.date ∧ m.clock.Before n.clock

/-! ## Years and months of a day -/

section Counting

variable {fuel y n k m : Nat} {ls : List Nat}

theorem le_yearInCycle (fuel y n : Nat) : y ≤ (yearInCycle fuel y n).1 := by
  induction fuel generalizing y n with
  | zero => exact Nat.le_refl y
  | succ fuel ih =>
    rw [yearInCycle]
    split
    · exact Nat.le_refl y
    · have := ih (y + 1) (n - yearLength y)
      omega

theorem yearInCycle_lt_fuel (h : n < spanDays y fuel) : (yearInCycle fuel y n).1 < y + fuel := by
  induction fuel generalizing y n with
  | zero => simp [spanDays] at h
  | succ fuel ih =>
    rw [spanDays] at h
    rw [yearInCycle]
    split
    · show y < y + (fuel + 1)
      omega
    · have := ih (y := y + 1) (n := n - yearLength y) (by omega)
      omega

/-- A later day lies in a later year, or later in the same one. -/
theorem yearInCycle_before (h : n < k) : (yearInCycle fuel y n).1 < (yearInCycle fuel y k).1 ∨
    (yearInCycle fuel y n).1 = (yearInCycle fuel y k).1 ∧ (yearInCycle fuel y n).2 < (yearInCycle fuel y k).2 := by
  induction fuel generalizing y n k with
  | zero => exact .inr ⟨rfl, h⟩
  | succ fuel ih =>
    rw [yearInCycle, yearInCycle]
    by_cases hn : n < yearLength y
    · rw [if_pos hn]
      by_cases hk : k < yearLength y
      · rw [if_pos hk]
        exact .inr ⟨rfl, h⟩
      · rw [if_neg hk]
        have := le_yearInCycle fuel (y + 1) (k - yearLength y)
        left
        show y < _
        omega
    · rw [if_neg hn, if_neg (by omega)]
      exact ih (by omega)

theorem le_ofDayOfYear (ls : List Nat) (m n : Nat) : m ≤ (ofDayOfYear ls m n).1 := by
  induction ls generalizing m n with
  | nil => exact Nat.le_refl m
  | cons l ls ih =>
    rw [ofDayOfYear]
    split
    · exact Nat.le_refl m
    · have := ih (m + 1) (n - l)
      omega

/-- A later day of a year lies in a later month, or later in the same one. -/
theorem ofDayOfYear_before (h : n < k) : (ofDayOfYear ls m n).1 < (ofDayOfYear ls m k).1 ∨
    (ofDayOfYear ls m n).1 = (ofDayOfYear ls m k).1 ∧ (ofDayOfYear ls m n).2 < (ofDayOfYear ls m k).2 := by
  induction ls generalizing m n k with
  | nil => exact .inr ⟨rfl, Nat.succ_lt_succ h⟩
  | cons l ls ih =>
    rw [ofDayOfYear, ofDayOfYear]
    by_cases hn : n < l
    · rw [if_pos hn]
      by_cases hk : k < l
      · rw [if_pos hk]
        exact .inr ⟨rfl, Nat.succ_lt_succ h⟩
      · rw [if_neg hk]
        have := le_ofDayOfYear ls (m + 1) (k - l)
        left
        show m < _
        omega
    · rw [if_neg hn, if_neg (by omega)]
      exact ih (by omega)

theorem daysOf_monthLengths (y : Int) : daysOf (monthLengths (isLeap y)) = yearLength y := by
  unfold yearLength
  cases isLeap y <;> rfl

theorem spanDays_cycle : spanDays 0 400 = cycleDays := by decide +kernel

/-- The years of a cycle are leap years as those of the first one. -/
theorem isLeap_cycle (c : Int) (y : Int) : isLeap (400 * c + y) = isLeap y := by
  have h4 : (400 * c + y) % 4 = y % 4 := by omega
  have h100 : (400 * c + y) % 100 = y % 100 := by omega
  have h400 : (400 * c + y) % 400 = y % 400 := by omega
  unfold isLeap
  rw [h4, h100, h400]

end Counting

/-! ## Dates -/

section Dates

variable {n k : Int}

/-- The parts of the date of a day: its cycle, the year of the cycle, and the day of the year. -/
theorem Date.ofDays_parts (n : Int) : ∃ y d : Nat,
    yearInCycle 400 0 ((n + epochDay) % cycleDays).toNat = (y, d) ∧ y < 400 ∧ d < yearLength y ∧
    Date.ofDays n = ⟨400 * ((n + epochDay) / cycleDays) + y, (ofDayOfYear (monthLengths (isLeap y)) 1 d).1,
      (ofDayOfYear (monthLengths (isLeap y)) 1 d).2⟩ := by
  have hlt : ((n + epochDay) % cycleDays).toNat < spanDays 0 400 := by
    rw [spanDays_cycle]
    unfold cycleDays
    omega
  have hyear := yearInCycle_lt_fuel hlt
  have hday := yearInCycle_lt hlt
  cases hyd : yearInCycle 400 0 ((n + epochDay) % cycleDays).toNat with
  | mk y d =>
    rw [hyd] at hyear hday
    refine ⟨y, d, rfl, by simpa using hyear, hday, ?_⟩
    unfold Date.ofDays
    simp only [hyd]

/-- The date of a day exists, if its year is one of the calendar's. -/
theorem Date.valid_ofDays (hmin : minYear ≤ (Date.ofDays n).year) (hmax : (Date.ofDays n).year ≤ maxYear) :
    (Date.ofDays n).Valid := by
  obtain ⟨y, d, -, -, hd, hdate⟩ := Date.ofDays_parts n
  rw [← daysOf_monthLengths] at hd
  obtain ⟨h1, h2, h3⟩ := ofDayOfYear_lt (m := 1) hd
  refine ⟨hmin, hmax, ?_, ?_⟩
  · rw [hdate]
    exact h2
  · rw [hdate]
    unfold daysIn
    rw [isLeap_cycle, if_neg (by simp only; omega)]
    exact h3

/-- A later day has a later date. -/
theorem Date.before_ofDays (h : n < k) : (Date.ofDays n).Before (Date.ofDays k) := by
  obtain ⟨y, d, hyd, hy, -, hn⟩ := Date.ofDays_parts n
  obtain ⟨z, e, hze, hz, -, hk⟩ := Date.ofDays_parts k
  rw [hn, hk]
  by_cases hcycle : (n + epochDay) / cycleDays = (k + epochDay) / cycleDays
  · have hrest : ((n + epochDay) % cycleDays).toNat < ((k + epochDay) % cycleDays).toNat := by
      unfold cycleDays at *
      omega
    have hbefore := @yearInCycle_before 400 0 _ _ hrest
    rw [hyd, hze] at hbefore
    rcases hbefore with hlt | ⟨heq, hlt⟩
    · left
      simp only [hcycle] at hlt ⊢
      omega
    · simp only at heq hlt
      subst heq
      right
      exact ⟨by simp only [hcycle], ofDayOfYear_before hlt⟩
  · left
    show _ < _
    have : (n + epochDay) / cycleDays < (k + epochDay) / cycleDays := by
      unfold cycleDays at *
      omega
    simp only
    omega

end Dates

/-! ## Times of day and moments -/

section Moments

variable {n k : Nat} {i j : Int} {m o : Moment}

theorem Clock.valid_ofSeconds (h : n < 86400) : (Clock.ofSeconds n).Valid := by
  unfold Clock.Valid Clock.ofSeconds
  simp only
  omega

/-- A later second of a day has a later time. -/
theorem Clock.before_ofSeconds (h : n < k) : (Clock.ofSeconds n).Before (Clock.ofSeconds k) := by
  unfold Clock.Before Clock.ofSeconds
  simp only
  omega

theorem Moment.ofSeconds?_eq_some (h : Moment.ofSeconds? i = some m) :
    m = ⟨Date.ofDays (i / secondsPerDay), Clock.ofSeconds (i % secondsPerDay).toNat⟩ ∧ m.Valid := by
  unfold Moment.ofSeconds? at h
  simp only [Option.ite_none_right_eq_some, Option.some.injEq] at h
  obtain ⟨⟨hmin, hmax⟩, rfl⟩ := h
  refine ⟨rfl, Date.valid_ofDays hmin hmax, Clock.valid_ofSeconds ?_⟩
  unfold secondsPerDay
  omega

theorem Moment.valid_ofSeconds? (h : Moment.ofSeconds? i = some m) : m.Valid := (Moment.ofSeconds?_eq_some h).2

/-- A moment more seconds after 1970 comes later. -/
theorem Moment.before_ofSeconds? (hi : Moment.ofSeconds? i = some m) (hj : Moment.ofSeconds? j = some o)
    (h : i < j) : m.Before o := by
  rw [(Moment.ofSeconds?_eq_some hi).1, (Moment.ofSeconds?_eq_some hj).1]
  by_cases hday : i / secondsPerDay = j / secondsPerDay
  · right
    refine ⟨by simp only [hday], Clock.before_ofSeconds ?_⟩
    unfold secondsPerDay at *
    omega
  · left
    apply Date.before_ofDays
    unfold secondsPerDay at *
    omega

end Moments

end SlotSql.Calendar
