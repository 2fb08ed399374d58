import SlotSql.Number.Integer
import SlotSql.Text.Blank
/-!
# Dates, times of day and moments

The proleptic Gregorian calendar in UTC, for the years -262143 to 262142. A minute may have a
sixty-first second.

A date is written `YYYY-MM-DD`, a time of day `HH:MM:SS`, a moment as both with one space between.
Reading is more lenient than writing: a number may have fewer digits and blanks in front, a year
with a sign may have more than four digits, and any blanks or none separate the two parts of a
moment.

Results:
* `ofDayOfYear_lt`, `yearInCycle_lt`: a day number is split into parts within their bounds.
-/
namespace SlotSql.Calendar

/-- A leap year has 366 days. -/
def isLeap (y : Int) : Bool := y % 4 = 0 ∧ (y % 100 ≠ 0 ∨ y % 400 = 0)

/-- The lengths of the months of a year, January first. -/
def monthLengths (leap : Bool) : List Nat :=
  [31, if leap then 29 else 28, 31, 30, 31, 30, 31, 31, 30, 31, 30, 31]

/-- The number of days of a month; zero for a number that is no month. -/
def daysIn (y : Int) (month : Nat) : Nat :=
  if month = 0 then 0 else (monthLengths (isLeap y)).getD (month - 1) 0

/-- A day of the calendar. -/
structure Date where
  year : Int
  month : Nat
  day : Nat
  deriving DecidableEq, Repr

/-- A time of day; the second may be 60. -/
structure Clock where
  hour : Nat
  minute : Nat
  second : Nat
  deriving DecidableEq, Repr

/-- A day and a time of that day. -/
structure Moment where
  date : Date
  clock : Clock
  deriving DecidableEq, Repr

/-- The first and the last year. -/
def minYear : Int := -262143
/-- The last year. -/
def maxYear : Int := 262142

/-- A date that exists. -/
def Date.Valid (d : Date) : Prop :=
  minYear ≤ d.year ∧ d.year ≤ maxYear ∧ 1 ≤ d.day ∧ d.day ≤ daysIn d.year d.month

instance (d : Date) : Decidable d.Valid := by unfold Date.Valid; infer_instance

/-- A time that a clock shows, a leap second included. -/
def Clock.Valid (t : Clock) : Prop := t.hour < 24 ∧ t.minute < 60 ∧ t.second ≤ 60

instance (t : Clock) : Decidable t.Valid := by unfold Clock.Valid; infer_instance

/-- A moment that exists. -/
def Moment.Valid (m : Moment) : Prop := m.date.Valid ∧ m.clock.Valid

/-! ## Counting days -/

/-- The days of a year. -/
def yearLength (y : Int) : Nat := if isLeap y then 366 else 365

/-- The days of 400 years. -/
def cycleDays : Nat := 146097

/-- The year, counted from `y`, in which day `n` lies, and the day of that year, looking at no more
than `fuel` years. -/
def yearInCycle : (fuel y n : Nat) → Nat × Nat
  | 0, y, n => (y, n)
  | fuel + 1, y, n =>
    if n < yearLength y then (y, n) else yearInCycle fuel (y + 1) (n - yearLength y)

/-- The days of `k` years from `y` on. -/
def spanDays (y : Nat) : Nat → Nat
  | 0 => 0
  | k + 1 => yearLength y + spanDays (y + 1) k

theorem yearInCycle_lt {fuel y n : Nat} (h : n < spanDays y fuel) :
    (yearInCycle fuel y n).2 < yearLength (yearInCycle fuel y n).1 := by
  induction fuel generalizing y n with
  | zero => simp [spanDays] at h
  | succ fuel ih =>
    rw [yearInCycle]
    split
    · assumption
    · exact ih (by rw [spanDays] at h; omega)

/-- The month, counted from `m`, and the day of the month for day `n` of the months of the given
lengths. -/
def ofDayOfYear : List Nat → (m n : Nat) → Nat × Nat
  | [], m, n => (m, n + 1)
  | l :: ls, m, n => if n < l then (m, n + 1) else ofDayOfYear ls (m + 1) (n - l)

/-- The days of months of the given lengths. -/
def daysOf : List Nat → Nat
  | [] => 0
  | l :: ls => l + daysOf ls

theorem ofDayOfYear_lt {ls : List Nat} {m n : Nat} (h : n < daysOf ls) :
    m ≤ (ofDayOfYear ls m n).1 ∧ 1 ≤ (ofDayOfYear ls m n).2 ∧
      (ofDayOfYear ls m n).2 ≤ ls.getD ((ofDayOfYear ls m n).1 - m) 0 := by
  induction ls generalizing m n with
  | nil => simp [daysOf] at h
  | cons l ls ih =>
    rw [daysOf] at h
    rw [ofDayOfYear]
    split
    · next hl => simp; omega
    · next hl =>
      obtain ⟨h1, h2, h3⟩ := ih (m := m + 1) (n := n - l) (by omega)
      refine ⟨by omega, h2, ?_⟩
      generalize ofDayOfYear ls (m + 1) (n - l) = p at *
      obtain ⟨k, hk⟩ : ∃ k, p.1 - m = k + 1 := ⟨p.1 - m - 1, by omega⟩
      rw [hk, List.getD_cons_succ]
      rwa [show p.1 - (m + 1) = k by omega] at h3

/-- The days from 0000-01-01 to 1970-01-01. -/
def epochDay : Int := 719528

/-- The date `n` days after 1970-01-01. -/
def Date.ofDays (n : Int) : Date :=
  let n := n + epochDay
  let cycle := n / cycleDays
  let (y, d) := yearInCycle 400 0 (n % cycleDays).toNat
  let (m, d) := ofDayOfYear (monthLengths (isLeap y)) 1 d
  ⟨400 * cycle + y, m, d⟩

/-- The seconds of a day. -/
def secondsPerDay : Int := 86400

/-- The time of day after `n` seconds of a day. -/
def Clock.ofSeconds (n : Nat) : Clock := ⟨n / 3600, n / 60 % 60, n % 60⟩

/-- The moment `n` seconds after 1970-01-01 00:00:00, if its year is one of the calendar's. -/
def Moment.ofSeconds? (n : Int) : Option Moment :=
  let d := Date.ofDays (n / secondsPerDay)
  if minYear ≤ d.year ∧ d.year ≤ maxYear then
    some ⟨d, .ofSeconds (n % secondsPerDay).toNat⟩
  else none

/-! ## Writing -/

/-- A number with at least `width` digits. -/
def padded (width n : Nat) : List Char :=
  let ds := Nat.toDigits 10 n
  List.replicate (width - ds.length) '0' ++ ds

/-- A year has at least four digits, and a sign if it is negative or has more. -/
def yearText (y : Int) : List Char :=
  if 0 ≤ y ∧ y ≤ 9999 then padded 4 y.toNat
  else (if y < 0 then '-' else '+') :: padded 4 y.natAbs

/-- The date as `YYYY-MM-DD`. -/
def Date.chars (d : Date) : List Char :=
  yearText d.year ++ ['-'] ++ padded 2 d.month ++ ['-'] ++ padded 2 d.day

/-- The time as `HH:MM:SS`. -/
def Clock.chars (t : Clock) : List Char :=
  padded 2 t.hour ++ [':'] ++ padded 2 t.minute ++ [':'] ++ padded 2 t.second

/-- The moment as date, space and time. -/
def Moment.chars (m : Moment) : List Char := m.date.chars ++ [' '] ++ m.clock.chars

/-- The text of a date. -/
def Date.text (d : Date) : String := String.ofList d.chars
/-- The text of a time of day. -/
def Clock.text (t : Clock) : String := String.ofList t.chars
/-- The text of a moment. -/
def Moment.text (m : Moment) : String := String.ofList m.chars

/-! ## Reading -/

/-- A digit of the ASCII range. -/
def isDigit (c : Char) : Bool := '0' ≤ c && c ≤ '9'

/-- The number that the first digits write, at most `width` of them, and the rest. -/
def digits? (width : Nat) (cs : List Char) : Option (Nat × List Char) :=
  let ds := (cs.take width).takeWhile isDigit
  (Number.digits? 10 ds).map fun n => (n, cs.drop ds.length)

/-- A number of two digits at most, after any blanks. -/
def pair? (cs : List Char) : Option (Nat × List Char) := digits? 2 (Text.trimStart cs)

/-- A year, after any blanks: up to four digits, or a sign and any number of digits. -/
def year? (cs : List Char) : Option (Int × List Char) :=
  match Text.trimStart cs with
  | '-' :: r => (digits? r.length r).map fun (n, r) => (-(n : Int), r)
  | '+' :: r => (digits? r.length r).map fun (n, r) => ((n : Int), r)
  | r => (digits? 4 r).map fun (n, r) => ((n : Int), r)

/-- The rest behind the character `c`. -/
def skip? (c : Char) : List Char → Option (List Char)
  | [] => none
  | d :: r => if d = c then some r else none

/-- A date at the front of a text, and the rest. -/
def Date.front? (cs : List Char) : Option (Date × List Char) := do
  let (y, r) ← year? cs
  let r ← skip? '-' r
  let (m, r) ← pair? r
  let r ← skip? '-' r
  let (d, r) ← pair? r
  if (Date.mk y m d).Valid then some (⟨y, m, d⟩, r) else none

/-- A time of day at the front of a text, and the rest. -/
def Clock.front? (cs : List Char) : Option (Clock × List Char) := do
  let (h, r) ← pair? cs
  let r ← skip? ':' r
  let (m, r) ← pair? r
  let r ← skip? ':' r
  let (s, r) ← pair? r
  if (Clock.mk h m s).Valid then some (⟨h, m, s⟩, r) else none

/-- What was read, if nothing is left. -/
def whole {α : Type} : α × List Char → Option α
  | (a, []) => some a
  | (_, _ :: _) => none

/-- The date that a text writes. -/
def Date.read? (s : String) : Option Date := (Date.front? s.toList).bind whole

/-- The time of day that a text writes. -/
def Clock.read? (s : String) : Option Clock := (Clock.front? s.toList).bind whole

/-- The moment that a text writes. -/
def Moment.read? (s : String) : Option Moment := do
  let (d, r) ← Date.front? s.toList
  let (t, r) ← Clock.front? (Text.trimStart r)
  whole (⟨d, t⟩, r)

end SlotSql.Calendar
