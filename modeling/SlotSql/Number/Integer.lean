/-!
# Written integers

Readers for the integers of statements, settings and replies. A reader takes the whole text: an
optional sign and one or more ASCII digits, and refuses a number outside the range asked for.

Results:
* `digits?_isSome`: a text is read as digits exactly if it is a non-empty run of digits.
* `integer?_mem`: a number that is read lies in the range.
-/
namespace SlotSql.Number

/-- The value of a digit in the given base. -/
def digit? (base : Nat) (c : Char) : Option Nat :=
  let v? :=
    if '0' ≤ c ∧ c ≤ '9' then some (c.toNat - 48)
    else if 'a' ≤ c ∧ c ≤ 'z' then some (c.toNat - 87)
    else if 'A' ≤ c ∧ c ≤ 'Z' then some (c.toNat - 55)
    else none
  v?.filter (· < base)

/-- The number that a run of digits continues from `n`. -/
def digitsFrom? (base n : Nat) : List Char → Option Nat
  | [] => some n
  | c :: cs => (digit? base c).bind fun d => digitsFrom? base (n * base + d) cs

/-- The number that a non-empty run of digits writes. -/
def digits? (base : Nat) : List Char → Option Nat
  | [] => none
  | c :: cs => digitsFrom? base 0 (c :: cs)

theorem digitsFrom?_isSome {base n : Nat} {cs : List Char} :
    (digitsFrom? base n cs).isSome ↔ ∀ c ∈ cs, (digit? base c).isSome := by
  induction cs generalizing n with
  | nil => simp [digitsFrom?]
  | cons c cs ih =>
    cases h : digit? base c with
    | none => simp [digitsFrom?, h]
    | some d => simp [digitsFrom?, h, ih]

theorem digits?_isSome {base : Nat} {cs : List Char} :
    (digits? base cs).isSome ↔ cs ≠ [] ∧ ∀ c ∈ cs, (digit? base c).isSome := by
  cases cs with
  | nil => simp [digits?]
  | cons c cs => simp [digits?, digitsFrom?_isSome]

/-- The number that a text with an optional sign writes. -/
def signed? (base : Nat) : List Char → Option Int
  | '-' :: cs => (digits? base cs).map fun n => -(n : Int)
  | '+' :: cs => (digits? base cs).map Int.ofNat
  | cs => (digits? base cs).map Int.ofNat

/-- The number in `[lo, hi]` that a text writes in the given base. -/
def integer? (base : Nat) (lo hi : Int) (s : String) : Option Int :=
  (signed? base s.toList).filter fun n => lo ≤ n ∧ n ≤ hi

theorem integer?_mem {base : Nat} {lo hi n : Int} {s : String}
    (h : integer? base lo hi s = some n) : lo ≤ n ∧ n ≤ hi := by
  simp only [integer?, Option.filter_eq_some_iff, decide_eq_true_eq] at h
  exact h.2

/-- The number up to `hi` that a text without a minus sign writes. -/
def natural? (hi : Nat) (s : String) : Option Nat :=
  let n? := match s.toList with
    | '+' :: cs => digits? 10 cs
    | cs => digits? 10 cs
  n?.filter (· ≤ hi)

/-- The number of values of so many bits. -/
def span (bits : Nat) : Nat := Nat.pow 2 bits

/-- The largest number of so many bits of which one is for the sign. -/
def signedMax (bits : Nat) : Int := span (bits - 1) - 1

/-- The least and the largest number of so many bits of which one is for the sign. -/
def signedRange (bits : Nat) : Int × Int := (-span (bits - 1), signedMax bits)

/-- The number in the range of so many bits, with a sign, that a text writes in the given base. -/
def signedInteger? (bits base : Nat) (s : String) : Option Int :=
  integer? base (signedRange bits).1 (signedRange bits).2 s

/-- The largest number of 16 bits. -/
def max16 : Nat := span 16 - 1
/-- The largest number of 32 bits. -/
def max32 : Nat := span 32 - 1
/-- The largest number of 64 bits. -/
def max64 : Nat := span 64 - 1

/-- A 64-bit integer. -/
def int64? (s : String) : Option Int := signedInteger? 64 10 s

/-- A 128-bit integer in the given base. -/
def int128? (base : Nat) (s : String) : Option Int := signedInteger? 128 base s

/-- A port number, or any other number of 16 bits. -/
def nat16? (s : String) : Option Nat := natural? max16 s

/-- A count, or any other number of 64 bits. -/
def nat64? (s : String) : Option Nat := natural? max64 s

end SlotSql.Number
