import SlotSql.Proofs.Calendar.Order
import SlotSql.Proofs.Rows.Upsertion
/-!
# Stored dates and times are compared as texts

The comparison of two stored dates, times of day or moments looks at their texts only: by size first, and octet by octet
if the sizes are the same. All parts of a date or a time but the year are numbers of two digits, whose texts are ordered
as the numbers are. So two values that differ, but not in the year, are told apart as time is.

Years are ordered as they should be if neither of the two is negative: one of more than four digits is a longer text. A
negative year comes behind all others, for its sign makes its text longer than one of four digits, and a minus stands
behind a plus; only a positive year of more digits comes behind it. Of two negative years the later one comes first.

Results:
* `charOrder_append`: texts are ordered by their fronts, if what is behind is of one size.
* `charOrder_padded`: numbers are ordered by their digits.
* `yearOrder`, `yearOrder_swap`: the order of years, and where it is the wrong way round.
* `timed_stored`: the order of stored values.
* `temporal_order`: just when a comparison of stored values is that of the moments.
-/
namespace SlotSql

open Evaluation

/-! ## The order of texts -/

namespace Evaluation

variable {a b n k x y : Nat} {as bs as' bs' : Bytes} {cs ds cs' ds' : List Char}

theorem octetOrder_append (h : as.length = bs.length) :
    octetOrder (as ++ as') (bs ++ bs') = (octetOrder as bs).then (octetOrder as' bs') := by
  induction as generalizing bs with
  | nil =>
    rw [List.length_eq_zero_iff.1 h.symm]
    rfl
  | cons a as ih =>
    cases bs with
    | nil => cases h
    | cons b bs =>
      rw [List.cons_append, List.cons_append, octetOrder, octetOrder, ih (Nat.succ.inj h), Ordering.then_assoc]

/-- The order of texts, as lists of characters. -/
def charOrder (cs ds : List Char) : Ordering :=
  (compare (Utf8.encode cs).length (Utf8.encode ds).length).then (octetOrder (Utf8.encode cs) (Utf8.encode ds))

theorem charOrder_self (cs : List Char) : charOrder cs cs = .eq := by
  unfold charOrder
  rw [octetOrder_self, Nat.compare_eq_eq.2 rfl]
  rfl

theorem octetOrder_swap (as bs : Bytes) : (octetOrder as bs).swap = octetOrder bs as := by
  induction as generalizing bs with
  | nil => cases bs <;> rfl
  | cons a as ih =>
    cases bs with
    | nil => rfl
    | cons b bs =>
      have hab : (compare a b).swap = compare b a := Std.OrientedCmp.eq_swap.symm
      rw [octetOrder, octetOrder, Ordering.swap_then, hab, ih]

theorem charOrder_swap (cs ds : List Char) : (charOrder cs ds).swap = charOrder ds cs := by
  unfold charOrder
  rw [Ordering.swap_then, Nat.compare_swap, octetOrder_swap]

/-- A text of fewer octets comes first. -/
theorem charOrder_of_length (h : (Utf8.encode cs).length < (Utf8.encode ds).length) : charOrder cs ds = .lt := by
  unfold charOrder
  rw [Nat.compare_eq_lt.2 h]
  rfl

/-- A common first character makes no difference. -/
theorem charOrder_cons (c : Char) (cs ds : List Char) : charOrder (c :: cs) (c :: ds) = charOrder cs ds := by
  have hencode (cs : List Char) : Utf8.encode (c :: cs) = String.utf8EncodeChar c ++ Utf8.encode cs := rfl
  unfold charOrder
  rw [hencode, hencode, octetOrder_append rfl, octetOrder_self, List.length_append, List.length_append]
  congr 1
  simp only [Nat.compare_eq_ite_lt, Nat.add_lt_add_iff_left]

theorem textOrder_ofList (cs ds : List Char) : textOrder (String.ofList cs) (String.ofList ds) = charOrder cs ds := by
  unfold textOrder charOrder
  rw [Utf8.bytes_ofList, Utf8.bytes_ofList]

/-- Texts are ordered by their fronts, if what is behind is of one size. -/
theorem charOrder_append (h : (Utf8.encode cs').length = (Utf8.encode ds').length) :
    charOrder (cs ++ cs') (ds ++ ds') = (charOrder cs ds).then (charOrder cs' ds') := by
  unfold charOrder
  rw [Utf8.encode_append, Utf8.encode_append, List.length_append, List.length_append, h]
  generalize Utf8.encode cs = as
  generalize Utf8.encode ds = bs
  rcases Nat.lt_trichotomy as.length bs.length with hlt | heq | hgt
  · rw [Nat.compare_eq_lt.2 hlt, Nat.compare_eq_lt.2 (Nat.add_lt_add_right hlt _)]
    rfl
  · rw [octetOrder_append heq, heq, Nat.compare_eq_eq.2 rfl, Nat.compare_eq_eq.2 rfl, Nat.compare_eq_eq.2 rfl]
    rfl
  · rw [Nat.compare_eq_gt.2 hgt, Nat.compare_eq_gt.2 (Nat.add_lt_add_right hgt _)]
    rfl

/-! ## The order of numbers -/

theorem toNat_of_digit? {c : Char} (h : Number.digit? 10 c = some x) : c.toNat = x + 48 ∧ x < 10 := by
  have hdigit : '0' ≤ c ∧ c ≤ '9' := by
    simpa [Calendar.isDigit] using Calendar.isDigit_of_digit? (Option.isSome_of_eq_some h)
  have hlow : 48 ≤ c.toNat := hdigit.1
  unfold Number.digit? at h
  rw [if_pos hdigit] at h
  obtain ⟨hx, hlt⟩ := Option.filter_eq_some_iff.1 h
  cases hx
  exact ⟨by omega, by simpa using hlt⟩

theorem encode_digit {c : Char} (h : Number.digit? 10 c = some x) :
    Utf8.encode (c :: cs) = UInt8.ofNat (x + 48) :: Utf8.encode cs := by
  obtain ⟨hc, hx⟩ := toNat_of_digit? h
  show String.utf8EncodeChar c ++ Utf8.encode cs = _
  rw [Utf8.encodeChar_ascii (by omega), hc]
  rfl

theorem compare_digit (hx : x < 10) (hy : y < 10) :
    compare (UInt8.ofNat (x + 48)) (UInt8.ofNat (y + 48)) = compare x y := by
  have htable : ∀ x < 10, ∀ y < 10, compare (UInt8.ofNat (x + 48)) (UInt8.ofNat (y + 48)) = compare x y := by decide
  exact htable x hx y hy

theorem length_encode_digits (h : Number.digitsFrom? 10 a cs = some n) : (Utf8.encode cs).length = cs.length := by
  induction cs generalizing a with
  | nil => rfl
  | cons c cs ih =>
    obtain ⟨x, hx, hcs⟩ := Option.bind_eq_some_iff.1 h
    rw [encode_digit hx, List.length_cons, List.length_cons, ih hcs]

theorem compare_digits (hx : x < 10) (hy : y < 10) :
    compare (a * 10 + x) (b * 10 + y) = (compare a b).then (compare x y) := by
  rcases Nat.lt_trichotomy a b with hlt | rfl | hgt
  · rw [Nat.compare_eq_lt.2 hlt, Nat.compare_eq_lt.2 (by omega)]
    rfl
  · rw [Nat.compare_eq_eq.2 (rfl : a = a), Nat.compare_eq_ite_lt, Nat.compare_eq_ite_lt]
    simp
  · rw [Nat.compare_eq_gt.2 hgt, Nat.compare_eq_gt.2 (by omega)]
    rfl

/-- Runs of as many digits are ordered as what they continue, and then as they are themselves. -/
theorem octetOrder_digits (hlen : cs.length = ds.length) (hcs : Number.digitsFrom? 10 a cs = some n)
    (hds : Number.digitsFrom? 10 b ds = some k) :
    (compare a b).then (octetOrder (Utf8.encode cs) (Utf8.encode ds)) = compare n k := by
  induction cs generalizing a b ds with
  | nil =>
    rw [List.length_eq_zero_iff.1 hlen.symm] at hds ⊢
    cases hcs
    cases hds
    exact Ordering.then_eq
  | cons c cs ih =>
    cases ds with
    | nil => cases hlen
    | cons d ds =>
      obtain ⟨x, hx, hcs⟩ := Option.bind_eq_some_iff.1 hcs
      obtain ⟨y, hy, hds⟩ := Option.bind_eq_some_iff.1 hds
      have hxl := (toNat_of_digit? hx).2
      have hyl := (toNat_of_digit? hy).2
      rw [encode_digit hx, encode_digit hy, octetOrder, compare_digit hxl hyl, ← Ordering.then_assoc,
        ← compare_digits hxl hyl]
      exact ih (Nat.succ.inj hlen) hcs hds

end Evaluation

namespace Calendar

variable {n k width : Nat} {y z : Int}

theorem length_encode_padded (width n : Nat) : (Utf8.encode (padded width n)).length = (padded width n).length :=
  length_encode_digits (digitsFrom?_padded width n)

/-- A number of fewer digits is less. -/
theorem lt_of_length_padded (h : (padded width n).length < (padded width k).length) : n < k := by
  have hpos : 0 < (padded width n).length := List.length_pos_iff.2 (padded_ne_nil width n)
  have hn := (length_padded_le_iff hpos).1 (Nat.le_refl _)
  have hk : ¬((padded width k).length ≤ (padded width n).length) := by omega
  rw [length_padded_le_iff hpos] at hk
  omega

/-- Numbers are ordered by their digits. -/
theorem charOrder_padded (width n k : Nat) : charOrder (padded width n) (padded width k) = compare n k := by
  unfold charOrder
  rw [length_encode_padded, length_encode_padded]
  rcases Nat.lt_trichotomy (padded width n).length (padded width k).length with hlt | heq | hgt
  · rw [Nat.compare_eq_lt.2 hlt, Nat.compare_eq_lt.2 (lt_of_length_padded hlt)]
    rfl
  · rw [← octetOrder_digits heq (digitsFrom?_padded width n) (digitsFrom?_padded width k), heq, Nat.compare_eq_eq.2 rfl,
      Nat.compare_eq_eq.2 rfl]
  · rw [Nat.compare_eq_gt.2 hgt, Nat.compare_eq_gt.2 (lt_of_length_padded hgt)]
    rfl

/-! ## The order of years -/

/-- A year of the first ten thousand has four digits, any other one has a sign in front of its digits. -/
theorem yearText_cases (y : Int) : (0 ≤ y ∧ y ≤ 9999 ∧ yearText y = padded 4 y.toNat) ∨
    (9999 < y ∧ yearText y = '+' :: padded 4 y.toNat) ∨ (y < 0 ∧ yearText y = '-' :: padded 4 (-y).toNat) := by
  unfold yearText
  by_cases hy : 0 ≤ y ∧ y ≤ 9999
  · rw [if_pos hy]
    exact .inl ⟨hy.1, hy.2, rfl⟩
  · rw [if_neg hy]
    by_cases hneg : y < 0
    · rw [if_pos hneg, show y.natAbs = (-y).toNat by omega]
      exact .inr (.inr ⟨hneg, rfl⟩)
    · rw [if_neg hneg, show y.natAbs = y.toNat by omega]
      exact .inr (.inl ⟨by omega, rfl⟩)

theorem length_encode_year (y : Int) : (Utf8.encode (yearText y)).length = (yearText y).length := by
  have hsign {c : Char} (hc : c.toNat < 128) (n : Nat) :
      (Utf8.encode (c :: padded 4 n)).length = (c :: padded 4 n).length := by
    show (String.utf8EncodeChar c ++ Utf8.encode (padded 4 n)).length = _
    rw [Utf8.encodeChar_ascii hc, List.length_append, length_encode_padded, List.length_singleton, List.length_cons]
    omega
  rcases yearText_cases y with ⟨-, -, h⟩ | ⟨-, h⟩ | ⟨-, h⟩
  · rw [h, length_encode_padded]
  · rw [h, hsign (by decide)]
  · rw [h, hsign (by decide)]

/-- Years that are not negative are in order: one behind 9999 is the longer text. -/
theorem yearOrder_nonneg (hy : 0 ≤ y) (hz : 0 ≤ z) : charOrder (yearText y) (yearText z) = compare y z := by
  have hnat : compare y.toNat z.toNat = compare y z := by
    rcases Int.lt_trichotomy y z with hlt | rfl | hgt
    · rw [Int.compare_eq_lt.2 hlt, Nat.compare_eq_lt.2 (by omega)]
    · rw [Int.compare_eq_eq.2 rfl, Nat.compare_eq_eq.2 rfl]
    · rw [Int.compare_eq_gt.2 hgt, Nat.compare_eq_gt.2 (by omega)]
  have hlonger {v w : Int} (hv : 0 ≤ v) (hv' : v ≤ 9999) (hw : 9999 < w) (htv : yearText v = padded 4 v.toNat)
      (htw : yearText w = '+' :: padded 4 w.toNat) : charOrder (yearText v) (yearText w) = .lt := by
    apply charOrder_of_length
    rw [length_encode_year, length_encode_year, htv, htw, List.length_cons, length_padded (by decide) (by omega)]
    have := le_length_padded 4 w.toNat
    omega
  rcases yearText_cases y with ⟨-, hy', hty⟩ | ⟨hy', hty⟩ | ⟨hy', -⟩
  · rcases yearText_cases z with ⟨-, hz', htz⟩ | ⟨hz', htz⟩ | ⟨hz', -⟩
    · rw [hty, htz, charOrder_padded, hnat]
    · rw [hlonger hy hy' hz' hty htz, Int.compare_eq_lt.2 (by omega)]
    · omega
  · rcases yearText_cases z with ⟨-, hz', htz⟩ | ⟨hz', htz⟩ | ⟨hz', -⟩
    · rw [← charOrder_swap, hlonger hz hz' hy' htz hty, Int.compare_eq_gt.2 (by omega)]
      rfl
    · rw [hty, htz, charOrder_cons, charOrder_padded, hnat]
    · omega
  · omega

/-- Two negative years are ordered the wrong way round. -/
theorem yearOrder_neg (hy : y < 0) (hz : z < 0) : charOrder (yearText y) (yearText z) = compare z y := by
  rcases yearText_cases y with ⟨hy', -⟩ | ⟨hy', -⟩ | ⟨-, hty⟩
  · omega
  · omega
  rcases yearText_cases z with ⟨hz', -⟩ | ⟨hz', -⟩ | ⟨-, htz⟩
  · omega
  · omega
  rw [hty, htz, charOrder_cons, charOrder_padded]
  rcases Int.lt_trichotomy z y with hlt | rfl | hgt
  · rw [Int.compare_eq_lt.2 hlt, Nat.compare_eq_lt.2 (by omega)]
  · rw [Int.compare_eq_eq.2 rfl, Nat.compare_eq_eq.2 rfl]
  · rw [Int.compare_eq_gt.2 hgt, Nat.compare_eq_gt.2 (by omega)]

/-- A negative year comes behind any other one, unless its text is the shorter one. -/
theorem yearOrder_mixed (hy : y < 0) (hz : 0 ≤ z) : charOrder (yearText y) (yearText z) =
    if (yearText y).length < (yearText z).length then .lt else .gt := by
  split
  · next h =>
    apply charOrder_of_length
    rwa [length_encode_year, length_encode_year]
  · next h =>
    rw [← charOrder_swap]
    rcases Nat.lt_or_ge (yearText z).length (yearText y).length with hlt | hge
    · rw [charOrder_of_length (by rwa [length_encode_year, length_encode_year])]
      rfl
    · have heq : (yearText z).length = (yearText y).length := by omega
      rcases yearText_cases y with ⟨hy', -⟩ | ⟨hy', -⟩ | ⟨-, hty⟩
      · omega
      · omega
      rcases yearText_cases z with ⟨-, hz', htz⟩ | ⟨hz', htz⟩ | ⟨hz', -⟩
      · -- a sign is one character more
        rw [hty, htz, List.length_cons, length_padded (by decide) (by omega)] at heq
        have := le_length_padded 4 (-y).toNat
        omega
      · -- a plus stands in front of a minus
        unfold charOrder
        rw [length_encode_year, length_encode_year, heq, Nat.compare_eq_eq.2 rfl, hty, htz]
        rfl
      · omega

/-- The texts of two years are ordered as the years are. -/
def YearsInOrder (y z : Int) : Prop :=
  y = z ∨ 0 ≤ y ∧ 0 ≤ z ∨ y < 0 ∧ 0 ≤ z ∧ (yearText y).length < (yearText z).length ∨
    z < 0 ∧ 0 ≤ y ∧ (yearText z).length < (yearText y).length

instance (y z : Int) : Decidable (YearsInOrder y z) := by unfold YearsInOrder; infer_instance

theorem yearOrder (h : YearsInOrder y z) : charOrder (yearText y) (yearText z) = compare y z := by
  rcases h with rfl | ⟨hy, hz⟩ | ⟨hy, hz, hlen⟩ | ⟨hz, hy, hlen⟩
  · rw [charOrder_self, Int.compare_eq_eq.2 rfl]
  · exact yearOrder_nonneg hy hz
  · rw [yearOrder_mixed hy hz, if_pos hlen, Int.compare_eq_lt.2 (by omega)]
  · rw [← charOrder_swap, yearOrder_mixed hz hy, if_pos hlen, Int.compare_eq_gt.2 (by omega)]
    rfl

/-- All other years are ordered the wrong way round. -/
theorem yearOrder_swap (h : ¬YearsInOrder y z) : charOrder (yearText y) (yearText z) = compare z y := by
  unfold YearsInOrder at h
  rcases Int.lt_or_le y 0 with hy | hy
  · rcases Int.lt_or_le z 0 with hz | hz
    · exact yearOrder_neg hy hz
    · rw [yearOrder_mixed hy hz, if_neg (by omega), Int.compare_eq_gt.2 (by omega)]
  · rcases Int.lt_or_le z 0 with hz | hz
    · rw [← charOrder_swap, yearOrder_mixed hz hy, if_neg (by omega), Int.compare_eq_lt.2 (by omega)]
      rfl
    · omega

/-! ## The order of dates and times -/

/-- The order of two dates of the same year. -/
def Date.dayOrder (d e : Date) : Ordering := (compare d.month e.month).then (compare d.day e.day)

/-- The order of two times of day. -/
def Clock.order (t u : Clock) : Ordering :=
  (compare t.hour u.hour).then ((compare t.minute u.minute).then (compare t.second u.second))

/-- The order of two moments of the same year. -/
def Moment.laterOrder (m n : Moment) : Ordering := (m.date.dayOrder n.date).then (m.clock.order n.clock)

/-- The order of two moments. -/
def Moment.order (m n : Moment) : Ordering := (compare m.date.year n.date.year).then (m.laterOrder n)

variable {d e : Date} {t u : Clock} {m o : Moment}

theorem length_encode_pair (hn : n < 100) : (Utf8.encode (padded 2 n)).length = 2 := by
  rw [length_encode_padded, length_padded (by decide) hn]

theorem charOrder_date (hd : d.Valid) (he : e.Valid) :
    charOrder d.chars e.chars = (charOrder (yearText d.year) (yearText e.year)).then (d.dayOrder e) := by
  obtain ⟨hm, hday⟩ := hd.bounds
  obtain ⟨hm', hday'⟩ := he.bounds
  unfold Date.chars Date.dayOrder
  rw [charOrder_append (by rw [length_encode_pair hday, length_encode_pair hday']), charOrder_append rfl,
    charOrder_append (by rw [length_encode_pair hm, length_encode_pair hm']), charOrder_append rfl]
  simp only [charOrder_self, charOrder_padded, Ordering.then_eq, Ordering.then_assoc]

theorem length_encode_clock (h : t.Valid) : (Utf8.encode t.chars).length = 8 := by
  obtain ⟨hh, hm, hs⟩ := h
  unfold Clock.chars
  simp only [Utf8.encode_append, List.length_append, length_encode_pair (show t.hour < 100 by omega),
    length_encode_pair (show t.minute < 100 by omega), length_encode_pair (show t.second < 100 by omega)]
  rfl

theorem charOrder_clock (ht : t.Valid) (hu : u.Valid) : charOrder t.chars u.chars = t.order u := by
  obtain ⟨hh, hm, hs⟩ := ht
  obtain ⟨hh', hm', hs'⟩ := hu
  unfold Clock.chars Clock.order
  rw [charOrder_append (by rw [length_encode_pair (by omega), length_encode_pair (by omega)]), charOrder_append rfl,
    charOrder_append (by rw [length_encode_pair (by omega), length_encode_pair (by omega)]), charOrder_append rfl]
  simp only [charOrder_self, charOrder_padded, Ordering.then_eq, Ordering.then_assoc]

theorem charOrder_moment (hm : m.Valid) (ho : o.Valid) :
    charOrder m.chars o.chars = (charOrder (yearText m.date.year) (yearText o.date.year)).then (m.laterOrder o) := by
  unfold Moment.chars Moment.laterOrder
  rw [charOrder_append (by rw [length_encode_clock hm.2, length_encode_clock ho.2]), charOrder_append rfl,
    charOrder_date hm.1 ho.1, charOrder_clock hm.2 ho.2, charOrder_self, Ordering.then_eq, Ordering.then_assoc]

theorem Moment.order_swap (m o : Moment) : (m.order o).swap = o.order m := by
  unfold Moment.order Moment.laterOrder Date.dayOrder Clock.order
  simp only [Ordering.swap_then, Int.compare_swap, Nat.compare_swap]

theorem Moment.order_eq_lt : m.order o = .lt ↔ m.Before o := by
  obtain ⟨⟨y, m, d⟩, ⟨h, min, sec⟩⟩ := m
  obtain ⟨⟨y', m', d'⟩, ⟨h', min', sec'⟩⟩ := o
  simp only [Moment.order, Moment.laterOrder, Date.dayOrder, Clock.order, Moment.Before, Date.Before, Clock.Before,
    Ordering.then_eq_lt, Ordering.then_eq_eq, Int.compare_eq_lt, Int.compare_eq_eq, Nat.compare_eq_lt, Nat.compare_eq_eq,
    Date.mk.injEq]
  omega

theorem Moment.order_eq_gt : m.order o = .gt ↔ o.Before m := by
  rw [← Moment.order_eq_lt, ← Moment.order_swap m o]
  cases m.order o <;> decide

theorem Moment.order_eq_eq : m.order o = .eq ↔ m = o := by
  obtain ⟨⟨y, m, d⟩, ⟨h, min, sec⟩⟩ := m
  obtain ⟨⟨y', m', d'⟩, ⟨h', min', sec'⟩⟩ := o
  simp only [Moment.order, Moment.laterOrder, Date.dayOrder, Clock.order, Ordering.then_eq_eq, Int.compare_eq_eq,
    Nat.compare_eq_eq, Moment.mk.injEq, Date.mk.injEq, Clock.mk.injEq]
  omega

end Calendar

/-! ## Stored values -/

open Calendar

/-- The beginning of a day. -/
def Calendar.Date.start (d : Date) : Moment := ⟨d, ⟨0, 0, 0⟩⟩

/-- The moment of the first day of 1970 at a time of day. -/
def Calendar.Clock.moment (t : Clock) : Moment := ⟨⟨1970, 1, 1⟩, t⟩

/-- The moment that a text of a type stands for: a date is the beginning of its day, and a time of day one of the first
day of 1970. -/
def ValueType.moment? (s : String) : ValueType → Option Moment
  | .date => (Date.read? s).map Date.start
  | .time => (Clock.read? s).map Clock.moment
  | .stamp => Moment.read? s
  | _ => none

/-- What a comparison says of two moments. -/
def Comparison.Relates (m o : Moment) : Comparison → Prop
  | .eq => m = o
  | .ne => m ≠ o
  | .lt => m.Before o
  | .gt => o.Before m
  | .le => m.Before o ∨ m = o
  | .ge => o.Before m ∨ m = o
  | _ => False

/-- The comparisons by order. -/
def Comparison.ordering : List Comparison := [.eq, .ne, .lt, .le, .gt, .ge]

variable {f g : Field} {v w a b : String} {c : Comparison} {m o : Moment}

theorem Comparison.mem_ordering : c ∈ ordering ↔ c = .eq ∨ c = .ne ∨ c = .lt ∨ c = .le ∨ c = .gt ∨ c = .ge := by
  simp [ordering]

theorem holds_order (hc : c ∈ Comparison.ordering) : holds c (m.order o) = true ↔ c.Relates m o := by
  have heq : m = o ↔ m.order o = .eq := Moment.order_eq_eq.symm
  have hlt : m.Before o ↔ m.order o = .lt := Moment.order_eq_lt.symm
  have hgt : o.Before m ↔ m.order o = .gt := Moment.order_eq_gt.symm
  rcases Comparison.mem_ordering.1 hc with rfl | rfl | rfl | rfl | rfl | rfl <;>
    simp only [Comparison.Relates, ne_eq, heq, hlt, hgt] <;> cases m.order o <;> decide

/-- Of what differs, only a comparison for equality says the same the other way round. -/
theorem holds_swap {order : Ordering} (hc : c ∈ Comparison.ordering) (ho : order ≠ .eq) :
    (holds c order.swap = true ↔ holds c order = true) ↔ c = .eq ∨ c = .ne := by
  revert ho
  rcases Comparison.mem_ordering.1 hc with rfl | rfl | rfl | rfl | rfl | rfl <;> cases order <;> decide

/-- A comparison by order is one of the texts, if the type is no number. -/
theorem evaluate_text {t : ValueType} (ht : t.isNumeric = false) (hc : c ∈ Comparison.ordering) :
    evaluate (some t) a c b = .ok (holds c (textOrder a b)) := by
  have hignore : c ≠ .ignore := by
    rintro rfl
    revert hc
    decide
  have haccepts : (Filter.mk c b none).accepts (some t) a = .ok ((Filter.mk c b none).acceptsText a) :=
    Filter.accepts_text ht hignore
  rcases Comparison.mem_ordering.1 hc with rfl | rfl | rfl | rfl | rfl | rfl <;> exact haccepts

/-- The texts of two moments are ordered by their years first, as texts, and then as the moments are. -/
def Timed (s : String) (m : Moment) (r : String) (o : Moment) : Prop :=
  textOrder s r = (charOrder (yearText m.date.year) (yearText o.date.year)).then (m.laterOrder o)

theorem timed_date {d e : Date} (hd : d.Valid) (he : e.Valid) : Timed d.text d.start e.text e.start := by
  unfold Timed Moment.laterOrder
  rw [Date.text, Date.text, textOrder_ofList, charOrder_date hd he]
  have hclock : d.start.clock.order e.start.clock = .eq := rfl
  rw [hclock, Ordering.then_eq]
  rfl

theorem timed_clock {t u : Clock} (ht : t.Valid) (hu : u.Valid) : Timed t.text t.moment u.text u.moment := by
  unfold Timed Moment.laterOrder
  rw [Clock.text, Clock.text, textOrder_ofList, charOrder_clock ht hu]
  have hyear : yearText t.moment.date.year = yearText u.moment.date.year := rfl
  have hday : t.moment.date.dayOrder u.moment.date = .eq := rfl
  rw [hyear, charOrder_self, hday]
  rfl

theorem timed_moment (hm : m.Valid) (ho : o.Valid) : Timed m.text m o.text o := by
  unfold Timed
  rw [Moment.text, Moment.text, textOrder_ofList, charOrder_moment hm ho]

/-- So are the texts of two stored values. -/
theorem timed_stored (ht : f.type.isTemporal = true) (hg : g.type = f.type) (ha : f.normalize v = .ok a)
    (hb : g.normalize w = .ok b) : ∃ m o, f.type.moment? a = some m ∧ f.type.moment? b = some o ∧ Timed a m b o := by
  have ha := stored_temporal ht (stored_of_normalize ha)
  have hb := stored_temporal (hg ▸ ht) (stored_of_normalize hb)
  rw [hg] at hb
  rcases ha with ⟨hty, d, hd, rfl⟩ | ⟨hty, t, ht, rfl⟩ | ⟨hty, m, hm, rfl⟩ <;>
    simp only [hty, reduceCtorEq, false_and, true_and, false_or, or_false] at hb <;> obtain ⟨x, hx, rfl⟩ := hb <;>
    rw [hty]
  · have hd := Date.valid_of_read? hd
    have hx := Date.valid_of_read? hx
    refine ⟨d.start, x.start, ?_, ?_, timed_date hd hx⟩
    · rw [ValueType.moment?, Date.read?_text hd, Option.map_some]
    · rw [ValueType.moment?, Date.read?_text hx, Option.map_some]
  · have ht := Clock.valid_of_read? ht
    have hx := Clock.valid_of_read? hx
    refine ⟨t.moment, x.moment, ?_, ?_, timed_clock ht hx⟩
    · rw [ValueType.moment?, Clock.read?_text ht, Option.map_some]
    · rw [ValueType.moment?, Clock.read?_text hx, Option.map_some]
  · have hm := Moment.valid_of_read? hm
    have hx := Moment.valid_of_read? hx
    exact ⟨m, x, Moment.read?_text hm, Moment.read?_text hx, timed_moment hm hx⟩

/-- Two values of a column of days or times compare as the moments do for which they stand, as far as their years do: a
comparison by order is that of the moments just if it is one for equality or the years are in order. -/
theorem temporal_order (ht : f.type.isTemporal = true) (hg : g.type = f.type) (ha : f.normalize v = .ok a)
    (hb : g.normalize w = .ok b) (hc : c ∈ Comparison.ordering) :
    ∃ m o r, f.type.moment? a = some m ∧ f.type.moment? b = some o ∧ evaluate (some f.type) a c b = .ok r ∧
      ((r = true ↔ c.Relates m o) ↔ c = .eq ∨ c = .ne ∨ YearsInOrder m.date.year o.date.year) := by
  have hn : f.type.isNumeric = false := by
    cases hty : f.type <;> rw [hty] at ht <;> first | rfl | cases ht
  obtain ⟨m, o, hm, ho, horder⟩ := timed_stored ht hg ha hb
  refine ⟨m, o, _, hm, ho, evaluate_text hn hc, ?_⟩
  rw [show textOrder a b = _ from horder, ← holds_order hc]
  by_cases hyears : YearsInOrder m.date.year o.date.year
  · rw [yearOrder hyears]
    exact ⟨fun _ => .inr (.inr hyears), fun _ => Iff.rfl⟩
  · -- the years differ, so that they alone decide
    have hne : m.date.year ≠ o.date.year := fun h => hyears (.inl h)
    have hswap : (charOrder (yearText m.date.year) (yearText o.date.year)).then (m.laterOrder o) =
        (m.order o).swap := by
      unfold Moment.order
      rw [yearOrder_swap hyears, Ordering.swap_then, Int.compare_swap]
      rcases Int.lt_or_gt_of_ne hne with hlt | hgt
      · rw [Int.compare_eq_gt.2 hlt]
        rfl
      · rw [Int.compare_eq_lt.2 hgt]
        rfl
    have hdiffer : m.order o ≠ .eq := fun h => hne (by rw [Moment.order_eq_eq.1 h])
    rw [hswap, holds_swap hc hdiffer]
    simp only [hyears, or_false]

/-- Behind the year 9999 comes a longer text. -/
theorem temporal_order_long :
    ValueType.date.isTemporal = true ∧
    (Field.mk "day" .date 10 0 0 true "").normalize "9999-12-31" = .ok "9999-12-31" ∧
    (Field.mk "day" .date 10 0 0 true "").normalize "+10000-1-1" = .ok "+10000-01-01" ∧
    Comparison.lt ∈ Comparison.ordering ∧
    ∃ m o r, ValueType.date.moment? "9999-12-31" = some m ∧ ValueType.date.moment? "+10000-01-01" = some o ∧
      evaluate (some .date) "9999-12-31" .lt "+10000-01-01" = .ok r ∧
      ((r = true ↔ Comparison.lt.Relates m o) ↔
        Comparison.lt = .eq ∨ Comparison.lt = .ne ∨ YearsInOrder m.date.year o.date.year) := by
  have ha : (Field.mk "day" .date 10 0 0 true "").normalize "9999-12-31" = .ok "9999-12-31" := by decide +kernel
  have hb : (Field.mk "day" .date 10 0 0 true "").normalize "+10000-1-1" = .ok "+10000-01-01" := by decide +kernel
  exact ⟨rfl, ha, hb, by decide, temporal_order rfl rfl ha hb (by decide)⟩

/-- A day of a negative year comes behind one of this century. -/
theorem temporal_order_negative :
    (Field.mk "day" .date 10 0 0 true "").normalize "-0001-01-01" = .ok "-0001-01-01" ∧
    (Field.mk "day" .date 10 0 0 true "").normalize "2024-01-01" = .ok "2024-01-01" ∧
    ValueType.date.moment? "-0001-01-01" = some ⟨⟨-1, 1, 1⟩, ⟨0, 0, 0⟩⟩ ∧
    ValueType.date.moment? "2024-01-01" = some ⟨⟨2024, 1, 1⟩, ⟨0, 0, 0⟩⟩ ∧
    Comparison.lt.Relates ⟨⟨-1, 1, 1⟩, ⟨0, 0, 0⟩⟩ ⟨⟨2024, 1, 1⟩, ⟨0, 0, 0⟩⟩ ∧
    evaluate (some .date) "-0001-01-01" .lt "2024-01-01" = .ok false := by
  refine ⟨by decide +kernel, by decide +kernel, by decide +kernel, by decide +kernel, ?_, by decide +kernel⟩
  exact .inl (.inl (by decide))

end SlotSql
