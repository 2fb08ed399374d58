import Mathlib.Data.List.TakeWhile
import SlotSql.Proofs.Text.Pieces
import SlotSql.Table.Value
/-!
# Decimal numbers

A decimal column takes texts of one form: perhaps a sign, then digits, and perhaps a point with more digits behind it. The
check cuts a text at its signs and its point and looks at the pieces; it accepts that form and nothing else, as long as
there is room for the digits. Zeros in front need no room.

Results:
* `Decimal`: decimal numbers as they are written, with any number of signs.
* `decimalFault?_text`: what is wrong with such a number, which depends on its signs and on how many digits it has.
* `exists_decimal`: every other text is refused for its form.
* `decimal_accepted_iff`: the texts that a decimal column accepts.
-/
namespace SlotSql

/-- A sign of a number. -/
def isSign (c : Char) : Bool := c == '+' || c == '-'

/-- One or more digits. -/
def IsDigits (cs : List Char) : Prop := cs ≠ [] ∧ ∀ c ∈ cs, c.isDigit = true

/-- A decimal number as it is written: signs, digits, and perhaps a point with more digits behind it. -/
structure Decimal where
  signs : List Char
  whole : List Char
  fraction : Option (List Char)
  areSigns : ∀ c ∈ signs, isSign c = true
  areDigits : IsDigits whole
  arePlaces : ∀ ds ∈ fraction, IsDigits ds

namespace Decimal

/-- Digits, and perhaps a point with more digits behind it. -/
def unsigned (whole : List Char) : Option (List Char) → List Char
  | none => whole
  | some ds => whole ++ '.' :: ds

/-- The number as a text. -/
def text (d : Decimal) : String := String.ofList (d.signs ++ unsigned d.whole d.fraction)

/-- The number of digits behind the point. -/
def places (d : Decimal) : Nat := (d.fraction.getD []).length

/-- The number of digits without the zeros in front. -/
def significant (d : Decimal) : Nat := (d.whole.dropWhile (· == '0')).length + d.places

/-- A number with no more than one sign, for the digits of which there is room. -/
structure Fits (d : Decimal) (precision scale : Nat) : Prop where
  sign : d.signs.length ≤ 1
  places : d.places ≤ scale
  significant : d.significant ≤ precision

end Decimal

/-- What is wrong with a number of so many signs, digits behind the point and digits that need room. -/
def roomFault? (signs places significant precision scale : Nat) : Option ValueFault :=
  if 1 < signs then some .manySigns
  else if scale < places then some (.fraction scale)
  else if precision < significant then some (.digits precision)
  else none

/-- What is wrong with a decimal number. -/
def Decimal.fault? (d : Decimal) (precision scale : Nat) : Option ValueFault :=
  roomFault? d.signs.length d.places d.significant precision scale

theorem Decimal.fault?_eq_none_iff {d : Decimal} {precision scale : Nat} :
    d.fault? precision scale = none ↔ d.Fits precision scale := by
  unfold fault? roomFault?
  constructor
  · intro h
    split at h
    · cases h
    split at h
    · cases h
    split at h
    · cases h
    · exact ⟨by omega, by omega, by omega⟩
  · rintro ⟨hsign, hplaces, hsignificant⟩
    rw [if_neg (by omega), if_neg (by omega), if_neg (by omega)]

/-! ## The pieces of a text -/

variable {value : String} {precision scale : Nat} {cs signs whole : List Char} {fraction : Option (List Char)}

theorem not_isSign_of_isDigit {c : Char} (h : c.isDigit = true) : ¬ isSign c = true := by
  intro hs
  rw [isSign, Bool.or_eq_true, beq_iff_eq, beq_iff_eq] at hs
  rcases hs with rfl | rfl
  · cases h
  · cases h

theorem IsDigits.point_notMem (h : IsDigits cs) : '.' ∉ cs := fun hm => by
  cases h.2 '.' hm

instance : DecidablePred IsDigits := fun cs => inferInstanceAs (Decidable (cs ≠ [] ∧ ∀ c ∈ cs, c.isDigit = true))

/-- The signs in front of a text, what stands behind them up to a point, and what stands behind the point. -/
def decimalPieces (cs : List Char) : List Char × List Char × Option (List Char) :=
  let digits := cs.dropWhile isSign
  (cs.takeWhile isSign, (Text.cut? ['.'] digits).elim (digits, none) fun (a, b) => (a, some b))

/-- The pieces of a decimal number are its parts. -/
theorem decimalPieces_text (d : Decimal) : decimalPieces d.text.toList = (d.signs, d.whole, d.fraction) := by
  obtain ⟨c, cs, hcs⟩ := List.exists_cons_of_ne_nil d.areDigits.1
  have hc : ¬ isSign c = true := not_isSign_of_isDigit (d.areDigits.2 c (hcs ▸ List.mem_cons_self))
  obtain ⟨r, hr⟩ : ∃ r, Decimal.unsigned d.whole d.fraction = c :: r := by
    rw [hcs]
    cases d.fraction with
    | none => exact ⟨cs, rfl⟩
    | some ds => exact ⟨cs ++ '.' :: ds, rfl⟩
  unfold decimalPieces Decimal.text
  rw [String.toList_ofList, List.takeWhile_append_of_pos d.areSigns, List.dropWhile_append_of_pos d.areSigns, hr,
    List.takeWhile_cons_of_neg hc, List.dropWhile_cons_of_neg hc, List.append_nil, ← hr]
  cases hf : d.fraction with
  | none =>
    show (_, (Text.cut? ['.'] d.whole).elim _ _) = _
    rw [Text.cut?_eq_none d.areDigits.point_notMem]
    rfl
  | some ds =>
    show (_, (Text.cut? ['.'] (d.whole ++ '.' :: ds)).elim _ _) = _
    rw [Text.cut?_cons d.areDigits.point_notMem]
    rfl

/-- Every text is made up of its pieces. -/
theorem eq_of_decimalPieces (h : decimalPieces cs = (signs, whole, fraction)) :
    cs = signs ++ Decimal.unsigned whole fraction ∧ ∀ c ∈ signs, isSign c = true := by
  simp only [decimalPieces, Prod.mk.injEq] at h
  obtain ⟨rfl, hdigits⟩ := h
  refine ⟨?_, fun c hc => List.mem_takeWhile_imp hc⟩
  have hrest : cs.dropWhile isSign = Decimal.unsigned whole fraction := by
    cases hcut : Text.cut? ['.'] (cs.dropWhile isSign) with
    | none =>
      rw [hcut] at hdigits
      cases hdigits
      rfl
    | some x =>
      obtain ⟨a, b⟩ := x
      rw [hcut] at hdigits
      cases hdigits
      rw [Text.cut?_eq_some hcut, List.append_assoc]
      rfl
  rw [← hrest, List.takeWhile_append_dropWhile]

/-! ## The check -/

theorem isDigits_iff : IsDigits cs ↔ cs.isEmpty = false ∧ cs.all Char.isDigit = true := by
  rw [IsDigits, List.isEmpty_eq_false_iff, List.all_eq_true]

/-- The check looks at the pieces of a text. -/
theorem decimalFault?_of_pieces (h : decimalPieces value.toList = (signs, whole, fraction)) :
    decimalFault? value precision scale =
      if IsDigits whole ∧ ∀ ds ∈ fraction, IsDigits ds then
        roomFault? signs.length (fraction.getD []).length
          ((whole.dropWhile (· == '0')).length + (fraction.getD []).length) precision scale
      else some .notDecimal := by
  have hsign : (fun c : Char => c == '+' || c == '-') = isSign := rfl
  simp only [decimalPieces, Prod.mk.injEq] at h
  obtain ⟨rfl, hdigits⟩ := h
  rw [← ite_not]
  cases hcut : Text.cut? ['.'] (value.toList.dropWhile isSign) with
  | none =>
    rw [hcut] at hdigits
    cases hdigits
    simp only [decimalFault?, roomFault?, hsign, hcut]
    refine if_congr ?_ rfl rfl
    grind [isDigits_iff]
  | some x =>
    obtain ⟨a, b⟩ := x
    rw [hcut] at hdigits
    cases hdigits
    simp only [decimalFault?, roomFault?, hsign, hcut]
    refine if_congr ?_ rfl rfl
    have hfraction : (∀ ds ∈ some b, IsDigits ds) ↔ IsDigits b := by simp
    grind [isDigits_iff]

/-- What the check finds wrong with a decimal number. -/
theorem decimalFault?_text (d : Decimal) : decimalFault? d.text precision scale = d.fault? precision scale := by
  rw [decimalFault?_of_pieces (decimalPieces_text d), if_pos ⟨d.areDigits, d.arePlaces⟩]
  rfl

/-- A text that is not refused for its form is a decimal number. -/
theorem exists_decimal (h : decimalFault? value precision scale ≠ some .notDecimal) : ∃ d : Decimal, value = d.text := by
  obtain ⟨⟨signs, whole, fraction⟩, hpieces⟩ : ∃ x, decimalPieces value.toList = x := ⟨_, rfl⟩
  obtain ⟨hvalue, hsigns⟩ := eq_of_decimalPieces hpieces
  rw [decimalFault?_of_pieces hpieces, ite_ne_right_iff] at h
  obtain ⟨⟨hwhole, hfraction⟩, -⟩ := h
  exact ⟨⟨signs, whole, fraction, hsigns, hwhole, hfraction⟩, by rw [Decimal.text, ← hvalue, String.ofList_toList]⟩

/-- A decimal column of `precision` digits, `scale` of them behind the point, takes the decimal numbers with no more than
one sign for the digits of which there is room, and nothing else. -/
theorem decimal_accepted_iff :
    decimalFault? value precision scale = none ↔ ∃ d : Decimal, value = d.text ∧ d.Fits precision scale := by
  constructor
  · intro h
    obtain ⟨d, rfl⟩ := exists_decimal (by rw [h]; exact nofun)
    rw [decimalFault?_text] at h
    exact ⟨d, rfl, Decimal.fault?_eq_none_iff.1 h⟩
  · rintro ⟨d, rfl, h⟩
    rw [decimalFault?_text]
    exact Decimal.fault?_eq_none_iff.2 h

example : decimalFault? "-007.50" 3 2 = none ∧ decimalFault? "+-1" 9 9 = some .manySigns := by decide

end SlotSql
