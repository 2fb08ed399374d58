import SlotSql.Plan.Build
import SlotSql.Proofs.Evaluation
import SlotSql.Proofs.Text.Utf8
/-!
# Filters and conditions

A filter of a plan holds the literal of its condition in the form in which the column stores it. That
changes nothing: the filter says of every value what the typed comparison with the literal of the condition
says. An equation accepts one stored value only, which is why it can become a part of a key.

Results:
* `accepts_filterFor`: a filter says what its condition says.
* `accepts_readable`: a value that its type can read is compared without an error.
* `accepts_eq_iff`: the one stored value that an equation accepts.
* `allHold_total`: a chain of filters none of which fails.
-/
namespace SlotSql

open Evaluation

/-! ## Values that can be compared -/

namespace Evaluation

/-- A value that the comparisons of its type can read. -/
def Readable (t : ValueType) (x : String) : Prop :=
  (t.isInteger = true → ∃ n, integer t x = .ok n) ∧ (t.isFloat = true → ∃ y, double t x = .ok y)

variable {t : ValueType} {x y : String}

theorem isInteger_of_isNumeric (h : t.isNumeric = true) (hf : t.isFloat = false) : t.isInteger = true := by
  unfold ValueType.isNumeric at h
  rwa [hf, Bool.or_false] at h

theorem numberOrder_readable (hx : Readable t x) (hy : Readable t y) (ht : t.isNumeric = true) :
    ∃ o, numberOrder t x y = .ok o := by
  unfold numberOrder
  cases hf : t.isFloat with
  | true =>
    obtain ⟨a, ha⟩ := hx.2 hf
    obtain ⟨b, hb⟩ := hy.2 hf
    rw [if_pos rfl, ha, hb]
    exact ⟨_, rfl⟩
  | false =>
    obtain ⟨a, ha⟩ := hx.1 (isInteger_of_isNumeric ht hf)
    obtain ⟨b, hb⟩ := hy.1 (isInteger_of_isNumeric ht hf)
    rw [if_neg Bool.false_ne_true, ha, hb]
    exact ⟨_, rfl⟩

theorem octetOrder_self (a : Bytes) : octetOrder a a = .eq := by
  induction a with
  | nil => rfl
  | cons b a ih =>
    have hb : compare b b = .eq := Std.ReflCmp.compare_self
    rw [octetOrder, hb, ih]
    rfl

theorem octetOrder_eq {a b : Bytes} (h : octetOrder a b = .eq) : a = b := by
  induction a generalizing b with
  | nil =>
    cases b with
    | nil => rfl
    | cons _ _ => cases h
  | cons c a ih =>
    cases b with
    | nil => cases h
    | cons e b =>
      rw [octetOrder, Ordering.then_eq_eq] at h
      rw [Std.LawfulEqCmp.eq_of_compare h.1, ih h.2]

theorem bytes_inj (h : Utf8.bytes x = Utf8.bytes y) : x = y := by
  rw [← Utf8.decodeLossy_bytes x, h, Utf8.decodeLossy_bytes]

theorem textOrder_eq_iff : textOrder x y = .eq ↔ x = y := by
  unfold textOrder
  simp only [Ordering.then_eq_eq]
  constructor
  · exact fun h => bytes_inj (octetOrder_eq h.2)
  · rintro rfl
    exact ⟨Std.ReflCmp.compare_self, octetOrder_self _⟩

/-- Integers are told apart by the texts in which they are stored. -/
theorem integerText_inj {m n : Int} (ht : t.isInteger = true) (hm : integer t x = .ok m)
    (hn : integer t y = .ok n) (h : integerText t m = integerText t n) : m = n :=
  Except.ok.inj ((integer_stored ht hm).symm.trans ((congrArg (integer t) h).trans (integer_stored ht hn)))

end Evaluation

/-! ## The filter of a condition -/

namespace Filter

variable {f : Field} {c : Condition} {flt : Filter} {x : String}

theorem ofComparison_eq_ok {cmp : Comparison} {v : String} (h : ofComparison cmp v = .ok flt) :
    flt.comparison = cmp ∧ flt.value = v := by
  unfold ofComparison at h
  split at h
  · cases hr : Evaluation.regex v with
    | error e => rw [hr] at h; cases h
    | ok r => rw [hr] at h; cases h; exact ⟨rfl, rfl⟩
  · cases h
    exact ⟨rfl, rfl⟩

/-- What a filter is made of, and what was checked before. -/
theorem filterFor_eq_ok (h : Plan.filterFor f c = .ok flt) : ∃ literal, Plan.literalFor f c = .ok literal ∧
    ofComparison c.comparison literal = .ok flt ∧
    (f.type.isNumeric = true → c.comparison.isTextual = false) ∧
    (f.isKey = true → c.comparison ≠ .pattern → Key.holdsStructural c.value.value = false) := by
  unfold Plan.filterFor at h
  by_cases hnum : (f.type.isNumeric && c.comparison.isTextual) = true
  · rw [if_pos hnum] at h
    cases h
  · by_cases hstr : (f.isKey && decide (c.comparison ≠ .pattern) && Key.holdsStructural c.value.value) = true
    · rw [if_neg hnum, if_pos hstr] at h
      cases h
    · rw [if_neg hnum, if_neg hstr] at h
      cases hl : Plan.literalFor f c with
      | error e => rw [hl] at h; cases h
      | ok literal =>
        cases ho : ofComparison c.comparison literal with
        | error e =>
          simp only [hl, ho, bind, Except.bind] at h
          cases h
        | ok flt' =>
          simp only [hl, ho, bind, Except.bind] at h
          cases h
          refine ⟨literal, rfl, ho, fun ht => ?_, fun hk hp => ?_⟩
          · simpa [ht] using hnum
          · simpa [hk, hp] using hstr

theorem comparison_filterFor (h : Plan.filterFor f c = .ok flt) : flt.comparison = c.comparison := by
  obtain ⟨literal, -, h2, -⟩ := filterFor_eq_ok h
  exact (ofComparison_eq_ok h2).1

/-- The literal of a filter: that of the condition, unless it is an integer, which is stored in one form. -/
theorem value_filterFor (h : Plan.filterFor f c = .ok flt) : flt.value = c.value.value ∨
    f.type.isInteger = true ∧ ∃ n, integer f.type c.value.value = .ok n ∧
      flt.value = integerText f.type n := by
  obtain ⟨literal, h1, h2, -⟩ := filterFor_eq_ok h
  rw [(ofComparison_eq_ok h2).2]
  unfold Plan.literalFor at h1
  simp only [] at h1
  split at h1
  · exact .inl (Except.ok.inj h1).symm
  · split at h1
    · next hi =>
      cases hn : integer f.type c.value.value with
      | error e => rw [hn] at h1; cases h1
      | ok n =>
        rw [hn] at h1
        exact .inr ⟨hi, n, rfl, (Except.ok.inj h1).symm⟩
    · split at h1
      · split at h1
        · exact .inl (Except.ok.inj h1).symm
        · cases h1
      · exact .inl (Except.ok.inj h1).symm

/-- The literal of a filter on an integer is the stored form of that of the condition. -/
theorem value_of_integer (h : Plan.filterFor f c = .ok flt) (hc : c.comparison ≠ .ignore)
    (hi : f.type.isInteger = true) :
    ∃ n, integer f.type c.value.value = .ok n ∧ flt.value = integerText f.type n := by
  obtain ⟨literal, h1, h2, -⟩ := filterFor_eq_ok h
  rw [(ofComparison_eq_ok h2).2]
  unfold Plan.literalFor at h1
  simp only [] at h1
  rw [if_neg hc, if_pos hi] at h1
  cases hn : integer f.type c.value.value with
  | error e => rw [hn] at h1; cases h1
  | ok n =>
    rw [hn] at h1
    exact ⟨n, rfl, (Except.ok.inj h1).symm⟩

/-- The literal of a filter on a double can be read. -/
theorem double_of_filterFor (h : Plan.filterFor f c = .ok flt) (hc : c.comparison ≠ .ignore)
    (hf : f.type.isFloat = true) : flt.value = c.value.value ∧ ∃ y, double f.type c.value.value = .ok y := by
  obtain ⟨literal, h1, h2, -⟩ := filterFor_eq_ok h
  have hi : ¬ f.type.isInteger = true := by
    rw [ValueType.isFloat, beq_iff_eq] at hf
    rw [hf]
    exact Bool.false_ne_true
  rw [(ofComparison_eq_ok h2).2]
  unfold Plan.literalFor at h1
  simp only [] at h1
  rw [if_neg hc, if_neg hi, if_pos hf] at h1
  cases hd : double f.type c.value.value with
  | error e => rw [hd] at h1; cases h1
  | ok y =>
    rw [hd] at h1
    exact ⟨(Except.ok.inj h1).symm, y, rfl⟩

/-- The literal of a filter on a number can be read, unless the filter ignores it. -/
theorem readable_filterFor (h : Plan.filterFor f c = .ok flt) (hc : c.comparison ≠ .ignore) :
    Readable f.type flt.value := by
  refine ⟨fun hi => ?_, fun hf => ?_⟩
  · obtain ⟨n, hn, hv⟩ := value_of_integer h hc hi
    exact ⟨n, hv ▸ integer_stored hi hn⟩
  · obtain ⟨hv, y, hy⟩ := double_of_filterFor h hc hf
    exact ⟨y, hv ▸ hy⟩

theorem accepts_number {t : ValueType} (ht : t.isNumeric = true) (hc : flt.comparison ≠ .ignore)
    (htext : flt.comparison.isTextual = false) :
    flt.accepts (some t) x = (numberOrder t x flt.value).map (Evaluation.holds flt.comparison) := by
  unfold accepts
  rw [if_neg hc, Option.filter_some, if_pos ht]
  simp only [htext]
  rfl

theorem accepts_text {t : ValueType} (ht : t.isNumeric = false) (hc : flt.comparison ≠ .ignore) :
    flt.accepts (some t) x = .ok (flt.acceptsText x) := by
  unfold accepts
  rw [if_neg hc, Option.filter_some, if_neg (by rw [ht]; exact Bool.false_ne_true)]

/-- A filter says of every value what the typed comparison with the literal of its condition says. -/
theorem accepts_filterFor (h : Plan.filterFor f c = .ok flt) (x : String) :
    flt.accepts (some f.type) x = evaluate (some f.type) x c.comparison c.value.value := by
  obtain ⟨literal, -, h2, h3, -⟩ := filterFor_eq_ok h
  have hvalue := value_filterFor h
  obtain ⟨hcmp, hlit⟩ := ofComparison_eq_ok h2
  unfold evaluate
  rcases hvalue with hsame | ⟨hi, n, hn, hstored⟩
  · rw [← hsame, hlit, h2]
    rfl
  · -- Both forms of an integer are read as the same number.
    have hnum : f.type.isNumeric = true := by unfold ValueType.isNumeric; rw [hi]; rfl
    have htext := h3 hnum
    have hpat : c.comparison ≠ .pattern := by
      intro hp
      rw [hp] at htext
      cases htext
    have hother : ofComparison c.comparison c.value.value = .ok ⟨c.comparison, c.value.value, none⟩ := by
      unfold ofComparison
      rw [if_neg hpat]
      rfl
    rw [hother]
    show _ = Filter.accepts ⟨c.comparison, c.value.value, none⟩ (some f.type) x
    by_cases hig : c.comparison = .ignore
    · unfold accepts
      rw [if_pos (hcmp.trans hig), if_pos hig]
    · have hfloat : f.type.isFloat = false := by
        cases hf : f.type.isFloat with
        | false => rfl
        | true =>
          rw [ValueType.isFloat, beq_iff_eq] at hf
          rw [hf] at hi
          cases hi
      rw [accepts_number hnum (by rw [hcmp]; exact hig) (by rw [hcmp]; exact htext),
        accepts_number hnum hig htext, hcmp, hstored]
      unfold numberOrder
      rw [if_neg (by rw [hfloat]; exact Bool.false_ne_true), if_neg (by rw [hfloat]; exact Bool.false_ne_true),
        hn, integer_stored hi hn]

/-- A value that its type can read is compared without an error. -/
theorem accepts_readable (h : Plan.filterFor f c = .ok flt) (hx : Readable f.type x) :
    ∃ b, flt.accepts (some f.type) x = .ok b := by
  obtain ⟨-, -, -, h3, -⟩ := filterFor_eq_ok h
  have hcmp := comparison_filterFor h
  by_cases hig : flt.comparison = .ignore
  · exact ⟨true, by unfold accepts; rw [if_pos hig]⟩
  · cases hnum : f.type.isNumeric with
    | false => exact ⟨_, accepts_text hnum hig⟩
    | true =>
      obtain ⟨o, ho⟩ := numberOrder_readable hx (readable_filterFor h (hcmp ▸ hig)) hnum
      rw [accepts_number hnum hig (by rw [hcmp]; exact h3 hnum), ho]
      exact ⟨_, rfl⟩

/-- The form of a value in which a part of a key is stored. -/
def Stored (t : ValueType) (x : String) : Prop :=
  t.isInteger = true → ∃ n, integer t x = .ok n ∧ x = integerText t n

/-- An equation accepts one stored value only. -/
theorem accepts_eq_iff (h : Plan.filterFor f c = .ok flt) (he : flt.comparison = .eq)
    (hf : f.type.isFloat = false) (hx : Stored f.type x) :
    flt.accepts (some f.type) x = .ok true ↔ x = flt.value := by
  have hig : flt.comparison ≠ .ignore := by rw [he]; decide
  cases hi : f.type.isInteger with
  | false =>
    have hnum : f.type.isNumeric = false := by unfold ValueType.isNumeric; rw [hi, hf]; rfl
    rw [accepts_text hnum hig]
    unfold acceptsText
    simp only [he]
    show Except.ok (Evaluation.textOrder x flt.value == .eq) = .ok true ↔ _
    rw [Except.ok.injEq, beq_iff_eq, textOrder_eq_iff]
  | true =>
    obtain ⟨m, hm, hxm⟩ := hx hi
    obtain ⟨n, hn', hvalue⟩ := value_of_integer h (comparison_filterFor h ▸ hig) hi
    have hn : integer f.type flt.value = .ok n := hvalue ▸ integer_stored hi hn'
    have hnum : f.type.isNumeric = true := by unfold ValueType.isNumeric; rw [hi]; rfl
    have horder : numberOrder f.type x flt.value = .ok (compare m n) := by
      unfold numberOrder
      rw [if_neg (by rw [hf]; exact Bool.false_ne_true), hm, hn]
      rfl
    rw [accepts_number hnum hig (by rw [he]; rfl), horder, he, hxm, hvalue]
    show Except.ok (compare m n == .eq) = .ok true ↔ _
    rw [Except.ok.injEq, beq_iff_eq, Int.compare_eq_eq]
    exact ⟨fun hmn => by rw [hmn], integerText_inj hi hm hn⟩

/-! ## Chains -/

/-- Where no condition fails, all of them hold just when each one does. -/
theorem allHold_total {α : Type} {p : α → Except EvalError Bool} {l : List α}
    (h : ∀ a ∈ l, ∃ b, p a = .ok b) :
    ∃ b, allHold p l = .ok b ∧ (b = true ↔ ∀ a ∈ l, p a = .ok true) := by
  induction l with
  | nil => exact ⟨true, rfl, by simp⟩
  | cons a as ih =>
    obtain ⟨b, hb⟩ := h a List.mem_cons_self
    obtain ⟨b', hb', hiff⟩ := ih fun x hx => h x (List.mem_cons_of_mem _ hx)
    cases b with
    | false =>
      refine ⟨false, ?_, ?_⟩
      · rw [allHold, hb]
        rfl
      · simp [hb]
    | true =>
      refine ⟨b', ?_, ?_⟩
      · rw [allHold, hb]
        exact hb'
      · rw [hiff]
        simp [hb]

end Filter
end SlotSql
