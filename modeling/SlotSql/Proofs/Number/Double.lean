import SlotSql.Number.Double
import SlotSql.Proofs.Text.Pieces
import SlotSql.Proofs.Text.Integer
/-!
# Doubles that are read back

What is written of a finite double is a number again when it is read, and never a NaN: an operation on
doubles gives one only for operands that are not numbers, infinite or both zero, and reading a decimal
divides or multiplies by a power of ten.

Results:
* `isNaN_ofDecimal`: no decimal is read as a NaN.
* `double?_display`: what is written of a finite double is read as a number.
-/
namespace SlotSql.Number

open Float.Model

/-! ## No NaN from rounding -/

section Rounding

variable {spec : Format} {x y : UnpackedFloat}

theorem isNaN_dite {c : Prop} [Decidable c] {f : c → UnpackedFloat} {g : ¬c → UnpackedFloat}
    (hf : ∀ h, (f h).isNaN = false) (hg : ∀ h, (g h).isNaN = false) : (dite c f g).isNaN = false := by
  by_cases h : c
  · rw [dif_pos h]
    exact hf h
  · rw [dif_neg h]
    exact hg h

theorem isNaN_roundWithAccuracy (s : UnpackedFloat.Sign) (m : Nat) (e : Int) (a : UnpackedFloat.Accuracy) :
    (UnpackedFloat.roundWithAccuracy spec s m e a).isNaN = false := by
  unfold UnpackedFloat.roundWithAccuracy
  exact isNaN_dite (fun _ => rfl) fun _ => rfl

theorem isNaN_ofNat (n : Nat) : (UnpackedFloat.ofNat spec n).isNaN = false := by
  unfold UnpackedFloat.ofNat UnpackedFloat.ofInt UnpackedFloat.normalize
  split
  · exact isNaN_roundWithAccuracy ..
  · rfl
  · exact isNaN_roundWithAccuracy ..

/-- Components are unpacked as a NaN only if the exponent has all bits set and the mantissa any. -/
theorem isNaN_unpack {s : UnpackedFloat.Sign} {e : BitVec spec.exponentBits}
    {m : BitVec spec.mantissaBitsWithoutImplicit} (h : e = -1#_ → m = 0#_) :
    (UnpackedFloat.unpack spec (UnpackedFloat.packComponents spec s e m)).isNaN = false := by
  unfold UnpackedFloat.unpack
  refine isNaN_dite (fun he => ?_) fun _ =>
    isNaN_dite (fun _ => isNaN_dite (fun _ => rfl) fun _ => rfl) fun _ => rfl
  rw [UnpackedFloat.unpackExponent_packComponents] at he
  rw [if_pos (by rw [UnpackedFloat.unpackMantissa_packComponents, h he])]
  rfl

/-- Only a NaN is packed as one. -/
theorem isNaN_unpack_pack (h : x.isNaN = false) :
    (UnpackedFloat.unpack spec (UnpackedFloat.pack spec x)).isNaN = false := by
  have hpos : 1 < 2 ^ spec.exponentBits := Nat.one_lt_two_pow (Nat.pos_iff_ne_zero.1 spec.he)
  have hne {k : Nat} (hk : k + 1 < 2 ^ spec.exponentBits) : BitVec.ofNat spec.exponentBits k ≠ -1#_ := by
    intro he
    have hn := congrArg BitVec.toNat he
    rw [BitVec.toNat_ofNat, Nat.mod_eq_of_lt (by omega), BitVec.neg_one_eq_allOnes,
      BitVec.toNat_allOnes] at hn
    omega
  have hite {c : Prop} [Decidable c] {b b' : BitVec spec.numBits}
      (hb : c → (UnpackedFloat.unpack spec b).isNaN = false)
      (hb' : ¬c → (UnpackedFloat.unpack spec b').isNaN = false) :
      (UnpackedFloat.unpack spec (if c then b else b')).isNaN = false := by
    split
    · next hc => exact hb hc
    · next hc => exact hb' hc
  cases x with
  | notANumber => cases h
  | infinity s => exact isNaN_unpack fun _ => rfl
  | zero s => exact isNaN_unpack fun he => absurd he (hne hpos)
  | finite s m e hm =>
    refine hite (fun _ => isNaN_unpack fun _ => rfl) fun hlt => hite (fun _ => ?_) fun _ => ?_
    · exact isNaN_unpack fun he => absurd he (hne (Nat.lt_of_not_le hlt))
    · exact isNaN_unpack fun he => absurd he (hne hpos)

theorem isNaN_pack (h : x.isNaN = false) : (Float.ofModel (Float.Model.pack x)).isNaN = false :=
  isNaN_unpack_pack h

/-- A finite number that is not zero. -/
def IsProper : UnpackedFloat → Bool
  | .finite .. => true
  | _ => false

theorem isNaN_mul (hx : x.isNaN = false) (hy : IsProper y = true) :
    (UnpackedFloat.mul spec x y).isNaN = false := by
  cases y <;> try cases hy
  cases x with
  | notANumber => cases hx
  | infinity s => rfl
  | zero s => rfl
  | finite s m e hm => exact isNaN_roundWithAccuracy ..

theorem isNaN_div (hx : x.isNaN = false) (hy : IsProper y = true) :
    (UnpackedFloat.div spec x y).isNaN = false := by
  cases y <;> try cases hy
  cases x with
  | notANumber => cases hx
  | infinity s => rfl
  | zero s => rfl
  | finite s m e hm => exact isNaN_roundWithAccuracy ..

theorem isNaN_ofScientific (m : Nat) (e : Int) : (UnpackedFloat.ofScientific spec m e).isNaN = false := by
  unfold UnpackedFloat.ofScientific
  refine isNaN_dite (fun _ => rfl) fun _ => isNaN_dite (fun _ => rfl) fun _ =>
    isNaN_dite (fun _ => rfl) fun _ => isNaN_dite (fun _ => ?_) fun _ => ?_
  · exact isNaN_mul rfl rfl
  · exact isNaN_div rfl rfl

end Rounding

/-! ## No NaN from decimals -/

theorem isProper_power : ∀ i : Fin Float.exactlyRepresentablePowersOfTen.size,
    IsProper Float.exactlyRepresentablePowersOfTen[i].toModel.unpack = true := by
  decide +kernel

theorem isNaN_scientific (m : Nat) (s : Bool) (e : Nat) : (Float.ofScientific m s e).isNaN = false := by
  unfold Float.ofScientific
  split
  · next h =>
    have hp := isProper_power ⟨e, Nat.lt_of_le_of_lt h.2 (by decide)⟩
    have hm : (m.toUInt64.toFloat).toModel.unpack.isNaN = false := isNaN_unpack_pack (isNaN_ofNat _)
    simp only []
    split
    · exact isNaN_pack (isNaN_div hm hp)
    · exact isNaN_pack (isNaN_mul hm hp)
  · exact isNaN_pack (isNaN_ofScientific _ _)

/-- No decimal is read as a NaN. -/
theorem isNaN_ofDecimal (d : Nat) (e : Int) : (ofDecimal d e).isNaN = false := by
  unfold ofDecimal
  simp only []
  split
  · exact isNaN_scientific 0 false 0
  split
  · decide +kernel
  split
  · exact isNaN_scientific 0 false 0
  · exact isNaN_scientific ..

theorem isNaN_neg {x : Float} (h : x.isNaN = false) : (-x).isNaN = false := by
  refine isNaN_pack ?_
  have h' : x.toModel.unpack.isNaN = false := h
  cases hx : x.toModel.unpack <;> rw [hx] at h' <;> first | rfl | cases h'

/-! ## Reading what is written -/

variable {w f : List Char}

theorem digits?_of_isDigit (hw : w ≠ []) (h : ∀ c ∈ w, c.isDigit = true) : ∃ d, digits? 10 w = some d := by
  refine Option.isSome_iff_exists.1 (digits?_isSome.2 ⟨hw, fun c hc => ?_⟩)
  have hd := h c hc
  simp only [Char.isDigit, Bool.and_eq_true, decide_eq_true_eq] at hd
  have h1 : '0' ≤ c := hd.1
  have h2 : c ≤ '9' := hd.2
  have hn : c.toNat ≤ 57 := h2
  have hn' : 48 ≤ c.toNat := h1
  unfold digit?
  rw [if_pos ⟨h1, h2⟩, Option.filter_some, if_pos (by simp; omega)]
  rfl

theorem takeWhile_isDigit (h : ∀ c ∈ w, c.isDigit = true) (hf : ∀ c ∈ f.head?, c.isDigit = false) :
    (w ++ f).takeWhile Char.isDigit = w ∧ (w ++ f).dropWhile Char.isDigit = f := by
  induction w with
  | nil =>
    cases f with
    | nil => exact ⟨rfl, rfl⟩
    | cons c f =>
      have hc := hf c rfl
      exact ⟨by simp [hc], by simp [hc]⟩
  | cons c w ih =>
    obtain ⟨h1, h2⟩ := ih fun d hd => h d (List.mem_cons_of_mem _ hd)
    have hc := h c List.mem_cons_self
    exact ⟨by simp [hc, h1], by simp [hc, h2]⟩

/-- Digits, and digits with a point between them, are read as a decimal. -/
theorem magnitude?_digits (hw : w ≠ []) (h : ∀ c ∈ w, c.isDigit = true) :
    ∃ d, magnitude? w = some (ofDecimal d 0) := by
  obtain ⟨d, hd⟩ := digits?_of_isDigit hw h
  obtain ⟨h1, h2⟩ := takeWhile_isDigit (f := []) h (by simp)
  rw [List.append_nil] at h1 h2
  refine ⟨d, ?_⟩
  unfold magnitude?
  simp only [h1, h2, List.append_nil, hd]
  rfl

theorem magnitude?_point (hw : w ≠ []) (h : ∀ c ∈ w, c.isDigit = true) (hf : ∀ c ∈ f, c.isDigit = true) :
    ∃ d e, magnitude? (w ++ '.' :: f) = some (ofDecimal d e) := by
  obtain ⟨d, hd⟩ := digits?_of_isDigit (w := w ++ f) (by simp [hw]) fun c hc =>
    (List.mem_append.1 hc).elim (h c) (hf c)
  obtain ⟨h1, h2⟩ := takeWhile_isDigit (f := '.' :: f) h (by rintro c ⟨⟩; rfl)
  obtain ⟨h3, h4⟩ := takeWhile_isDigit (f := []) hf (by simp)
  rw [List.append_nil] at h3 h4
  refine ⟨d, 0 - f.length, ?_⟩
  unfold magnitude?
  simp only [h1, h2, h3, h4, hd]
  rfl

/-- A number in positional notation is read as a decimal. -/
theorem magnitude?_positional (n : Nat) (k : Int) : ∃ c cs d e, positional (Nat.toDigits 10 n) k = c :: cs ∧
    c.isDigit = true ∧ (∀ x ∈ c :: cs, x.isDigit = true ∨ x = '.') ∧
      magnitude? (c :: cs) = some (ofDecimal d e) := by
  have hds : ∀ c ∈ Nat.toDigits 10 n, c.isDigit = true := fun c hc =>
    Nat.isDigit_of_mem_toDigits (by decide) (by decide) hc
  have hne : Nat.toDigits 10 n ≠ [] := Nat.toDigits_ne_nil
  generalize Nat.toDigits 10 n = ds at hds hne
  have hzeros (m : Nat) : ∀ c ∈ List.replicate m '0', c.isDigit = true := by
    intro c hc
    rw [List.eq_of_mem_replicate hc]
    rfl
  -- In each of the layouts the digits in front of the point are a list `w` that is not empty.
  have hpoint {w f : List Char} (hw : w ≠ []) (h : ∀ c ∈ w, c.isDigit = true)
      (hf : ∀ c ∈ f, c.isDigit = true) : ∃ c cs d e, w ++ '.' :: f = c :: cs ∧ c.isDigit = true ∧
        (∀ x ∈ c :: cs, x.isDigit = true ∨ x = '.') ∧ magnitude? (c :: cs) = some (ofDecimal d e) := by
    obtain ⟨d, e, hm⟩ := magnitude?_point hw h hf
    obtain ⟨c, w, rfl⟩ := List.exists_cons_of_ne_nil hw
    refine ⟨c, w ++ '.' :: f, d, e, rfl, h c List.mem_cons_self, fun x hx => ?_, hm⟩
    have hx : x ∈ (c :: w) ++ '.' :: f := hx
    rcases List.mem_append.1 hx with hx | hx
    · exact .inl (h x hx)
    · exact (List.mem_cons.1 hx).symm.imp (hf x) id
  unfold positional
  split
  · obtain ⟨d, hm⟩ := magnitude?_digits (w := ds ++ List.replicate k.toNat '0') (by simp [hne])
      fun c hc => (List.mem_append.1 hc).elim (hds c) (hzeros _ c)
    obtain ⟨c, ds, rfl⟩ := List.exists_cons_of_ne_nil hne
    refine ⟨c, ds ++ List.replicate k.toNat '0', d, 0, rfl, hds c List.mem_cons_self, fun x hx => .inl ?_, hm⟩
    rw [← List.cons_append] at hx
    exact (List.mem_append.1 hx).elim (hds x) (hzeros _ x)
  · simp only []
    split
    · next hlt =>
      rw [List.append_assoc]
      refine hpoint ?_ (fun c hc => hds c (List.mem_of_mem_take hc)) fun c hc => hds c (List.mem_of_mem_drop hc)
      intro h0
      have := congrArg List.length h0
      rw [List.length_take, List.length_nil] at this
      omega
    · exact hpoint (w := ['0']) (by simp) (by simp) fun c hc =>
        (List.mem_append.1 hc).elim (hzeros _ c) (hds c)

/-- What begins with a digit is no word, whether or not it has a sign in front. -/
theorem double?_of_digit {c : Char} {cs : List Char} {x : Float} (hc : c.isDigit = true)
    (hx : magnitude? (c :: cs) = some x) (neg : Bool) :
    double? ((if neg then "-" else "") ++ String.ofList (c :: cs)) = some (if neg then -x else x) := by
  have hne {d : Char} (hd : d.isDigit = false) : c ≠ d := fun he => by
    rw [he, hd] at hc
    cases hc
  have hlow : c.toLower = c := by
    have h9 : c ≤ '9' := by
      simp only [Char.isDigit, Bool.and_eq_true, decide_eq_true_eq] at hc
      exact hc.2
    unfold Char.toLower
    rw [dif_neg]
    intro hA
    exact absurd (Nat.le_trans (UInt32.le_iff_toNat_le.1 hA.1) (UInt32.le_iff_toNat_le.1 h9)) (by decide)
  have hword {t : String} {d : Char} {ds : List Char} (ht : t.toList = d :: ds) (hd : d.isDigit = false) :
      String.ofList ((c :: cs).map Char.toLower) ≠ t := by
    intro he
    have := congrArg String.toList he
    rw [String.toList_ofList, List.map_cons, hlow, ht] at this
    exact hne hd (List.cons_eq_cons.1 this).1
  have hlist : ((if neg = true then "-" else "") ++ String.ofList (c :: cs)).toList =
      if neg = true then '-' :: c :: cs else c :: cs := by
    cases neg <;> simp [String.toList_append, String.toList_ofList]
  have hinf := not_or.2 ⟨@hword "inf" 'i' ['n', 'f'] rfl rfl,
    @hword "infinity" 'i' ['n', 'f', 'i', 'n', 'i', 't', 'y'] rfl rfl⟩
  have hnan := @hword "nan" 'n' ['a', 'n'] rfl rfl
  unfold double?
  rw [hlist]
  cases neg with
  | true =>
    simp only [↓reduceIte]
    rw [if_neg hinf, if_neg hnan, hx, Option.map_some]
  | false =>
    simp only [Bool.false_eq_true, ↓reduceIte]
    split
    · next he => cases he; exact absurd rfl (hne (d := '-') rfl)
    · next he => cases he; exact absurd rfl (hne (d := '+') rfl)
    · rw [if_neg hinf, if_neg hnan, hx, Option.map_some]
      rfl

/-- The exponent field of a finite double does not have all bits set. -/
theorem fields_of_isFinite {x : Float} (h : x.isFinite = true) : (fields x).2.1 ≠ 2047 := by
  have h' : x.toModel.unpack.isFinite = true := h
  intro he
  have hexp : @UnpackedFloat.unpackExponent Format.binary64 x.toModel.toBits.toBitVec = -1#_ := by
    apply BitVec.eq_of_toNat_eq
    unfold UnpackedFloat.unpackExponent
    rw [BitVec.toNat_cast, BitVec.extractLsb_toNat, Nat.shiftRight_eq_div_pow]
    exact he
  unfold Float.Model.unpack UnpackedFloat.unpack at h'
  rw [if_pos hexp] at h'
  split at h' <;> cases h'

/-- What is written of a finite double is read as a number. -/
theorem double?_display {x : Float} (h : x.isFinite = true) : ∃ c cs y, display x = String.ofList (c :: cs) ∧
    double? (display x) = some y ∧ y.isNaN = false ∧
      ∀ z ∈ c :: cs, z.isDigit = true ∨ z = '.' ∨ z = '-' := by
  have hf := fields_of_isFinite h
  unfold display
  simp only []
  rw [if_neg hf]
  obtain ⟨c, cs, d, e, hp, hc, hall, hm⟩ := magnitude?_positional
    (shortest (.ofFields (fields x).2.1 (fields x).2.2) .up).1 (shortest (.ofFields (fields x).2.1 (fields x).2.2) .up).2
  rw [hp]
  have hsome := double?_of_digit hc hm (fields x).1
  have hnan : (if (fields x).1 = true then -ofDecimal d e else ofDecimal d e).isNaN = false := by
    split
    · exact isNaN_neg (isNaN_ofDecimal d e)
    · exact isNaN_ofDecimal d e
  cases hneg : (fields x).1 with
  | true =>
    rw [hneg] at hsome hnan
    refine ⟨'-', c :: cs, _, ?_, hsome, hnan, fun z hz => ?_⟩
    · exact String.toList_inj.1 (by simp [String.toList_append, String.toList_ofList])
    · rcases List.mem_cons.1 hz with rfl | hz
      · exact .inr (.inr rfl)
      · exact (hall z hz).imp id .inl
  | false =>
    rw [hneg] at hsome hnan
    exact ⟨c, cs, _, String.empty_append, hsome, hnan, fun z hz => (hall z hz).imp id .inl⟩

end SlotSql.Number
