import FilterQuery.Proofs.Number.Conversion

/-!
# Numbers that are too large

A number is rounded to infinity from halfway between the largest floating-point number and the
next power of two on.

* `isStoredFinite_finite_iff`: the exponent decides whether a result is stored as a finite number;
* `isStoredFinite_rounded_iff`: what is rounded stays finite exactly below `overflowBound`;
* `isStoredFinite_divided_iff` says the same of quotients.
-/

namespace FilterQuery.Number

open Float.Model Float.Model.UnpackedFloat

/-- The least number that is rounded to infinity. -/
def overflowBound : ℚ := 2 ^ 1024 - 2 ^ 970

theorem overflowBound_le : overflowBound ≤ 2 ^ 1024 :=
  sub_le_self _ (by positivity)

/-- The bound is the middle of the largest floating-point number and the next power of two. -/
theorem overflowBound_eq : overflowBound = (2 ^ 53 - 1 / 2) * 2 ^ (971 : Int) := by
  have middle : (2 : ℚ) ^ (971 : Int) = 2 ^ 970 * 2 := by
    rw [← pow_succ]
    rfl
  have next : (2 : ℚ) ^ 1024 = 2 ^ 970 * 2 ^ 54 := (pow_add 2 970 54)
  rw [overflowBound, middle, next]
  generalize (2 : ℚ) ^ 970 = power
  ring

/-- Below the greatest exponent, no significand of 53 bits reaches the bound. -/
theorem pow_mul_le_overflowBound {exponent : Int} (small : exponent < 971) :
    2 ^ 53 * 2 ^ exponent ≤ overflowBound :=
  calc
    (2 : ℚ) ^ 53 * 2 ^ exponent = 2 ^ 52 * 2 ^ (exponent + 1) := by
      rw [zpow_add_one₀ two_ne_zero]
      ring
    _ ≤ 2 ^ 52 * 2 ^ (971 : Int) := by
      gcongr
      · norm_num
      · omega
    _ ≤ overflowBound := by
      rw [overflowBound_eq]
      gcongr
      norm_num

/-- Above it, every full significand does. -/
theorem overflowBound_le_pow_mul {exponent : Int} (large : 971 < exponent) :
    overflowBound ≤ 2 ^ 52 * 2 ^ exponent :=
  calc
    overflowBound ≤ 2 ^ 53 * 2 ^ (971 : Int) := by
      rw [overflowBound_eq]
      gcongr
      norm_num
    _ = 2 ^ 52 * 2 ^ ((971 : Int) + 1) := by
      rw [zpow_add_one₀ two_ne_zero]
      ring
    _ ≤ 2 ^ 52 * 2 ^ exponent := by
      gcongr
      · norm_num
      · omega

/-- Whether a result is still finite when it is stored. -/
def IsStoredFinite (unpacked : UnpackedFloat) : Prop :=
  (UnpackedFloat.unpack .binary64 (UnpackedFloat.pack .binary64 unpacked)).isFinite = true

/-! ## Storing -/

section Storing

variable {sign : Sign} {significand : Nat} {exponent : Int} {positive : 0 < significand}

/-- Only the greatest exponent is kept for infinity. -/
theorem isFinite_unpack_packComponents_iff
    (sign : Sign) (stored : BitVec 11) (fraction : BitVec 52) :
    (UnpackedFloat.unpack .binary64 (packComponents .binary64 sign stored fraction)).isFinite =
        true ↔
      stored ≠ -1#11 := by
  unfold UnpackedFloat.unpack
  simp only [unpackMantissa_packComponents, unpackExponent_packComponents]
  by_cases isGreatest : stored = -1#11
  · rw [if_pos isGreatest]
    have notOther : ¬stored ≠ -1#11 := fun differs => differs isGreatest
    split <;> exact iff_of_false Bool.false_ne_true notOther
  · rw [if_neg isGreatest]
    split
    · split <;> exact iff_of_true rfl isGreatest
    · exact iff_of_true rfl isGreatest

theorem isStoredFinite_zero (sign : Sign) : IsStoredFinite (.zero sign) :=
  (isFinite_unpack_packComponents_iff sign 0 0).mpr (by decide)

theorem isStoredFinite_finite_iff :
    IsStoredFinite (.finite sign significand exponent positive) ↔ exponent ≤ 971 := by
  have bias :
      exponent + Format.binary64.exponentBias + Format.binary64.mantissaBitsWithoutImplicit =
        exponent + 1075 := by
    change exponent + 1023 + 52 = exponent + 1075
    ring
  rw [IsStoredFinite, UnpackedFloat.pack]
  simp only [bias]
  split
  · rename_i isTooLarge
    rw [packedInfinity, isFinite_unpack_packComponents_iff]
    simp only [ne_eq, not_true_eq_false, false_iff]
    omega
  · rename_i notTooLarge
    have small : exponent ≤ 971 := by omega
    split
    · rw [isFinite_unpack_packComponents_iff]
      refine iff_of_true ?_ small
      intro isGreatest
      have stored := congrArg BitVec.toNat isGreatest
      rw [BitVec.toNat_ofNat] at stored
      have greatest : (-1#11 : BitVec 11).toNat = 2047 := by decide
      omega
    · rw [isFinite_unpack_packComponents_iff]
      exact iff_of_true (by decide) small

end Storing

/-! ## Rounding -/

section Rounding

variable {sign : Sign} {quotient amount unit : Nat} {exponent target : Int} {accuracy : Accuracy}
  {kept : ExtendedMantissa}

/-- Shifting leaves at most 53 bits, and no fewer unless the exponent is the least one. -/
theorem exists_shifted
    (keeps : KeepsQuotient (.ofMantissaAndAccuracy quotient accuracy) amount unit)
    (low : exponent ≤ Format.binary64.targetExponent (totalExponent quotient exponent)) :
    ∃ (shift : Nat) (kept : ExtendedMantissa),
      shiftToTargetExponent .binary64 quotient exponent accuracy = (kept, exponent + shift) ∧
        KeepsQuotient kept amount (unit * 2 ^ shift) ∧ -1074 ≤ exponent + shift ∧
        kept.mantissa < 2 ^ 53 ∧ (-1074 < exponent + shift → 2 ^ 52 ≤ kept.mantissa) := by
  have isTarget := targetExponent_eq_max quotient exponent
  rw [isTarget] at low
  obtain ⟨shift, isShift⟩ : ∃ shift : Nat,
      max (quotient.log2 + exponent - 52 : Int) (-1074) = exponent + shift :=
    ⟨_, by rw [Int.toNat_of_nonneg (Int.sub_nonneg.mpr low)]; ring⟩
  have whole : (ExtendedMantissa.ofMantissaAndAccuracy quotient accuracy).mantissa = quotient := by
    cases accuracy with
    | exact => rfl
    | inexact half => cases half <;> rfl
  have shifted := keeps.shiftRight shift
  obtain ⟨quotientLe, quotientAbove⟩ := keeps.bounds
  obtain ⟨keptLe, keptAbove⟩ := shifted.bounds
  rw [whole] at quotientLe quotientAbove
  refine ⟨shift, _, ?_, shifted, by omega, ?_, ?_⟩
  · have amountOfShift : (exponent + shift - exponent).toNat = shift := by omega
    rw [shiftToTargetExponent, isTarget, isShift]
    simp only [shiftToExponent, amountOfShift]
  · have fewBits : quotient + 1 ≤ 2 ^ (53 + shift) :=
      calc
        quotient + 1 ≤ 2 ^ (quotient.log2 + 1) := Nat.lt_log2_self
        _ ≤ 2 ^ (53 + shift) := Nat.pow_le_pow_right (by decide) (by omega)
    refine Nat.lt_of_mul_lt_mul_right (Nat.lt_of_le_of_lt keptLe ?_)
    calc
      amount < (quotient + 1) * unit := quotientAbove
      _ ≤ 2 ^ (53 + shift) * unit := Nat.mul_le_mul_right unit fewBits
      _ = 2 ^ 53 * (unit * 2 ^ shift) := by ring
  · intro notLeast
    have isLog : quotient.log2 = 52 + shift := by omega
    have notZero : quotient ≠ 0 := by
      rintro rfl
      have noBits : Nat.log2 0 = 0 := rfl
      omega
    have manyBits : 2 ^ (52 + shift) ≤ quotient := by
      rw [← isLog]
      exact Nat.log2_self_le notZero
    refine Nat.le_of_lt_succ (Nat.lt_of_mul_lt_mul_right (Nat.lt_of_le_of_lt ?_ keptAbove))
    calc
      2 ^ 52 * (unit * 2 ^ shift) = 2 ^ (52 + shift) * unit := by ring
      _ ≤ quotient * unit := Nat.mul_le_mul_right unit manyBits
      _ ≤ amount := quotientLe

/-- After rounding, a significand of 54 bits is shifted once more. -/
theorem isStoredFinite_of_shifted
    {rounded : Nat}
    (shifted : shiftToTargetExponent .binary64 quotient exponent accuracy = (kept, target))
    (isRounded : kept.roundedMantissa = rounded) (least : -1074 ≤ target)
    (atMost : rounded ≤ 2 ^ 53) :
    IsStoredFinite (roundWithAccuracy .binary64 sign quotient exponent accuracy) ↔
      rounded = 0 ∨ target + excessBits rounded ≤ 971 := by
  have again := @shiftToTargetExponent_eq rounded target least
  have isFinal := (keeps_shiftRight rounded (excessBits rounded)).exists_rest.1
  have isZero_iff : rounded / 2 ^ excessBits rounded = 0 ↔ rounded = 0 := by
    rcases Nat.lt_or_eq_of_le atMost with small | rfl
    · rw [excessBits_eq_zero small, Nat.pow_zero, Nat.div_one]
    · decide +kernel
  rw [← isFinal] at isZero_iff
  unfold roundWithAccuracy
  simp only [shifted, isRounded, again]
  split
  · rename_i isZero
    exact iff_of_true (isStoredFinite_zero sign) (.inl (isZero_iff.mp isZero))
  · rename_i notZero
    rw [isStoredFinite_finite_iff, or_iff_right (fun isZero => notZero (isZero_iff.mpr isZero))]

/-- A multiple of what is shifted, measured in the unit that it was shifted to. -/
theorem le_scaled_iff (positive : 0 < unit) (shift count times : Nat) :
    (count : ℚ) * 2 ^ (exponent + shift) ≤ times * ((amount : ℚ) / unit * 2 ^ exponent) ↔
      count * (unit * 2 ^ shift) ≤ times * amount := by
  have unitPositive : (0 : ℚ) < unit := by exact_mod_cast positive
  have powerPositive : (0 : ℚ) < 2 ^ exponent := by positivity
  have left :
      (count : ℚ) * 2 ^ (exponent + shift) * unit = count * (unit * 2 ^ shift) * 2 ^ exponent := by
    rw [zpow_add₀ two_ne_zero, zpow_natCast]
    ring
  have right :
      (times : ℚ) * ((amount : ℚ) / unit * 2 ^ exponent) * unit = times * amount * 2 ^ exponent := by
    field_simp
  rw [← mul_le_mul_iff_left₀ unitPositive, left, right, mul_le_mul_iff_left₀ powerPositive]
  exact_mod_cast Iff.rfl

/-- What is rounded stays finite below the bound, and only there. -/
theorem isStoredFinite_rounded_iff
    (keeps : KeepsQuotient (.ofMantissaAndAccuracy quotient accuracy) amount unit)
    (low : exponent ≤ Format.binary64.targetExponent (totalExponent quotient exponent)) :
    IsStoredFinite (roundWithAccuracy .binary64 sign quotient exponent accuracy) ↔
      (amount : ℚ) / unit * 2 ^ exponent < overflowBound := by
  obtain ⟨shift, kept, shifted, keepsShifted, least, below, full⟩ := exists_shifted keeps low
  obtain ⟨roundedAtLeast, roundedAtMost⟩ := KeepsQuotient.roundedMantissa_bounds kept
  obtain ⟨keptLe, keptAbove⟩ := keepsShifted.bounds
  have isRoundedUp := keepsShifted.lt_roundedMantissa_iff (show (2 ^ 53 - 1) % 2 = 1 by decide)
  rw [isStoredFinite_of_shifted shifted rfl least (by omega)]
  generalize kept.roundedMantissa = rounded at *
  have scaled := @le_scaled_iff amount unit exponent keeps.unit_pos shift
  generalize (amount : ℚ) / unit * 2 ^ exponent = value at *
  generalize exponent + shift = target at *
  have excess :
      excessBits rounded = 0 ∧ rounded < 2 ^ 53 ∨ excessBits rounded = 1 ∧ rounded = 2 ^ 53 := by
    rcases Nat.lt_or_eq_of_le (show rounded ≤ 2 ^ 53 by omega) with small | rfl
    · exact .inl ⟨excessBits_eq_zero small, small⟩
    · exact .inr ⟨by decide +kernel, rfl⟩
  rcases lt_trichotomy target 971 with isSmall | rfl | isLarge
  · -- Not even one more bit is too much.
    refine iff_of_true (.inr (by omega)) ?_
    have isBelow : value < 2 ^ 53 * 2 ^ target := by
      by_contra notBelow
      have tooMuch := (scaled (2 ^ 53) 1).mp (by push_cast; linarith)
      have atMost :=
        Nat.mul_le_mul_right (unit * 2 ^ shift) (show kept.mantissa + 1 ≤ 2 ^ 53 by omega)
      omega
    exact isBelow.trans_le (pow_mul_le_overflowBound isSmall)
  · -- The last bit decides.
    have isHalf :
        overflowBound ≤ value ↔ (2 * (2 ^ 53 - 1) + 1) * (unit * 2 ^ shift) ≤ 2 * amount := by
      rw [← scaled (2 * (2 ^ 53 - 1) + 1) 2, overflowBound_eq]
      generalize (2 : ℚ) ^ (971 : Int) = power
      norm_num
      constructor <;> intro le <;> linarith
    rw [← not_le, isHalf, ← isRoundedUp]
    omega
  · -- The significand is full, so the number is at least the next power of two.
    have isFull := full (by omega)
    refine iff_of_false (by omega) (not_lt.mpr ?_)
    have isAbove : ((2 ^ 52 : Nat) : ℚ) * 2 ^ target ≤ (1 : Nat) * value := by
      rw [scaled, Nat.one_mul]
      exact Nat.le_trans (Nat.mul_le_mul_right _ isFull) keptLe
    rw [Nat.cast_pow, Nat.cast_one, Nat.cast_ofNat, one_mul] at isAbove
    exact (overflowBound_le_pow_mul isLarge).trans isAbove

end Rounding

/-! ## Dividing -/

section Dividing

variable {dividend divisor : Nat} {dividendExponent divisorExponent : Int}

/-- The dividend is shifted until the quotient has 53 bits, or its exponent is the least one. -/
theorem exists_divCore_eq
    (dividendPositive : 0 < dividend) (divisorPositive : 0 < divisor) :
    ∃ shift : Nat,
      divCore .binary64 dividend dividendExponent divisor divisorExponent =
          (dividend * 2 ^ shift / divisor, dividendExponent - divisorExponent - shift,
            accuracyOfFraction (dividend * 2 ^ shift % divisor) divisor) ∧
        (2 ^ 52 ≤ dividend * 2 ^ shift / divisor ∨
          dividendExponent - divisorExponent - shift ≤ -1074) := by
  have bits : (Format.binary64.mantissaBits : Int) = 53 := rfl
  have leastExponent : Format.binary64.minExponent = -1074 := rfl
  obtain ⟨shift, isShift⟩ : ∃ shift : Nat,
      min (dividendExponent - divisorExponent)
          (Format.binary64.targetExponent
            (totalExponent dividend dividendExponent - totalExponent divisor divisorExponent)) =
        dividendExponent - divisorExponent - shift :=
    ⟨(dividendExponent - divisorExponent - _).toNat,
      by rw [Int.toNat_of_nonneg (Int.sub_nonneg.mpr (min_le_left _ _)), sub_sub_cancel]⟩
  have amount :
      (dividendExponent - divisorExponent - (dividendExponent - divisorExponent - shift)).toNat =
        shift := by omega
  refine ⟨shift, ?_, ?_⟩
  · simp only [divCore, isShift, amount, Nat.shiftLeft_eq]
  · rw [Format.targetExponent, totalExponent, totalExponent, bits, leastExponent] at isShift
    refine or_iff_not_imp_right.mpr fun notLeast => ?_
    have manyBits : divisor.log2 + 53 ≤ dividend.log2 + shift := by omega
    rw [Nat.le_div_iff_mul_le divisorPositive]
    calc
      2 ^ 52 * divisor ≤ 2 ^ 52 * 2 ^ (divisor.log2 + 1) :=
        Nat.mul_le_mul_left _ (Nat.le_of_lt Nat.lt_log2_self)
      _ = 2 ^ (divisor.log2 + 53) := by
        rw [← Nat.pow_add]
        congr 1
        omega
      _ ≤ 2 ^ (dividend.log2 + shift) := Nat.pow_le_pow_right (by decide) manyBits
      _ = 2 ^ dividend.log2 * 2 ^ shift := Nat.pow_add ..
      _ ≤ dividend * 2 ^ shift :=
        Nat.mul_le_mul_right _ (Nat.log2_self_le dividendPositive.ne')

/-- A quotient stays finite below the bound, and only there. -/
theorem isStoredFinite_divided_iff
    {dividendSign divisorSign : Sign} {dividendPositive : 0 < dividend}
    {divisorPositive : 0 < divisor} :
    IsStoredFinite
        (UnpackedFloat.div .binary64
          (.finite dividendSign dividend dividendExponent dividendPositive)
          (.finite divisorSign divisor divisorExponent divisorPositive)) ↔
      magnitudeValue dividend dividendExponent / magnitudeValue divisor divisorExponent <
        overflowBound := by
  obtain ⟨shift, isDivided, isLow⟩ :=
    @exists_divCore_eq dividend divisor dividendExponent divisorExponent dividendPositive
      divisorPositive
  rw [UnpackedFloat.div, isDivided]
  simp only
  rw [isStoredFinite_rounded_iff (keepsQuotient_divided divisorPositive)]
  · have isValue :
        ((dividend * 2 ^ shift : Nat) : ℚ) / divisor *
            2 ^ (dividendExponent - divisorExponent - shift) =
          magnitudeValue dividend dividendExponent / magnitudeValue divisor divisorExponent := by
      rw [magnitudeValue, magnitudeValue, zpow_sub₀ two_ne_zero, zpow_sub₀ two_ne_zero, zpow_natCast]
      push_cast
      field_simp
    rw [isValue]
  · rw [targetExponent_eq_max]
    rcases isLow with isFull | isLeast
    · have manyBits : 52 ≤ (dividend * 2 ^ shift / divisor).log2 :=
        (Nat.le_log2 (by omega)).mpr isFull
      omega
    · exact le_max_of_le_right isLeast

end Dividing

end FilterQuery.Number
