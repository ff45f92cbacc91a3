import FilterQuery.Decimal.Reading
import FilterQuery.Proofs.Number.Overflow

/-!
# Decimals that are too large

A decimal is read as the nearest floating-point number, and as infinity from `overflowBound` on
(`isFinite_ofFixed_iff`).  Reading divides the digits by a power of ten, in one of two ways:

* few digits are a floating-point number, and so is a small power of ten (`exists_unpack_toFloat`,
  `exists_unpack_powerOfTen`), so they are divided as such;
* otherwise the division is exact before it is rounded.
-/

namespace FilterQuery.Number

open FilterQuery.Text
open Float.Model Float.Model.UnpackedFloat

/-! ## Few digits -/

/-- An integer of at most 53 bits is converted exactly. -/
theorem exists_unpack_toFloat
    {digits : Nat} (positive : 0 < digits) (below : digits < 2 ^ 53) :
    ∃ significand exponent significandPositive,
      digits.toUInt64.toFloat.toModel.unpack =
          .finite .positive significand exponent significandPositive ∧
        magnitudeValue significand exponent = digits := by
  have isUnpacked :
      digits.toUInt64.toFloat.toModel.unpack =
        UnpackedFloat.unpack .binary64
          (UnpackedFloat.pack .binary64
            (UnpackedFloat.normalize .binary64 digits.toUInt64.toNat 0 .positive)) := rfl
  have isWord : digits.toUInt64.toNat = digits :=
    UInt64.toNat_ofNat_of_lt' (Nat.lt_trans below (by decide))
  obtain ⟨significand, exponent, significandPositive, isRounded, normal, isValue⟩ :=
    @exists_round .positive digits positive (by omega)
  refine ⟨significand, exponent, significandPositive, ?_, ?_⟩
  · rw [isUnpacked, isWord, UnpackedFloat.normalize,
      compare_gt_iff_gt.mpr (Int.natCast_pos.mpr positive)]
    simp only [Int.toNat_natCast]
    rw [isRounded, unpack_pack_finite normal]
  · rw [isValue, nearestMagnitude_of_lt below]

/-- The number has 53 bits before the point at least. -/
def isFullInteger : UnpackedFloat → Bool
  | .finite .positive significand exponent _ => decide (2 ^ 52 ≤ significand ∧ -52 ≤ exponent)
  | _ => false

/-- The small powers of ten are floating-point numbers. -/
theorem exists_unpack_powerOfTen
    {power : Nat} (isSmall : power < Float.exactlyRepresentablePowersOfTen.size) :
    ∃ significand exponent significandPositive,
      Float.exactlyRepresentablePowersOfTen[power].toModel.unpack =
          .finite .positive significand exponent significandPositive ∧
        1 ≤ magnitudeValue significand exponent := by
  have areFull :
      Float.exactlyRepresentablePowersOfTen.all (isFullInteger ·.toModel.unpack) = true := by
    decide +kernel
  have isFull := Array.all_eq_true.mp areFull power isSmall
  generalize Float.exactlyRepresentablePowersOfTen[power].toModel.unpack = unpacked at isFull ⊢
  unfold isFullInteger at isFull
  split at isFull
  · rename_i significand exponent significandPositive
    obtain ⟨full, least⟩ := of_decide_eq_true isFull
    refine ⟨significand, exponent, significandPositive, rfl, ?_⟩
    have fullValue : (2 : ℚ) ^ 52 ≤ significand := by exact_mod_cast full
    calc
      (1 : ℚ) = 2 ^ 52 * 2 ^ (-52 : Int) := by norm_num
      _ ≤ significand * 2 ^ exponent := by
        gcongr
        norm_num
  · cases isFull

/-! ## Dividing by a power of ten -/

section Reading

variable {digits places : Nat}

theorem pow_le_overflowBound : 2 ^ 53 ≤ overflowBound := by
  simpa using pow_mul_le_overflowBound (show (0 : Int) < 971 by decide)

/-- A number of at most 53 bits is far below the bound, and further below when it is divided. -/
theorem div_lt_overflowBound
    {divisor : ℚ} (below : digits < 2 ^ 53) (atLeast : 1 ≤ divisor) :
    (digits : ℚ) / divisor < overflowBound := by
  have small : (digits : ℚ) < 2 ^ 53 := by exact_mod_cast below
  calc
    (digits : ℚ) / divisor ≤ digits := div_le_self (Nat.cast_nonneg digits) atLeast
    _ < 2 ^ 53 := small
    _ ≤ overflowBound := pow_le_overflowBound

/-- Digits far behind the point are below one. -/
theorem div_lt_one_of_log2_lt (fewBits : digits.log2 < places) :
    (digits : ℚ) / 10 ^ places < 1 := by
  rw [div_lt_one (by positivity)]
  have below : digits < 10 ^ places :=
    calc
      digits < 2 ^ (digits.log2 + 1) := Nat.lt_log2_self
      _ ≤ 2 ^ places := Nat.pow_le_pow_right (by decide) fewBits
      _ ≤ 10 ^ places := Nat.pow_le_pow_left (by decide) places
  exact_mod_cast below

/-- Either way, digits that are divided by a power of ten stay finite below the bound, and only
there. -/
theorem isFinite_ofScientific_iff (positive : 0 < digits) (somePlaces : 0 < places) :
    (Float.ofScientific digits true places).isFinite = true ↔
      (digits : ℚ) / 10 ^ places < overflowBound := by
  rw [Float.ofScientific]
  split
  · rename_i areFew
    obtain ⟨below, isSmall⟩ := areFew
    have inTable : places < Float.exactlyRepresentablePowersOfTen.size := Nat.lt_succ_of_le isSmall
    obtain ⟨dividend, dividendExponent, dividendPositive, isDividend, dividendValue⟩ :=
      exists_unpack_toFloat positive below
    obtain ⟨divisor, divisorExponent, divisorPositive, isDivisor, divisorAtLeast⟩ :=
      exists_unpack_powerOfTen inTable
    change
      IsStoredFinite
          (UnpackedFloat.div .binary64 digits.toUInt64.toFloat.toModel.unpack
            Float.exactlyRepresentablePowersOfTen[places].toModel.unpack) ↔
        _
    rw [isDividend, isDivisor, isStoredFinite_divided_iff, dividendValue]
    exact
      iff_of_true (div_lt_overflowBound below divisorAtLeast)
        (div_lt_overflowBound below (one_le_pow₀ (by norm_num)))
  · change
      IsStoredFinite (UnpackedFloat.ofScientific .binary64 digits (Int.negOfNat places)) ↔ _
    have bits : ((2 : Int) ^ Format.binary64.exponentBits) = 2048 := rfl
    rw [Int.negOfNat_eq, UnpackedFloat.ofScientific, dif_neg positive.ne', bits,
      if_neg (by simp only [Int.ofNat_eq_natCast]; omega)]
    split
    · rename_i isTiny
      refine iff_of_true (isStoredFinite_zero _) ?_
      have fewBits : digits.log2 < places := by
        simp only [Int.ofNat_eq_natCast] at isTiny
        omega
      exact
        (div_lt_one_of_log2_lt fewBits).trans_le
          (le_trans (by norm_num) pow_le_overflowBound)
    · have notWhole : ¬(0 : Int) ≤ -Int.ofNat places := by
        simp only [Int.ofNat_eq_natCast]
        omega
      rw [if_neg notWhole, isStoredFinite_divided_iff]
      simp [magnitudeValue]

/-! ## Any decimal -/

theorem overflowBound_le_pow : overflowBound ≤ 10 ^ 400 :=
  calc
    overflowBound ≤ 2 ^ 1024 := overflowBound_le
    _ ≤ 2 ^ (3 * 400) := pow_le_pow_right₀ (by norm_num) (by decide)
    _ = (2 ^ 3) ^ 400 := pow_mul 2 3 400
    _ ≤ 10 ^ 400 := by
      gcongr
      norm_num

/-- Decimals far from the bound are not divided at all. -/
theorem isFinite_nearest_iff (somePlaces : 0 < places) :
    (Decimal.nearest digits (-(places : Int))).isFinite = true ↔
      (digits : ℚ) / 10 ^ places < overflowBound := by
  have zeroIsFinite : (0 : Float).isFinite = true := by decide +kernel
  have infinityIsNot : (1 / 0 : Float).isFinite = false := by decide +kernel
  have oneBelow : (1 : ℚ) < overflowBound := lt_of_lt_of_le (by norm_num) pow_le_overflowBound
  have fewDigits_iff : ∀ {count : Nat}, 0 < count →
      ((Nat.toDigits 10 digits).length ≤ count ↔ digits < 10 ^ count) :=
    Nat.length_toDigits_le_iff (by decide)
  unfold Decimal.nearest
  split
  · rename_i isZero
    refine iff_of_true zeroIsFinite ?_
    rw [isZero, Nat.cast_zero, zero_div]
    exact lt_trans one_pos oneBelow
  rename_i notZero
  simp only
  split
  · rename_i isLarge
    rw [infinityIsNot]
    refine iff_of_false Bool.false_ne_true (not_lt.mpr ?_)
    have manyDigits : 10 ^ (places + 400) ≤ digits := by
      rw [← Nat.not_lt, ← fewDigits_iff (by omega)]
      omega
    have manyDigitsValue : (10 : ℚ) ^ (places + 400) ≤ digits := by exact_mod_cast manyDigits
    calc
      overflowBound ≤ 10 ^ 400 := overflowBound_le_pow
      _ = 10 ^ (places + 400) / 10 ^ places := by
        rw [pow_add, mul_div_cancel_left₀ _ (by positivity)]
      _ ≤ (digits : ℚ) / 10 ^ places := by gcongr
  split
  · refine iff_of_true zeroIsFinite (lt_trans ?_ oneBelow)
    have below : digits < 10 ^ places := (fewDigits_iff somePlaces).mp (by omega)
    rw [div_lt_one (by positivity)]
    exact_mod_cast below
  · have notWhole : ¬(0 : Int) ≤ -(places : Int) := by omega
    rw [if_neg notWhole, Int.neg_neg, Int.toNat_natCast]
    exact isFinite_ofScientific_iff (Nat.pos_of_ne_zero notZero) somePlaces

end Reading

/-- A decimal becomes infinite exactly if it is not below the bound. -/
theorem isFinite_ofFixed_iff
    (whole : List Char) {fraction : List Char} (isRun : Digits.isRun fraction = true) :
    (Decimal.ofFixed whole fraction).isFinite = true ↔
      (Digits.value (whole ++ fraction) : ℚ) / 10 ^ fraction.length < overflowBound := by
  apply isFinite_nearest_iff
  cases fraction with
  | nil => cases isRun
  | cons first rest => exact Nat.succ_pos _

end FilterQuery.Number
