import FilterQuery.Proofs.Number.Rounding
import Mathlib

/-!
# The numbers that floating-point numbers stand for

A floating-point number of 64 bits stands for a rational number, unless it is infinite or
undefined.  Significands and exponents are normalized, so comparisons compare these numbers
(`lt_iff_of_value`, `beq_iff_of_value`).

An integer that a floating-point number stands for is one that rounding leaves as it is
(`isRepresentable_of_value`).
-/

namespace FilterQuery.Number

open Float.Model Float.Model.UnpackedFloat

/-- The number of a significand and an exponent. -/
def magnitudeValue (significand : Nat) (exponent : Int) : ℚ := significand * 2 ^ exponent

def unpackedValue? : UnpackedFloat → Option ℚ
  | .zero _ => some 0
  | .finite .positive significand exponent _ => some (magnitudeValue significand exponent)
  | .finite .negative significand exponent _ => some (-magnitudeValue significand exponent)
  | .infinity _ => none
  | .notANumber => none

/-- The number that a floating-point number stands for. -/
def value? (number : Float) : Option ℚ := unpackedValue? number.toModel.unpack

/-! ## Normalized numbers -/

/-- The significand has 53 bits, or the exponent is the least one. -/
structure IsNormalized (significand : Nat) (exponent : Int) : Prop where
  below : significand < 2 ^ 53
  least : -1074 ≤ exponent
  full : 2 ^ 52 ≤ significand ∨ exponent = -1074

theorem toNat_one_append (bits : BitVec 52) : (1#1 ++ bits).toNat = 2 ^ 52 + bits.toNat := by
  rw [BitVec.toNat_append, ← Nat.shiftLeft_add_eq_or_of_lt bits.isLt]
  simp [Nat.shiftLeft_eq]

theorem isNormalized_of_unpack
    {bits : BitVec Format.binary64.numBits} {sign : Sign} {significand : Nat} {exponent : Int}
    {positive : 0 < significand}
    (unpacked : UnpackedFloat.unpack .binary64 bits = .finite sign significand exponent positive) :
    IsNormalized significand exponent := by
  have bias : (Format.binary64.exponentBias : Int) = 1023 := rfl
  have fraction : (Format.binary64.mantissaBitsWithoutImplicit : Int) = 52 := rfl
  have fewBits : (unpackMantissa bits).toNat < 2 ^ 52 := (unpackMantissa bits).isLt
  unfold UnpackedFloat.unpack at unpacked
  dsimp only at unpacked
  split at unpacked
  · split at unpacked <;> cases unpacked
  · split at unpacked
    · rename_i isZero
      split at unpacked
      · cases unpacked
      · injection unpacked with _ isSignificand isExponent
        rw [bias, fraction] at isExponent
        have noExponent : (unpackExponent bits).toNat = 0 := by
          rw [isZero]
          rfl
        refine ⟨?_, ?_, .inr ?_⟩ <;> omega
    · rename_i notZero
      injection unpacked with _ isSignificand isExponent
      rw [bias, fraction] at isExponent
      have someExponent : (unpackExponent bits).toNat ≠ 0 := by
        intro isZero
        exact notZero (BitVec.eq_of_toNat_eq isZero)
      have isFull := toNat_one_append (unpackMantissa bits)
      refine ⟨?_, ?_, .inl ?_⟩ <;> omega

/-! ## Comparisons -/

section Comparing

variable {firstSignificand secondSignificand : Nat} {firstExponent secondExponent : Int}

theorem magnitudeValue_pos
    {significand : Nat} (positive : 0 < significand) (exponent : Int) :
    0 < magnitudeValue significand exponent := by
  unfold magnitudeValue
  positivity

/-- A larger exponent makes a larger number. -/
theorem magnitudeValue_lt_of_exponent_lt
    (first : IsNormalized firstSignificand firstExponent)
    (second : IsNormalized secondSignificand secondExponent)
    (lt : firstExponent < secondExponent) :
    magnitudeValue firstSignificand firstExponent <
      magnitudeValue secondSignificand secondExponent := by
  have full : 2 ^ 52 ≤ secondSignificand := by
    have atLeast := first.least
    exact second.full.resolve_right (by omega)
  have firstBelow : (firstSignificand : ℚ) < 2 ^ 53 := by exact_mod_cast first.below
  have secondFull : (2 : ℚ) ^ 52 ≤ secondSignificand := by exact_mod_cast full
  have powerLe : (2 : ℚ) ^ (firstExponent + 1) ≤ 2 ^ secondExponent :=
    zpow_le_zpow_right₀ (by norm_num) lt
  calc
    (firstSignificand : ℚ) * 2 ^ firstExponent < 2 ^ 53 * 2 ^ firstExponent := by gcongr
    _ = 2 ^ 52 * 2 ^ (firstExponent + 1) := by
      rw [zpow_add_one₀ two_ne_zero]
      ring
    _ ≤ secondSignificand * 2 ^ secondExponent := by gcongr

/-- Exponents are compared first, then significands. -/
theorem compare_magnitudes
    (first : IsNormalized firstSignificand firstExponent)
    (second : IsNormalized secondSignificand secondExponent) :
    (compare firstExponent secondExponent).then (compare firstSignificand secondSignificand) =
      compare (magnitudeValue firstSignificand firstExponent)
        (magnitudeValue secondSignificand secondExponent) := by
  rcases lt_trichotomy firstExponent secondExponent with lt | rfl | gt
  · rw [compare_lt_iff_lt.mpr lt,
      compare_lt_iff_lt.mpr (magnitudeValue_lt_of_exponent_lt first second lt)]
    rfl
  · have positive : (0 : ℚ) < 2 ^ firstExponent := by positivity
    rw [compare_eq_iff_eq.mpr rfl]
    simp only [Ordering.then, magnitudeValue]
    rcases lt_trichotomy firstSignificand secondSignificand with lt | rfl | gt
    · rw [compare_lt_iff_lt.mpr lt, eq_comm, compare_lt_iff_lt]
      gcongr
    · rw [compare_eq_iff_eq.mpr rfl, eq_comm, compare_eq_iff_eq]
    · rw [compare_gt_iff_gt.mpr gt, eq_comm, compare_gt_iff_gt]
      gcongr
  · rw [compare_gt_iff_gt.mpr gt,
      compare_gt_iff_gt.mpr (magnitudeValue_lt_of_exponent_lt second first gt)]
    rfl

theorem compare_neg (first second : ℚ) :
    compare (-first) (-second) = (compare first second).swap := by
  rcases lt_trichotomy first second with lt | rfl | gt
  · rw [compare_lt_iff_lt.mpr lt, compare_gt_iff_gt.mpr (neg_lt_neg lt)]
    rfl
  · rw [compare_eq_iff_eq.mpr rfl, compare_eq_iff_eq.mpr rfl]
    rfl
  · rw [compare_gt_iff_gt.mpr gt, compare_lt_iff_lt.mpr (neg_lt_neg gt)]
    rfl

end Comparing

/-- The significand and the exponent of a finite number are normalized. -/
def IsCanonical (unpacked : UnpackedFloat) : Prop :=
  ∀ sign significand exponent positive,
    unpacked = .finite sign significand exponent positive → IsNormalized significand exponent

section Signs

variable {zeroSign firstSign secondSign : Sign} {firstSignificand secondSignificand : Nat}
  {firstExponent secondExponent : Int} {firstPositive : 0 < firstSignificand}
  {secondPositive : 0 < secondSignificand} {firstValue secondValue : ℚ}

theorem compare_zero_finite
    (isSecond :
      unpackedValue? (.finite secondSign secondSignificand secondExponent secondPositive) =
        some secondValue) :
    UnpackedFloat.compare (.zero zeroSign)
        (.finite secondSign secondSignificand secondExponent secondPositive) =
      some (compare 0 secondValue) := by
  have isPositive := magnitudeValue_pos secondPositive secondExponent
  cases secondSign with
  | positive =>
      cases isSecond
      rw [compare_lt_iff_lt.mpr isPositive]
      rfl
  | negative =>
      cases isSecond
      rw [compare_gt_iff_gt.mpr (neg_neg_of_pos isPositive)]
      rfl

theorem compare_finite_zero
    (isFirst :
      unpackedValue? (.finite firstSign firstSignificand firstExponent firstPositive) =
        some firstValue) :
    UnpackedFloat.compare
        (.finite firstSign firstSignificand firstExponent firstPositive) (.zero zeroSign) =
      some (compare firstValue 0) := by
  have isPositive := magnitudeValue_pos firstPositive firstExponent
  cases firstSign with
  | positive =>
      cases isFirst
      rw [compare_gt_iff_gt.mpr isPositive]
      rfl
  | negative =>
      cases isFirst
      rw [compare_lt_iff_lt.mpr (neg_neg_of_pos isPositive)]
      rfl

/-- The signs decide, and magnitudes if they are the same. -/
theorem compare_finite_finite
    (firstNormalized : IsNormalized firstSignificand firstExponent)
    (secondNormalized : IsNormalized secondSignificand secondExponent)
    (isFirst :
      unpackedValue? (.finite firstSign firstSignificand firstExponent firstPositive) =
        some firstValue)
    (isSecond :
      unpackedValue? (.finite secondSign secondSignificand secondExponent secondPositive) =
        some secondValue) :
    UnpackedFloat.compare
        (.finite firstSign firstSignificand firstExponent firstPositive)
        (.finite secondSign secondSignificand secondExponent secondPositive) =
      some (compare firstValue secondValue) := by
  have firstIsPositive := magnitudeValue_pos firstPositive firstExponent
  have secondIsPositive := magnitudeValue_pos secondPositive secondExponent
  have magnitudes := compare_magnitudes firstNormalized secondNormalized
  cases firstSign with
  | positive =>
      cases isFirst
      cases secondSign with
      | positive =>
          cases isSecond
          rw [← magnitudes]
          rfl
      | negative =>
          cases isSecond
          rw [compare_gt_iff_gt.mpr (by linarith)]
          rfl
  | negative =>
      cases isFirst
      cases secondSign with
      | positive =>
          cases isSecond
          rw [compare_lt_iff_lt.mpr (by linarith)]
          rfl
      | negative =>
          cases isSecond
          rw [compare_neg, ← magnitudes]
          rfl

end Signs

/-- Canonical numbers are compared as the numbers that they stand for. -/
theorem compare_eq_of_value
    {first second : UnpackedFloat} {firstValue secondValue : ℚ}
    (firstCanonical : IsCanonical first) (secondCanonical : IsCanonical second)
    (isFirst : unpackedValue? first = some firstValue)
    (isSecond : unpackedValue? second = some secondValue) :
    first.compare second = some (compare firstValue secondValue) := by
  cases first with
  | infinity | notANumber => cases isFirst
  | zero =>
      cases isFirst
      cases second with
      | infinity | notANumber => cases isSecond
      | zero =>
          cases isSecond
          rw [compare_eq_iff_eq.mpr rfl]
          rfl
      | finite => exact compare_zero_finite isSecond
  | finite =>
      cases second with
      | infinity | notANumber => cases isSecond
      | zero =>
          cases isSecond
          exact compare_finite_zero isFirst
      | finite =>
          have firstNormalized := firstCanonical _ _ _ _ rfl
          have secondNormalized := secondCanonical _ _ _ _ rfl
          exact compare_finite_finite firstNormalized secondNormalized isFirst isSecond

theorem isCanonical_toModel (number : Float) : IsCanonical number.toModel.unpack :=
  fun _ _ _ _ => isNormalized_of_unpack

section Numbers

variable {first second : Float} {firstValue secondValue : ℚ}

theorem compare_toModel_eq_of_value
    (isFirst : value? first = some firstValue) (isSecond : value? second = some secondValue) :
    first.toModel.unpack.compare second.toModel.unpack = some (compare firstValue secondValue) :=
  compare_eq_of_value (isCanonical_toModel first) (isCanonical_toModel second) isFirst isSecond

theorem lt_iff_of_value
    (isFirst : value? first = some firstValue) (isSecond : value? second = some secondValue) :
    first < second ↔ firstValue < secondValue := by
  have compared := compare_toModel_eq_of_value isFirst isSecond
  change
    (decide
      ((first.toModel.unpack.compare second.toModel.unpack == some .lt) = true)) = true ↔ _
  rw [compared, decide_eq_true_iff, beq_iff_eq, Option.some.injEq, compare_lt_iff_lt]

theorem beq_iff_of_value
    (isFirst : value? first = some firstValue) (isSecond : value? second = some secondValue) :
    (first == second) = true ↔ firstValue = secondValue := by
  have compared := compare_toModel_eq_of_value isFirst isSecond
  change (first.toModel.unpack.compare second.toModel.unpack == some .eq) = true ↔ _
  rw [compared, beq_iff_eq, Option.some.injEq, compare_eq_iff_eq]

end Numbers

/-! ## Integers -/

theorem isRepresentable_of_magnitudeValue
    {significand : Nat} {exponent integer : Int} (below : significand < 2 ^ 53)
    (isValue : magnitudeValue significand exponent = integer) : IsRepresentable integer := by
  unfold magnitudeValue at isValue
  rcases Int.lt_or_le exponent 0 with isNegative | notNegative
  · -- A fraction that is whole is no greater than its numerator.
    obtain ⟨places, rfl⟩ : ∃ places : Nat, exponent = -places :=
      ⟨exponent.natAbs, by omega⟩
    have notZero : (2 : ℚ) ^ places ≠ 0 := by positivity
    rw [zpow_neg, zpow_natCast, mul_inv_eq_iff_eq_mul₀ notZero] at isValue
    have isProduct : (significand : Int) = integer * 2 ^ places := by exact_mod_cast isValue
    apply isRepresentable_of_natAbs_le
    have magnitudes := congrArg Int.natAbs isProduct
    rw [Int.natAbs_natCast, Int.natAbs_mul, Int.natAbs_pow] at magnitudes
    have atMost : integer.natAbs ≤ significand := by
      rw [magnitudes]
      exact Nat.le_mul_of_pos_right _ (Nat.two_pow_pos places)
    omega
  · obtain ⟨zeros, rfl⟩ := Int.eq_ofNat_of_zero_le notNegative
    rw [zpow_natCast] at isValue
    refine ⟨significand, zeros, ?_, ?_⟩
    · rw [Int.natAbs_natCast]
      exact Nat.le_of_lt below
    · exact_mod_cast isValue.symm

/-- An integer that a floating-point number stands for is not rounded. -/
theorem isRepresentable_of_value
    {number : Float} {integer : Int} (isValue : value? number = some (integer : ℚ)) :
    IsRepresentable integer := by
  have canonical := isCanonical_toModel number
  unfold value? at isValue
  generalize number.toModel.unpack = unpacked at canonical isValue
  cases unpacked with
  | infinity | notANumber => cases isValue
  | zero =>
      have isZero : integer = 0 := by exact_mod_cast (Option.some.inj isValue).symm
      rw [isZero]
      exact isRepresentable_of_natAbs_le (Nat.zero_le _)
  | finite sign significand exponent positive =>
      have below := (canonical _ _ _ _ rfl).below
      cases sign with
      | positive => exact isRepresentable_of_magnitudeValue below (Option.some.inj isValue)
      | negative =>
          have isNegated : magnitudeValue significand exponent = (-integer : Int) := by
            rw [Int.cast_neg, ← Option.some.inj isValue, neg_neg]
          have negated := (isRepresentable_of_magnitudeValue below isNegated).neg
          rwa [neg_neg] at negated

end FilterQuery.Number
