import FilterQuery.Proofs.Number.Remainder
import FilterQuery.Value

/-!
# Integers as floating-point numbers

An integer of 64 bits becomes the floating-point number of the integer that it is rounded to
(`value?_nearestFloat`).

* `Keeps` is what the bits that are shifted out leave behind: enough to round as
  `roundedQuotient` does;
* `exists_round` follows a magnitude through shifting, rounding and shifting once more;
* a normal number is packed and unpacked again (`unpack_pack_finite`).
-/

namespace FilterQuery.Number

open Float.Model Float.Model.UnpackedFloat

/-! ## Shifting to the right -/

/-- What is kept of a magnitude that is shifted to the right: the quotient, the next bit, and
whether there is anything after that. -/
def Keeps (kept : ExtendedMantissa) (magnitude shift : Nat) : Prop :=
  ∃ tail,
    2 * magnitude = (2 * kept.mantissa + kept.roundBit.toNat) * 2 ^ shift + tail ∧
      tail < 2 ^ shift ∧ kept.stickyBit = decide (tail ≠ 0)

theorem keeps_iff_keepsQuotient {kept : ExtendedMantissa} {magnitude shift : Nat} :
    Keeps kept magnitude shift ↔ KeepsQuotient kept magnitude (2 ^ shift) := Iff.rfl

theorem keeps_shiftRight (magnitude shift : Nat) :
    Keeps (ExtendedMantissa.ofMantissaAndAccuracy magnitude .exact >>> shift) magnitude shift := by
  have whole : KeepsQuotient (.ofMantissaAndAccuracy magnitude .exact) magnitude 1 :=
    ⟨0, (Nat.mul_one (2 * magnitude)).symm, by decide, rfl⟩
  rw [keeps_iff_keepsQuotient, ← Nat.one_mul (2 ^ shift)]
  exact whole.shiftRight shift

/-- The quotient and what is left of the magnitude, from what is kept. -/
theorem Keeps.exists_rest
    {kept : ExtendedMantissa} {magnitude shift : Nat} (keeps : Keeps kept magnitude shift) :
    kept.mantissa = magnitude / 2 ^ shift ∧
      ∃ tail,
        2 * (magnitude % 2 ^ shift) = kept.roundBit.toNat * 2 ^ shift + tail ∧
          tail < 2 ^ shift ∧ kept.stickyBit = decide (tail ≠ 0) := by
  have positive := Nat.two_pow_pos shift
  obtain ⟨atLeast, below⟩ := (keeps_iff_keepsQuotient.mp keeps).bounds
  obtain ⟨tail, whole, tailBelow, isSticky⟩ := keeps
  obtain ⟨rest, isRest⟩ : ∃ rest, magnitude = rest + kept.mantissa * 2 ^ shift :=
    ⟨_, (Nat.sub_add_cancel atLeast).symm⟩
  have restBelow : rest < 2 ^ shift := by
    rw [Nat.add_mul, Nat.one_mul] at below
    omega
  have quotient : magnitude / 2 ^ shift = kept.mantissa := by
    rw [isRest, Nat.add_mul_div_right _ _ positive, Nat.div_eq_of_lt restBelow, Nat.zero_add]
  have remainder : magnitude % 2 ^ shift = rest := by
    rw [isRest, Nat.add_mul_mod_self_right, Nat.mod_eq_of_lt restBelow]
  refine ⟨quotient.symm, tail, ?_, tailBelow, isSticky⟩
  rw [isRest, Nat.add_mul] at whole
  rw [remainder]
  linarith

/-- What is kept decides how the quotient is rounded. -/
theorem Keeps.roundedMantissa_eq
    {kept : ExtendedMantissa} {magnitude shift : Nat} (keeps : Keeps kept magnitude shift) :
    kept.roundedMantissa = roundedQuotient magnitude shift := by
  obtain ⟨quotient, tail, twice, below, isSticky⟩ := keeps.exists_rest
  obtain ⟨mantissa, roundBit, stickyBit⟩ := kept
  simp only at quotient twice isSticky
  subst isSticky
  simp only [roundedQuotient, ← quotient, twice]
  by_cases isExact : tail = 0
  · subst isExact
    cases roundBit <;>
      simp [ExtendedMantissa.roundedMantissa, ExtendedMantissa.accuracy,
        Accuracy.roundToNearestEven]
  · cases roundBit <;>
      simp [ExtendedMantissa.roundedMantissa, ExtendedMantissa.accuracy,
        Accuracy.roundToNearestEven, isExact, below]

/-! ## Rounding -/

section Rounding

variable {sign : Sign} {significand : Nat} {exponent : Int}

theorem targetExponent_eq_max (significand : Nat) (exponent : Int) :
    Format.binary64.targetExponent (totalExponent significand exponent) =
      max (significand.log2 + exponent - 52) (-1074) := by
  have bits : (Format.binary64.mantissaBits : Int) = 53 := rfl
  have leastExponent : Format.binary64.minExponent = -1074 := rfl
  rw [Format.targetExponent, totalExponent, bits, leastExponent]
  congr 1
  ring

theorem targetExponent_eq (least : -1022 ≤ exponent) :
    Format.binary64.targetExponent (totalExponent significand exponent) =
      significand.log2 + exponent - 52 := by
  rw [targetExponent_eq_max, max_eq_left]
  omega

/-- The excess bits are shifted out. -/
theorem shiftToTargetExponent_eq (least : -1074 ≤ exponent) :
    shiftToTargetExponent .binary64 significand exponent .exact =
      (ExtendedMantissa.ofMantissaAndAccuracy significand .exact >>> excessBits significand,
        exponent + excessBits significand) := by
  have amount :
      (max (significand.log2 + exponent - 52 : Int) (-1074) - exponent).toNat =
        excessBits significand := by
    unfold excessBits
    omega
  rw [shiftToTargetExponent, targetExponent_eq_max]
  simp only [shiftToExponent, amount]

/-- Shifting, rounding and shifting again leaves a significand that is not nothing. -/
theorem roundWithAccuracy_eq_finite
    {kept final : ExtendedMantissa} {quotient : Nat} {middle last : Int}
    (shifted : shiftToTargetExponent .binary64 significand exponent .exact = (kept, middle))
    (rounded : kept.roundedMantissa = quotient)
    (shiftedAgain : shiftToTargetExponent .binary64 quotient middle .exact = (final, last))
    (positive : 0 < final.mantissa) :
    roundWithAccuracy .binary64 sign significand exponent .exact =
      .finite sign final.mantissa last positive := by
  unfold roundWithAccuracy
  simp only [shifted, rounded, shiftedAgain, positive.ne', dite_false]

/-- A significand with one bit too many has no other excess bit. -/
theorem excess_of_bounds
    (full : 2 ^ 52 ≤ significand) (le : significand ≤ 2 ^ 53) :
    excessBits significand ≤ 1 ∧
      2 ^ 52 ≤ significand / 2 ^ excessBits significand ∧
      significand / 2 ^ excessBits significand < 2 ^ 53 ∧
      significand / 2 ^ excessBits significand * 2 ^ excessBits significand = significand := by
  rcases Nat.lt_or_eq_of_le le with below | rfl
  · rw [excessBits_eq_zero below, Nat.pow_zero, Nat.div_one, Nat.mul_one]
    exact ⟨Nat.zero_le 1, full, below, rfl⟩
  · decide +kernel

/-- A significand that is not too short is rounded to 53 bits. -/
theorem exists_roundWithAccuracy
    (full : 2 ^ 52 ≤ significand) (least : -1022 ≤ exponent) :
    ∃ rounded roundedExponent positive,
      roundWithAccuracy .binary64 sign significand exponent .exact =
          .finite sign rounded roundedExponent positive ∧
        2 ^ 52 ≤ rounded ∧ rounded < 2 ^ 53 ∧
        exponent ≤ roundedExponent ∧
        roundedExponent ≤ exponent + excessBits significand + 1 ∧
        magnitudeValue rounded roundedExponent =
          nearestMagnitude significand * 2 ^ exponent := by
  have shifted := @shiftToTargetExponent_eq significand exponent (by omega)
  have rounding := (keeps_shiftRight significand (excessBits significand)).roundedMantissa_eq
  obtain ⟨quotientFull, quotientLe⟩ := roundedQuotient_bounds full
  have isNearest :
      nearestMagnitude significand =
        roundedQuotient significand (excessBits significand) * 2 ^ excessBits significand := rfl
  generalize roundedQuotient significand (excessBits significand) = quotient at *
  have shiftedAgain :=
    @shiftToTargetExponent_eq quotient (exponent + excessBits significand) (by omega)
  have isFinal := (keeps_shiftRight quotient (excessBits quotient)).exists_rest.1
  obtain ⟨oneBit, finalFull, finalBelow, finalExact⟩ := excess_of_bounds quotientFull quotientLe
  rw [← isFinal] at finalFull finalBelow finalExact
  generalize ExtendedMantissa.ofMantissaAndAccuracy quotient .exact >>> excessBits quotient =
    final at *
  refine
    ⟨_, _, by omega, roundWithAccuracy_eq_finite shifted rounding shiftedAgain _, finalFull,
      finalBelow, by omega, by omega, ?_⟩
  have isExact : (final.mantissa : ℚ) * 2 ^ excessBits quotient = quotient := by
    exact_mod_cast finalExact
  rw [isNearest, magnitudeValue, zpow_add₀ two_ne_zero, zpow_add₀ two_ne_zero, zpow_natCast,
    zpow_natCast]
  push_cast
  linear_combination (2 ^ exponent * 2 ^ excessBits significand) * isExact

/-- How many zeros make a significand of a short magnitude. -/
def padding (magnitude : Nat) : Nat := 52 - magnitude.log2

section Padding

variable {magnitude : Nat}

theorem padding_eq_zero (large : 2 ^ 53 ≤ magnitude) : padding magnitude = 0 := by
  have positive : magnitude ≠ 0 := by
    rintro rfl
    exact absurd large (by decide)
  have many : 53 ≤ magnitude.log2 := (Nat.le_log2 positive).mpr large
  unfold padding
  omega

theorem le_padded (positive : 0 < magnitude) : 2 ^ 52 ≤ magnitude * 2 ^ padding magnitude := by
  have least : 2 ^ magnitude.log2 ≤ magnitude := Nat.log2_self_le positive.ne'
  calc
    2 ^ 52 ≤ 2 ^ (magnitude.log2 + padding magnitude) := by
      apply Nat.pow_le_pow_right (by decide)
      unfold padding
      omega
    _ = 2 ^ magnitude.log2 * 2 ^ padding magnitude := Nat.pow_add ..
    _ ≤ magnitude * 2 ^ padding magnitude := Nat.mul_le_mul_right _ least

theorem padded_lt (positive : 0 < magnitude) (below : magnitude < 2 ^ 53) :
    magnitude * 2 ^ padding magnitude < 2 ^ 53 := by
  have most : magnitude < 2 ^ (magnitude.log2 + 1) := Nat.lt_log2_self
  have few : magnitude.log2 < 53 := (Nat.log2_lt positive.ne').mpr below
  calc
    magnitude * 2 ^ padding magnitude < 2 ^ (magnitude.log2 + 1) * 2 ^ padding magnitude :=
      Nat.mul_lt_mul_of_pos_right most (Nat.two_pow_pos _)
    _ = 2 ^ 53 := by
      rw [← Nat.pow_add, padding]
      congr 1
      omega

/-- The zeros do not matter to rounding. -/
theorem nearestMagnitude_padded (positive : 0 < magnitude) :
    nearestMagnitude (magnitude * 2 ^ padding magnitude) =
      nearestMagnitude magnitude * 2 ^ padding magnitude := by
  by_cases below : magnitude < 2 ^ 53
  · rw [nearestMagnitude_of_lt below, nearestMagnitude_of_lt (padded_lt positive below)]
  · rw [padding_eq_zero (Nat.le_of_not_lt below), Nat.pow_zero, Nat.mul_one, Nat.mul_one]

theorem excessBits_padded_le (positive : 0 < magnitude) (below : magnitude < 2 ^ 64) :
    excessBits (magnitude * 2 ^ padding magnitude) ≤ 11 := by
  by_cases short : magnitude < 2 ^ 53
  · rw [excessBits_eq_zero (padded_lt positive short)]
    exact Nat.zero_le 11
  · have fewBits : magnitude.log2 < 64 := (Nat.log2_lt positive.ne').mpr below
    rw [padding_eq_zero (Nat.le_of_not_lt short), Nat.pow_zero, Nat.mul_one, excessBits]
    omega

end Padding

/-- The number has 53 bits and is neither too small nor too large. -/
structure IsNormal (significand : Nat) (exponent : Int) : Prop where
  full : 2 ^ 52 ≤ significand
  below : significand < 2 ^ 53
  least : -1074 ≤ exponent
  most : exponent ≤ 971

/-- A magnitude of at most 64 bits is rounded to a normal number. -/
theorem exists_round
    {magnitude : Nat} (positive : 0 < magnitude) (below : magnitude < 2 ^ 64) :
    ∃ rounded roundedExponent roundedPositive,
      UnpackedFloat.round .binary64 sign magnitude 0 =
          .finite sign rounded roundedExponent roundedPositive ∧
        IsNormal rounded roundedExponent ∧
        magnitudeValue rounded roundedExponent = nearestMagnitude magnitude := by
  have zeros : (0 - ((magnitude.log2 : Int) + 0 - 52)).toNat = padding magnitude := by
    unfold padding
    omega
  have fewZeros : padding magnitude ≤ 52 := Nat.sub_le 52 _
  have fewExcess := excessBits_padded_le positive below
  have isPadded :
      decreaseExponent magnitude 0 (magnitude.log2 + 0 - 52) =
        (magnitude * 2 ^ padding magnitude, -(padding magnitude : Int)) := by
    rw [decreaseExponent, zeros, Nat.shiftLeft_eq, Int.zero_sub]
  obtain ⟨rounded, roundedExponent, roundedPositive, isRounded, roundedFull, roundedBelow,
    atLeast, atMost, isValue⟩ :=
    @exists_roundWithAccuracy sign (magnitude * 2 ^ padding magnitude)
      (-(padding magnitude : Int)) (le_padded positive) (by omega)
  refine
    ⟨rounded, roundedExponent, roundedPositive, ?_,
      ⟨roundedFull, roundedBelow, by omega, by omega⟩, ?_⟩
  · rw [UnpackedFloat.round, targetExponent_eq (by decide), isPadded]
    exact isRounded
  · have notZero : (2 : ℚ) ^ padding magnitude ≠ 0 := by positivity
    rw [isValue, nearestMagnitude_padded positive, zpow_neg, zpow_natCast]
    push_cast
    exact mul_inv_cancel_right₀ notZero _

end Rounding

/-! ## Packing -/

section Packing

variable {sign : Sign} {significand : Nat} {exponent : Int} {positive : 0 < significand}

/-- The exponent is stored as its distance from the least one, plus one. -/
theorem pack_finite (normal : IsNormal significand exponent) :
    UnpackedFloat.pack .binary64 (.finite sign significand exponent positive) =
      packComponents .binary64 sign (BitVec.ofNat 11 (exponent + 1075).toNat)
        (BitVec.ofNat 52 significand) := by
  have bits : significand.log2 = 52 :=
    (Nat.log2_eq_iff positive.ne').mpr ⟨normal.full, normal.below⟩
  have least := normal.least
  have most := normal.most
  have bias :
      exponent + Format.binary64.exponentBias +
          Format.binary64.mantissaBitsWithoutImplicit =
        exponent + 1075 := by
    change exponent + 1023 + 52 = exponent + 1075
    ring
  rw [UnpackedFloat.pack]
  simp only [bits, bias]
  rw [if_neg (by omega), if_pos (by decide)]

/-- The exponent of a normal number is neither of those with a meaning of their own. -/
theorem toNat_exponentBits (normal : IsNormal significand exponent) :
    (BitVec.ofNat 11 (exponent + 1075).toNat).toNat = (exponent + 1075).toNat ∧
      BitVec.ofNat 11 (exponent + 1075).toNat ≠ -1#11 ∧
      BitVec.ofNat 11 (exponent + 1075).toNat ≠ 0#11 := by
  have least := normal.least
  have most := normal.most
  have stored :
      (BitVec.ofNat 11 (exponent + 1075).toNat).toNat = (exponent + 1075).toNat := by
    rw [BitVec.toNat_ofNat]
    omega
  refine ⟨stored, ?_, ?_⟩
  · intro isAll
    have same : (exponent + 1075).toNat = 2047 := stored.symm.trans (congrArg BitVec.toNat isAll)
    omega
  · intro isNone
    have same : (exponent + 1075).toNat = 0 := stored.symm.trans (congrArg BitVec.toNat isNone)
    omega

/-- A normal number is unpacked again. -/
theorem unpack_pack_finite (normal : IsNormal significand exponent) :
    UnpackedFloat.unpack .binary64
        (UnpackedFloat.pack .binary64 (.finite sign significand exponent positive)) =
      .finite sign significand exponent positive := by
  obtain ⟨stored, notAll, notNone⟩ := toNat_exponentBits normal
  have full := normal.full
  have below := normal.below
  have least := normal.least
  have isSignificand : (1#1 ++ BitVec.ofNat 52 significand).toNat = significand := by
    rw [toNat_one_append, BitVec.toNat_ofNat]
    omega
  have bias : (Format.binary64.exponentBias : Int) = 1023 := rfl
  rw [pack_finite normal, UnpackedFloat.unpack]
  simp only [unpackMantissa_packComponents, unpackExponent_packComponents,
    unpackSign_packComponents, Sign.ofBitVec_toBitVec, if_neg notAll, if_neg notNone,
    isSignificand, stored, bias]
  congr 1
  omega

end Packing

/-! ## Integers -/

/-- A magnitude with a sign becomes a floating-point number of what it is rounded to. -/
theorem value_of_round
    {number : Int} {sign : Sign} (isSigned : number = sign.apply number.natAbs)
    (positive : 0 < number.natAbs) (below : number.natAbs < 2 ^ 64) :
    unpackedValue?
        (UnpackedFloat.unpack .binary64
          (UnpackedFloat.pack .binary64
            (UnpackedFloat.round .binary64 sign number.natAbs 0))) =
      some (nearest number : ℚ) := by
  obtain ⟨rounded, exponent, roundedPositive, isRounded, normal, isValue⟩ :=
    @exists_round sign number.natAbs positive below
  rw [isRounded, unpack_pack_finite normal]
  generalize number.natAbs = magnitude at isSigned isValue
  subst isSigned
  cases sign with
  | positive =>
      rw [unpackedValue?, isValue, Sign.apply, nearest_natCast, Int.cast_natCast]
  | negative =>
      rw [unpackedValue?, isValue, Sign.apply, nearest_neg, nearest_natCast, Int.cast_neg,
        Int.cast_natCast]

/-- An integer becomes the floating-point number of what it is rounded to. -/
theorem value?_nearestFloat (value : Int64) :
    value? (nearestFloat value) = some (nearest value.toInt : ℚ) := by
  have isUnpacked :
      value? (nearestFloat value) =
        unpackedValue?
          (UnpackedFloat.unpack .binary64
            (UnpackedFloat.pack .binary64
              (UnpackedFloat.normalize .binary64 value.toInt 0 .positive))) := rfl
  have atLeast := value.le_toInt
  have below := value.toInt_lt
  rw [isUnpacked]
  generalize value.toInt = number at atLeast below
  rcases lt_trichotomy number 0 with isNegative | rfl | isPositive
  · have magnitude : (-number).toNat = number.natAbs := by omega
    rw [UnpackedFloat.normalize, compare_lt_iff_lt.mpr isNegative]
    simp only [magnitude]
    apply value_of_round
    · rw [Sign.apply]
      omega
    · omega
    · omega
  · rfl
  · have magnitude : number.toNat = number.natAbs := by omega
    rw [UnpackedFloat.normalize, compare_gt_iff_gt.mpr isPositive]
    simp only [magnitude]
    apply value_of_round
    · rw [Sign.apply]
      omega
    · omega
    · omega

end FilterQuery.Number
