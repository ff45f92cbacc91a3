import FilterQuery.Proofs.Number.Value

/-!
# Quotients with a remainder

Bits that do not fit into a significand are left out, but what they say about rounding is kept.

* `KeepsQuotient`: the whole part of a quotient, the bit after it, and whether there is more;
* shifting to the right divides the quotient (`KeepsQuotient.shiftRight`), and the accuracy of a
  division is kept (`keepsQuotient_divided`);
* `KeepsQuotient.lt_roundedMantissa_iff` says from where on an odd number is passed by rounding.
-/

namespace FilterQuery.Number

open Float.Model Float.Model.UnpackedFloat

/-- What is kept of the quotient of an amount and a unit: the whole part, the next bit, and whether
there is anything after that. -/
def KeepsQuotient (kept : ExtendedMantissa) (amount unit : Nat) : Prop :=
  ∃ tail,
    2 * amount = (2 * kept.mantissa + kept.roundBit.toNat) * unit + tail ∧
      tail < unit ∧ kept.stickyBit = decide (tail ≠ 0)

namespace KeepsQuotient

variable {kept : ExtendedMantissa} {amount unit : Nat}

theorem unit_pos (keeps : KeepsQuotient kept amount unit) : 0 < unit := by
  obtain ⟨tail, _, below, _⟩ := keeps
  exact Nat.zero_lt_of_lt below

/-! ## Shifting -/

theorem shiftRightOne (keeps : KeepsQuotient kept amount unit) :
    KeepsQuotient kept.shiftRightOne amount (unit * 2) := by
  have positive := keeps.unit_pos
  obtain ⟨tail, whole, below, isSticky⟩ := keeps
  have halves : kept.mantissa = 2 * (kept.mantissa / 2) + kept.mantissa % 2 :=
    (Nat.div_add_mod _ _).symm
  have lastBit : (kept.mantissa % 2 != 0).toNat = kept.mantissa % 2 := by
    rcases Nat.mod_two_eq_zero_or_one kept.mantissa with isEven | isOdd
    · rw [isEven]
      rfl
    · rw [isOdd]
      rfl
  refine ⟨kept.roundBit.toNat * unit + tail, ?_, ?_, ?_⟩
  · rw [whole, ExtendedMantissa.shiftRightOne, lastBit]
    conv_lhs => rw [halves]
    ring
  · cases kept.roundBit <;> simp only [Bool.toNat_false, Bool.toNat_true] <;> omega
  · rw [ExtendedMantissa.shiftRightOne, isSticky]
    cases kept.roundBit <;> simp [positive.ne']

theorem shiftRight (keeps : KeepsQuotient kept amount unit) (shift : Nat) :
    KeepsQuotient (kept >>> shift) amount (unit * 2 ^ shift) := by
  induction shift with
  | zero => rwa [Nat.pow_zero, Nat.mul_one]
  | succ shift inductionHypothesis =>
      have shifted := inductionHypothesis.shiftRightOne
      rwa [Nat.mul_assoc, ← Nat.pow_succ] at shifted

/-! ## Rounding -/

/-- The whole part is kept. -/
theorem bounds (keeps : KeepsQuotient kept amount unit) :
    kept.mantissa * unit ≤ amount ∧ amount < (kept.mantissa + 1) * unit := by
  obtain ⟨tail, whole, below, _⟩ := keeps
  cases isRound : kept.roundBit <;>
    simp only [isRound, Bool.toNat_false, Bool.toNat_true, Nat.add_mul, Nat.mul_assoc,
      Nat.one_mul, Nat.zero_mul] at whole ⊢ <;>
    omega

theorem roundedMantissa_bounds (kept : ExtendedMantissa) :
    kept.mantissa ≤ kept.roundedMantissa ∧ kept.roundedMantissa ≤ kept.mantissa + 1 := by
  obtain ⟨mantissa, roundBit, stickyBit⟩ := kept
  cases roundBit <;> cases stickyBit <;>
    simp only [ExtendedMantissa.roundedMantissa, ExtendedMantissa.accuracy,
      Accuracy.roundToNearestEven] <;>
    omega

/-- A quotient is rounded past an odd number from the half after it on. -/
theorem lt_roundedMantissa_iff
    (keeps : KeepsQuotient kept amount unit) {bound : Nat} (isOdd : bound % 2 = 1) :
    bound < kept.roundedMantissa ↔ (2 * bound + 1) * unit ≤ 2 * amount := by
  obtain ⟨tail, whole, below, isSticky⟩ := keeps
  obtain ⟨mantissa, roundBit, stickyBit⟩ := kept
  simp only at whole isSticky
  subst isSticky
  rw [whole]
  -- In halves of a unit, the amount is an integer and what is less than one.
  have compares : ∀ half : Nat,
      (2 * bound + 1) * unit ≤ half * unit + tail ↔ 2 * bound + 1 ≤ half := by
    intro half
    constructor
    · intro le
      by_contra notLe
      have atMost : (half + 1) * unit ≤ (2 * bound + 1) * unit :=
        Nat.mul_le_mul_right unit (Nat.not_le.mp notLe)
      rw [Nat.add_mul, Nat.one_mul] at atMost
      omega
    · intro le
      exact Nat.le_add_right_of_le (Nat.mul_le_mul_right unit le)
  rw [compares]
  by_cases isExact : tail = 0
  · cases roundBit <;>
      simp only [ExtendedMantissa.roundedMantissa, ExtendedMantissa.accuracy,
        Accuracy.roundToNearestEven, isExact, ne_eq, not_true_eq_false, decide_false,
        Bool.toNat_false, Bool.toNat_true] <;>
      omega
  · cases roundBit <;>
      simp only [ExtendedMantissa.roundedMantissa, ExtendedMantissa.accuracy,
        Accuracy.roundToNearestEven, isExact, ne_eq, not_false_eq_true, decide_true,
        Bool.toNat_false, Bool.toNat_true] <;>
      omega

end KeepsQuotient

/-- A division keeps its quotient. -/
theorem keepsQuotient_divided {amount unit : Nat} (positive : 0 < unit) :
    KeepsQuotient
      (ExtendedMantissa.ofMantissaAndAccuracy (amount / unit)
        (accuracyOfFraction (amount % unit) unit)) amount unit := by
  have whole := Nat.div_add_mod' amount unit
  have below := Nat.mod_lt amount positive
  generalize amount / unit = quotient at *
  generalize amount % unit = rest at *
  subst whole
  unfold accuracyOfFraction
  split
  · rename_i isExact
    subst isExact
    refine ⟨0, ?_, positive, rfl⟩
    simp [ExtendedMantissa.ofMantissaAndAccuracy, Nat.mul_assoc]
  · rename_i notExact
    rcases lt_trichotomy (2 * rest) unit with isBelow | isHalf | isAbove
    · rw [compare_lt_iff_lt.mpr isBelow]
      refine ⟨2 * rest, ?_, isBelow, ?_⟩
      · simp only [ExtendedMantissa.ofMantissaAndAccuracy, Bool.toNat_false, add_zero]
        ring
      · simp [ExtendedMantissa.ofMantissaAndAccuracy, notExact]
    · rw [compare_eq_iff_eq.mpr isHalf]
      refine ⟨0, ?_, positive, rfl⟩
      simp only [ExtendedMantissa.ofMantissaAndAccuracy, Bool.toNat_true, add_zero]
      linarith
    · rw [compare_gt_iff_gt.mpr isAbove]
      refine ⟨2 * rest - unit, ?_, by omega, ?_⟩
      · simp only [ExtendedMantissa.ofMantissaAndAccuracy, Bool.toNat_true]
        zify [isAbove.le]
        ring
      · have notHalf : 2 * rest - unit ≠ 0 := by omega
        simp [ExtendedMantissa.ofMantissaAndAccuracy, notHalf]

end FilterQuery.Number
