import Mathlib.Algebra.Order.Ring.Int
import Mathlib.Tactic.Linarith
import Mathlib.Tactic.Positivity
import Mathlib.Tactic.Ring

/-!
# Rounding to 53 bits

Floating-point numbers have significands of 53 bits.  An integer with more bits is rounded to
the nearest integer that has not, and of two that are equally near to the one with the even
significand.

* `nearest` rounds, and `natAbs_sub_nearest_le` says that nothing representable is nearer;
* so representable integers stay what they are (`nearest_eq_of_isRepresentable`), and rounding
  keeps the order (`nearest_mono`);
* integers below `2 ^ 53` are told from all others (`eq_of_nearest_eq_nearest`).
-/

namespace FilterQuery.Number

/-! ## Magnitudes -/

/-- How many bits of a magnitude do not fit into a significand. -/
def excessBits (magnitude : Nat) : Nat := magnitude.log2 - 52

/-- The integer nearest to `magnitude / 2 ^ shift`; a half goes to the even neighbour. -/
def roundedQuotient (magnitude shift : Nat) : Nat :=
  let whole := magnitude / 2 ^ shift
  let rest := magnitude % 2 ^ shift
  if 2 * rest < 2 ^ shift then whole
  else if 2 * rest = 2 ^ shift then whole + whole % 2
  else whole + 1

/-- A magnitude, rounded to 53 bits. -/
def nearestMagnitude (magnitude : Nat) : Nat :=
  roundedQuotient magnitude (excessBits magnitude) * 2 ^ excessBits magnitude

section Magnitudes

variable {magnitude shift : Nat}

theorem roundedQuotient_zero (magnitude : Nat) : roundedQuotient magnitude 0 = magnitude := by
  simp [roundedQuotient, Nat.mod_one]

/-- The quotient is rounded down or up, whichever is nearer. -/
theorem roundedQuotient_cases (magnitude shift : Nat) :
    (roundedQuotient magnitude shift = magnitude / 2 ^ shift ∧
        2 * (magnitude % 2 ^ shift) ≤ 2 ^ shift) ∨
      (roundedQuotient magnitude shift = magnitude / 2 ^ shift + 1 ∧
        2 ^ shift ≤ 2 * (magnitude % 2 ^ shift)) := by
  unfold roundedQuotient
  simp only
  split
  · rename_i isBelow
    exact .inl ⟨rfl, Nat.le_of_lt isBelow⟩
  · split
    · rename_i notBelow isHalf
      rcases Nat.mod_two_eq_zero_or_one (magnitude / 2 ^ shift) with isEven | isOdd
      · exact .inl ⟨by rw [isEven, Nat.add_zero], Nat.le_of_eq isHalf⟩
      · exact .inr ⟨by rw [isOdd], Nat.le_of_eq isHalf.symm⟩
    · rename_i notBelow notHalf
      exact .inr ⟨rfl, Nat.le_of_not_lt notBelow⟩

theorem excessBits_eq_zero (below : magnitude < 2 ^ 53) : excessBits magnitude = 0 := by
  unfold excessBits
  rcases Nat.eq_zero_or_pos magnitude with rfl | positive
  · rfl
  · have few : magnitude.log2 < 53 := (Nat.log2_lt positive.ne').mpr below
    omega

theorem nearestMagnitude_of_lt (below : magnitude < 2 ^ 53) :
    nearestMagnitude magnitude = magnitude := by
  rw [nearestMagnitude, excessBits_eq_zero below, roundedQuotient_zero, Nat.pow_zero,
    Nat.mul_one]

/-- Without the excess bits, 53 bits are left. -/
theorem quotient_bounds (large : 2 ^ 53 ≤ magnitude) :
    2 ^ 52 ≤ magnitude / 2 ^ excessBits magnitude ∧
      magnitude / 2 ^ excessBits magnitude < 2 ^ 53 := by
  have positive : magnitude ≠ 0 := by
    rintro rfl
    exact absurd large (by decide)
  have many : 53 ≤ magnitude.log2 := (Nat.le_log2 positive).mpr large
  have isLog : magnitude.log2 = 52 + excessBits magnitude := by
    unfold excessBits
    omega
  constructor
  · rw [Nat.le_div_iff_mul_le (Nat.two_pow_pos _), ← Nat.pow_add, ← isLog]
    exact Nat.log2_self_le positive
  · rw [Nat.div_lt_iff_lt_mul (Nat.two_pow_pos _), ← Nat.pow_add]
    have below : magnitude < 2 ^ (magnitude.log2 + 1) := Nat.lt_log2_self
    rwa [isLog, Nat.add_right_comm] at below

/-- A rounded quotient has at least 53 bits, and at most one more. -/
theorem roundedQuotient_bounds (full : 2 ^ 52 ≤ magnitude) :
    2 ^ 52 ≤ roundedQuotient magnitude (excessBits magnitude) ∧
      roundedQuotient magnitude (excessBits magnitude) ≤ 2 ^ 53 := by
  by_cases small : magnitude < 2 ^ 53
  · rw [excessBits_eq_zero small, roundedQuotient_zero]
    exact ⟨full, Nat.le_of_lt small⟩
  · obtain ⟨least, below⟩ := quotient_bounds (Nat.le_of_not_lt small)
    rcases roundedQuotient_cases magnitude (excessBits magnitude) with
      ⟨isDown, _⟩ | ⟨isUp, _⟩ <;>
      omega

end Magnitudes

/-! ## Representable integers -/

/-- The integer is a significand of 53 bits with zeros after it.  The magnitude `2 ^ 53` is
`2 ^ 52` with one zero more. -/
def IsRepresentable (number : Int) : Prop :=
  ∃ (significand : Int) (zeros : Nat),
    significand.natAbs ≤ 2 ^ 53 ∧ number = significand * 2 ^ zeros

theorem isRepresentable_of_natAbs_le
    {number : Int} (small : number.natAbs ≤ 2 ^ 53) : IsRepresentable number :=
  ⟨number, 0, small, by simp⟩

theorem IsRepresentable.neg
    {number : Int} (representable : IsRepresentable number) : IsRepresentable (-number) := by
  obtain ⟨significand, zeros, small, rfl⟩ := representable
  exact ⟨-significand, zeros, by rwa [Int.natAbs_neg], by ring⟩

theorem isRepresentable_nearestMagnitude (magnitude : Nat) :
    IsRepresentable (nearestMagnitude magnitude) := by
  by_cases small : magnitude < 2 ^ 53
  · apply isRepresentable_of_natAbs_le
    rw [nearestMagnitude_of_lt small, Int.natAbs_natCast]
    exact Nat.le_of_lt small
  · refine ⟨roundedQuotient magnitude (excessBits magnitude), excessBits magnitude, ?_, ?_⟩
    · rw [Int.natAbs_natCast]
      exact (roundedQuotient_bounds (by omega)).2
    · rw [nearestMagnitude]
      push_cast
      rfl

/-- Nothing representable is between a quotient and the next one. -/
theorem not_between
    {magnitude : Nat} (large : 2 ^ 53 ≤ magnitude) {other : Int}
    (representable : IsRepresentable other) :
    other ≤ (magnitude / 2 ^ excessBits magnitude : Nat) * 2 ^ excessBits magnitude ∨
      ((magnitude / 2 ^ excessBits magnitude : Nat) + 1) * 2 ^ excessBits magnitude ≤
        other := by
  obtain ⟨significand, zeros, small, rfl⟩ := representable
  have least := (quotient_bounds large).1
  generalize magnitude / 2 ^ excessBits magnitude = whole at least ⊢
  generalize excessBits magnitude = excess
  by_cases fewer : zeros < excess
  · -- With fewer zeros a number is too small.
    left
    have significandLe : significand ≤ 2 ^ 53 := by omega
    have leastInt : (2 : Int) ^ 52 ≤ whole := by exact_mod_cast least
    have powerLe : (2 : Int) ^ (zeros + 1) ≤ 2 ^ excess :=
      pow_le_pow_right₀ (by norm_num) fewer
    calc
      significand * 2 ^ zeros ≤ 2 ^ 53 * 2 ^ zeros := by gcongr
      _ = 2 ^ 52 * 2 ^ (zeros + 1) := by ring
      _ ≤ whole * 2 ^ excess := by gcongr
  · -- Otherwise it is a multiple of the unit.
    obtain ⟨more, rfl⟩ : ∃ more, zeros = excess + more :=
      ⟨_, (Nat.add_sub_cancel' (Nat.le_of_not_lt fewer)).symm⟩
    have multiple : significand * 2 ^ (excess + more) = significand * 2 ^ more * 2 ^ excess := by
      ring
    rw [multiple]
    rcases Int.lt_or_le (whole : Int) (significand * 2 ^ more) with isAbove | notAbove
    · right
      gcongr
      exact isAbove
    · left
      gcongr

theorem natAbs_sub_nearestMagnitude_le
    (magnitude : Nat) {other : Int} (representable : IsRepresentable other) :
    ((magnitude : Int) - nearestMagnitude magnitude).natAbs ≤
      ((magnitude : Int) - other).natAbs := by
  by_cases small : magnitude < 2 ^ 53
  · rw [nearestMagnitude_of_lt small, Int.sub_self]
    exact Nat.zero_le _
  · have apart := not_between (Nat.le_of_not_lt small) representable
    have whole := Nat.div_add_mod' magnitude (2 ^ excessBits magnitude)
    rw [Int.add_mul, Int.one_mul] at apart
    rw [nearestMagnitude]
    push_cast
    -- Only the multiple of the unit, the unit and the rest matter.
    rcases roundedQuotient_cases magnitude (excessBits magnitude) with
      ⟨isDown, isNearer⟩ | ⟨isUp, isNearer⟩
    · rw [isDown]
      zify at whole isNearer
      push_cast at apart ⊢
      omega
    · rw [isUp]
      zify at whole isNearer
      push_cast at apart ⊢
      rw [Int.add_mul, Int.one_mul]
      omega

/-! ## Rounding integers -/

/-- The representable integer nearest to an integer. -/
def nearest (number : Int) : Int := number.sign * nearestMagnitude number.natAbs

theorem nearest_natCast (magnitude : Nat) :
    nearest magnitude = nearestMagnitude magnitude := by
  rw [nearest, Int.natAbs_natCast]
  rcases Nat.eq_zero_or_pos magnitude with rfl | positive
  · rfl
  · rw [Int.sign_eq_one_of_pos (Int.natCast_pos.mpr positive), Int.one_mul]

theorem nearest_neg (number : Int) : nearest (-number) = -nearest number := by
  rw [nearest, nearest, Int.sign_neg, Int.natAbs_neg, Int.neg_mul]

theorem isRepresentable_nearest (number : Int) : IsRepresentable (nearest number) := by
  obtain ⟨magnitude, rfl | rfl⟩ := number.eq_nat_or_neg
  · rw [nearest_natCast]
    exact isRepresentable_nearestMagnitude magnitude
  · rw [nearest_neg, nearest_natCast]
    exact (isRepresentable_nearestMagnitude magnitude).neg

/-- Nothing representable is nearer than what an integer is rounded to. -/
theorem natAbs_sub_nearest_le
    (number : Int) {other : Int} (representable : IsRepresentable other) :
    (number - nearest number).natAbs ≤ (number - other).natAbs := by
  obtain ⟨magnitude, rfl | rfl⟩ := number.eq_nat_or_neg
  · rw [nearest_natCast]
    exact natAbs_sub_nearestMagnitude_le magnitude representable
  · have mirrored := natAbs_sub_nearestMagnitude_le magnitude representable.neg
    rw [nearest_neg, nearest_natCast]
    omega

theorem nearest_eq_of_isRepresentable
    {number : Int} (representable : IsRepresentable number) : nearest number = number := by
  have isNearest := natAbs_sub_nearest_le number representable
  omega

/-- Rounding keeps the order. -/
theorem nearest_mono {first second : Int} (le : first ≤ second) :
    nearest first ≤ nearest second := by
  rcases Int.lt_or_eq_of_le le with lt | rfl
  · by_contra notLe
    have firstNearest := natAbs_sub_nearest_le first (isRepresentable_nearest second)
    have secondNearest := natAbs_sub_nearest_le second (isRepresentable_nearest first)
    omega
  · exact Int.le_refl _

theorem nearest_lt_nearest_iff
    {first second : Int} (apart : nearest first = nearest second → first = second) :
    nearest first < nearest second ↔ first < second := by
  constructor
  · intro lt
    by_contra notLt
    have ge := nearest_mono (Int.not_lt.mp notLt)
    omega
  · intro lt
    rcases Int.lt_or_eq_of_le (nearest_mono (Int.le_of_lt lt)) with nearestLt | same
    · exact nearestLt
    · have equal := apart same
      omega

section Bounds

variable {number bound : Int}

/-- A representable bound is not passed by rounding. -/
theorem le_nearest_of_le (representable : IsRepresentable bound) (le : bound ≤ number) :
    bound ≤ nearest number := by
  rw [← nearest_eq_of_isRepresentable representable]
  exact nearest_mono le

theorem nearest_le_of_le (representable : IsRepresentable bound) (le : number ≤ bound) :
    nearest number ≤ bound := by
  rw [← nearest_eq_of_isRepresentable representable]
  exact nearest_mono le

/-- The neighbours of a small bound are representable, so no other integer is rounded to it. -/
theorem le_nearest_iff (small : bound.natAbs < 2 ^ 53) :
    bound ≤ nearest number ↔ bound ≤ number := by
  constructor
  · intro le
    by_contra notLe
    have before : IsRepresentable (bound - 1) := isRepresentable_of_natAbs_le (by omega)
    have rounded := nearest_le_of_le before (show number ≤ bound - 1 by omega)
    omega
  · exact le_nearest_of_le (isRepresentable_of_natAbs_le (Nat.le_of_lt small))

theorem nearest_le_iff (small : bound.natAbs < 2 ^ 53) :
    nearest number ≤ bound ↔ number ≤ bound := by
  constructor
  · intro le
    by_contra notLe
    have after : IsRepresentable (bound + 1) := isRepresentable_of_natAbs_le (by omega)
    have rounded := le_nearest_of_le after (show bound + 1 ≤ number by omega)
    omega
  · exact nearest_le_of_le (isRepresentable_of_natAbs_le (Nat.le_of_lt small))

theorem eq_of_nearest_eq_nearest
    (small : bound.natAbs < 2 ^ 53) (same : nearest number = nearest bound) :
    number = bound := by
  rw [nearest_eq_of_isRepresentable (isRepresentable_of_natAbs_le (Nat.le_of_lt small))] at same
  have atLeast := (le_nearest_iff small).mp (Int.le_of_eq same.symm)
  have atMost := (nearest_le_iff small).mp (Int.le_of_eq same)
  exact Int.le_antisymm atMost atLeast

end Bounds

/-- From `2 ^ 53` on, neighbours are rounded to the same. -/
example :
    nearest 9007199254740991 = 9007199254740991 ∧
      nearest 9007199254740993 = 9007199254740992 ∧
      nearest 9007199254740995 = 9007199254740996 ∧
      nearest (-9007199254740993) = -9007199254740992 := by
  decide +kernel

end FilterQuery.Number
