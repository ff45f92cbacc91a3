import FilterQuery.Constraint.Check
import FilterQuery.Proofs.Number.Conversion

/-!
# Numeric constraints on integers

Integers are compared as floating-point numbers, so what is compared are the integers that they
are rounded to.

* A comparison is exact unless two different integers are rounded to the same one, so whenever
  one of them is below `2 ^ 53` (`ComparesIntegers`);
* a range accepts all integers between its bounds, and no others if the bounds are below
  `2 ^ 53` (`RestrictsIntegers`);
* beyond that, a limit or a bound can be passed by one (`limit_passed_by_one`).
-/

namespace FilterQuery

open Number (nearest)

/-- What a relation requires of two integers. -/
def Relation.Requires : Relation → Int → Int → Prop
  | .equalTo, value, limit | .identicalTo, value, limit => value = limit
  | .notEqualTo, value, limit | .notIdenticalTo, value, limit => value ≠ limit
  | .lessThan, value, limit => value < limit
  | .lessThanOrEqual, value, limit => value ≤ limit
  | .greaterThan, value, limit => limit < value
  | .greaterThanOrEqual, value, limit => limit ≤ value

instance : (relation : Relation) → (value limit : Int) →
    Decidable (relation.Requires value limit)
  | .equalTo, value, limit | .identicalTo, value, limit =>
      inferInstanceAs (Decidable (value = limit))
  | .notEqualTo, value, limit | .notIdenticalTo, value, limit =>
      inferInstanceAs (Decidable (value ≠ limit))
  | .lessThan, value, limit => inferInstanceAs (Decidable (value < limit))
  | .lessThanOrEqual, value, limit => inferInstanceAs (Decidable (value ≤ limit))
  | .greaterThan, value, limit => inferInstanceAs (Decidable (limit < value))
  | .greaterThanOrEqual, value, limit => inferInstanceAs (Decidable (limit ≤ value))

/-- The relation compares numbers, whatever their kind. -/
def Relation.IsNumeric (relation : Relation) : Prop :=
  relation ≠ .identicalTo ∧ relation ≠ .notIdenticalTo

/-! ## Comparisons -/

section Comparisons

variable {value limit : Int64}

theorem nearestFloat_lt_iff :
    nearestFloat value < nearestFloat limit ↔ nearest value.toInt < nearest limit.toInt := by
  rw [Number.lt_iff_of_value (Number.value?_nearestFloat value)
    (Number.value?_nearestFloat limit), Int.cast_lt]

theorem nearestFloat_beq_iff :
    (nearestFloat value == nearestFloat limit) = true ↔
      nearest value.toInt = nearest limit.toInt := by
  rw [Number.beq_iff_of_value (Number.value?_nearestFloat value)
    (Number.value?_nearestFloat limit), Int.cast_inj]

theorem compare?_integer :
    (Value.integer value).compare? (.integer limit) =
      some (compare (nearest value.toInt) (nearest limit.toInt)) := by
  simp only [Value.compare?, Value.number?, nearestFloat_lt_iff, nearestFloat_beq_iff]
  rcases lt_trichotomy (nearest value.toInt) (nearest limit.toInt) with lt | same | gt
  · rw [if_pos lt, compare_lt_iff_lt.mpr lt]
  · rw [if_neg (not_lt.mpr same.ge), if_pos same, compare_eq_iff_eq.mpr same]
  · rw [if_neg (not_lt.mpr gt.le), if_neg gt.ne', if_pos gt, compare_gt_iff_gt.mpr gt]

/-- Numeric relations are those of the integers that are rounded to. -/
theorem Relation.holds_integer_iff {relation : Relation} (isNumeric : relation.IsNumeric) :
    relation.holds (.integer value) (.integer limit) = true ↔
      relation.Requires (nearest value.toInt) (nearest limit.toInt) := by
  cases relation with
  | identicalTo => exact absurd rfl isNumeric.1
  | notIdenticalTo => exact absurd rfl isNumeric.2
  | equalTo => exact nearestFloat_beq_iff
  | notEqualTo =>
      rw [holds, Bool.not_eq_true', ← Bool.not_eq_true]
      exact not_congr nearestFloat_beq_iff
  | lessThan =>
      rw [holds, compare?_integer, Option.any_some, Ordering.isLT_iff_eq_lt]
      exact compare_lt_iff_lt
  | lessThanOrEqual =>
      rw [holds, compare?_integer, Option.any_some]
      exact Int.isLE_compare
  | greaterThan =>
      rw [holds, compare?_integer, Option.any_some, Ordering.isGT_iff_eq_gt]
      exact compare_gt_iff_gt
  | greaterThanOrEqual =>
      rw [holds, compare?_integer, Option.any_some]
      exact Int.isGE_compare

end Comparisons

/-- Integers that are not rounded to the same one keep their relations. -/
theorem Relation.requires_nearest_iff
    {first second : Int} (apart : nearest first = nearest second → first = second)
    (relation : Relation) :
    relation.Requires (nearest first) (nearest second) ↔ relation.Requires first second := by
  have same : nearest first = nearest second ↔ first = second := ⟨apart, congrArg nearest⟩
  have less := Number.nearest_lt_nearest_iff apart
  have greater := Number.nearest_lt_nearest_iff fun equal => (apart equal.symm).symm
  cases relation with
  | equalTo | identicalTo => exact same
  | notEqualTo | notIdenticalTo => exact not_congr same
  | lessThan => exact less
  | greaterThan => exact greater
  | lessThanOrEqual => simpa only [Requires, not_lt] using not_congr greater
  | greaterThanOrEqual => simpa only [Requires, not_lt] using not_congr less

namespace Constraint

theorem accepts_comparison_iff
    {relation : Relation} (isNumeric : relation.IsNumeric) {value limit : Int64} :
    (comparison relation (.integer limit)).Accepts (.integer value) ↔
      relation.Requires (nearest value.toInt) (nearest limit.toInt) := by
  rw [← Relation.holds_integer_iff isNumeric, Accepts]
  simp only [violation?, Value.isNull, Bool.false_eq_true, if_false,
    presentViolation?, messageUnless_eq_none_iff]

/-! ## Ranges -/

section Ranges

variable {value : Int64} {least most : Float} {low high : Int}

theorem rangeViolation?_eq_none_iff {number : Float} :
    rangeViolation? (some least) (some most) number = none ↔
      ¬number < least ∧ ¬most < number := by
  unfold rangeViolation?
  by_cases isBelow : number < least
  · rw [Option.filter_some_pos (by simpa using isBelow)]
    simp [isBelow]
  · rw [Option.filter_some_neg (by simpa using isBelow)]
    by_cases isAbove : most < number
    · rw [Option.filter_some_pos (by simpa using isAbove)]
      simp [isAbove]
    · rw [Option.filter_some_neg (by simpa using isAbove)]
      simp [isBelow, isAbove]

theorem accepts_range_iff
    (isLow : Number.value? least = some (low : ℚ))
    (isHigh : Number.value? most = some (high : ℚ)) :
    (range (some least) (some most)).Accepts (.integer value) ↔
      low ≤ nearest value.toInt ∧ nearest value.toInt ≤ high := by
  have isValue := Number.value?_nearestFloat value
  have below : nearestFloat value < least ↔ nearest value.toInt < low := by
    rw [Number.lt_iff_of_value isValue isLow, Int.cast_lt]
  have above : most < nearestFloat value ↔ high < nearest value.toInt := by
    rw [Number.lt_iff_of_value isHigh isValue, Int.cast_lt]
  rw [← not_lt, ← not_lt, ← below, ← above, Accepts]
  simp only [violation?, Value.isNull, Bool.false_eq_true, if_false,
    presentViolation?, Value.number?]
  exact rangeViolation?_eq_none_iff

end Ranges

/-! ## Integers -/

/-- What a comparison of integers comes down to. -/
structure ComparesIntegers (relation : Relation) (value limit : Int64) : Prop where
  accepts_iff :
    (comparison relation (.integer limit)).Accepts (.integer value) ↔
      relation.Requires (nearest value.toInt) (nearest limit.toInt)
  /-- Different integers have to be rounded to the same one for a wrong answer. -/
  exact_of_apart :
    (nearest value.toInt = nearest limit.toInt → value.toInt = limit.toInt) →
      ((comparison relation (.integer limit)).Accepts (.integer value) ↔
        relation.Requires value.toInt limit.toInt)
  exact_of_small :
    value.toInt.natAbs < 2 ^ 53 ∨ limit.toInt.natAbs < 2 ^ 53 →
      ((comparison relation (.integer limit)).Accepts (.integer value) ↔
        relation.Requires value.toInt limit.toInt)

/-- What a range comes down to for an integer. -/
structure RestrictsIntegers
    (least most : Float) (low high : Int) (value : Int64) : Prop where
  accepts_iff :
    (range (some least) (some most)).Accepts (.integer value) ↔
      low ≤ nearest value.toInt ∧ nearest value.toInt ≤ high
  accepts_of_between :
    low ≤ value.toInt → value.toInt ≤ high →
      (range (some least) (some most)).Accepts (.integer value)
  exact_of_small :
    low.natAbs < 2 ^ 53 → high.natAbs < 2 ^ 53 →
      ((range (some least) (some most)).Accepts (.integer value) ↔
        low ≤ value.toInt ∧ value.toInt ≤ high)

theorem comparesIntegers
    {relation : Relation} (isNumeric : relation.IsNumeric) (value limit : Int64) :
    ComparesIntegers relation value limit := by
  have exact_of_apart :
      (nearest value.toInt = nearest limit.toInt → value.toInt = limit.toInt) →
        ((comparison relation (.integer limit)).Accepts (.integer value) ↔
          relation.Requires value.toInt limit.toInt) := by
    intro apart
    rw [accepts_comparison_iff isNumeric]
    exact relation.requires_nearest_iff apart
  refine ⟨accepts_comparison_iff isNumeric, exact_of_apart, ?_⟩
  intro isSmall
  apply exact_of_apart
  intro same
  rcases isSmall with valueSmall | limitSmall
  · exact (Number.eq_of_nearest_eq_nearest valueSmall same.symm).symm
  · exact Number.eq_of_nearest_eq_nearest limitSmall same

theorem restrictsIntegers
    {least most : Float} {low high : Int}
    (isLow : Number.value? least = some (low : ℚ))
    (isHigh : Number.value? most = some (high : ℚ)) (value : Int64) :
    RestrictsIntegers least most low high value where
  accepts_iff := accepts_range_iff isLow isHigh
  accepts_of_between := by
    intro atLeast atMost
    rw [accepts_range_iff isLow isHigh]
    exact
      ⟨Number.le_nearest_of_le (Number.isRepresentable_of_value isLow) atLeast,
        Number.nearest_le_of_le (Number.isRepresentable_of_value isHigh) atMost⟩
  exact_of_small := by
    intro lowSmall highSmall
    rw [accepts_range_iff isLow isHigh, Number.le_nearest_iff lowSmall,
      Number.nearest_le_iff highSmall]

/-- Comparisons and ranges see the integers that others are rounded to.  They are exact below
`2 ^ 53`, a comparison also for all integers that are rounded to different ones, and a range
rejects nothing that is in it. -/
theorem integers_checked_rounded
    (value limit : Int64) {least most : Float} {low high : Int}
    (isLow : Number.value? least = some (low : ℚ))
    (isHigh : Number.value? most = some (high : ℚ)) :
    (∀ relation : Relation, relation.IsNumeric → ComparesIntegers relation value limit) ∧
      RestrictsIntegers least most low high value :=
  ⟨fun _ isNumeric => comparesIntegers isNumeric value limit,
    restrictsIntegers isLow isHigh value⟩

/-- The last limits that are always kept to. -/
theorem integers_checked_rounded_amounts :
    Number.value? (nearestFloat 1) = some ((1 : Int) : ℚ) ∧
      Number.value? (nearestFloat 9007199254740991) = some ((9007199254740991 : Int) : ℚ) ∧
      Relation.lessThanOrEqual.IsNumeric ∧
      ¬(comparison .lessThanOrEqual (.integer 9007199254740991)).Accepts
          (.integer 9007199254740992) ∧
      ¬(range (some (nearestFloat 1))
          (some (nearestFloat 9007199254740991))).Accepts (.integer 9007199254740992) := by
  have isLow : Number.value? (nearestFloat 1) = some ((1 : Int) : ℚ) :=
    Number.value?_nearestFloat 1
  have isHigh :
      Number.value? (nearestFloat 9007199254740991) =
        some ((9007199254740991 : Int) : ℚ) := by
    have isNearest : nearest (9007199254740991 : Int64).toInt = 9007199254740991 := by
      decide +kernel
    rw [Number.value?_nearestFloat, isNearest]
  have isNumeric : Relation.lessThanOrEqual.IsNumeric := ⟨nofun, nofun⟩
  obtain ⟨comparisons, range⟩ :=
    integers_checked_rounded 9007199254740992 9007199254740991 isLow isHigh
  refine ⟨isLow, isHigh, isNumeric, ?_, ?_⟩
  · rw [(comparisons _ isNumeric).exact_of_small (.inr (by decide +kernel))]
    decide +kernel
  · rw [range.exact_of_small (by decide) (by decide)]
    decide +kernel

/-- From `2 ^ 53` on, an integer can be accepted next to its limit. -/
theorem limit_passed_by_one :
    (¬(9007199254740993 : Int64).toInt ≤ (9007199254740992 : Int64).toInt ∧
        (comparison .lessThanOrEqual (.integer 9007199254740992)).Accepts
          (.integer 9007199254740993) ∧
        (comparison .equalTo (.integer 9007199254740992)).Accepts
          (.integer 9007199254740993)) ∧
      nearest 9007199254740996 = 9007199254740996 ∧
      ¬9007199254740996 ≤ (9007199254740995 : Int64).toInt ∧
      (range (some (nearestFloat 9007199254740996))
          (some (nearestFloat 9007199254740998))).Accepts (.integer 9007199254740995) := by
  decide +kernel

end Constraint

end FilterQuery
