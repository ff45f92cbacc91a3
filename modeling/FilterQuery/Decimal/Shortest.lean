/-!
# Shortest decimals

A finite binary floating-point number is written with the fewest decimal
digits that read back as the same number, and with the nearest digits among
those.

* `Binary` is a magnitude `significand * 2 ^ exponent`, decoded from the bits;
* `Binary.holds` says exactly which decimals read back as it: those between
  the midpoints to its neighbours, midpoints included when the significand is
  even;
* `Binary.shortest` tries grids of one, two, up to seventeen digits, and on
  each grid only the two neighbours of the number.

All arithmetic is on natural numbers, with no rounding.
-/

namespace FilterQuery.Decimal

/-- Which of two equally close candidates is taken. -/
inductive Tie where
  | even
  | up
  deriving DecidableEq, Repr

/-- A decimal magnitude `digits * 10 ^ exponent`. -/
structure Magnitude where
  digits : Nat
  exponent : Int
  deriving DecidableEq, Repr

/-- A positive binary magnitude `significand * 2 ^ exponent`; `narrow` says that
the next smaller number is only half as far away as the next larger one. -/
structure Binary where
  significand : Nat
  exponent : Int
  narrow : Bool
  deriving DecidableEq, Repr

namespace Binary

/-- The leading bit of a significand: `2 ^ 52`. -/
def leadingBit : Nat := 4503599627370496

/-- The magnitude of a finite number, from its bits. -/
def ofBits (bits : UInt64) : Binary :=
  let pattern : Nat := bits.toNat
  let fraction : Nat := pattern % leadingBit
  let biased : Nat := pattern / leadingBit % 2048
  if biased = 0 then
    ⟨fraction, -1074, false⟩
  else
    ⟨leadingBit + fraction, (biased : Int) - 1075, fraction == 0 && biased > 1⟩

/-- The fraction `numerator / denominator` of a quarter of the last place. -/
def quarter (number : Binary) : Nat × Nat :=
  let exponent := number.exponent - 2
  (Nat.pow 2 exponent.toNat, Nat.pow 2 (-exponent).toNat)

/-- Whether the decimal `candidate * 10 ^ exponent` reads back as the number. -/
def holds
    (number : Binary) (candidate : Nat) (exponent : Int) : Bool :=
  let (numerator, denominator) := number.quarter
  let scaled := candidate * Nat.pow 10 exponent.toNat * denominator
  let unit := Nat.pow 10 (-exponent).toNat * numerator
  let middle := 4 * number.significand
  let lower := (middle - if number.narrow then 1 else 2) * unit
  let upper := (middle + 2) * unit
  if number.significand % 2 = 0 then
    lower ≤ scaled && scaled ≤ upper
  else
    lower < scaled && scaled < upper

/-- The number of decimal digits before the point, counted from the point:
`n` means `10 ^ (n - 1) ≤ number < 10 ^ n`. -/
def pointPosition (number : Binary) : Int :=
  let (numerator, denominator) := number.quarter
  let scaled := 4 * number.significand * numerator * Nat.pow 10 400 / denominator
  ((Nat.toDigits 10 scaled).length : Int) - 400

/-- The nearest of the two neighbours on one grid that read back, if any. -/
def onGrid? (number : Binary) (tie : Tie) (exponent : Int) : Option Nat :=
  let (numerator, denominator) := number.quarter
  let value := 4 * number.significand * numerator * Nat.pow 10 (-exponent).toNat
  let unit := denominator * Nat.pow 10 exponent.toNat
  let below := value / unit
  let above := below + 1
  match number.holds below exponent, number.holds above exponent with
  | false, false => none
  | true, false => some below
  | false, true => some above
  | true, true =>
      let twice := 2 * (value % unit)
      if twice < unit then some below
      else if unit < twice then some above
      else
        match tie with
        | .up => some above
        | .even => if below % 2 = 0 then some below else some above

/-- Drop trailing zeros of the digits, raising the exponent instead. -/
def dropZeros (fuel digits : Nat) (exponent : Int) : Magnitude :=
  match fuel with
  | 0 => ⟨digits, exponent⟩
  | fuel + 1 =>
      if digits % 10 = 0 then dropZeros fuel (digits / 10) (exponent + 1)
      else ⟨digits, exponent⟩

/-- The shortest decimal that reads back as a positive number. -/
def shortest (number : Binary) (tie : Tie) : Magnitude :=
  let point := number.pointPosition
  let found := (List.range 17).findSome? fun (places : Nat) =>
    let exponent := point - (places : Int) - 1
    (number.onGrid? tie exponent).map fun digits =>
      dropZeros 18 digits exponent
  found.getD ⟨number.significand, number.exponent⟩

end Binary

end FilterQuery.Decimal
