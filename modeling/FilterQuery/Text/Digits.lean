/-!
# Decimal digits

Indexes, integers and bounds are written with the ASCII digits `0` to `9`.

* `value` is the number that a list of digits denotes;
* `read?` accepts a non-empty run of digits and nothing else;
* `spanDigits` cuts off the longest leading run of digits.

Numbers are read exactly, whatever their length; a reader with a bound
compares the exact number with it.
-/

namespace FilterQuery.Text.Digits

/-- The number denoted by one digit. -/
def digitValue (digit : Char) : Nat :=
  digit.toNat - '0'.toNat

/-- The number that a list of digits denotes, most significant digit first. -/
def value (digits : List Char) : Nat :=
  digits.foldl (fun total digit => 10 * total + digitValue digit) 0

/-- Whether the list is a non-empty run of digits. -/
def isRun (characters : List Char) : Bool :=
  !characters.isEmpty && characters.all Char.isDigit

/-- The number denoted by a non-empty run of digits. -/
def read? (characters : List Char) : Option Nat :=
  if isRun characters then some (value characters) else none

/-- The number denoted by a run of digits, provided that it is below `bound`. -/
def readBelow? (bound : Nat) (characters : List Char) : Option Nat :=
  (read? characters).filter (· < bound)

/-- Cut off the longest leading run of digits. -/
def spanDigits (characters : List Char) : List Char × List Char :=
  (characters.takeWhile Char.isDigit, characters.dropWhile Char.isDigit)

theorem spanDigits_append (characters : List Char) :
    (spanDigits characters).1 ++ (spanDigits characters).2 = characters :=
  List.takeWhile_append_dropWhile

/-- The bound of indexes, lengths and counts: they are below `2 ^ 64`. -/
def wordBound : Nat := 18446744073709551616

/-- The bound of the magnitude of signed integers: `2 ^ 63`. -/
def integerBound : Nat := 9223372036854775808

end FilterQuery.Text.Digits
