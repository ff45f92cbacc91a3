import FilterQuery.Text.Digits

/-!
# Reading floating-point numbers

A decimal is read as the nearest floating-point number, ties to the even
significand; a magnitude that is too large becomes infinity.

* `nearest` rounds `digits * 10 ^ exponent`;
* `ofFixed` reads a whole part and a fraction, both runs of digits;
* `read?` reads the general form: a sign, digits with an optional point, an
  optional exponent, or the names of infinity and of the undefined number.
-/

namespace FilterQuery.Decimal

open FilterQuery.Text

/-- The number nearest to `digits * 10 ^ exponent`.  Exponents far outside the
range of floating-point numbers are answered without computing the power. -/
def nearest (digits : Nat) (exponent : Int) : Float :=
  if digits = 0 then 0
  else
    let point := ((Nat.toDigits 10 digits).length : Int) + exponent
    if point > 400 then 1 / 0
    else if point < -400 then 0
    else if 0 ≤ exponent then Float.ofScientific digits false exponent.toNat
    else Float.ofScientific digits true (-exponent).toNat

/-- The number written with a whole part, a point and a fraction. -/
def ofFixed (whole fraction : List Char) : Float :=
  nearest (Digits.value (whole ++ fraction)) (-(fraction.length : Int))

/-- An optional sign: whether it is a minus, and what follows. -/
def takeSign : List Char → Bool × List Char
  | '-' :: rest => (true, rest)
  | '+' :: rest => (false, rest)
  | rest => (false, rest)

/-- An exponent, which may be empty. -/
def readExponent? : List Char → Option Int
  | [] => some 0
  | mark :: rest =>
      if mark == 'e' || mark == 'E' then
        let (negative, digits) := takeSign rest
        (Digits.read? digits).map fun magnitude =>
          if negative then -(magnitude : Int) else magnitude
      else none

/-- A magnitude without a sign. -/
def readMagnitude? (characters : List Char) : Option Float :=
  let (whole, rest) := Digits.spanDigits characters
  let (fraction, rest) :=
    match rest with
    | '.' :: afterPoint => Digits.spanDigits afterPoint
    | other => ([], other)
  if whole.isEmpty && fraction.isEmpty then none
  else
    (readExponent? rest).map fun exponent =>
      nearest (Digits.value (whole ++ fraction))
        (exponent - (fraction.length : Int))

/-- Read a number in general form. -/
def read? (text : String) : Option Float :=
  let (negative, characters) := takeSign text.toList
  let name := String.ofList (characters.map Char.toLower)
  let magnitude :=
    if name == "inf" || name == "infinity" then some (1 / 0)
    else if name == "nan" then some (0 / 0)
    else readMagnitude? characters
  magnitude.map fun number => if negative then -number else number

end FilterQuery.Decimal
