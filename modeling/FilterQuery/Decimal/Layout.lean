import FilterQuery.Decimal.Shortest

/-!
# Layouts of floating-point numbers

The digits of a number come from `Binary.shortest`; a `Layout` says how they
are set: which magnitudes are written with an exponent, what a whole number
ends with, and how infinities and the undefined number are spelled.

* `Layout.text` sets any number;
* the layouts themselves stand beside the formats that use them.
-/

namespace FilterQuery.Decimal

/-- The decisions of one format of floating-point numbers. -/
structure Layout where
  /-- Which of two equally close decimals is taken. -/
  tie : Tie
  /-- The least and greatest power of ten of the leading digit that are
  written without an exponent; with no bounds every number is. -/
  positional : Option (Int × Int)
  /-- What a whole number written without an exponent ends with. -/
  wholeEnding : String
  /-- What stands before a positive exponent. -/
  exponentSign : String
  /-- The undefined number. -/
  undefined : String
  /-- Positive infinity. -/
  infinity : String
  /-- Negative infinity. -/
  negativeInfinity : String
  deriving Repr

namespace Layout

def zeros (count : Nat) : String :=
  String.ofList (List.replicate count '0')

/-- Digits without an exponent, `point` of them before the decimal point. -/
def positionalText
    (layout : Layout) (digits : String) (point : Int) : String :=
  if point ≤ 0 then
    "0." ++ zeros (-point).toNat ++ digits
  else if point.toNat < digits.length then
    String.ofList (digits.toList.take point.toNat) ++ "." ++
      String.ofList (digits.toList.drop point.toNat)
  else
    digits ++ zeros (point.toNat - digits.length) ++ layout.wholeEnding

/-- Digits with an exponent, one of them before the decimal point. -/
def exponentText
    (layout : Layout) (digits : String) (leading : Int) : String :=
  let first := String.ofList (digits.toList.take 1)
  let others := String.ofList (digits.toList.drop 1)
  let fraction := if others.isEmpty then "" else "." ++ others
  let sign := if 0 ≤ leading then layout.exponentSign else ""
  first ++ fraction ++ "e" ++ sign ++ toString leading

/-- A positive decimal, set. -/
def magnitudeText (layout : Layout) (magnitude : Magnitude) : String :=
  let digits := toString magnitude.digits
  let point := (digits.length : Int) + magnitude.exponent
  let leading := point - 1
  match layout.positional with
  | none => layout.positionalText digits point
  | some (least, greatest) =>
      if least ≤ leading && leading ≤ greatest then
        layout.positionalText digits point
      else
        layout.exponentText digits leading

/-- A number, set. -/
def text (layout : Layout) (number : Float) : String :=
  if number.isNaN then layout.undefined
  else if number.isInf then
    if number > 0 then layout.infinity else layout.negativeInfinity
  else
    let bits := number.toBits
    let sign := if bits ≥ 0x8000000000000000 then "-" else ""
    let binary := Binary.ofBits bits
    if binary.significand = 0 then
      sign ++ "0" ++ layout.wholeEnding
    else
      sign ++ layout.magnitudeText (binary.shortest layout.tie)

end Layout

end FilterQuery.Decimal
