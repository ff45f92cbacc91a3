import FilterQuery.Decimal.Reading
import FilterQuery.Format.Calendar
import FilterQuery.Toml.Quoted
import FilterQuery.Toml.Value

/-!
# Numbers, truth values and moments

Values without quotes are words, made of letters, digits and a few marks.

* Digits may be grouped by low lines, each between two digits;
* decimal integers have no leading zeros; integers in base 2, 8 or 16 have no sign;
* integers have 64 bits with sign, and a positive number that is too large to be a
  finite floating-point number is refused;
* a moment is a date, a time, or both, and then perhaps an offset.
-/

namespace FilterQuery.Toml

open FilterQuery.Text

/-- Whether a character may occur in a word. -/
def isWordCharacter (character : Char) : Bool :=
  character.isAlphanum || "+-._:".toList.contains character

/-! ## Integers -/

/-- The digits of a group, without the low lines between them; `afterDigit` says
whether a digit stands before the characters. -/
def ungroup (accepts : Char → Bool) (afterDigit : Bool) :
    List Char → Option (List Char)
  | [] => if afterDigit then some [] else none
  | character :: rest =>
      if character = '_' then
        if afterDigit then ungroup accepts false rest else none
      else if accepts character then
        (ungroup accepts true rest).map (character :: ·)
      else none

/-- Decimal digits, grouped. -/
def decimalDigits? (characters : List Char) : Option (List Char) :=
  ungroup Char.isDigit false characters

/-- Decimal digits, grouped and without leading zeros. -/
def wholeDigits? (characters : List Char) : Option (List Char) :=
  (decimalDigits? characters).filter fun digits =>
    digits.length == 1 || digits.head? != some '0'

/-- An integer of 64 bits. -/
def integer? (value : Int) : Option Value :=
  let bound : Int := Digits.integerBound
  if -bound ≤ value ∧ value < bound then some (.integer (Int64.ofInt value))
  else none

/-- An integer in a base other than ten. -/
def based? (base : Nat) (characters : List Char) : Option Value := do
  let digits ← ungroup (fun digit => (digitOf? base digit).isSome) false characters
  integer? (← numberOf? base digits)

def readInteger (word : List Char) : Option Value :=
  match word with
  | '0' :: 'x' :: digits => based? 16 digits
  | '0' :: 'o' :: digits => based? 8 digits
  | '0' :: 'b' :: digits => based? 2 digits
  | _ => do
      let (negative, characters) := Decimal.takeSign word
      let magnitude := Digits.value (← wholeDigits? characters)
      integer? (if negative then -magnitude else magnitude)

/-! ## Floating-point numbers -/

/-- The exponent at the end of a number. -/
def exponent? : List Char → Option Int
  | [] => some 0
  | mark :: rest =>
      if mark = 'e' || mark = 'E' then do
        let (negative, characters) := Decimal.takeSign rest
        let magnitude := Digits.value (← decimalDigits? characters)
        return if negative then -magnitude else magnitude
      else none

/-- The magnitude of a number: digits with a fraction or an exponent. -/
def magnitude? (characters : List Char) : Option Float := do
  let inGroup (character : Char) : Bool := character.isDigit || character = '_'
  let whole ← wholeDigits? (characters.takeWhile inGroup)
  match characters.dropWhile inGroup with
  | [] => none
  | '.' :: rest => do
      let fraction ← decimalDigits? (rest.takeWhile inGroup)
      let exponent ← exponent? (rest.dropWhile inGroup)
      return Decimal.nearest (Digits.value (whole ++ fraction))
        (exponent - (fraction.length : Int))
  | rest => do return Decimal.nearest (Digits.value whole) (← exponent? rest)

/-- A floating-point number, or the name of one. -/
def readFloat (word : List Char) : Option Value :=
  let (negative, characters) := Decimal.takeSign word
  let signed (number : Float) : Value :=
    .float (if negative then -number else number)
  match characters with
  | ['i', 'n', 'f'] => some (signed (1 / 0))
  | ['n', 'a', 'n'] => some (signed (0 / 0))
  | _ => do
      let number ← magnitude? characters
      if number.isInf && !negative then none else some (signed number)

/-! ## Moments -/

/-- Exactly two digits that denote a number up to a bound, and what follows. -/
def twoDigits? (least most : Nat) : List Char → Option (List Char × List Char)
  | first :: second :: rest =>
      if Digits.isRun [first, second] ∧ least ≤ Digits.value [first, second] ∧
          Digits.value [first, second] ≤ most then
        some ([first, second], rest)
      else none
  | _ => none

/-- A date at the front, as text. -/
def date? (characters : List Char) : Option (List Char × List Char) :=
  let year := characters.take 4
  match characters.drop 4 with
  | '-' :: rest => do
      let (month, rest) ← twoDigits? 1 12 rest
      match rest with
      | '-' :: rest => do
          let (day, rest) ← twoDigits? 1 31 rest
          if Digits.isRun year ∧ Digits.value day ≤
              Format.daysInMonth (Digits.value year) (Digits.value month) then
            return (year ++ '-' :: month ++ '-' :: day, rest)
          else none
      | _ => none
  | _ => none

/-- The fraction of a second, as text: at most nine digits count, and zeros at the
end do not show. -/
def fractionText (digits : List Char) : List Char :=
  match ((digits.take 9).reverse.dropWhile (· == '0')).reverse with
  | [] => []
  | shown => '.' :: shown

/-- The fraction of a second at the front, if there is one. -/
def fraction? : List Char → Option (List Char × List Char)
  | '.' :: rest =>
      let (digits, after) := Digits.spanDigits rest
      if digits.isEmpty then none else some (fractionText digits, after)
  | rest => some ([], rest)

/-- A time at the front, as text. -/
def time? (characters : List Char) : Option (List Char × List Char) := do
  let (hour, rest) ← twoDigits? 0 23 characters
  match rest with
  | ':' :: rest => do
      let (minute, rest) ← twoDigits? 0 59 rest
      match rest with
      | ':' :: rest => do
          let (second, rest) ← twoDigits? 0 60 rest
          let (fraction, rest) ← fraction? rest
          return (hour ++ ':' :: minute ++ ':' :: second ++ fraction, rest)
      | _ => none
  | _ => none

def offset? : List Char → Option (List Char)
  | [] => some []
  | ['Z'] | ['z'] => some ['Z']
  | sign :: rest =>
      if sign = '+' || sign = '-' then do
        let (hour, rest) ← twoDigits? 0 23 rest
        match rest with
        | ':' :: rest => do
            let (minute, rest) ← twoDigits? 0 59 rest
            let isZero := Digits.value (hour ++ minute) = 0
            if rest.isEmpty then
              return (if isZero then '+' else sign) :: hour ++ ':' :: minute
            else none
        | _ => none
      else none

/-- A time with an optional offset, after a date. -/
def timeWithOffset? (characters : List Char) : Option (List Char) := do
  let (time, rest) ← time? characters
  return time ++ (← offset? rest)

/-- A moment: a date, a time, or both. -/
def readMoment (word : List Char) : Option Value :=
  let found : Option (List Char) :=
    match date? word with
    | some (date, []) => some date
    | some (date, mark :: rest) =>
        if mark = 'T' || mark = 't' || mark = ' ' then
          (timeWithOffset? rest).map (date ++ 'T' :: ·)
        else none
    | none =>
        match time? word with
        | some (time, []) => some time
        | _ => none
  found.map fun text => .moment (String.ofList text)

/-! ## Words -/

def readWord (word : List Char) : Option Value :=
  if word = "true".toList then some (.boolean true)
  else if word = "false".toList then some (.boolean false)
  else (readInteger word).or ((readFloat word).or (readMoment word))

/-- The word in front, and what follows.  A space belongs to the word if it stands
between a date and a digit. -/
def takeWord (characters : List Char) : List Char × List Char :=
  let word := characters.takeWhile isWordCharacter
  let rest := characters.dropWhile isWordCharacter
  match date? word, rest with
  | some (_, []), ' ' :: digit :: after =>
      if digit.isDigit then
        let following := digit :: after
        (word ++ ' ' :: following.takeWhile isWordCharacter,
          following.dropWhile isWordCharacter)
      else (word, rest)
  | _, _ => (word, rest)

/-- A value without quotes at the front. -/
def readScalar (characters : List Char) : Option (Value × List Char) :=
  let (word, rest) := takeWord characters
  (readWord word).map fun value => (value, rest)

end FilterQuery.Toml
