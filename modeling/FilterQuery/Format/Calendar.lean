import FilterQuery.Text.Blank
import FilterQuery.Text.Digits

/-!
# Dates and times

A date is written as year, month and day with dashes between them, a time as
hour, minute and second with colons between them.

* A number may follow blanks and has at least one digit; at most four digits of
  a year are taken and at most two of any other number, except that a year with
  a sign takes every digit;
* between a date and a time there may be any number of blanks;
* the date must exist in the Gregorian calendar, extended to all years, and the
  second may be a leap second;
* the whole text must have the length of the full spelling in bytes, and a time
  may not end in `:60`.
-/

namespace FilterQuery.Format

open FilterQuery.Text

/-! ## The calendar -/

/-- Whether a year of the Gregorian calendar has a day more. -/
def isLeapYear (year : Int) : Bool :=
  year % 4 == 0 && (year % 100 != 0 || year % 400 == 0)

def daysInMonth (year : Int) (month : Nat) : Nat :=
  if month = 2 then if isLeapYear year then 29 else 28
  else if month = 4 ∨ month = 6 ∨ month = 9 ∨ month = 11 then 30
  else 31

/-- Whether a date exists, in the years that are supported. -/
def dateExists (year : Int) (month day : Nat) : Bool :=
  -262143 ≤ year && year ≤ 262142 && 1 ≤ month && month ≤ 12 && 1 ≤ day &&
    day ≤ daysInMonth year month

/-- Whether a time exists; the second may be a leap second. -/
def timeExists (hour minute second : Nat) : Bool :=
  hour ≤ 23 && minute ≤ 59 && second ≤ 60

/-! ## Reading -/

/-- At least one and at most `width` digits. -/
def digits? (width : Nat) (characters : List Char) :
    Option (Nat × List Char) :=
  let taken := (characters.take width).takeWhile Char.isDigit
  if taken.isEmpty then none
  else some (Digits.value taken, characters.drop taken.length)

/-- A number after blanks. -/
def number? (width : Nat) (characters : List Char) :
    Option (Nat × List Char) :=
  digits? width (trimStart characters)

/-- A year after blanks. -/
def year? (characters : List Char) : Option (Int × List Char) :=
  match trimStart characters with
  | '-' :: rest =>
      (digits? rest.length rest).map fun (value, after) => (-(value : Int), after)
  | '+' :: rest =>
      (digits? rest.length rest).map fun (value, after) => ((value : Int), after)
  | rest => (digits? 4 rest).map fun (value, after) => ((value : Int), after)

/-- One given character. -/
def mark? (mark : Char) : List Char → Option (List Char)
  | [] => none
  | character :: rest => if character = mark then some rest else none

/-- An existing date, and the text after it. -/
def date? (characters : List Char) : Option (List Char) := do
  let (year, rest) ← year? characters
  let rest ← mark? '-' rest
  let (month, rest) ← number? 2 rest
  let rest ← mark? '-' rest
  let (day, rest) ← number? 2 rest
  if dateExists year month day then some rest else none

/-- An existing time, and the text after it. -/
def time? (characters : List Char) : Option (List Char) := do
  let (hour, rest) ← number? 2 characters
  let rest ← mark? ':' rest
  let (minute, rest) ← number? 2 rest
  let rest ← mark? ':' rest
  let (second, rest) ← number? 2 rest
  if timeExists hour minute second then some rest else none

/-- Whether a text ends in the spelling of a leap second. -/
def endsInLeapSecond (characters : List Char) : Bool :=
  [':', '6', '0'].isSuffixOf characters

def isDate (text : String) : Bool :=
  text.utf8ByteSize == 10 && date? text.toList == some []

def isTime (text : String) : Bool :=
  text.utf8ByteSize == 8 && !endsInLeapSecond text.toList &&
    time? text.toList == some []

def isDateTime (text : String) : Bool :=
  text.utf8ByteSize == 19 && !endsInLeapSecond text.toList &&
    (date? text.toList).bind (time? <| trimStart ·) == some []

end FilterQuery.Format
