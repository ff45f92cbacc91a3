import FilterQuery.Format.Calendar
import FilterQuery.Proofs.Text.Digits
import FilterQuery.Proofs.Text.Blank
import Mathlib.Algebra.Order.Ring.Int
import Mathlib.Data.List.DropRight
import Mathlib.Tactic.IntervalCases

/-!
# How dates and times are spelled

What is read as a date or a time is a sequence of numbers with marks between them.  A number may
have blanks in front of it and fewer digits than it has room for, and a year may have a sign.

* `IsNumber` and `IsYear` are the numbers, `SpellsDate` and `SpellsTime` what is made of them;
* `date?_eq_some_iff` and `time?_eq_some_iff`: exactly these spellings are read;
* `IsDay` are the days of the Gregorian calendar, which decide whether a date exists.
-/

namespace FilterQuery.Format

open FilterQuery.Text

/-! ## The calendar -/

/-- Every fourth year has a day more, but of the full centuries only every fourth one. -/
def IsLeap (year : Int) : Prop := 4 ∣ year ∧ (100 ∣ year → 400 ∣ year)

instance (year : Int) : Decidable (IsLeap year) := inferInstanceAs (Decidable (_ ∧ _))

/-- The lengths of the months of a year, in their order. -/
def monthLengths (year : Int) : List Nat :=
  [31, if IsLeap year then 29 else 28, 31, 30, 31, 30, 31, 31, 30, 31, 30, 31]

/-- A day of the Gregorian calendar, which is extended to all years. -/
def IsDay (year : Int) (month day : Nat) : Prop :=
  1 ≤ month ∧ 1 ≤ day ∧ ∃ length ∈ (monthLengths year)[month - 1]?, day ≤ length

theorem isLeapYear_iff (year : Int) : isLeapYear year = true ↔ IsLeap year := by
  simp only [isLeapYear, IsLeap, Bool.and_eq_true, Bool.or_eq_true, beq_iff_eq, bne_iff_ne]
  omega

theorem getElem?_monthLengths
    {year : Int} {month : Nat} (atLeast : 1 ≤ month) (atMost : month ≤ 12) :
    (monthLengths year)[month - 1]? = some (daysInMonth year month) := by
  have february : (if IsLeap year then 29 else 28) = daysInMonth year 2 := by
    simp only [daysInMonth, isLeapYear_iff, if_true]
  interval_cases month
  · rfl
  · exact congrArg some february
  all_goals rfl

/-- The days that exist are those of the calendar, in the years that are supported. -/
theorem dateExists_iff {year : Int} {month day : Nat} :
    dateExists year month day = true ↔
      IsDay year month day ∧ -262143 ≤ year ∧ year ≤ 262142 := by
  simp only [dateExists, Bool.and_eq_true, decide_eq_true_eq, IsDay]
  constructor
  · rintro ⟨⟨⟨⟨⟨least, most⟩, atLeast⟩, atMost⟩, first⟩, last⟩
    exact ⟨⟨atLeast, first, _, getElem?_monthLengths atLeast atMost, last⟩, least, most⟩
  · rintro ⟨⟨atLeast, first, length, isLength, last⟩, least, most⟩
    have atMost : month ≤ 12 := by
      have bound := (List.getElem?_eq_some_iff.mp isLength).1
      simp only [monthLengths, List.length_cons, List.length_nil] at bound
      omega
    rw [getElem?_monthLengths atLeast atMost] at isLength
    cases isLength
    exact ⟨⟨⟨⟨⟨least, most⟩, atLeast⟩, atMost⟩, first⟩, last⟩

/-! ## Numbers -/

/-- The text starts with no digit. -/
def EndsDigits (rest : List Char) : Prop :=
  ∀ next ∈ rest.head?, next.isDigit = false

/-- A number of at most `width` digits, with blanks in front of it. -/
def IsNumber (width : Nat) (field digits : List Char) : Prop :=
  Digits.isRun digits = true ∧ digits.length ≤ width ∧
    ∃ blanks, blanks.all isBlank = true ∧ field = blanks ++ digits

/-- A year of at most four digits, or with a sign and any number of digits. -/
inductive IsYear : List Char → Int → Prop
  | unsigned {field digits : List Char} :
      IsNumber 4 field digits → IsYear field (Digits.value digits)
  | positive {blanks digits : List Char} :
      blanks.all isBlank = true → Digits.isRun digits = true →
        IsYear (blanks ++ '+' :: digits) (Digits.value digits)
  | negative {blanks digits : List Char} :
      blanks.all isBlank = true → Digits.isRun digits = true →
        IsYear (blanks ++ '-' :: digits) (-(Digits.value digits : Int))

section Numbers

variable {width number : Nat} {characters rest digits field : List Char} {year : Int}

theorem endsDigits_nil : EndsDigits [] := nofun

theorem takeWhile_eq_nil_of_endsDigits (ends : EndsDigits rest) :
    rest.takeWhile Char.isDigit = [] := by
  cases rest with
  | nil => rfl
  | cons next others => exact List.takeWhile_cons_of_neg (by simp [ends next rfl])

theorem EndsDigits.take (ends : EndsDigits rest) (count : Nat) : EndsDigits (rest.take count) := by
  intro next isNext
  cases count with
  | zero => cases isNext
  | succ count => exact ends next (by rwa [List.head?_take] at isNext)

theorem endsDigits_dropWhile (characters : List Char) :
    EndsDigits (characters.dropWhile Char.isDigit) := by
  intro next isNext
  have stopped := List.head?_dropWhile_not Char.isDigit characters
  rwa [isNext] at stopped

/-- As many digits are taken as there are and as there is room for. -/
theorem digits?_eq_some_iff :
    digits? width characters = some (number, rest) ↔
      ∃ digits,
        Digits.isRun digits = true ∧ digits.length ≤ width ∧
          (digits.length = width ∨ EndsDigits rest) ∧
          number = Digits.value digits ∧ characters = digits ++ rest := by
  unfold digits?
  constructor
  · intro read
    simp only at read
    split at read
    · cases read
    rename_i nonempty
    cases read
    have areDigits : ((characters.take width).takeWhile Char.isDigit).all Char.isDigit = true :=
      List.all_takeWhile
    have split := List.takeWhile_append_dropWhile (p := Char.isDigit) (l := characters.take width)
    have stops := endsDigits_dropWhile (characters.take width)
    generalize (characters.take width).takeWhile Char.isDigit = digits at *
    generalize (characters.take width).dropWhile Char.isDigit = others at *
    have whole : characters = digits ++ (others ++ characters.drop width) := by
      rw [← List.append_assoc, split, List.take_append_drop]
    have short : digits.length + others.length ≤ width := by
      rw [← List.length_append, split]
      exact List.length_take_le width characters
    have isRest : characters.drop digits.length = others ++ characters.drop width := by
      conv_lhs => rw [whole]
      exact List.drop_left
    refine ⟨digits, ?_, by omega, ?_, rfl, by rw [isRest]; exact whole⟩
    · rw [Digits.isRun, areDigits, Bool.and_true, Bool.not_eq_true', ← Bool.not_eq_true]
      exact nonempty
    · rw [isRest]
      cases others with
      | cons next later => exact .inr stops
      | nil =>
          have taken : digits.length = min width characters.length := by
            rw [← List.length_take, ← split, List.append_nil]
          by_cases isFull : width ≤ characters.length
          · exact .inl (by omega)
          · rw [List.nil_append, List.drop_of_length_le (by omega)]
            exact .inr endsDigits_nil
  · rintro ⟨digits, isRun, short, ends, rfl, rfl⟩
    rw [Digits.isRun, Bool.and_eq_true, Bool.not_eq_true', List.isEmpty_eq_false_iff] at isRun
    have others : (rest.take (width - digits.length)).takeWhile Char.isDigit = [] := by
      rcases ends with isFull | ends
      · rw [isFull, Nat.sub_self]
        rfl
      · exact takeWhile_eq_nil_of_endsDigits (ends.take _)
    have taken : ((digits ++ rest).take width).takeWhile Char.isDigit = digits := by
      rw [List.take_append, List.take_of_length_le short,
        List.takeWhile_append_of_pos (List.all_eq_true.mp isRun.2), others, List.append_nil]
    simp only [taken, List.isEmpty_eq_false_iff.mpr isRun.1, Bool.false_eq_true, if_false,
      List.drop_left]

theorem exists_blanks (characters : List Char) :
    ∃ blanks, blanks.all isBlank = true ∧ characters = blanks ++ trimStart characters :=
  ⟨characters.takeWhile isBlank, List.all_takeWhile, List.takeWhile_append_dropWhile.symm⟩

/-- Blanks in front of digits are dropped, and nothing else. -/
theorem trimStart_append_run
    {blanks : List Char} (areBlanks : blanks.all isBlank = true)
    (isRun : Digits.isRun digits = true) :
    trimStart (blanks ++ (digits ++ rest)) = digits ++ rest := by
  rw [trimStart_append areBlanks, (IsSolid.of_isRun isRun).trimStart_append]

theorem number?_eq_some_iff :
    number? width characters = some (number, rest) ↔
      ∃ field digits,
        IsNumber width field digits ∧ (digits.length = width ∨ EndsDigits rest) ∧
          number = Digits.value digits ∧ characters = field ++ rest := by
  rw [number?, digits?_eq_some_iff]
  constructor
  · rintro ⟨digits, isRun, short, ends, isValue, trimmed⟩
    obtain ⟨blanks, areBlanks, whole⟩ := exists_blanks characters
    refine ⟨blanks ++ digits, digits, ⟨isRun, short, blanks, areBlanks, rfl⟩, ends, isValue, ?_⟩
    rw [whole, trimmed, List.append_assoc]
  · rintro ⟨field, digits, ⟨isRun, short, blanks, areBlanks, rfl⟩, ends, isValue, rfl⟩
    refine ⟨digits, isRun, short, ends, isValue, ?_⟩
    rw [List.append_assoc, trimStart_append_run areBlanks isRun]

/-- A number is read up to a character that is no digit. -/
theorem number?_eq_some_iff_of_endsDigits (ends : EndsDigits rest) :
    number? width characters = some (number, rest) ↔
      ∃ field digits,
        IsNumber width field digits ∧ number = Digits.value digits ∧
          characters = field ++ rest := by
  rw [number?_eq_some_iff]
  simp only [ends, or_true, true_and]

theorem number?_trimStart : number? width (trimStart characters) = number? width characters := by
  unfold number? trimStart
  rw [List.dropWhile_idempotent]

theorem mark?_eq_some_iff {mark : Char} :
    mark? mark characters = some rest ↔ characters = mark :: rest := by
  cases characters with
  | nil => simp [mark?]
  | cons first others => simp [mark?, eq_comm]

/-- All digits are taken if there is room for the whole text. -/
theorem digits?_length_eq_some_iff (ends : EndsDigits rest) :
    digits? characters.length characters = some (number, rest) ↔
      ∃ digits,
        Digits.isRun digits = true ∧ number = Digits.value digits ∧ characters = digits ++ rest := by
  rw [digits?_eq_some_iff]
  constructor
  · rintro ⟨digits, isRun, _, _, isValue, whole⟩
    exact ⟨digits, isRun, isValue, whole⟩
  · rintro ⟨digits, isRun, isValue, rfl⟩
    exact ⟨digits, isRun, by simp, .inr ends, isValue, rfl⟩

/-- A year is read up to a character that is no digit. -/
theorem year?_eq_some_iff (ends : EndsDigits rest) :
    year? characters = some (year, rest) ↔
      ∃ field, IsYear field year ∧ characters = field ++ rest := by
  obtain ⟨blanks, areBlanks, whole⟩ := exists_blanks characters
  unfold year?
  constructor
  · intro read
    split at read
    · rename_i others isSigned
      obtain ⟨⟨number, after⟩, isNumber, same⟩ := Option.map_eq_some_iff.mp read
      cases same
      obtain ⟨digits, isRun, rfl, rfl⟩ := (digits?_length_eq_some_iff ends).mp isNumber
      exact ⟨_, .negative areBlanks isRun, by rw [whole, isSigned]; simp⟩
    · rename_i others isSigned
      obtain ⟨⟨number, after⟩, isNumber, same⟩ := Option.map_eq_some_iff.mp read
      cases same
      obtain ⟨digits, isRun, rfl, rfl⟩ := (digits?_length_eq_some_iff ends).mp isNumber
      exact ⟨_, .positive areBlanks isRun, by rw [whole, isSigned]; simp⟩
    · obtain ⟨⟨number, after⟩, isNumber, same⟩ := Option.map_eq_some_iff.mp read
      cases same
      obtain ⟨digits, isRun, short, _, rfl, trimmed⟩ := digits?_eq_some_iff.mp isNumber
      exact
        ⟨_, .unsigned ⟨isRun, short, blanks, areBlanks, rfl⟩,
          by rw [whole, trimmed, List.append_assoc]⟩
  · rintro ⟨field, isYear, rfl⟩
    cases isYear with
    | @unsigned field digits isNumber =>
        obtain ⟨isRun, short, before, areBefore, rfl⟩ := isNumber
        rw [List.append_assoc, trimStart_append_run areBefore isRun]
        split
        · rename_i isSigned
          exact absurd isSigned (Digits.ne_of_isRun isRun rfl _)
        · rename_i isSigned
          exact absurd isSigned (Digits.ne_of_isRun isRun rfl _)
        · rw [digits?_eq_some_iff.mpr ⟨digits, isRun, short, .inr ends, rfl, rfl⟩]
          rfl
    | @positive before digits areBefore isRun =>
        have isSigned : trimStart (before ++ '+' :: digits ++ rest) = '+' :: (digits ++ rest) := by
          rw [List.append_assoc, trimStart_append areBefore]
          rfl
        simp only [isSigned, (digits?_length_eq_some_iff ends).mpr ⟨digits, isRun, rfl, rfl⟩,
          Option.map_some]
    | @negative before digits areBefore isRun =>
        have isSigned : trimStart (before ++ '-' :: digits ++ rest) = '-' :: (digits ++ rest) := by
          rw [List.append_assoc, trimStart_append areBefore]
          rfl
        simp only [isSigned, (digits?_length_eq_some_iff ends).mpr ⟨digits, isRun, rfl, rfl⟩,
          Option.map_some]

theorem endsDigits_cons {mark : Char} (noDigit : mark.isDigit = false) (others : List Char) :
    EndsDigits (mark :: others) := by
  rintro next ⟨⟩
  exact noDigit

end Numbers

/-! ## Dates and times -/

/-- Year, month and day of a date that exists, with dashes between them. -/
def SpellsDate (characters dayDigits : List Char) : Prop :=
  ∃ yearField year monthField monthDigits dayField,
    IsYear yearField year ∧ IsNumber 2 monthField monthDigits ∧ IsNumber 2 dayField dayDigits ∧
      dateExists year (Digits.value monthDigits) (Digits.value dayDigits) = true ∧
      characters = yearField ++ '-' :: (monthField ++ '-' :: dayField)

/-- Hour, minute and second of a time, with colons between them. -/
def SpellsTime (characters : List Char) : Prop :=
  ∃ hourField hourDigits minuteField minuteDigits secondField secondDigits,
    IsNumber 2 hourField hourDigits ∧ IsNumber 2 minuteField minuteDigits ∧
      IsNumber 2 secondField secondDigits ∧
      Digits.value hourDigits ≤ 23 ∧ Digits.value minuteDigits ≤ 59 ∧
      Digits.value secondDigits ≤ 60 ∧
      characters = hourField ++ ':' :: (minuteField ++ ':' :: secondField)

section Spellings

variable {characters rest : List Char}

/-- A date is read off the front of a text; its day takes a second digit if there is one. -/
theorem date?_eq_some_iff :
    date? characters = some rest ↔
      ∃ date day,
        SpellsDate date day ∧ (day.length = 2 ∨ EndsDigits rest) ∧ characters = date ++ rest := by
  unfold date?
  constructor
  · intro read
    obtain ⟨⟨year, afterYear⟩, isYear, read⟩ := Option.bind_eq_some_iff.mp read
    obtain ⟨beforeMonth, isDash, read⟩ := Option.bind_eq_some_iff.mp read
    obtain ⟨⟨month, afterMonth⟩, isMonth, read⟩ := Option.bind_eq_some_iff.mp read
    obtain ⟨beforeDay, isSecondDash, read⟩ := Option.bind_eq_some_iff.mp read
    obtain ⟨⟨day, afterDay⟩, isDay, read⟩ := Option.bind_eq_some_iff.mp read
    dsimp only at *
    split at read
    · rename_i doesExist
      cases read
      rw [mark?_eq_some_iff] at isDash isSecondDash
      subst isDash isSecondDash
      obtain ⟨yearField, yearSpelled, rfl⟩ :=
        (year?_eq_some_iff (endsDigits_cons rfl _)).mp isYear
      obtain ⟨monthField, monthDigits, monthSpelled, rfl, rfl⟩ :=
        (number?_eq_some_iff_of_endsDigits (endsDigits_cons rfl _)).mp isMonth
      obtain ⟨dayField, dayDigits, daySpelled, ends, rfl, rfl⟩ := number?_eq_some_iff.mp isDay
      exact
        ⟨_, dayDigits, ⟨_, _, _, _, _, yearSpelled, monthSpelled, daySpelled, doesExist, rfl⟩,
          ends, by simp⟩
    · cases read
  · rintro ⟨_, dayDigits,
      ⟨yearField, year, monthField, monthDigits, dayField, isYear, isMonth, isDay, doesExist, rfl⟩,
      ends, rfl⟩
    simp only [List.append_assoc, List.cons_append]
    refine Option.bind_eq_some_iff.mpr
      ⟨_, (year?_eq_some_iff (endsDigits_cons rfl _)).mpr ⟨yearField, isYear, rfl⟩, ?_⟩
    refine Option.bind_eq_some_iff.mpr ⟨_, mark?_eq_some_iff.mpr rfl, ?_⟩
    refine Option.bind_eq_some_iff.mpr
      ⟨_, (number?_eq_some_iff_of_endsDigits (endsDigits_cons rfl _)).mpr
        ⟨monthField, monthDigits, isMonth, rfl, rfl⟩, ?_⟩
    refine Option.bind_eq_some_iff.mpr ⟨_, mark?_eq_some_iff.mpr rfl, ?_⟩
    refine Option.bind_eq_some_iff.mpr
      ⟨_, number?_eq_some_iff.mpr ⟨dayField, dayDigits, isDay, ends, rfl, rfl⟩, ?_⟩
    simp only [doesExist, if_true]

/-- Exactly the spellings of times are read as a time. -/
theorem time?_eq_some_iff : time? characters = some [] ↔ SpellsTime characters := by
  unfold time?
  constructor
  · intro read
    obtain ⟨⟨hour, afterHour⟩, isHour, read⟩ := Option.bind_eq_some_iff.mp read
    obtain ⟨beforeMinute, isColon, read⟩ := Option.bind_eq_some_iff.mp read
    obtain ⟨⟨minute, afterMinute⟩, isMinute, read⟩ := Option.bind_eq_some_iff.mp read
    obtain ⟨beforeSecond, isSecondColon, read⟩ := Option.bind_eq_some_iff.mp read
    obtain ⟨⟨second, afterSecond⟩, isSecond, read⟩ := Option.bind_eq_some_iff.mp read
    dsimp only at *
    split at read
    · rename_i doesExist
      cases read
      rw [mark?_eq_some_iff] at isColon isSecondColon
      subst isColon isSecondColon
      obtain ⟨hourField, hourDigits, hourSpelled, rfl, rfl⟩ :=
        (number?_eq_some_iff_of_endsDigits (endsDigits_cons rfl _)).mp isHour
      obtain ⟨minuteField, minuteDigits, minuteSpelled, rfl, rfl⟩ :=
        (number?_eq_some_iff_of_endsDigits (endsDigits_cons rfl _)).mp isMinute
      obtain ⟨secondField, secondDigits, secondSpelled, rfl, rfl⟩ :=
        (number?_eq_some_iff_of_endsDigits endsDigits_nil).mp isSecond
      simp only [timeExists, Bool.and_eq_true, decide_eq_true_eq] at doesExist
      obtain ⟨⟨hourLe, minuteLe⟩, secondLe⟩ := doesExist
      exact
        ⟨_, _, _, _, _, _, hourSpelled, minuteSpelled, secondSpelled, hourLe, minuteLe, secondLe,
          by simp⟩
    · cases read
  · rintro ⟨hourField, hourDigits, minuteField, minuteDigits, secondField, secondDigits, isHour,
      isMinute, isSecond, hourLe, minuteLe, secondLe, rfl⟩
    refine Option.bind_eq_some_iff.mpr
      ⟨_, (number?_eq_some_iff_of_endsDigits (endsDigits_cons rfl _)).mpr
        ⟨hourField, hourDigits, isHour, rfl, rfl⟩, ?_⟩
    refine Option.bind_eq_some_iff.mpr ⟨_, mark?_eq_some_iff.mpr rfl, ?_⟩
    refine Option.bind_eq_some_iff.mpr
      ⟨_, (number?_eq_some_iff_of_endsDigits (endsDigits_cons rfl _)).mpr
        ⟨minuteField, minuteDigits, isMinute, rfl, rfl⟩, ?_⟩
    refine Option.bind_eq_some_iff.mpr ⟨_, mark?_eq_some_iff.mpr rfl, ?_⟩
    refine Option.bind_eq_some_iff.mpr
      ⟨(_, []), (number?_eq_some_iff_of_endsDigits endsDigits_nil).mpr
        ⟨secondField, secondDigits, isSecond, rfl, (List.append_nil _).symm⟩, ?_⟩
    simp only [timeExists, hourLe, minuteLe, secondLe, decide_true, Bool.and_true, if_true]

/-- Blanks in front of a time do not matter. -/
theorem spellsTime_trimStart_iff : SpellsTime (trimStart characters) ↔ SpellsTime characters := by
  rw [← time?_eq_some_iff, ← time?_eq_some_iff, time?, time?, number?_trimStart]

theorem spellsTime_space_iff : SpellsTime (' ' :: characters) ↔ SpellsTime characters := by
  rw [← spellsTime_trimStart_iff, ← @spellsTime_trimStart_iff characters]
  rfl

end Spellings

end FilterQuery.Format
