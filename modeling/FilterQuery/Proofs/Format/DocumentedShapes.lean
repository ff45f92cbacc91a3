import FilterQuery.Proofs.Format.Calendar
import FilterQuery.Proofs.Text.Ascii
import FilterQuery.Proofs.Text.Runs
import Mathlib.Data.List.Count

/-!
# Documented shapes of dates and times

A date is documented as `YYYY-MM-DD`, a time as `hh:mm:ss` and both as `YYYY-MM-DD hh:mm:ss`.

* Every documented date and time is spelled as one that is read (`IsDocumentedDate.spellsDate`,
  `IsDocumentedTime.spellsTime`);
* a spelling without blanks and signs that is as long as the documented shape has this shape, since
  no part of it can be longer (`SpellsDate.isDocumentedDate`, `SpellsTime.isDocumentedTime`);
* `solidCount` counts the characters that are no blanks, which decides where a date ends and a time
  starts (`eq_of_spellings`).
-/

namespace FilterQuery

open FilterQuery.Text FilterQuery.Format

namespace Format

/-! ## Documented shapes -/

/-- Exactly so many digits. -/
def AreDigits (width : Nat) (digits : List Char) : Prop :=
  digits.length = width ∧ ∀ digit ∈ digits, digit.isDigit = true

/-- A day of the calendar, with four digits for the year and two for each of month and day. -/
def IsDocumentedDate (characters : List Char) : Prop :=
  ∃ year month day,
    AreDigits 4 year ∧ AreDigits 2 month ∧ AreDigits 2 day ∧
      IsDay (Digits.value year) (Digits.value month) (Digits.value day) ∧
      characters = year ++ '-' :: (month ++ '-' :: day)

/-- A time of the day, with two digits for each of hour, minute and second. -/
def IsDocumentedTime (characters : List Char) : Prop :=
  ∃ hour minute second,
    AreDigits 2 hour ∧ AreDigits 2 minute ∧ AreDigits 2 second ∧
      Digits.value hour < 24 ∧ Digits.value minute < 60 ∧ Digits.value second < 60 ∧
      characters = hour ++ ':' :: (minute ++ ':' :: second)

/-- A date, one space and a time. -/
def IsDocumentedDateTime (characters : List Char) : Prop :=
  ∃ date time, IsDocumentedDate date ∧ IsDocumentedTime time ∧ characters = date ++ ' ' :: time

/-- The text has no blank. -/
def HasNoBlank (characters : List Char) : Prop :=
  ∀ character ∈ characters, isBlank character = false

/-- The text does not start with a sign. -/
def IsUnsigned (characters : List Char) : Prop :=
  ∀ first ∈ characters.head?, first ∉ ['+', '-']

instance (characters : List Char) : Decidable (HasNoBlank characters) :=
  List.decidableBAll _ characters

instance (characters : List Char) : Decidable (IsUnsigned characters) :=
  Option.decidableForallMem characters.head?

section Shapes

variable {width : Nat} {characters field digits day rest : List Char} {year : Int}

theorem AreDigits.isRun (areDigits : AreDigits (width + 1) digits) : Digits.isRun digits = true := by
  cases digits with
  | nil => cases areDigits.1
  | cons first others => exact List.all_eq_true.mpr areDigits.2

theorem areDigits_of_isRun (isRun : Digits.isRun digits = true) : AreDigits digits.length digits := by
  rw [Digits.isRun, Bool.and_eq_true] at isRun
  exact ⟨rfl, List.all_eq_true.mp isRun.2⟩

theorem AreDigits.isNumber (areDigits : AreDigits (width + 1) digits) :
    IsNumber (width + 1) digits digits :=
  ⟨areDigits.isRun, Nat.le_of_eq areDigits.1, [], rfl, rfl⟩

theorem AreDigits.hasNoBlank (areDigits : AreDigits width digits) : HasNoBlank digits :=
  fun digit member => isBlank_of_isDigit (areDigits.2 digit member)

theorem AreDigits.isAscii (areDigits : AreDigits width digits) : IsAscii digits :=
  fun digit member => lt_of_isDigit (areDigits.2 digit member)

/-- Without blanks, a number is its digits. -/
theorem IsNumber.eq_digits (isNumber : IsNumber width field digits) (noBlank : HasNoBlank field) :
    field = digits := by
  obtain ⟨_, _, blanks, areBlanks, rfl⟩ := isNumber
  cases blanks with
  | nil => rfl
  | cons first others =>
      have isBlank := List.all_eq_true.mp areBlanks first List.mem_cons_self
      rw [noBlank first (by simp)] at isBlank
      cases isBlank

/-- How many characters are no blanks. -/
def solidCount (characters : List Char) : Nat := characters.countP (!isBlank ·)

theorem solidCount_append (first second : List Char) :
    solidCount (first ++ second) = solidCount first + solidCount second :=
  List.countP_append

theorem solidCount_cons {mark : Char} (notBlank : isBlank mark = false) (others : List Char) :
    solidCount (mark :: others) = solidCount others + 1 :=
  List.countP_cons_of_pos (by simp [notBlank])

theorem solidCount_eq_length (noBlank : HasNoBlank characters) :
    solidCount characters = characters.length := by
  rw [solidCount, List.countP_eq_length]
  intro character member
  rw [noBlank character member]
  rfl

theorem IsNumber.solidCount_eq (isNumber : IsNumber width field digits) :
    solidCount field = digits.length := by
  obtain ⟨isRun, _, blanks, areBlanks, rfl⟩ := isNumber
  have noCount : solidCount blanks = 0 := by
    rw [solidCount, List.countP_eq_zero]
    intro blank member
    rw [List.all_eq_true.mp areBlanks blank member]
    decide
  rw [solidCount_append, noCount, solidCount_eq_length (areDigits_of_isRun isRun).hasNoBlank,
    Nat.zero_add]

/-- A year that starts with neither a blank nor a sign has at most four digits, and nothing else. -/
theorem IsYear.exists_digits
    (isYear : IsYear field year)
    (notBlank : ∀ first ∈ (field ++ rest).head?, isBlank first = false)
    (unsigned : IsUnsigned (field ++ rest)) :
    ∃ digits,
      field = digits ∧ Digits.isRun digits = true ∧ digits.length ≤ 4 ∧
        year = Digits.value digits := by
  have noBlanks :
      ∀ {blanks others : List Char},
        blanks.all isBlank = true → field = blanks ++ others → blanks = [] := by
    intro blanks others areBlanks whole
    cases blanks with
    | nil => rfl
    | cons first later =>
        have isBlank := List.all_eq_true.mp areBlanks first List.mem_cons_self
        rw [notBlank first (by rw [whole]; rfl)] at isBlank
        cases isBlank
  cases isYear with
  | unsigned isNumber =>
      obtain ⟨isRun, short, blanks, areBlanks, rfl⟩ := isNumber
      obtain rfl := noBlanks areBlanks rfl
      exact ⟨_, rfl, isRun, short, rfl⟩
  | positive areBlanks isRun =>
      obtain rfl := noBlanks areBlanks rfl
      exact absurd (by decide) (unsigned '+' rfl)
  | negative areBlanks isRun =>
      obtain rfl := noBlanks areBlanks rfl
      exact absurd (by decide) (unsigned '-' rfl)

/-- Parts without blanks. -/
theorem hasNoBlank_marked {mark : Char} (notBlank : isBlank mark = false) :
    HasNoBlank (characters ++ mark :: rest) ↔ HasNoBlank characters ∧ HasNoBlank rest := by
  simp only [HasNoBlank, List.mem_append, List.mem_cons, or_imp, forall_and, forall_eq, notBlank,
    true_and]

theorem isAscii_marked {mark : Char} (markIsAscii : mark.toNat < 128)
    (first : IsAscii characters) (second : IsAscii rest) : IsAscii (characters ++ mark :: rest) :=
  List.forall_mem_append.mpr ⟨first, List.forall_mem_cons.mpr ⟨markIsAscii, second⟩⟩

/-- All characters but blanks are of ASCII. -/
def IsAsciiButBlanks (characters : List Char) : Prop :=
  ∀ character ∈ characters, isBlank character = false → character.toNat < 128

theorem IsAsciiButBlanks.isAscii
    (characterwise : IsAsciiButBlanks characters) (noBlank : HasNoBlank characters) :
    IsAscii characters :=
  fun character member => characterwise character member (noBlank character member)

theorem isAsciiButBlanks_append :
    IsAsciiButBlanks (characters ++ rest) ↔
      IsAsciiButBlanks characters ∧ IsAsciiButBlanks rest :=
  List.forall_mem_append

theorem isAsciiButBlanks_cons {mark : Char} (markIsAscii : mark.toNat < 128) :
    IsAsciiButBlanks (mark :: characters) ↔ IsAsciiButBlanks characters := by
  simp only [IsAsciiButBlanks, List.forall_mem_cons, markIsAscii, implies_true, true_and]

theorem isAsciiButBlanks_of_all {blanks : List Char} (areBlanks : blanks.all isBlank = true) :
    IsAsciiButBlanks blanks := by
  intro blank member notBlank
  rw [List.all_eq_true.mp areBlanks blank member] at notBlank
  cases notBlank

theorem isAsciiButBlanks_of_isRun (isRun : Digits.isRun digits = true) : IsAsciiButBlanks digits :=
  fun digit member _ => (areDigits_of_isRun isRun).isAscii digit member

theorem IsNumber.isAsciiButBlanks (isNumber : IsNumber width field digits) :
    IsAsciiButBlanks field := by
  obtain ⟨isRun, _, blanks, areBlanks, rfl⟩ := isNumber
  exact
    isAsciiButBlanks_append.mpr
      ⟨isAsciiButBlanks_of_all areBlanks, isAsciiButBlanks_of_isRun isRun⟩

theorem IsYear.isAsciiButBlanks (isYear : IsYear field year) : IsAsciiButBlanks field := by
  cases isYear with
  | unsigned isNumber => exact isNumber.isAsciiButBlanks
  | positive areBlanks isRun | negative areBlanks isRun =>
      rw [isAsciiButBlanks_append, isAsciiButBlanks_cons (by decide)]
      exact ⟨isAsciiButBlanks_of_all areBlanks, isAsciiButBlanks_of_isRun isRun⟩

end Shapes

/-! ## Dates -/

section Dates

variable {date day : List Char}

/-- A date that starts with neither a blank nor a sign has a year of at most four digits. -/
theorem SpellsDate.exists_year
    (spells : SpellsDate date day)
    (notBlank : ∀ first ∈ date.head?, isBlank first = false) (unsigned : IsUnsigned date) :
    ∃ year monthField month dayField,
      Digits.isRun year = true ∧ year.length ≤ 4 ∧ IsNumber 2 monthField month ∧
        IsNumber 2 dayField day ∧
        IsDay (Digits.value year) (Digits.value month) (Digits.value day) ∧
        date = year ++ '-' :: (monthField ++ '-' :: dayField) := by
  obtain ⟨yearField, year, monthField, month, dayField, isYear, isMonth, isDay, doesExist, rfl⟩ :=
    spells
  obtain ⟨digits, rfl, isRun, short, rfl⟩ := isYear.exists_digits notBlank unsigned
  exact
    ⟨_, _, _, _, isRun, short, isMonth, isDay, (dateExists_iff.mp doesExist).1, rfl⟩

theorem SpellsDate.solidCount_le
    (spells : SpellsDate date day)
    (notBlank : ∀ first ∈ date.head?, isBlank first = false) (unsigned : IsUnsigned date) :
    solidCount date ≤ 10 := by
  obtain ⟨year, monthField, month, dayField, isRun, short, isMonth, isDay, _, rfl⟩ :=
    spells.exists_year notBlank unsigned
  have yearCount := solidCount_eq_length (areDigits_of_isRun isRun).hasNoBlank
  rw [solidCount_append, solidCount_cons rfl, solidCount_append, solidCount_cons rfl, yearCount,
    isMonth.solidCount_eq, isDay.solidCount_eq]
  have monthShort := isMonth.2.1
  have dayShort := isDay.2.1
  omega

theorem SpellsDate.isAsciiButBlanks (spells : SpellsDate date day) : IsAsciiButBlanks date := by
  obtain ⟨yearField, year, monthField, month, dayField, isYear, isMonth, isDay, _, rfl⟩ := spells
  simp only [isAsciiButBlanks_append, isAsciiButBlanks_cons (show '-'.toNat < 128 by decide)]
  exact ⟨isYear.isAsciiButBlanks, isMonth.isAsciiButBlanks, isDay.isAsciiButBlanks⟩

/-- The last character of a date is a digit. -/
theorem SpellsDate.exists_last (spells : SpellsDate date day) :
    ∃ front last, date = front ++ [last] ∧ isBlank last = false := by
  obtain ⟨yearField, year, monthField, month, dayField, _, _, ⟨isRun, _, blanks, _, rfl⟩, _, rfl⟩ :=
    spells
  have areDigits := areDigits_of_isRun isRun
  rcases day.eq_nil_or_concat with rfl | ⟨front, last, rfl⟩
  · cases isRun
  · refine ⟨yearField ++ '-' :: (monthField ++ '-' :: (blanks ++ front)), last, by simp, ?_⟩
    exact areDigits.hasNoBlank last (by simp)

/-- A date without blanks and without a sign has the documented shape if it has the length of one. -/
theorem SpellsDate.isDocumentedDate
    (spells : SpellsDate date day) (noBlank : HasNoBlank date) (unsigned : IsUnsigned date)
    (full : date.length = 10) : IsDocumentedDate date := by
  have notBlank : ∀ first ∈ date.head?, isBlank first = false :=
    fun first isFirst => noBlank first (List.mem_of_mem_head? isFirst)
  obtain ⟨year, monthField, month, dayField, isRun, short, isMonth, isDay, doesExist, rfl⟩ :=
    spells.exists_year notBlank unsigned
  rw [hasNoBlank_marked rfl, hasNoBlank_marked rfl] at noBlank
  obtain rfl := isMonth.eq_digits noBlank.2.1
  obtain rfl := isDay.eq_digits noBlank.2.2
  obtain ⟨monthRun, monthShort, _⟩ := isMonth
  obtain ⟨dayRun, dayShort, _⟩ := isDay
  simp only [List.length_append, List.length_cons] at full
  have yearDigits := areDigits_of_isRun isRun
  have monthDigits := areDigits_of_isRun monthRun
  have dayDigits := areDigits_of_isRun dayRun
  rw [show year.length = 4 by omega] at yearDigits
  rw [show monthField.length = 2 by omega] at monthDigits
  rw [show dayField.length = 2 by omega] at dayDigits
  exact ⟨year, _, _, yearDigits, monthDigits, dayDigits, doesExist, rfl⟩

namespace IsDocumentedDate

theorem spellsDate (documented : IsDocumentedDate date) :
    ∃ day, day.length = 2 ∧ SpellsDate date day := by
  obtain ⟨year, month, day, yearDigits, monthDigits, dayDigits, doesExist, rfl⟩ := documented
  have yearBelow := Digits.value_lt_pow yearDigits.2
  rw [yearDigits.1] at yearBelow
  exact
    ⟨day, dayDigits.1, _, _, _, _, _, .unsigned yearDigits.isNumber, monthDigits.isNumber,
      dayDigits.isNumber, dateExists_iff.mpr ⟨doesExist, by omega, by omega⟩, rfl⟩

theorem length_eq (documented : IsDocumentedDate date) : date.length = 10 := by
  obtain ⟨year, month, day, yearDigits, monthDigits, dayDigits, _, rfl⟩ := documented
  simp only [List.length_append, List.length_cons, yearDigits.1, monthDigits.1, dayDigits.1]

theorem isAscii (documented : IsDocumentedDate date) : IsAscii date := by
  obtain ⟨year, month, day, yearDigits, monthDigits, dayDigits, _, rfl⟩ := documented
  exact
    isAscii_marked (by decide) yearDigits.isAscii
      (isAscii_marked (by decide) monthDigits.isAscii dayDigits.isAscii)

theorem hasNoBlank (documented : IsDocumentedDate date) : HasNoBlank date := by
  obtain ⟨year, month, day, yearDigits, monthDigits, dayDigits, _, rfl⟩ := documented
  rw [hasNoBlank_marked rfl, hasNoBlank_marked rfl]
  exact ⟨yearDigits.hasNoBlank, monthDigits.hasNoBlank, dayDigits.hasNoBlank⟩

theorem isUnsigned (documented : IsDocumentedDate date) : IsUnsigned date := by
  obtain ⟨year, month, day, yearDigits, _, _, _, rfl⟩ := documented
  cases year with
  | nil => cases yearDigits.1
  | cons first others =>
      rintro _ ⟨⟩ isSign
      have isDigit := yearDigits.2 first List.mem_cons_self
      simp only [List.mem_cons, List.not_mem_nil, or_false] at isSign
      rcases isSign with rfl | rfl <;> cases isDigit

end IsDocumentedDate

end Dates

/-! ## Times -/

section Times

variable {time second : List Char}

theorem SpellsTime.solidCount_le (spells : SpellsTime time) : solidCount time ≤ 8 := by
  obtain ⟨hourField, hour, minuteField, minute, secondField, second, isHour, isMinute, isSecond,
    _, _, _, rfl⟩ := spells
  rw [solidCount_append, solidCount_cons rfl, solidCount_append, solidCount_cons rfl,
    isHour.solidCount_eq, isMinute.solidCount_eq, isSecond.solidCount_eq]
  have hourShort := isHour.2.1
  have minuteShort := isMinute.2.1
  have secondShort := isSecond.2.1
  omega

theorem SpellsTime.isAsciiButBlanks (spells : SpellsTime time) : IsAsciiButBlanks time := by
  obtain ⟨hourField, hour, minuteField, minute, secondField, second, isHour, isMinute, isSecond,
    _, _, _, rfl⟩ := spells
  simp only [isAsciiButBlanks_append, isAsciiButBlanks_cons (show ':'.toNat < 128 by decide)]
  exact ⟨isHour.isAsciiButBlanks, isMinute.isAsciiButBlanks, isSecond.isAsciiButBlanks⟩

/-- Only one pair of digits denotes the second of a leap second. -/
theorem AreDigits.value_eq_sixty_iff (areDigits : AreDigits 2 second) :
    Digits.value second = 60 ↔ second = ['6', '0'] := by
  constructor
  · intro isSixty
    have written :=
      Digits.toDigits_value (List.ne_nil_of_length_eq_add_one areDigits.1) areDigits.2
    rw [isSixty] at written
    obtain ⟨tens, ones, rfl⟩ := List.length_eq_two.mp areDigits.1
    rw [Digits.withoutLeadingZeros] at written
    split at written
    · cases congrArg List.length written
    · exact written.symm
  · rintro rfl
    rfl

/-- A time without blanks has the documented shape if it has the length of one and is not at a leap
second. -/
theorem SpellsTime.isDocumentedTime
    (spells : SpellsTime time) (noBlank : HasNoBlank time) (full : time.length = 8)
    (noLeap : ¬[':', '6', '0'] <:+ time) : IsDocumentedTime time := by
  obtain ⟨hourField, hour, minuteField, minute, secondField, second, isHour, isMinute, isSecond,
    hourLe, minuteLe, secondLe, rfl⟩ := spells
  rw [hasNoBlank_marked rfl, hasNoBlank_marked rfl] at noBlank
  obtain rfl := isHour.eq_digits noBlank.1
  obtain rfl := isMinute.eq_digits noBlank.2.1
  obtain rfl := isSecond.eq_digits noBlank.2.2
  obtain ⟨hourRun, hourShort, _⟩ := isHour
  obtain ⟨minuteRun, minuteShort, _⟩ := isMinute
  obtain ⟨secondRun, secondShort, _⟩ := isSecond
  simp only [List.length_append, List.length_cons] at full
  have hourDigits := areDigits_of_isRun hourRun
  have minuteDigits := areDigits_of_isRun minuteRun
  have secondDigits := areDigits_of_isRun secondRun
  rw [show hourField.length = 2 by omega] at hourDigits
  rw [show minuteField.length = 2 by omega] at minuteDigits
  rw [show secondField.length = 2 by omega] at secondDigits
  have notSixty : Digits.value secondField ≠ 60 := by
    intro isSixty
    obtain rfl := secondDigits.value_eq_sixty_iff.mp isSixty
    exact noLeap ⟨hourField ++ ':' :: minuteField, by simp⟩
  exact
    ⟨_, _, _, hourDigits, minuteDigits, secondDigits, by omega, by omega, by omega, rfl⟩

namespace IsDocumentedTime

theorem spellsTime (documented : IsDocumentedTime time) : SpellsTime time := by
  obtain ⟨hour, minute, second, hourDigits, minuteDigits, secondDigits, hourLt, minuteLt, secondLt,
    rfl⟩ := documented
  exact
    ⟨_, _, _, _, _, _, hourDigits.isNumber, minuteDigits.isNumber, secondDigits.isNumber,
      by omega, by omega, by omega, rfl⟩

theorem length_eq (documented : IsDocumentedTime time) : time.length = 8 := by
  obtain ⟨hour, minute, second, hourDigits, minuteDigits, secondDigits, _, _, _, rfl⟩ := documented
  simp only [List.length_append, List.length_cons, hourDigits.1, minuteDigits.1, secondDigits.1]

theorem isAscii (documented : IsDocumentedTime time) : IsAscii time := by
  obtain ⟨hour, minute, second, hourDigits, minuteDigits, secondDigits, _, _, _, rfl⟩ := documented
  exact
    isAscii_marked (by decide) hourDigits.isAscii
      (isAscii_marked (by decide) minuteDigits.isAscii secondDigits.isAscii)

theorem hasNoBlank (documented : IsDocumentedTime time) : HasNoBlank time := by
  obtain ⟨hour, minute, second, hourDigits, minuteDigits, secondDigits, _, _, _, rfl⟩ := documented
  rw [hasNoBlank_marked rfl, hasNoBlank_marked rfl]
  exact ⟨hourDigits.hasNoBlank, minuteDigits.hasNoBlank, secondDigits.hasNoBlank⟩

/-- A documented time is not at a leap second, whatever stands before it. -/
theorem not_leap_suffix (documented : IsDocumentedTime time) (before : List Char) :
    ¬[':', '6', '0'] <:+ before ++ time := by
  obtain ⟨hour, minute, second, _, _, secondDigits, _, _, secondLt, rfl⟩ := documented
  rintro ⟨front, same⟩
  obtain ⟨tens, ones, rfl⟩ := List.length_eq_two.mp secondDigits.1
  have whole :
      front ++ [':', '6', '0'] =
        before ++ (hour ++ ':' :: minute) ++ [':', tens, ones] := by
    simpa using same
  cases (List.append_inj' whole rfl).2
  exact absurd secondLt (by decide)

end IsDocumentedTime

end Times

/-! ## Dates with times -/

section DatesWithTimes

variable {date time day first second : List Char}

/-- If a text without blanks, a space and another text without blanks are as long as the documented
shape, a date and a time in them are complete, so that they meet at the space. -/
theorem eq_of_spellings
    (spellsDate : SpellsDate date day) (spellsTime : SpellsTime time)
    (whole : date ++ time = first ++ ' ' :: second) (firstFull : first.length = 10)
    (secondFull : second.length = 8) (firstNoBlank : HasNoBlank first)
    (unsigned : IsUnsigned first) (secondNoBlank : HasNoBlank second) :
    date = first ∧ time = ' ' :: second := by
  -- Date and time together need all characters that are no blanks.
  have counts : solidCount date + solidCount time = 18 := by
    have spaceCount : solidCount (' ' :: second) = solidCount second :=
      List.countP_cons_of_neg (by decide)
    rw [← solidCount_append, whole, solidCount_append, spaceCount,
      solidCount_eq_length firstNoBlank, solidCount_eq_length secondNoBlank, firstFull, secondFull]
  have timeCount := spellsTime.solidCount_le
  have sameHead : ∀ character ∈ date.head?, character ∈ first.head? := by
    intro character isHead
    have nonempty : first ≠ [] := by
      rintro rfl
      cases firstFull
    have isFirst : (first ++ ' ' :: second).head? = first.head? :=
      List.head?_append_of_ne_nil first nonempty
    rw [← isFirst, ← whole, List.head?_append, isHead]
    rfl
  have dateCount : solidCount date ≤ 10 :=
    spellsDate.solidCount_le
      (fun character isHead =>
        firstNoBlank character (List.mem_of_mem_head? (sameHead character isHead)))
      (fun character isHead => unsigned character (sameHead character isHead))
  have same : date = first := by
    rcases List.append_eq_append_iff.mp whole with ⟨more, rfl, _⟩ | ⟨more, rfl, _⟩
    · have noBlank : HasNoBlank date := fun character member =>
        firstNoBlank character (List.mem_append_left _ member)
      rw [solidCount_eq_length noBlank] at dateCount counts
      rw [List.length_append] at firstFull
      rw [List.length_eq_zero_iff.mp (show more.length = 0 by omega), List.append_nil]
    · rw [solidCount_append, solidCount_eq_length firstNoBlank, firstFull] at dateCount
      obtain ⟨front, last, isLast, notBlank⟩ := spellsDate.exists_last
      rcases more.eq_nil_or_concat with rfl | ⟨others, final, rfl⟩
      · rw [List.append_nil]
      · rw [List.concat_eq_append, ← List.append_assoc] at isLast
        obtain ⟨_, isFinal⟩ := List.append_inj' isLast rfl
        cases isFinal
        rw [List.concat_eq_append, solidCount_append, solidCount_cons notBlank] at dateCount
        omega
  subst same
  exact ⟨rfl, List.append_cancel_left whole⟩

theorem IsDocumentedDateTime.not_leap_suffix
    {characters : List Char} (documented : IsDocumentedDateTime characters) :
    ¬[':', '6', '0'] <:+ characters := by
  obtain ⟨date, time, _, isTime, rfl⟩ := documented
  simpa using isTime.not_leap_suffix (date ++ [' '])

end DatesWithTimes

end Format

end FilterQuery
