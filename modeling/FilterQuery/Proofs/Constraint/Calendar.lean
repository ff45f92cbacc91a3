import FilterQuery.Constraint.Check
import FilterQuery.Proofs.Format.DocumentedShapes

/-!
# Calendar constraints

The constraints on dates and times are meant for the documented shapes.  What they accept can be
longer or shorter in its parts, as long as the whole text has the length of the documented shape:
blanks can make up for digits that are missing, and a sign for one.

* `calendar_accepted_by_length` says what is accepted, and that the documented shapes are those
  accepted texts that have no blank other than the one between date and time, and no sign;
* `padded_shapes_accepted`: there are others.
-/

namespace FilterQuery

open FilterQuery.Text FilterQuery.Format

/-! ## Constraints -/

namespace Constraint

variable {text : String}

theorem accepts_textFormat_iff {format : TextFormat} :
    (textFormat format).Accepts (.string text) ↔ format.accepts text = true := by
  simp only [Accepts, violation?, Value.isNull, Bool.false_eq_true, if_false, presentViolation?,
    Value.string?, Option.any_some, messageUnless_eq_none_iff]

theorem endsInLeapSecond_iff {characters : List Char} :
    endsInLeapSecond characters = true ↔ [':', '6', '0'] <:+ characters :=
  List.isSuffixOf_iff_suffix

theorem accepts_date_iff :
    (textFormat .date).Accepts (.string text) ↔
      text.utf8ByteSize = 10 ∧ ∃ day, SpellsDate text.toList day := by
  rw [accepts_textFormat_iff, TextFormat.accepts, isDate, Bool.and_eq_true, beq_iff_eq, beq_iff_eq,
    date?_eq_some_iff]
  simp only [List.append_nil, endsDigits_nil, or_true, true_and, exists_eq_right', exists_comm]

theorem accepts_time_iff :
    (textFormat .time).Accepts (.string text) ↔
      text.utf8ByteSize = 8 ∧ ¬[':', '6', '0'] <:+ text.toList ∧ SpellsTime text.toList := by
  rw [accepts_textFormat_iff, TextFormat.accepts, isTime, Bool.and_eq_true, Bool.and_eq_true,
    beq_iff_eq, beq_iff_eq, Bool.not_eq_true', ← Bool.not_eq_true, endsInLeapSecond_iff,
    time?_eq_some_iff, and_assoc]

theorem accepts_dateTime_iff :
    (textFormat .dateTime).Accepts (.string text) ↔
      text.utf8ByteSize = 19 ∧ ¬[':', '6', '0'] <:+ text.toList ∧
        ∃ date day time,
          SpellsDate date day ∧ SpellsTime time ∧ (day.length = 2 ∨ EndsDigits time) ∧
            text.toList = date ++ time := by
  rw [accepts_textFormat_iff, TextFormat.accepts, isDateTime, Bool.and_eq_true, Bool.and_eq_true,
    beq_iff_eq, beq_iff_eq, Bool.not_eq_true', ← Bool.not_eq_true, endsInLeapSecond_iff,
    Option.bind_eq_some_iff, and_assoc]
  simp only [time?_eq_some_iff, spellsTime_trimStart_iff, date?_eq_some_iff]
  constructor
  · rintro ⟨size, noLeap, time, ⟨date, day, isDate, ends, whole⟩, isTime⟩
    exact ⟨size, noLeap, date, day, time, isDate, isTime, ends, whole⟩
  · rintro ⟨size, noLeap, date, day, time, isDate, isTime, ends, whole⟩
    exact ⟨size, noLeap, time, ⟨date, day, isDate, ends, whole⟩, isTime⟩

/-- The documented dates are the accepted ones that have neither a blank nor a sign. -/
theorem documented_date_iff :
    IsDocumentedDate text.toList ↔
      (textFormat .date).Accepts (.string text) ∧
        HasNoBlank text.toList ∧ IsUnsigned text.toList := by
  rw [accepts_date_iff]
  constructor
  · intro documented
    obtain ⟨day, _, spells⟩ := documented.spellsDate
    have size := utf8ByteSize_ofList documented.isAscii
    rw [String.ofList_toList, documented.length_eq] at size
    exact ⟨⟨size, day, spells⟩, documented.hasNoBlank, documented.isUnsigned⟩
  · rintro ⟨⟨size, day, spells⟩, noBlank, unsigned⟩
    have length := utf8ByteSize_ofList (spells.isAsciiButBlanks.isAscii noBlank)
    rw [String.ofList_toList, size] at length
    exact spells.isDocumentedDate noBlank unsigned length.symm

/-- The documented times are the accepted ones that have no blank. -/
theorem documented_time_iff :
    IsDocumentedTime text.toList ↔
      (textFormat .time).Accepts (.string text) ∧ HasNoBlank text.toList := by
  rw [accepts_time_iff]
  constructor
  · intro documented
    have size := utf8ByteSize_ofList documented.isAscii
    rw [String.ofList_toList, documented.length_eq] at size
    exact ⟨⟨size, documented.not_leap_suffix [], documented.spellsTime⟩, documented.hasNoBlank⟩
  · rintro ⟨⟨size, noLeap, spells⟩, noBlank⟩
    have length := utf8ByteSize_ofList (spells.isAsciiButBlanks.isAscii noBlank)
    rw [String.ofList_toList, size] at length
    exact spells.isDocumentedTime noBlank length.symm noLeap

/-- A documented date with a time is an accepted one that has a single blank, a space after ten
characters, and no sign. -/
theorem documented_dateTime_iff :
    IsDocumentedDateTime text.toList ↔
      (textFormat .dateTime).Accepts (.string text) ∧
        ∃ first second,
          text.toList = first ++ ' ' :: second ∧ first.length = 10 ∧ HasNoBlank first ∧
            IsUnsigned first ∧ HasNoBlank second := by
  rw [accepts_dateTime_iff]
  constructor
  · intro documented
    have noLeap := documented.not_leap_suffix
    obtain ⟨date, time, isDate, isTime, whole⟩ := documented
    obtain ⟨day, isFull, spellsDate⟩ := isDate.spellsDate
    have size :=
      utf8ByteSize_ofList
        (isAscii_marked (show ' '.toNat < 128 by decide) isDate.isAscii isTime.isAscii)
    rw [← whole, String.ofList_toList, whole, List.length_append, List.length_cons,
      isDate.length_eq, isTime.length_eq] at size
    have spellsTime : SpellsTime (' ' :: time) := spellsTime_space_iff.mpr isTime.spellsTime
    exact
      ⟨⟨size, noLeap, date, day, ' ' :: time, spellsDate, spellsTime, .inl isFull, whole⟩, date,
        time, whole, isDate.length_eq, isDate.hasNoBlank, isDate.isUnsigned, isTime.hasNoBlank⟩
  · rintro ⟨⟨size, noLeap, date, day, time, spellsDate, spellsTime, _, isSpelled⟩, first, second,
      whole, firstFull, firstNoBlank, unsigned, secondNoBlank⟩
    have isAscii : IsAscii (first ++ ' ' :: second) := by
      have characterwise : IsAsciiButBlanks (first ++ ' ' :: second) := by
        rw [← whole, isSpelled]
        exact isAsciiButBlanks_append.mpr ⟨spellsDate.isAsciiButBlanks, spellsTime.isAsciiButBlanks⟩
      rw [isAsciiButBlanks_append, isAsciiButBlanks_cons (by decide)] at characterwise
      exact
        isAscii_marked (by decide) (characterwise.1.isAscii firstNoBlank)
          (characterwise.2.isAscii secondNoBlank)
    have length := utf8ByteSize_ofList isAscii
    rw [← whole, String.ofList_toList, size, whole, List.length_append, List.length_cons,
      firstFull] at length
    have secondFull : second.length = 8 := by omega
    obtain ⟨rfl, rfl⟩ :=
      eq_of_spellings spellsDate spellsTime (isSpelled.symm.trans whole) firstFull secondFull
        firstNoBlank unsigned secondNoBlank
    have noLeapAfter : ¬[':', '6', '0'] <:+ second := by
      rintro ⟨front, rfl⟩
      exact noLeap ⟨date ++ ' ' :: front, by rw [whole]; simp⟩
    exact
      ⟨date, second, spellsDate.isDocumentedDate firstNoBlank unsigned firstFull,
        (spellsTime_space_iff.mp spellsTime).isDocumentedTime secondNoBlank secondFull noLeapAfter,
        whole⟩

/-- What the calendar constraints accept of a text. -/
structure ReadsCalendar (text : String) : Prop where
  accepts_date_iff :
    (textFormat .date).Accepts (.string text) ↔
      text.utf8ByteSize = 10 ∧ ∃ day, SpellsDate text.toList day
  accepts_time_iff :
    (textFormat .time).Accepts (.string text) ↔
      text.utf8ByteSize = 8 ∧ ¬[':', '6', '0'] <:+ text.toList ∧ SpellsTime text.toList
  accepts_dateTime_iff :
    (textFormat .dateTime).Accepts (.string text) ↔
      text.utf8ByteSize = 19 ∧ ¬[':', '6', '0'] <:+ text.toList ∧
        ∃ date day time,
          SpellsDate date day ∧ SpellsTime time ∧ (day.length = 2 ∨ EndsDigits time) ∧
            text.toList = date ++ time
  /-- The documented dates are the accepted ones that have neither a blank nor a sign. -/
  documented_date_iff :
    IsDocumentedDate text.toList ↔
      (textFormat .date).Accepts (.string text) ∧
        HasNoBlank text.toList ∧ IsUnsigned text.toList
  /-- The documented times are the accepted ones that have no blank. -/
  documented_time_iff :
    IsDocumentedTime text.toList ↔
      (textFormat .time).Accepts (.string text) ∧ HasNoBlank text.toList
  /-- A documented date with a time is an accepted one that has a single blank, a space after ten
  characters, and no sign. -/
  documented_dateTime_iff :
    IsDocumentedDateTime text.toList ↔
      (textFormat .dateTime).Accepts (.string text) ∧
        ∃ first second,
          text.toList = first ++ ' ' :: second ∧ first.length = 10 ∧ HasNoBlank first ∧
            IsUnsigned first ∧ HasNoBlank second

/-- Dates and times are accepted by the length of the whole text, whatever fills it up.  Without
blanks and signs in them, they have the documented shapes. -/
theorem calendar_accepted_by_length (text : String) : ReadsCalendar text where
  accepts_date_iff := accepts_date_iff
  accepts_time_iff := accepts_time_iff
  accepts_dateTime_iff := accepts_dateTime_iff
  documented_date_iff := documented_date_iff
  documented_time_iff := documented_time_iff
  documented_dateTime_iff := documented_dateTime_iff

/-- Blanks make up for digits that are missing, and a sign for a digit of the year; a leap second is
accepted behind a blank, and any blank between date and time. -/
theorem padded_shapes_accepted :
    ((textFormat .date).Accepts (.string "2016- 1- 1") ∧
        ¬IsDocumentedDate "2016- 1- 1".toList) ∧
      ((textFormat .date).Accepts (.string "-001-01-01") ∧
        ¬IsDocumentedDate "-001-01-01".toList) ∧
      ((textFormat .time).Accepts (.string " 9:00:00") ∧
        ¬IsDocumentedTime " 9:00:00".toList) ∧
      ((textFormat .time).Accepts (.string "1:59: 60") ∧
        ¬IsDocumentedTime "1:59: 60".toList) ∧
      ((textFormat .dateTime).Accepts (.string "2016-01-01\t12:00:00") ∧
        ¬IsDocumentedDateTime "2016-01-01\t12:00:00".toList) := by
  obtain ⟨dateWithBlanks, dateWithSign, timeWithBlank, leapSecond, dateTimeWithTab⟩ :
      (textFormat .date).Accepts (.string "2016- 1- 1") ∧
        (textFormat .date).Accepts (.string "-001-01-01") ∧
        (textFormat .time).Accepts (.string " 9:00:00") ∧
        (textFormat .time).Accepts (.string "1:59: 60") ∧
        (textFormat .dateTime).Accepts (.string "2016-01-01\t12:00:00") := by
    decide +kernel
  refine
    ⟨⟨dateWithBlanks, ?_⟩, ⟨dateWithSign, ?_⟩, ⟨timeWithBlank, ?_⟩, ⟨leapSecond, ?_⟩,
      dateTimeWithTab, ?_⟩
  · intro documented
    exact absurd (documented_date_iff.mp documented).2.1 (by decide)
  · intro documented
    exact absurd (documented_date_iff.mp documented).2.2 (by decide)
  · intro documented
    exact absurd (documented_time_iff.mp documented).2 (by decide)
  · intro documented
    exact absurd (documented_time_iff.mp documented).2 (by decide)
  · rintro ⟨date, time, isDate, _, whole⟩
    have isSpace : "2016-01-01\t12:00:00".toList[10]? = some ' ' := by
      rw [whole, ← isDate.length_eq, List.getElem?_append_right (Nat.le_refl _), Nat.sub_self]
      rfl
    exact absurd isSpace (by decide)

end Constraint

end FilterQuery
