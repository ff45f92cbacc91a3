import FilterQuery.Text.Digits

/-!
# Decimal digits, written and read

The decimal text of a number is a run of digits that denotes the number, so no
two numbers have the same text.
-/

namespace FilterQuery.Text.Digits

theorem toList_toString (number : Nat) :
    (toString number).toList = Nat.toDigits 10 number := by
  rw [Nat.toString_eq_repr]
  exact Nat.toList_repr

/-- Reading what was written. -/
theorem value_toDigits (number : Nat) :
    value (Nat.toDigits 10 number) = number := by
  have read := Nat.ofDigitChars_ten_toDigits (n := number)
  rw [Nat.ofDigitChars_eq_foldl] at read
  exact read

theorem isDigit_of_mem_toString
    {number : Nat} {digit : Char} (member : digit ∈ (toString number).toList) :
    digit.isDigit = true := by
  rw [toList_toString] at member
  exact Nat.isDigit_of_mem_toDigits (by decide) (by decide) member

theorem toList_toString_ne_nil (number : Nat) :
    (toString number).toList ≠ [] := by
  rw [toList_toString]
  exact Nat.toDigits_ne_nil

theorem toString_injective {left right : Nat}
    (same : toString left = toString right) : left = right := by
  have digits := congrArg (fun text => value text.toList) same
  simpa only [toList_toString, value_toDigits] using digits

/-- A run of digits has a first one, and no other characters. -/
theorem exists_digit_of_isRun {digits : List Char} (run : isRun digits = true) :
    ∃ first rest, digits = first :: rest ∧ ∀ digit ∈ digits, digit.isDigit = true := by
  rw [isRun, Bool.and_eq_true, Bool.not_eq_true', List.isEmpty_eq_false_iff] at run
  obtain ⟨first, rest, same⟩ := List.exists_cons_of_ne_nil run.1
  exact ⟨first, rest, same, List.all_eq_true.mp run.2⟩

theorem ne_of_isRun
    {digits rest : List Char} {mark : Char} (run : isRun digits = true)
    (noDigit : mark.isDigit = false) (others : List Char) : digits ++ rest ≠ mark :: others := by
  obtain ⟨first, later, rfl, areDigits⟩ := exists_digit_of_isRun run
  intro same
  have isDigit := areDigits first List.mem_cons_self
  rw [(List.cons.inj same).1, noDigit] at isDigit
  cases isDigit

/-- A run of digits ends where no digit follows. -/
theorem takeWhile_isDigit_append
    {digits rest : List Char}
    (run : ∀ digit ∈ digits, digit.isDigit = true)
    (ends : ∀ next ∈ rest.head?, next.isDigit = false) :
    (digits ++ rest).takeWhile Char.isDigit = digits ∧
      (digits ++ rest).dropWhile Char.isDigit = rest := by
  have stops :
      rest.takeWhile Char.isDigit = [] ∧
        rest.dropWhile Char.isDigit = rest := by
    cases rest with
    | nil =>
        exact ⟨rfl, rfl⟩
    | cons next others =>
        have noDigit : next.isDigit = false := ends next rfl
        simp [noDigit]
  constructor
  · rw [List.takeWhile_append_of_pos run, stops.1, List.append_nil]
  · rw [List.dropWhile_append_of_pos run, stops.2]

/-- A text that starts with a digit is the longest run there and what follows. -/
theorem exists_longest_run
    {digit : Char} (rest : List Char) (isDigit : digit.isDigit = true) :
    digit :: rest = (digit :: rest.takeWhile Char.isDigit) ++ rest.dropWhile Char.isDigit ∧
      (∀ each ∈ digit :: rest.takeWhile Char.isDigit, each.isDigit = true) ∧
      ∀ next ∈ (rest.dropWhile Char.isDigit).head?, next.isDigit = false := by
  refine ⟨?_, ?_, ?_⟩
  · rw [List.cons_append, List.takeWhile_append_dropWhile]
  · exact
      List.forall_mem_cons.mpr ⟨isDigit, List.all_eq_true.mp List.all_takeWhile⟩
  · intro next isNext
    have stopped := List.head?_dropWhile_not Char.isDigit rest
    rwa [isNext] at stopped

end FilterQuery.Text.Digits
