import FilterQuery.Proofs.Sql.Tests

/-!
# Where a test ends

No test goes on after the end of a plain test: the first blank or parenthesis
tells where the subject ends, and the predicate that follows a column is a fixed
one.
-/

namespace FilterQuery.Sql

/-! ## The first blank or parenthesis -/

/-- Whether a character ends the first word of a condition. -/
def endsWord (character : Char) : Bool :=
  character == ' ' || character == '('

/-- Texts are cut in the same way at the first character that ends a word. -/
theorem eq_of_append_endsWord
    {firstWord secondWord firstRest secondRest : List Char} {first second : Char}
    (firstInside : firstWord.any endsWord = false)
    (secondInside : secondWord.any endsWord = false)
    (firstEnds : endsWord first = true) (secondEnds : endsWord second = true)
    (same : firstWord ++ first :: firstRest = secondWord ++ second :: secondRest) :
    firstWord = secondWord ∧ first = second ∧ firstRest = secondRest := by
  induction firstWord generalizing secondWord with
  | nil =>
      cases secondWord with
      | nil =>
          cases same
          exact ⟨rfl, rfl, rfl⟩
      | cons character others =>
          cases same
          rw [List.any_cons, firstEnds] at secondInside
          cases secondInside
  | cons character others inductionHypothesis =>
      cases secondWord with
      | nil =>
          cases same
          rw [List.any_cons, secondEnds] at firstInside
          cases firstInside
      | cons secondCharacter secondOthers =>
          obtain ⟨sameCharacter, sameRest⟩ := List.cons.inj same
          rw [List.any_cons, Bool.or_eq_false_iff] at firstInside secondInside
          obtain ⟨sameWord, sameEnd, sameTail⟩ :=
            inductionHypothesis firstInside.2 secondInside.2 sameRest
          exact ⟨by rw [sameCharacter, sameWord], sameEnd, sameTail⟩

theorem endsWord_of_isColumn
    {column : String} (isColumn : IsColumn column) :
    column.toList.any endsWord = false := by
  rw [List.any_eq_false]
  intro character member
  have others := ne_of_isColumnCharacter (isColumn.characters character member)
  simp [endsWord, others.1, others.2.1]

theorem endsWord_of_call {word : String} (isCall : word ∈ ["LOWER", "REGEXP"]) :
    word.toList.any endsWord = false := by
  revert word
  decide

/-! ## Plain tests are not continued -/

variable {index other : Nat} {first second : Test}

theorem head_of_isOperand
    {operand : String} (isOperand : IsOperand index operand) :
    ∃ rest, operand.toList = ':' :: rest ∨ operand.toList = 'B' :: rest := by
  cases isOperand with
  | @plain name _ => exact ⟨name.toList, .inl String.toList_append⟩
  | @binary name _ =>
      exact ⟨"INARY ".toList ++ (placeholder name).toList, .inr (by simp)⟩
  | @binaryCall name _ =>
      exact ⟨"INARY(".toList ++ (placeholder name).toList ++ [')'], .inr (by simp)⟩

/-- A predicate of nothing is not the start of a longer one. -/
theorem predicate_ne_null_append
    {column : String} {negated : Bool} (secondTest : IsTest other second)
    (next : Char) (rest : List Char) :
    second.predicate.toList ≠
      (Test.null column negated).predicate.toList ++ next :: rest := by
  intro same
  cases secondTest with
  | null negatedToo _ =>
      cases negated <;> cases negatedToo <;>
        simp [Test.predicate, negation] at same
  | truth operator value _ =>
      cases operator <;> simp [Test.predicate, Operator.symbol] at same
  | comparison operator _ _ =>
      cases operator <;> simp [Test.predicate, Operator.symbol] at same
  | regexpCall negatedToo _ _ => simp [Test.predicate, Operator.symbol] at same
  | membership negatedToo _ _ _ =>
      cases negatedToo <;> simp [Test.predicate, negation] at same
  | like negatedToo dialect _ _ =>
      cases negatedToo <;> simp [Test.predicate, negation] at same
  | regexp negatedToo _ _ =>
      cases negatedToo <;> simp [Test.predicate, negation] at same

/-- A predicate of a truth value is not the start of a longer one. -/
theorem predicate_ne_truth_append
    {column : String} {operator : Operator} {value : Bool}
    (secondTest : IsTest other second) (next : Char) (rest : List Char) :
    second.predicate.toList ≠
      (Test.comparison column operator
          (if value then "1" else "0")).predicate.toList ++ next :: rest := by
  intro same
  cases secondTest with
  | null negatedToo _ =>
      cases operator <;> simp [Test.predicate, Operator.symbol] at same
  | truth operatorToo valueToo _ =>
      cases operator <;> cases operatorToo <;> cases value <;>
        cases valueToo <;> simp [Test.predicate, Operator.symbol] at same
  | @comparison _ operand operatorToo _ isOperand =>
      obtain ⟨tail, isHead⟩ := head_of_isOperand isOperand
      rcases isHead with isHead | isHead
      · cases operator <;> cases operatorToo <;> cases value <;>
          simp [Test.predicate, Operator.symbol, isHead] at same
      · cases operator <;> cases operatorToo <;> cases value <;>
          simp [Test.predicate, Operator.symbol, isHead] at same
  | regexpCall negatedToo _ _ =>
      cases operator <;> cases value <;> cases negatedToo <;>
        simp [Test.predicate, Operator.symbol] at same
  | membership negatedToo _ _ _ =>
      cases operator <;> cases negatedToo <;>
        simp [Test.predicate, Operator.symbol, negation] at same
  | like negatedToo dialect _ _ =>
      cases operator <;> cases negatedToo <;>
        simp [Test.predicate, Operator.symbol, negation] at same
  | regexp negatedToo _ _ =>
      cases operator <;> cases negatedToo <;>
        simp [Test.predicate, Operator.symbol, negation] at same

/-- A plain test is not the start of a longer one. -/
theorem text_ne_plain_append
    (plain : IsPlain first) (isColumn : IsColumn first.subject)
    (secondTest : IsTest other second) (next : Char) (rest : List Char) :
    second.text.toList ≠ first.text.toList ++ next :: rest := by
  intro same
  rw [first.text_append] at same
  rcases secondTest.isColumn_or_call with isColumnToo | isCall
  · have secondShape :
        second.text.toList =
          second.subject.toList ++ ' ' :: second.predicate.toList :=
      second.text_eq
    rw [secondShape] at same
    obtain ⟨_, _, samePredicate⟩ :=
      eq_of_append_endsWord (endsWord_of_isColumn isColumnToo)
        (endsWord_of_isColumn isColumn) rfl rfl same
    cases plain with
    | null column negated =>
        exact predicate_ne_null_append secondTest next rest samePredicate
    | truth column operator value =>
        exact predicate_ne_truth_append secondTest next rest samePredicate
  · obtain ⟨word, tail, isWord, shape⟩ := isCall
    rw [shape] at same
    obtain ⟨_, sameEnd, _⟩ :=
      eq_of_append_endsWord (endsWord_of_call isWord)
        (endsWord_of_isColumn isColumn) rfl rfl same
    cases sameEnd

end FilterQuery.Sql
