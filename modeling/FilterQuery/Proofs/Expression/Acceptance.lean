import FilterQuery.Proofs.Expression.Binding
import FilterQuery.Proofs.Text.Runs
import Mathlib.Algebra.Group.Nat.Defs

/-!
# Which expressions are accepted

A text is accepted when it is an expression whose numbers are below `2 ^ 64`.  Its
tokens, written out, are the text without leading zeros.

Phrases meet at parentheses and keywords, so that no run of digits goes on from one
phrase into the next: the numbers in a text are those of its index tokens
(`Spells.indexes_eq`).
-/

namespace FilterQuery.Expression

open FilterQuery.Text

/-- The text is an expression, whatever the size of its indexes. -/
def IsExpression (text : String) : Prop :=
  ∃ tokens, Spells .expression text.toList tokens

/-! ## Numbers in phrases -/

section Phrases

variable (inner left right : List Char) (operator : LogicalOperator)

theorem apart_parentheses :
    Digits.Apart ['('] (inner ++ [')']) ∧ Digits.Apart inner [')'] := by
  constructor
  · apply Digits.apart_of_getLast
    rintro last ⟨⟩
    decide
  · apply Digits.apart_of_head
    rintro next ⟨⟩
    decide

theorem apart_keyword :
    Digits.Apart left (operator.keyword.toList ++ right) ∧
      Digits.Apart operator.keyword.toList right := by
  constructor
  · apply Digits.apart_of_head
    cases operator <;>
      · rintro next ⟨⟩
        decide
  · apply Digits.apart_of_getLast
    cases operator <;>
      · rintro last ⟨⟩
        decide

theorem digitRuns_parentheses :
    Digits.digitRuns ('(' :: (inner ++ [')'])) = Digits.digitRuns inner := by
  obtain ⟨opening, closing⟩ := apart_parentheses inner
  have noRun : Digits.digitRuns ['('] = [] ∧ Digits.digitRuns [')'] = [] := by
    decide
  have whole := Digits.digitRuns_append opening
  rwa [Digits.digitRuns_append closing, noRun.1, noRun.2, List.nil_append,
    List.append_nil] at whole

theorem digitRuns_keyword :
    Digits.digitRuns (left ++ (operator.keyword.toList ++ right)) =
      Digits.digitRuns left ++ Digits.digitRuns right := by
  obtain ⟨before, after⟩ := apart_keyword left right operator
  have noRun : Digits.digitRuns operator.keyword.toList = [] := by
    cases operator <;> decide
  rw [Digits.digitRuns_append before, Digits.digitRuns_append after, noRun,
    List.nil_append]

theorem dropLeadingZeros_parentheses :
    Digits.dropLeadingZeros ('(' :: (inner ++ [')'])) =
      '(' :: (Digits.dropLeadingZeros inner ++ [')']) := by
  obtain ⟨opening, closing⟩ := apart_parentheses inner
  have same :
      Digits.dropLeadingZeros ['('] = ['('] ∧
        Digits.dropLeadingZeros [')'] = [')'] := by
    decide
  have whole := Digits.dropLeadingZeros_append opening
  rwa [Digits.dropLeadingZeros_append closing, same.1, same.2] at whole

theorem dropLeadingZeros_keyword :
    Digits.dropLeadingZeros (left ++ (operator.keyword.toList ++ right)) =
      Digits.dropLeadingZeros left ++
        (operator.keyword.toList ++ Digits.dropLeadingZeros right) := by
  obtain ⟨before, after⟩ := apart_keyword left right operator
  have same :
      Digits.dropLeadingZeros operator.keyword.toList =
        operator.keyword.toList := by
    cases operator <;> decide
  rw [Digits.dropLeadingZeros_append before,
    Digits.dropLeadingZeros_append after, same]

end Phrases

namespace Spells

variable {phrase : Phrase} {characters : List Char} {tokens : List Token}

/-- The indexes among the tokens are the numbers in the text. -/
theorem indexes_eq (spells : Spells phrase characters tokens) :
    tokens.filterMap Token.index? =
      (Digits.digitRuns characters).map Digits.value := by
  induction spells with
  | index nonempty isRun =>
      rw [Digits.digitRuns_run nonempty isRun]
      rfl
  | parentheses _ inductionHypothesis =>
      rw [digitRuns_parentheses, indexes_enclosed, inductionHypothesis]
  | term _ inductionHypothesis => exact inductionHypothesis
  | operation operator _ _ leftHypothesis rightHypothesis =>
      rw [digitRuns_keyword, List.map_append, ← leftHypothesis,
        ← rightHypothesis, List.filterMap_append, List.filterMap_cons_none rfl]

/-- The tokens are written as the text without leading zeros. -/
theorem written_eq (spells : Spells phrase characters tokens) :
    (tokens.flatMap fun token => token.text.toList) =
      Digits.dropLeadingZeros characters := by
  induction spells with
  | index nonempty isRun =>
      rw [Digits.dropLeadingZeros_run nonempty isRun,
        ← Digits.toDigits_value nonempty isRun, ← Digits.toList_toString]
      exact List.flatMap_singleton _ _
  | parentheses _ inductionHypothesis =>
      rw [dropLeadingZeros_parentheses, ← inductionHypothesis,
        List.flatMap_cons, List.flatMap_append]
      rfl
  | term _ inductionHypothesis => exact inductionHypothesis
  | operation operator _ _ leftHypothesis rightHypothesis =>
      rw [dropLeadingZeros_keyword, ← leftHypothesis, ← rightHypothesis,
        List.flatMap_append, List.flatMap_cons]
      rfl

end Spells

/-! ## Acceptance -/

theorem indexesBounded_iff {tokens : List Token} :
    IndexesBounded tokens ↔
      ∀ index ∈ tokens.filterMap Token.index?, index < Digits.wordBound := by
  constructor
  · intro bounded index member
    obtain ⟨token, isToken, isIndex⟩ := List.mem_filterMap.mp member
    cases token with
    | index value =>
        cases isIndex
        exact bounded index isToken
    | openParen => cases isIndex
    | closeParen => cases isIndex
    | operator logical => cases isIndex
  · intro bounded value member
    exact bounded value (List.mem_filterMap.mpr ⟨_, member, rfl⟩)

/-- Exactly the expressions are accepted whose numbers are below `2 ^ 64`.  Then the
tokens are written as the text without leading zeros. -/
theorem tokenize_accepts (text : String) :
    ((∃ tokens, tokenize text = .ok tokens) ↔
        IsExpression text ∧
          ∀ run ∈ Digits.digitRuns text.toList, Digits.value run < 2 ^ 64) ∧
      ∀ tokens,
        tokenize text = .ok tokens →
          String.join (tokens.map Token.text) =
            String.ofList (Digits.dropLeadingZeros text.toList) := by
  constructor
  · constructor
    · rintro ⟨tokens, accepted⟩
      obtain ⟨spells, bounded⟩ := tokenize_eq_ok_iff.mp accepted
      rw [indexesBounded_iff, spells.indexes_eq, List.forall_mem_map] at bounded
      exact ⟨⟨tokens, spells⟩, bounded⟩
    · rintro ⟨⟨tokens, spells⟩, bounded⟩
      have tokensBounded : IndexesBounded tokens := by
        rw [indexesBounded_iff, spells.indexes_eq, List.forall_mem_map]
        exact bounded
      exact ⟨tokens, tokenize_eq_ok_iff.mpr ⟨spells, tokensBounded⟩⟩
  · intro tokens accepted
    have written := (tokenize_eq_ok_iff.mp accepted).1.written_eq
    rw [← written, ← String.toList_inj, String.toList_join, List.flatMap_map,
      String.toList_ofList]

/-- Leading zeros do not count, neither for the bound nor in the tokens. -/
theorem tokenize_accepts_zeros :
    ∃ tokens,
      tokenize "(007xor0)and(018446744073709551615)" = .ok tokens ∧
        IsExpression "(007xor0)and(018446744073709551615)" ∧
        (∀ run ∈
            Digits.digitRuns "(007xor0)and(018446744073709551615)".toList,
          Digits.value run < 2 ^ 64) ∧
        String.join (tokens.map Token.text) =
          "(7xor0)and(18446744073709551615)" := by
  have computed :
      (tokenize "(007xor0)and(018446744073709551615)").toOption.isSome =
        true := by
    decide +kernel
  have dropped :
      String.ofList
          (Digits.dropLeadingZeros
            "(007xor0)and(018446744073709551615)".toList) =
        "(7xor0)and(18446744073709551615)" := by
    decide +kernel
  obtain ⟨tokens, accepted⟩ := Outcome.exists_eq_ok_of_isSome computed
  obtain ⟨accepts, writes⟩ :=
    tokenize_accepts "(007xor0)and(018446744073709551615)"
  obtain ⟨isExpression, bounded⟩ := accepts.mp ⟨tokens, accepted⟩
  exact
    ⟨tokens, accepted, isExpression, bounded,
      (writes tokens accepted).trans dropped⟩

end FilterQuery.Expression
