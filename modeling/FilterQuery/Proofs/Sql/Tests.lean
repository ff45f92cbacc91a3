import FilterQuery.Proofs.Sql.Pieces

/-!
# Tests of a filter

`IsTest` says what the tests look like that a filter's condition is made of.

* Written out, a test is a subject, a blank and a predicate (`text_eq`), both of
  which are pieces;
* it opens with a column or the name of a function, so it is not mistaken for a
  parenthesis or a fixed word;
* a test without placeholders is plain: about nothing or about a truth value.
-/

namespace FilterQuery.Sql

/-- The tests of the filter with the index. -/
inductive IsTest (index : Nat) : Test → Prop where
  | null {column : String} (negated : Bool) :
      IsColumn column → IsTest index (.null column negated)
  | truth {column : String} (operator : Operator) (value : Bool) :
      IsColumn column →
        IsTest index (.comparison column operator (if value then "1" else "0"))
  | comparison {subject operand : String} (operator : Operator) :
      IsSubject subject → IsOperand index operand →
        IsTest index (.comparison subject operator operand)
  | regexpCall {column name : String} (negated : Bool) :
      IsColumn column → IsNameOf index name →
        IsTest index
          (.comparison ("REGEXP(" ++ column ++ ", " ++ placeholder name ++ ")")
            .equal (if negated then "0" else "1"))
  | membership {subject : String} {operands : List String} (negated : Bool) :
      IsSubject subject → operands ≠ [] →
        (∀ operand ∈ operands, IsOperand index operand) →
        IsTest index (.membership subject negated operands)
  | like {subject operand : String} (negated : Bool) (dialect : Dialect) :
      IsSubject subject → IsOperand index operand →
        IsTest index (.like subject negated operand dialect.likeEscape)
  | regexp {column operand : String} (negated : Bool) :
      IsColumn column → IsOperand index operand →
        IsTest index (.regexp column negated operand)

namespace Test

/-- What stands before the first blank that separates the parts of a test. -/
def subject : Test → String
  | .null column _ => column
  | .comparison subject _ _ => subject
  | .membership subject _ _ => subject
  | .like subject _ _ _ => subject
  | .regexp column _ _ => column

/-- What stands after it. -/
def predicate : Test → String
  | .null _ negated => "IS " ++ negation negated ++ "NULL"
  | .comparison _ operator operand => operator.symbol ++ " " ++ operand
  | .membership _ negated operands =>
      negation negated ++ "IN (" ++ ", ".intercalate operands ++ ")"
  | .like _ negated operand escape =>
      negation negated ++ "LIKE " ++ operand ++ " ESCAPE " ++ escape
  | .regexp _ negated operand => negation negated ++ "REGEXP " ++ operand

/-- A test is a subject, a blank and a predicate. -/
theorem text_eq (test : Test) :
    test.text.toList =
      test.subject.toList ++ ([' '] ++ test.predicate.toList) := by
  cases test <;> simp [text, subject, predicate]

theorem text_append (test : Test) (more : List Char) :
    test.text.toList ++ more =
      test.subject.toList ++ ' ' :: (test.predicate.toList ++ more) := by
  rw [text_eq]
  simp

end Test

variable {index : Nat} {test : Test}

namespace IsTest

/-! ## Tests are pieces -/

theorem isPiece_subject (isTest : IsTest index test) :
    IsPiece (IsNameOf index) test.subject.toList := by
  cases isTest with
  | null _ isColumn => exact isPiece_column isColumn
  | truth _ _ isColumn => exact isPiece_column isColumn
  | comparison _ isSubject _ => exact isPiece_of_isSubject isSubject
  | @regexpCall column name _ isColumn isName =>
      have shape :
          ("REGEXP(" ++ column ++ ", " ++ placeholder name ++ ")").toList =
            "REGEXP".toList ++
              '(' ::
                ((column.toList ++ ([',', ' '] ++ (placeholder name).toList)) ++
                  [')']) := by
        simp
      have arguments :
          IsPiece (IsNameOf index)
            (column.toList ++ ([',', ' '] ++ (placeholder name).toList)) :=
        IsPiece.append (isPiece_column isColumn) (isPiece_placeholder isName)
          (by decide)
      rw [Test.subject, shape]
      exact IsPiece.call (isPiece_of_isFixed (by decide)) arguments
  | membership _ isSubject _ _ => exact isPiece_of_isSubject isSubject
  | like _ _ isSubject _ => exact isPiece_of_isSubject isSubject
  | regexp _ isColumn _ => exact isPiece_column isColumn

/-- A word, a blank and an operand. -/
theorem isPiece_word_operand
    {word operand : String} (fixed : isFixed word.toList = true)
    (isOperand : IsOperand index operand) :
    IsPiece (IsNameOf index) (word.toList ++ ([' '] ++ operand.toList)) :=
  IsPiece.append (isPiece_of_isFixed fixed) (isPiece_of_isOperand isOperand)
    (by decide)

theorem isPiece_predicate (isTest : IsTest index test) :
    IsPiece (IsNameOf index) test.predicate.toList := by
  cases isTest with
  | null negated _ =>
      apply isPiece_of_isFixed
      simp only [Test.predicate]
      cases negated <;> decide
  | truth operator value _ =>
      apply isPiece_of_isFixed
      simp only [Test.predicate]
      cases operator <;> cases value <;> decide
  | @comparison _ operand operator _ isOperand =>
      have fixed : isFixed operator.symbol.toList = true := by
        cases operator <;> decide
      have shape :
          (operator.symbol ++ " " ++ operand).toList =
            operator.symbol.toList ++ ([' '] ++ operand.toList) := by
        simp
      rw [Test.predicate, shape]
      exact isPiece_word_operand fixed isOperand
  | regexpCall negated _ _ =>
      apply isPiece_of_isFixed
      simp only [Test.predicate]
      cases negated <;> decide
  | @membership _ operands negated _ nonempty areOperands =>
      have shape :
          (negation negated ++ "IN (" ++ ", ".intercalate operands ++ ")").toList =
            (negation negated ++ "IN").toList ++
              ([' '] ++
                '(' :: ((", ".intercalate operands).toList ++ [')'])) := by
        simp
      have fixed : isFixed (negation negated ++ "IN").toList = true := by
        cases negated <;> decide
      have list : IsPiece (IsNameOf index) (", ".intercalate operands).toList :=
        isPiece_intercalate (by decide) nonempty fun operand member =>
          isPiece_of_isOperand (areOperands operand member)
      rw [Test.predicate, shape]
      exact
        IsPiece.append (isPiece_of_isFixed fixed) list.enclosed (by decide)
  | @like _ operand negated dialect _ isOperand =>
      have shape :
          (negation negated ++ "LIKE " ++ operand ++ " ESCAPE " ++
              dialect.likeEscape).toList =
            (negation negated ++ "LIKE").toList ++
              ([' '] ++
                (operand.toList ++
                  ([' '] ++ ("ESCAPE " ++ dialect.likeEscape).toList))) := by
        simp
      have fixed : isFixed (negation negated ++ "LIKE").toList = true := by
        cases negated <;> decide
      have fixedEscape :
          isFixed ("ESCAPE " ++ dialect.likeEscape).toList = true := by
        cases dialect <;> decide
      have escaped :
          IsPiece (IsNameOf index)
            (operand.toList ++
              ([' '] ++ ("ESCAPE " ++ dialect.likeEscape).toList)) :=
        IsPiece.append (isPiece_of_isOperand isOperand)
          (isPiece_of_isFixed fixedEscape) (by decide)
      rw [Test.predicate, shape]
      exact IsPiece.append (isPiece_of_isFixed fixed) escaped (by decide)
  | @regexp _ operand negated _ isOperand =>
      have fixed : isFixed (negation negated ++ "REGEXP").toList = true := by
        cases negated <;> decide
      have shape :
          (negation negated ++ "REGEXP " ++ operand).toList =
            (negation negated ++ "REGEXP").toList ++
              ([' '] ++ operand.toList) := by
        simp
      rw [Test.predicate, shape]
      exact isPiece_word_operand fixed isOperand

theorem isPiece_text (isTest : IsTest index test) :
    IsPiece (IsNameOf index) test.text.toList := by
  rw [test.text_eq]
  exact
    IsPiece.append isTest.isPiece_subject isTest.isPiece_predicate (by decide)

/-- There are blanks on both sides of the first word after the subject. -/
theorem blanks_le_count (isTest : IsTest index test) :
    2 ≤ test.text.toList.count ' ' := by
  have inPredicate : ' ' ∈ test.predicate.toList := by
    cases isTest with
    | null negated _ => cases negated <;> simp [Test.predicate, negation]
    | truth operator value _ => simp [Test.predicate]
    | comparison operator _ _ => simp [Test.predicate]
    | regexpCall negated _ _ => simp [Test.predicate]
    | membership negated _ _ _ => simp [Test.predicate]
    | like negated dialect _ _ => simp [Test.predicate]
    | regexp negated _ _ => simp [Test.predicate]
  have counted : 0 < test.predicate.toList.count ' ' :=
    List.count_pos_iff.mpr inPredicate
  rw [test.text_eq, List.count_append, List.count_append]
  have between : List.count ' ' [' '] = 1 := by decide
  omega

/-! ## Openings -/

/-- A predicate is no argument of a function. -/
theorem predicate_ne_openParen (isTest : IsTest index test) (rest : List Char) :
    test.predicate.toList ≠ '(' :: rest := by
  cases isTest with
  | null negated _ => simp [Test.predicate]
  | truth operator value _ => cases operator <;> simp [Test.predicate, Operator.symbol]
  | comparison operator _ _ =>
      cases operator <;> simp [Test.predicate, Operator.symbol]
  | regexpCall negated _ _ => simp [Test.predicate, Operator.symbol]
  | membership negated _ _ _ =>
      cases negated <;> simp [Test.predicate, negation]
  | like negated dialect _ _ => cases negated <;> simp [Test.predicate, negation]
  | regexp negated _ _ => cases negated <;> simp [Test.predicate, negation]

/-- A test opens with a column or with a call of a function. -/
theorem isColumn_or_call (isTest : IsTest index test) :
    IsColumn test.subject ∨
      ∃ word rest,
        word ∈ ["LOWER", "REGEXP"] ∧
          test.text.toList = word.toList ++ '(' :: rest := by
  have ofSubject :
      IsSubject test.subject →
        IsColumn test.subject ∨
          ∃ word rest,
            word ∈ ["LOWER", "REGEXP"] ∧
              test.text.toList = word.toList ++ '(' :: rest := by
    intro isSubject
    rw [test.text_eq]
    generalize test.subject = subject at isSubject
    cases isSubject with
    | column isColumn => exact .inl isColumn
    | @lowered column isColumn =>
        refine
          .inr ⟨"LOWER", column.toList ++ ')' :: ' ' :: test.predicate.toList,
            List.mem_cons_self, ?_⟩
        simp
  cases isTest with
  | null _ isColumn => exact .inl isColumn
  | truth _ _ isColumn => exact .inl isColumn
  | comparison _ isSubject _ => exact ofSubject isSubject
  | @regexpCall column name negated _ _ =>
      refine
        .inr ⟨"REGEXP",
          column.toList ++ ',' :: ' ' :: ((placeholder name).toList ++
            (") = " ++ if negated then "0" else "1").toList),
          List.mem_cons_of_mem _ List.mem_cons_self, ?_⟩
      simp [Test.text, Operator.symbol]
  | membership _ isSubject _ _ => exact ofSubject isSubject
  | like _ _ isSubject _ => exact ofSubject isSubject
  | regexp _ isColumn _ => exact .inl isColumn

end IsTest

/-! ## Names -/

/-- What the subject of a test is compared with. -/
def Test.operands : Test → List String
  | .null _ _ => []
  | .comparison _ _ operand => [operand]
  | .membership _ _ operands => operands
  | .like _ _ operand _ => [operand]
  | .regexp _ _ operand => [operand]

/-- The names in a test are those in its subject and in its predicate. -/
theorem Test.placeholders_text (test : Test) :
    placeholders test.text.toList =
      placeholders test.subject.toList ++ placeholders test.predicate.toList := by
  rw [test.text_eq, placeholders_append_isSeparator (by decide)]

namespace IsTest

theorem placeholders_predicate (isTest : IsTest index test) :
    placeholders test.predicate.toList =
      test.operands.flatMap fun operand => placeholders operand.toList := by
  cases isTest with
  | @null column negated _ =>
      have noColon : ':' ∉ (Test.null column negated).predicate.toList := by
        simp only [Test.predicate]
        cases negated <;> decide
      rw [placeholders_of_not_mem noColon]
      rfl
  | @truth column operator value _ =>
      have noColon :
          ':' ∉
            (Test.comparison column operator
              (if value then "1" else "0")).predicate.toList := by
        simp only [Test.predicate]
        cases operator <;> cases value <;> decide
      have noColonInside : ':' ∉ (if value then "1" else "0").toList := by
        cases value <;> decide
      rw [placeholders_of_not_mem noColon, Test.operands, List.flatMap_singleton,
        placeholders_of_not_mem noColonInside]
  | @comparison _ operand operator _ _ =>
      have noColon : ':' ∉ (operator.symbol ++ " ").toList := by
        cases operator <;> decide
      rw [Test.predicate, String.toList_append,
        placeholders_append_of_not_mem noColon, Test.operands,
        List.flatMap_singleton]
  | @regexpCall column name negated _ _ =>
      have noColon :
          ':' ∉ (Operator.equal.symbol ++ " " ++ if negated then "0" else "1").toList := by
        cases negated <;> decide
      have noColonInside : ':' ∉ (if negated then "0" else "1").toList := by
        cases negated <;> decide
      rw [Test.predicate, placeholders_of_not_mem noColon, Test.operands,
        List.flatMap_singleton, placeholders_of_not_mem noColonInside]
  | @membership _ operands negated _ _ _ =>
      have noColon : ':' ∉ (negation negated ++ "IN (").toList := by
        cases negated <;> decide
      have ends : EndsNames ")".toList := endsNames_closing []
      rw [Test.predicate, String.toList_append, placeholders_append ends,
        String.toList_append, placeholders_append_of_not_mem noColon,
        placeholders_intercalate (by decide), Test.operands]
      exact List.append_nil _
  | @like _ operand negated dialect _ _ =>
      have noColon : ':' ∉ (negation negated ++ "LIKE ").toList := by
        cases negated <;> decide
      have noColonAfter :
          ':' ∉ (" ESCAPE ".toList ++ dialect.likeEscape.toList) := by
        cases dialect <;> decide
      have ends : EndsNames (" ESCAPE ".toList ++ dialect.likeEscape.toList) :=
        endsNames_of_isSeparator (by decide)
      rw [Test.predicate, String.toList_append, String.toList_append,
        List.append_assoc, placeholders_append ends, String.toList_append,
        placeholders_append_of_not_mem noColon,
        placeholders_of_not_mem noColonAfter, List.append_nil, Test.operands,
        List.flatMap_singleton]
  | @regexp _ operand negated _ _ =>
      have noColon : ':' ∉ (negation negated ++ "REGEXP ").toList := by
        cases negated <;> decide
      rw [Test.predicate, String.toList_append,
        placeholders_append_of_not_mem noColon, Test.operands,
        List.flatMap_singleton]

/-- The names in a test are those in its subject and in its operands. -/
theorem placeholders_text (isTest : IsTest index test) :
    placeholders test.text.toList =
      placeholders test.subject.toList ++
        test.operands.flatMap fun operand => placeholders operand.toList := by
  rw [test.placeholders_text, isTest.placeholders_predicate]

/-- Whatever is compared with an operand has a placeholder. -/
theorem placeholders_text_ne_nil
    (isTest : IsTest index test) {operand : String}
    (member : operand ∈ test.operands) (isOperand : IsOperand index operand) :
    placeholders test.text.toList ≠ [] := by
  intro nameless
  rw [isTest.placeholders_text, List.append_eq_nil_iff,
    List.flatMap_eq_nil_iff] at nameless
  obtain ⟨name, _, names⟩ := exists_placeholders_of_isOperand isOperand
  rw [nameless.2 operand member] at names
  cases names

end IsTest

theorem placeholders_regexpCall
    {column name : String} (isColumn : IsColumn column)
    (isName : IsNameOf index name) :
    placeholders
        ("REGEXP(" ++ column ++ ", " ++ placeholder name ++ ")").toList =
      [name] := by
  have ends : EndsNames ")".toList := endsNames_closing []
  have noColon : ':' ∉ ("REGEXP(" ++ column ++ ", ").toList := by
    intro member
    simp only [String.toList_append, List.mem_append] at member
    rcases member with (inWord | inColumn) | inSeparator
    · exact absurd inWord (by decide)
    · exact not_mem_colon_of_isColumn isColumn inColumn
    · exact absurd inSeparator (by decide)
  rw [String.toList_append, placeholders_append ends, String.toList_append,
    placeholders_append_of_not_mem noColon, placeholders_plain isName]
  rfl

/-! ## Plain tests -/

/-- A test without placeholders. -/
inductive IsPlain : Test → Prop where
  | null (column : String) (negated : Bool) : IsPlain (.null column negated)
  | truth (column : String) (operator : Operator) (value : Bool) :
      IsPlain (.comparison column operator (if value then "1" else "0"))

theorem IsTest.isPlain_of_placeholders_eq_nil
    (isTest : IsTest index test)
    (nameless : placeholders test.text.toList = []) :
    IsPlain test ∧ IsColumn test.subject := by
  have noOperand :
      ∀ operand ∈ test.operands, ¬IsOperand index operand :=
    fun operand member isOperand =>
      isTest.placeholders_text_ne_nil member isOperand nameless
  cases isTest with
  | null negated isColumn => exact ⟨.null _ negated, isColumn⟩
  | truth operator value isColumn => exact ⟨.truth _ operator value, isColumn⟩
  | comparison operator _ isOperand =>
      exact absurd isOperand (noOperand _ List.mem_cons_self)
  | regexpCall _ isColumn isName =>
      rw [Test.placeholders_text, List.append_eq_nil_iff, Test.subject,
        placeholders_regexpCall isColumn isName] at nameless
      cases nameless.1
  | membership _ _ nonempty areOperands =>
      obtain ⟨operand, rest, rfl⟩ := List.exists_cons_of_ne_nil nonempty
      exact
        absurd (areOperands operand List.mem_cons_self)
          (noOperand operand List.mem_cons_self)
  | like _ _ _ isOperand =>
      exact absurd isOperand (noOperand _ List.mem_cons_self)
  | regexp _ _ isOperand =>
      exact absurd isOperand (noOperand _ List.mem_cons_self)

end FilterQuery.Sql
