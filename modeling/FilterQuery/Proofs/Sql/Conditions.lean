import FilterQuery.Proofs.Filter.Parsing
import FilterQuery.Proofs.Sql.Separation

/-!
# Conditions of filters

The condition of a filter is a single test, or several tests in parentheses.
These conditions can be told apart in a text:

* `IsCondition.text_ne_append`: none goes on after the end of another one;
* `IsCondition.text_append_ne_not` and `IsCondition.text_append_ne_xor`: none
  starts like a negation or like exclusive or as a function.
-/

namespace FilterQuery.Sql

open FilterQuery.Text (IsSolid)

/-- The conditions of the filter with the index.  Branches that do not only ask
for nothing have a placeholder. -/
inductive IsCondition (index : Nat) : Condition → Prop where
  | single {test : Test} : IsTest index test → IsCondition index (.single test)
  | nothing {column : String} (negated : Bool) :
      IsColumn column →
        IsCondition index (.ofBranches negated [.null column negated])
  | branches {tests : List Test} (negated : Bool) :
      (∀ test ∈ tests, IsTest index test) →
        (∃ test ∈ tests, placeholders test.text.toList ≠ []) →
          IsCondition index (.ofBranches negated tests)

variable {index other : Nat} {condition : Condition}

/-! ## Every filter has such a condition -/

/-- Elements are only all left out when each of them is nothing. -/
theorem any_isNull_of_boundElements_eq_nil
    {items : List Value} (nonempty : items ≠ [])
    (noneBound : boundElements items = []) :
    items.any Value.isNull = true := by
  obtain ⟨first, rest, rfl⟩ := List.exists_cons_of_ne_nil nonempty
  simp only [boundElements, distinctElements, distinctFrom, List.any_nil,
    Bool.false_eq_true, if_false, List.filter_cons] at noneBound
  split at noneBound
  · cases noneBound
  · rename_i isNull
    have firstIsNull : first.isNull = true := by simpa using isNull
    rw [List.any_cons, firstIsNull, Bool.true_or]

theorem isCondition_ofList
    {dialect : Dialect} {column : String} {operator : Operator}
    {caseInsensitive : Bool} {items : List Value}
    (isColumn : IsColumn column) (nonempty : items ≠ []) :
    IsCondition index
      (.ofList dialect index column operator caseInsensitive items) := by
  unfold Condition.ofList
  simp only
  generalize isNullTests :
    (if items.any Value.isNull then [Test.null column operator.isNegated]
      else []) = nullTests
  have areTests : ∀ test ∈ nullTests, IsTest index test := by
    intro test member
    rw [← isNullTests] at member
    split at member
    · rw [List.mem_singleton.mp member]
      exact .null _ isColumn
    · cases member
  cases bound : boundElements items with
  | nil =>
      rw [any_isNull_of_boundElements_eq_nil nonempty bound,
        if_pos rfl] at isNullTests
      rw [← isNullTests]
      exact .nothing operator.isNegated isColumn
  | cons element rest =>
      cases rest with
      | nil =>
          have isComparison :
              IsTest index
                (.comparison
                  (subject (caseInsensitive && isText element.2) column) operator
                  (elementPlaceholder dialect caseInsensitive index element)) :=
            .comparison operator (isSubject_subject isColumn)
              isOperand_elementPlaceholder
          have areAllTests := List.forall_mem_append.mpr
            ⟨areTests, List.forall_mem_singleton.mpr isComparison⟩
          exact
            .branches _ areAllTests
              ⟨_, List.mem_append_right _ List.mem_cons_self,
                isComparison.placeholders_text_ne_nil List.mem_cons_self
                  isOperand_elementPlaceholder⟩
      | cons second others =>
          have areOperands :
              ∀ operand ∈
                  (element :: second :: others).map
                    (elementPlaceholder dialect caseInsensitive index),
                IsOperand index operand := by
            intro operand member
            obtain ⟨found, _, rfl⟩ := List.mem_map.mp member
            exact isOperand_elementPlaceholder
          have isTest :
              IsTest index
                (.membership (subject caseInsensitive column)
                  operator.isNegated
                  ((element :: second :: others).map
                    (elementPlaceholder dialect caseInsensitive index))) :=
            .membership _ (isSubject_subject isColumn) (List.cons_ne_nil _ _)
              areOperands
          simp only
          split
          · exact .single isTest
          · exact
              .branches _ (List.forall_mem_cons.mpr ⟨isTest, areTests⟩)
                ⟨_, List.mem_cons_self,
                  isTest.placeholders_text_ne_nil List.mem_cons_self
                    (areOperands _ List.mem_cons_self)⟩

/-- The condition of a filter whose list, if it has one, is not empty. -/
theorem isCondition_ofFilter
    {dialect : Dialect} {column : String} {filter : Filter}
    (isColumn : IsColumn column)
    (nonempty : ∀ items, filter.kind = .inList items → items ≠ []) :
    IsCondition index (.ofFilter dialect index column filter) := by
  have isName : IsNameOf index (parameterName index) := .parameter
  unfold Condition.ofFilter
  simp only
  split
  · exact .single (.null _ isColumn)
  · exact .single (.truth _ _ isColumn)
  · exact .single (.comparison _ (.column isColumn) (.plain isName))
  · exact .single (.comparison _ (.column isColumn) (.plain isName))
  · exact
      .single
        (.comparison _ (isSubject_subject isColumn)
          (isOperand_textPlaceholder isName))
  · exact
      .single
        (.like _ dialect (isSubject_subject isColumn)
          (isOperand_textPlaceholder isName))
  · cases dialect with
    | mySql =>
        exact .single (.regexp _ isColumn (isOperand_textPlaceholder isName))
    | sqlite => exact .single (.regexp _ isColumn (.plain isName))
    | doctrine => exact .single (.regexpCall _ isColumn isName)
  · rename_i items isList
    exact isCondition_ofList isColumn (nonempty items isList)

/-! ## Conditions are pieces -/

/-- What stands between the branches of a condition. -/
def branchSeparator (negated : Bool) : String :=
  if negated then " AND " else " OR "

/-- The branches of a condition, without the parentheses around them. -/
def branchesText (negated : Bool) (tests : List Test) : String :=
  (branchSeparator negated).intercalate (tests.map Test.text)

theorem toList_text_ofBranches (negated : Bool) (tests : List Test) :
    (Condition.ofBranches negated tests).text.toList =
      '(' :: ((branchesText negated tests).toList ++ [')']) := by
  cases negated <;>
    simp [Condition.ofBranches, Condition.text, branchesText, branchSeparator]

theorem isSeparator_branchSeparator (negated : Bool) :
    isSeparator (branchSeparator negated).toList = true := by
  cases negated <;> decide

theorem isPiece_branchesText
    {negated : Bool} {tests : List Test} (nonempty : tests ≠ [])
    (areTests : ∀ test ∈ tests, IsTest index test) :
    IsPiece (IsNameOf index) (branchesText negated tests).toList := by
  have mapped : tests.map Test.text ≠ [] := by
    intro isEmpty
    exact nonempty (List.map_eq_nil_iff.mp isEmpty)
  have pieces :
      ∀ part ∈ tests.map Test.text, IsPiece (IsNameOf index) part.toList := by
    intro part member
    obtain ⟨test, isMember, rfl⟩ := List.mem_map.mp member
    exact (areTests test isMember).isPiece_text
  exact
    isPiece_intercalate (isSeparator_branchSeparator negated) mapped pieces

/-- The names in branches are those in the tests. -/
theorem placeholders_branchesText {negated : Bool} {tests : List Test} :
    placeholders (branchesText negated tests).toList =
      tests.flatMap fun test => placeholders test.text.toList := by
  rw [branchesText,
    placeholders_intercalate (isSeparator_branchSeparator negated),
    List.flatMap_map]

/-- A test does not start with a parenthesis. -/
theorem IsTest.text_ne_openParen
    {test : Test} (isTest : IsTest index test) (rest : List Char) :
    test.text.toList ≠ '(' :: rest := by
  intro starts
  rcases isTest.isColumn_or_call with isColumn | ⟨word, tail, isWord, shape⟩
  · rw [test.text_eq] at starts
    obtain ⟨first, others, isFirst⟩ :=
      List.exists_cons_of_ne_nil isColumn.nonempty
    rw [isFirst] at starts
    cases starts
    have noParen :=
      ne_of_isColumnCharacter
        (isColumn.characters '(' (isFirst ▸ List.mem_cons_self))
    exact noParen.2.1 rfl
  · rw [shape] at starts
    simp only [List.mem_cons, List.not_mem_nil, or_false] at isWord
    rcases isWord with rfl | rfl
    · cases starts
    · cases starts

/-- Branches start with a test, so they are not in parentheses. -/
theorem enclosed?_branchesText
    {negated : Bool} {tests : List Test} (nonempty : tests ≠ [])
    (areTests : ∀ test ∈ tests, IsTest index test) :
    enclosed? (branchesText negated tests).toList = none := by
  obtain ⟨test, rest, rfl⟩ := List.exists_cons_of_ne_nil nonempty
  have isTest := areTests test List.mem_cons_self
  obtain ⟨first, others, isFirst, _⟩ := isTest.isPiece_text.solid.first
  have notOpening : first ≠ '(' := by
    rintro rfl
    exact isTest.text_ne_openParen others isFirst
  obtain ⟨more, shape⟩ :
      ∃ more,
        (branchesText negated (test :: rest)).toList = first :: more := by
    unfold branchesText
    rw [List.map_cons]
    by_cases isLast : rest.map Test.text = []
    · rw [isLast, String.intercalate_singleton, isFirst]
      exact ⟨others, rfl⟩
    · rw [String.intercalate_cons_of_ne_nil isLast, String.toList_append,
        String.toList_append, isFirst]
      exact ⟨_, rfl⟩
  rw [shape]
  exact enclosed?_eq_none_of_first notOpening

/-- What is known of a condition in parentheses.  Without placeholders it only
asks for nothing. -/
structure IsEnclosed (characters inner : List Char) : Prop where
  whole : characters = '(' :: (inner ++ [')'])
  balanced : IsBalanced inner
  solid : IsSolid inner
  bare : enclosed? inner = none
  blanks : placeholders characters = [] → characters.count ' ' ≤ 3

namespace IsCondition

/-- A condition is a single test or stands in parentheses. -/
theorem single_or_enclosed (isCondition : IsCondition index condition) :
    (∃ test, condition = .single test ∧ IsTest index test) ∨
      ∃ inner, IsEnclosed condition.text.toList inner := by
  cases isCondition with
  | single isTest => exact .inl ⟨_, rfl, isTest⟩
  | @nothing column negated isColumn =>
      have areTests :
          ∀ test ∈ [Test.null column negated], IsTest index test := by
        intro test member
        rw [List.mem_singleton.mp member]
        exact .null negated isColumn
      have piece :
          IsPiece (IsNameOf index)
            (branchesText negated [.null column negated]).toList :=
        isPiece_branchesText (List.cons_ne_nil _ _) areTests
      refine
        .inr ⟨_, toList_text_ofBranches negated _, piece.balanced, piece.solid,
          enclosed?_branchesText (List.cons_ne_nil _ _) areTests, fun _ => ?_⟩
      have noBlank : column.toList.count ' ' = 0 := by
        rw [List.count_eq_zero]
        intro member
        exact
          (ne_of_isColumnCharacter (isColumn.characters ' ' member)).1 rfl
      rw [toList_text_ofBranches]
      cases negated <;>
        simp [branchesText, Test.text, negation, List.count_append, noBlank]
  | @branches tests negated areTests named =>
      obtain ⟨test, member, isNamed⟩ := named
      have nonempty : tests ≠ [] := List.ne_nil_of_mem member
      have piece :
          IsPiece (IsNameOf index) (branchesText negated tests).toList :=
        isPiece_branchesText nonempty areTests
      refine
        .inr ⟨_, toList_text_ofBranches negated _, piece.balanced, piece.solid,
          enclosed?_branchesText nonempty areTests, fun nameless => ?_⟩
      rw [toList_text_ofBranches, placeholders_enclosed,
        placeholders_branchesText, List.flatMap_eq_nil_iff] at nameless
      exact absurd (nameless test member) isNamed

theorem isPiece_text (isCondition : IsCondition index condition) :
    IsPiece (IsNameOf index) condition.text.toList := by
  cases isCondition with
  | single isTest => exact isTest.isPiece_text
  | nothing negated isColumn =>
      rw [toList_text_ofBranches]
      refine (isPiece_branchesText (List.cons_ne_nil _ _) ?_).enclosed
      intro test member
      rw [List.mem_singleton.mp member]
      exact .null negated isColumn
  | branches negated areTests named =>
      obtain ⟨test, member, _⟩ := named
      rw [toList_text_ofBranches]
      exact
        (isPiece_branchesText (List.ne_nil_of_mem member) areTests).enclosed

theorem blanks_le_count (isCondition : IsCondition index condition) :
    2 ≤ condition.text.toList.count ' ' := by
  have ofTest :
      ∀ {negated : Bool} {test : Test} {tests : List Test},
        test ∈ tests → IsTest index test →
          2 ≤ (Condition.ofBranches negated tests).text.toList.count ' ' := by
    intro negated test tests member isTest
    have inTest := isTest.blanks_le_count
    have isPart : test.text.toList <:+: (branchesText negated tests).toList :=
      isInfix_intercalate (List.mem_map_of_mem member)
    have inBranches := isPart.sublist.count_le ' '
    rw [toList_text_ofBranches, List.count_cons, List.count_append]
    omega
  cases isCondition with
  | single isTest => exact isTest.blanks_le_count
  | nothing negated isColumn =>
      exact ofTest List.mem_cons_self (.null negated isColumn)
  | branches negated areTests named =>
      obtain ⟨test, member, _⟩ := named
      exact ofTest member (areTests test member)

/-! ## Conditions are told apart -/

/-- A condition that starts with a parenthesis is enclosed. -/
theorem isEnclosed_of_openParen
    (isCondition : IsCondition index condition) {rest : List Char}
    (starts : condition.text.toList = '(' :: rest) :
    ∃ inner, IsEnclosed condition.text.toList inner := by
  rcases isCondition.single_or_enclosed with ⟨test, rfl, isTest⟩ | isEnclosed
  · exact absurd starts (isTest.text_ne_openParen rest)
  · exact isEnclosed

/-- No condition of another filter goes on where a condition ends. -/
theorem text_ne_append
    {first second : Condition} (firstCondition : IsCondition index first)
    (secondCondition : IsCondition other second) (different : index ≠ other)
    {next : Char} (endsName : isNameCharacter next = false) (rest : List Char) :
    second.text.toList ≠ first.text.toList ++ next :: rest := by
  intro same
  rcases firstCondition.single_or_enclosed with
    ⟨test, rfl, isTest⟩ | ⟨inner, isEnclosed⟩
  · by_cases nameless : placeholders test.text.toList = []
    · -- A plain test tells from its predicate where it ends.
      obtain ⟨plain, isColumn⟩ := isTest.isPlain_of_placeholders_eq_nil nameless
      rcases secondCondition.single_or_enclosed with
        ⟨secondTest, rfl, isSecondTest⟩ | ⟨inner, isEnclosed⟩
      · exact text_ne_plain_append plain isColumn isSecondTest next rest same
      · rw [isEnclosed.whole] at same
        obtain ⟨first, others, isFirst, _⟩ := isTest.isPiece_text.solid.first
        have starts : test.text.toList = '(' :: others := by
          change _ = test.text.toList ++ _ at same
          rw [isFirst] at same ⊢
          rw [← (List.cons.inj same).1]
        exact isTest.text_ne_openParen others starts
    · -- Any other test names the filter that it belongs to.
      obtain ⟨name, others, names⟩ := List.exists_cons_of_ne_nil nameless
      have isFirstName : IsNameOf index name :=
        isTest.isPiece_text.names name (names ▸ List.mem_cons_self)
      have ends : EndsNames (next :: rest) := endsNames_cons endsName rest
      have isSecondName : IsNameOf other name := by
        apply secondCondition.isPiece_text.names
        change _ = test.text.toList ++ _ at same
        rw [same, placeholders_append ends, names]
        exact List.mem_cons_self
      exact different (isFirstName.index_eq isSecondName)
  · -- The parenthesis that closes a condition is its end.
    rw [isEnclosed.whole, List.cons_append, List.append_assoc] at same
    obtain ⟨secondInner, isSecondEnclosed⟩ :=
      secondCondition.isEnclosed_of_openParen same
    rw [isSecondEnclosed.whole] at same
    obtain ⟨_, sameInner⟩ := List.cons.inj same
    have isInner :=
      isSecondEnclosed.balanced.eq_of_append_closing isEnclosed.balanced
        sameInner
    rw [isInner] at sameInner
    have tooLong := congrArg List.length sameInner
    simp at tooLong

/-- No condition starts like a negation in parentheses. -/
theorem text_append_ne_not
    (isCondition : IsCondition index condition) (more rest : List Char) :
    condition.text.toList ++ more ≠ "NOT ".toList ++ '(' :: rest := by
  intro same
  rcases isCondition.single_or_enclosed with
    ⟨test, rfl, isTest⟩ | ⟨inner, isEnclosed⟩
  · change test.text.toList ++ more = "NOT".toList ++ ' ' :: '(' :: rest at same
    rcases isTest.isColumn_or_call with isColumn | ⟨word, tail, isWord, shape⟩
    · rw [test.text_append] at same
      obtain ⟨_, _, samePredicate⟩ :=
        eq_of_append_endsWord (endsWord_of_isColumn isColumn) (by decide) rfl
          rfl same
      obtain ⟨first, others, isFirst, _⟩ :=
        isTest.isPiece_predicate.solid.first
      rw [isFirst] at samePredicate
      refine isTest.predicate_ne_openParen others ?_
      rw [isFirst, (List.cons.inj samePredicate).1]
    · rw [shape, List.append_assoc] at same
      obtain ⟨_, sameEnd, _⟩ :=
        eq_of_append_endsWord (endsWord_of_call isWord) (by decide) rfl rfl same
      cases sameEnd
  · rw [isEnclosed.whole] at same
    cases (List.cons.inj same).1

/-- No condition starts like exclusive or as a function. -/
theorem text_append_ne_xor
    (isCondition : IsCondition index condition) (more rest : List Char) :
    condition.text.toList ++ more ≠ "XOR(".toList ++ rest := by
  intro same
  rcases isCondition.single_or_enclosed with
    ⟨test, rfl, isTest⟩ | ⟨inner, isEnclosed⟩
  · change test.text.toList ++ more = "XOR".toList ++ '(' :: rest at same
    rcases isTest.isColumn_or_call with isColumn | ⟨word, tail, isWord, shape⟩
    · rw [test.text_append] at same
      obtain ⟨_, sameEnd, _⟩ :=
        eq_of_append_endsWord (endsWord_of_isColumn isColumn) (by decide) rfl
          rfl same
      cases sameEnd
    · rw [shape, List.append_assoc] at same
      obtain ⟨sameWord, _, _⟩ :=
        eq_of_append_endsWord (endsWord_of_call isWord) (by decide) rfl rfl same
      have isXor : word = "XOR" := String.toList_inj.mp sameWord
      rw [isXor] at isWord
      exact absurd isWord (by decide)
  · rw [isEnclosed.whole] at same
    cases (List.cons.inj same).1

end IsCondition

end FilterQuery.Sql
