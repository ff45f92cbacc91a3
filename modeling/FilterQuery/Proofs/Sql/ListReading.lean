import FilterQuery.Proofs.Sql.ListValues
import FilterQuery.Proofs.Sql.Meaning

/-!
# The condition of a list covers its elements

The text of a list condition, read with its tests as parts, evaluates to one of the submitted
elements being met or, negated, to none of them.

* `Reads.of_members`: a text is read in the same way in whatever order its parts are given.  So
  the test for nothing can be taken for a condition of another filter, and is told apart like one
  (`isFamily_null`);
* `Condition.EvaluatesIn` says that the text of a condition has its value, and there is a lemma for
  one test, with and without parentheses, and for two of them;
* `inList_covers_elements` puts together what is known of the value, the parameters and the
  parentheses.
-/

namespace FilterQuery.Sql

/-! ## The order of conditions -/

section Order

variable {first second : List String}

theorem longest?_eq_of_members
    (same : ∀ text, text ∈ first ↔ text ∈ second) (characters : List Char) :
    longest? first characters = longest? second characters := by
  cases found : longest? second characters with
  | none =>
      unfold longest? at found ⊢
      rw [List.argmax_eq_none, List.filter_eq_nil_iff] at found ⊢
      intro other member
      exact found other ((same other).mp member)
  | some text =>
      have isLongest := List.argmax_mem found
      simp only [List.mem_filter, decide_eq_true_eq] at isLongest
      obtain ⟨member, nonempty, starts⟩ := isLongest
      refine longest?_eq_some ((same text).mpr member) nonempty starts ?_
      intro other isOther otherStarts
      by_cases isEmpty : other = ""
      · rw [isEmpty]
        exact Nat.zero_le _
      · have isCandidate :
            other ∈
              second.filter fun condition =>
                condition ≠ "" ∧ condition.toList <+: characters := by
          simp only [List.mem_filter, decide_eq_true_eq]
          exact ⟨(same other).mp isOther, isEmpty, otherStarts⟩
        exact List.le_of_mem_argmax isCandidate found

theorem symbol?_eq_of_members
    (same : ∀ text, text ∈ first ↔ text ∈ second) (due : Due) (characters : List Char) :
    symbol? first due characters = symbol? second due characters := by
  have sameOperand : operandSymbol? first = operandSymbol? second := by
    funext others
    rw [operandSymbol?, operandSymbol?, longest?_eq_of_members same]
  unfold symbol?
  rw [sameOperand]

theorem symbolsFrom?_of_symbol?_eq_none
    {due : Due} {characters : List Char} (notAtEnd : ¬(due = .operator ∧ characters = []))
    (noSymbol : symbol? first due characters = none) :
    symbolsFrom? first due characters = none := by
  rw [symbolsFrom?, if_neg notAtEnd]
  split
  · rfl
  · rename_i isSymbol
    rw [noSymbol] at isSymbol
    cases isSymbol

theorem symbolsFrom?_eq_of_members
    (same : ∀ text, text ∈ first ↔ text ∈ second) (due : Due) (characters : List Char) :
    symbolsFrom? first due characters = symbolsFrom? second due characters := by
  -- The induction is along the cuts with the conditions in the first order.
  induction due, characters using symbolsFrom?.induct first with
  | case1 due characters atEnd => rw [symbolsFrom?, symbolsFrom?, if_pos atEnd, if_pos atEnd]
  | case2 due characters notAtEnd noSymbol =>
      rw [symbolsFrom?_of_symbol?_eq_none notAtEnd noSymbol]
      rw [symbol?_eq_of_members same] at noSymbol
      exact (symbolsFrom?_of_symbol?_eq_none notAtEnd noSymbol).symm
  | case3 due characters notAtEnd symbol next rest found inductionHypothesis =>
      rw [symbolsFrom?_of_symbol? found, inductionHypothesis]
      rw [symbol?_eq_of_members same] at found
      exact (symbolsFrom?_of_symbol? found).symm

/-- A text is read in the same way, in whatever order the conditions are given. -/
theorem Reads.of_members
    {text : String} {clause : Clause} (reads : Reads first text clause)
    (same : ∀ text, text ∈ first ↔ text ∈ second) : Reads second text clause := by
  obtain ⟨symbols, isCut, derives⟩ := reads
  rw [symbolsFrom?_eq_of_members same] at isCut
  exact ⟨symbols, isCut, derives⟩

end Order

/-! ## Single tests and pairs of tests -/

/-- Read with the tests of the condition as parts, the text of a condition evaluates to the value
of the condition and to nothing else. -/
def Condition.EvaluatesIn (condition : Condition) (row : Row) : Prop :=
  ∀ conditions : String → Truth,
    (∀ test ∈ condition.tests, conditions test.text = test.value row) →
      ∀ value,
        Evaluates (condition.tests.map Test.text) conditions condition.text value ↔
          value = condition.value row

section Tests

variable {index : Nat} {column : String} {test : Test} {row : Row}

theorem isFamily_test (isTest : IsTest index test) : IsFamily [(index, test.text)] where
  conditions := List.forall_mem_singleton.mpr ⟨.single test, .single isTest, rfl⟩
  ascending := List.pairwise_singleton _ _

/-- A test can be told apart from that for nothing, as if another filter asked for nothing. -/
theorem isFamily_null
    (isTest : IsTest index test) (isColumn : IsColumn column) (negated : Bool) :
    IsFamily [(index, test.text), (index + 1, (Test.null column negated).text)] where
  conditions :=
    List.forall_mem_cons.mpr
      ⟨⟨.single test, .single isTest, rfl⟩,
        List.forall_mem_singleton.mpr
          ⟨.single (.null column negated), .single (.null negated isColumn), rfl⟩⟩
  ascending := by simp

theorem evaluatesIn_of_reads
    {condition : Condition} {clause : Clause}
    (reads : Reads (condition.tests.map Test.text) condition.text clause)
    (values :
      ∀ conditions : String → Truth,
        (∀ test ∈ condition.tests, conditions test.text = test.value row) →
          clause.value conditions = condition.value row) :
    condition.EvaluatesIn row := by
  intro conditions same value
  rw [← values conditions same]
  exact reads.evaluates_iff

theorem evaluatesIn_single (isTest : IsTest index test) :
    (Condition.single test).EvaluatesIn row := by
  have derives : Derives 0 [.condition test.text] (.condition test.text) :=
    (Derives.condition test.text).weaken (Nat.zero_le 3)
  have reads : Reads [test.text] test.text (.condition test.text) :=
    reads_of_cuts (cuts_condition (isFamily_test isTest) List.mem_cons_self) derives
  exact evaluatesIn_of_reads reads fun _ same => same test List.mem_cons_self

theorem evaluatesIn_ofBranches
    {negated : Bool} {tests : List Test} {clause : Clause}
    (reads :
      Reads (tests.map Test.text) (Condition.ofBranches negated tests).text clause)
    (values :
      ∀ conditions : String → Truth,
        (∀ test ∈ tests, conditions test.text = test.value row) →
          clause.value conditions = (Condition.ofBranches negated tests).value row) :
    (Condition.ofBranches negated tests).EvaluatesIn row := by
  apply evaluatesIn_of_reads
  · rw [Condition.tests_ofBranches]
    exact reads
  · rw [Condition.tests_ofBranches]
    exact values

theorem evaluatesIn_enclosed (isTest : IsTest index test) (negated : Bool) :
    (Condition.ofBranches negated [test]).EvaluatesIn row := by
  have reads : Reads [test.text] ("(" ++ test.text ++ ")") (.condition test.text) :=
    reads_enclosed_condition (isFamily_test isTest) isTest.text_ne_openParen
  have shape : (Condition.ofBranches negated [test]).text = "(" ++ test.text ++ ")" := by
    cases negated <;> simp [Condition.ofBranches, Condition.text]
  rw [← shape] at reads
  refine evaluatesIn_ofBranches reads ?_
  intro conditions same
  have isValue : conditions test.text = test.value row := same test List.mem_cons_self
  cases negated with
  | false => exact isValue.trans (Truth.any_singleton _).symm
  | true => exact isValue.trans (Truth.all_singleton _).symm

def pairClause (negated : Bool) (first second : Test) : Clause :=
  .operation (if negated then .and else .or) (.condition first.text) (.condition second.text)

theorem operand_pairClause (negated : Bool) (first second : Test) :
    (pairClause negated first second).operand =
      (Condition.ofBranches negated [first, second]).text := by
  cases negated <;>
    simp [pairClause, Condition.ofBranches, Condition.text, Clause.operand, Clause.operandText,
      Clause.text, LogicalOperator.sqlKeyword, String.append_assoc]

theorem value_pairClause
    {first second : Test} {conditions : String → Truth}
    (isFirst : conditions first.text = first.value row)
    (isSecond : conditions second.text = second.value row) (negated : Bool) :
    (pairClause negated first second).value conditions =
      (Condition.ofBranches negated [first, second]).value row := by
  simp only [pairClause, Clause.value, isFirst, isSecond]
  cases negated with
  | false => exact congrArg (Truth.or _) (Truth.any_singleton _).symm
  | true => exact congrArg (Truth.and _) (Truth.all_singleton _).symm

/-- Two tests in parentheses, which are told apart. -/
theorem evaluatesIn_pair
    {entries : List (Nat × String)} (family : IsFamily entries) {first second : Test}
    (same : ∀ text, text ∈ textsOf entries ↔ text ∈ [first.text, second.text])
    (negated : Bool) : (Condition.ofBranches negated [first, second]).EvaluatesIn row := by
  have isOver : (pairClause negated first second).IsOver entries :=
    fun text member => (same text).mpr member
  have reads :
      Reads (textsOf entries) (pairClause negated first second).operand
        (pairClause negated first second) :=
    reads_of_cuts (Clause.cuts_operand family isOver (Clause.cuts_text family isOver))
      ((Clause.derives_symbols _).2.weaken (Nat.zero_le 3))
  rw [operand_pairClause] at reads
  refine evaluatesIn_ofBranches (reads.of_members same) ?_
  intro conditions sameValues
  obtain ⟨isFirst, others⟩ := List.forall_mem_cons.mp sameValues
  exact value_pairClause isFirst (others second List.mem_cons_self) negated

end Tests

/-! ## Conditions of lists -/

theorem IsCondition.isTest_of_mem_tests
    {index : Nat} {condition : Condition} (isCondition : IsCondition index condition) :
    ∀ test ∈ condition.tests, IsTest index test := by
  cases isCondition with
  | single isTest => exact List.forall_mem_singleton.mpr isTest
  | nothing negated isColumn =>
      rw [Condition.tests_ofBranches]
      exact List.forall_mem_singleton.mpr (.null negated isColumn)
  | branches negated areTests _ =>
      rw [Condition.tests_ofBranches]
      exact areTests

section Lists

variable {dialect : Dialect} {index : Nat} {column : String} {operator : Operator}
  {caseInsensitive : Bool} {items : List Value}

theorem IsListCondition.evaluatesIn
    {condition : Condition}
    (isListCondition :
      IsListCondition dialect index column operator caseInsensitive items condition)
    (isColumn : IsColumn column) (isCondition : IsCondition index condition) (row : Row) :
    condition.EvaluatesIn row := by
  have areTests := isCondition.isTest_of_mem_tests
  cases isListCondition with
  | nothing _ _ =>
      have isTest : IsTest index (.null column operator.isNegated) := .null _ isColumn
      exact evaluatesIn_enclosed isTest _
  | enclosed _ _ =>
      rw [Condition.tests_ofBranches, List.forall_mem_singleton] at areTests
      exact evaluatesIn_enclosed areTests _
  | nothingOr _ _ =>
      rw [Condition.tests_ofBranches, List.forall_mem_cons, List.forall_mem_singleton] at areTests
      refine evaluatesIn_pair (isFamily_null areTests.2 isColumn operator.isNegated) ?_ _
      intro text
      simp [textsOf, or_comm]
  | single _ _ =>
      exact evaluatesIn_single (areTests _ List.mem_cons_self)
  | orNothing _ _ =>
      rw [Condition.tests_ofBranches, List.forall_mem_cons] at areTests
      refine evaluatesIn_pair (isFamily_null areTests.1 isColumn operator.isNegated) ?_ _
      intro text
      rfl

theorem IsListCondition.single_or_text_eq
    {condition : Condition}
    (isListCondition :
      IsListCondition dialect index column operator caseInsensitive items condition) :
    (∃ test, condition = .single test) ∨ ∃ inner, condition.text = "(" ++ inner ++ ")" := by
  rcases isListCondition.single_or_branches with isSingle | branches
  · exact .inl isSingle
  · refine .inr ⟨branchesText operator.isNegated condition.tests, ?_⟩
    rw [← String.toList_inj, toList_enclosed, ← toList_text_ofBranches, ← branches]

/-- The parameters of a list filter have the values of its elements. -/
theorem exists_item_of_mem_bindings
    {filter : Filter} (isList : filter.kind = .inList items) {name : String} {value : Value}
    (member : (name, value) ∈ bindings dialect index filter) :
    ∃ position item,
      items[position]? = some item ∧
        name = elementName index position ∧
        value = elementValue dialect filter.caseInsensitive item := by
  simp only [bindings, isList] at member
  obtain ⟨element, isElement, same⟩ := List.mem_map.mp member
  obtain ⟨sameName, sameValue⟩ := Prod.mk.inj same
  exact
    ⟨element.1, element.2, (getElem?_of_mem_boundElements isElement).1, sameName.symm,
      sameValue.symm⟩

end Lists

/-- The condition of a filter by a list has the value of one of the submitted elements being met
or, negated, of none of them, however often they occur and whatever of them is nothing.  The
parameters have the values of the elements.  The condition is one test or stands in parentheses;
and if the column keeps to the default pattern, its text evaluates to the same value, and the
parentheses enclose all of it. -/
theorem inList_covers_elements
    {filter : Filter} {items : List Value} (isList : filter.kind = .inList items)
    (nonempty : items ≠ [])
    (isEquality : filter.operator = .equal ∨ filter.operator = .notEqual)
    {index : Nat} {column : String} {row : Row} {truth : Value → Truth}
    (assigned : row.Assigns index column filter.caseInsensitive items truth)
    (dialect : Dialect) :
    (Condition.ofFilter dialect index column filter).value row =
        Truth.oneOrNone filter.operator.isNegated (items.map truth) ∧
      (∀ name value,
        (name, value) ∈ bindings dialect index filter →
          ∃ position item,
            items[position]? = some item ∧
              name = elementName index position ∧
              value = elementValue dialect filter.caseInsensitive item) ∧
      ((∃ test, Condition.ofFilter dialect index column filter = .single test) ∨
        ∃ inner, (Condition.ofFilter dialect index column filter).text = "(" ++ inner ++ ")") ∧
      (IsColumn column →
        (Condition.ofFilter dialect index column filter).EvaluatesIn row ∧
          ((∃ test, Condition.ofFilter dialect index column filter = .single test) ∨
            ∃ inner,
              IsEnclosed (Condition.ofFilter dialect index column filter).text.toList
                inner)) := by
  have isOfList :
      Condition.ofFilter dialect index column filter =
        .ofList dialect index column filter.operator filter.caseInsensitive items := by
    simp only [Condition.ofFilter, isList]
  have isListCondition :
      IsListCondition dialect index column filter.operator filter.caseInsensitive items
        (Condition.ofFilter dialect index column filter) :=
    isOfList ▸ isListCondition_ofList nonempty
  refine
    ⟨isListCondition.value_eq_oneOrNone isEquality assigned,
      fun _ _ => exists_item_of_mem_bindings isList, isListCondition.single_or_text_eq, ?_⟩
  intro isColumn
  have isCondition : IsCondition index (Condition.ofFilter dialect index column filter) :=
    isOfList ▸ isCondition_ofList isColumn nonempty
  refine ⟨isListCondition.evaluatesIn isColumn isCondition row, ?_⟩
  rcases isCondition.single_or_enclosed with ⟨test, isSingle, _⟩ | isEnclosed
  · exact .inl ⟨test, isSingle⟩
  · exact .inr isEnclosed

/-- A list with repeated elements, texts that only differ in letter case, and nothing. -/
def cityItems : List Value :=
  [.null, .string "Rome", .string "ROME", .string "Rome", .integer 7, .null]

def cityFilter : Filter where
  expression := "city!=[null,\"Rome\",\"ROME\",\"Rome\",7,null]/i"
  key := "city"
  operator := .notEqual
  kind := .inList cityItems
  caseInsensitive := true

/-- It is not known whether the city is Rome. -/
def cityTruth : Value → Truth
  | .string text => if text = "Rome" then .unknown else .no
  | _ => .no

theorem inList_covers_elements_cities :
    (Row.ofTruths 0 cityItems cityTruth).Assigns 0 "users.city" true cityItems cityTruth ∧
      (Condition.ofFilter .doctrine 0 "users.city" cityFilter).value
          (Row.ofTruths 0 cityItems cityTruth) = .unknown ∧
      (Condition.ofFilter .doctrine 0 "users.city" cityFilter).text =
        "(LOWER(users.city) NOT IN (:filter_0_1, :filter_0_2, :filter_0_4) AND " ++
          "users.city IS NOT NULL)" ∧
      (Condition.ofFilter .doctrine 0 "users.city" cityFilter).EvaluatesIn
        (Row.ofTruths 0 cityItems cityTruth) := by
  have shared :
      ∀ first ∈ cityItems, ∀ second ∈ cityItems, (first == second) = true →
        cityTruth first = cityTruth second := by
    decide
  have isColumn : IsColumn "users.city" := by
    refine ⟨by decide, ?_⟩
    simp [IsColumnCharacter]
  have assigned :
      (Row.ofTruths 0 cityItems cityTruth).Assigns 0 "users.city" true cityItems cityTruth :=
    Row.assigns_ofTruths shared "users.city" true
  have isList : cityFilter.kind = .inList cityItems := rfl
  obtain ⟨value, _, _, reads⟩ :=
    inList_covers_elements isList (List.cons_ne_nil _ _) (.inr rfl) assigned .doctrine
  exact ⟨assigned, value, by decide, (reads isColumn).1⟩

end FilterQuery.Sql
