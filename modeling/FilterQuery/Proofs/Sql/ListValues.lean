import FilterQuery.Proofs.Sql.Bindings
import FilterQuery.Proofs.Sql.Truth

/-!
# What the condition of a list evaluates to

A row decides the tests of a condition.  A list test is one of several equalities or, negated,
none of them.

* `Row.Assigns` gives every element of a list its own truth value: to nothing that of the test for
  nothing, to any other element that of equality with its parameter.  Any such values are those
  of some row (`Row.assigns_ofTruths`);
* `IsListCondition` are the forms that the condition of a list takes: at most one test for what is
  bound is joined with that for nothing;
* together the tests ask for the equalities of all elements (`mem_equalities`), so the condition
  holds of the row if one of them does or, negated, if none does (`value_eq_oneOrNone`).
-/

namespace FilterQuery.Sql

/-- What is known of a row. -/
structure Row where
  /-- Whether a column is nothing. -/
  isNull : String → Truth
  /-- Whether a subject equals the value of a parameter. -/
  equals : String → String → Truth
  /-- The outcome of tests that ask for anything else. -/
  others : Test → Truth

namespace Row

/-- Whether a subject equals what an operand stands for. -/
def equalsOperand (row : Row) (subject operand : String) : Truth :=
  match placeholders operand.toList with
  | [name] => row.equals subject name
  | _ => row.others (.comparison subject .equal operand)

/-- The tests of the elements have the given truth values in the row.  Texts are compared with the
column in lower case if letter case does not matter; for other values this makes no difference. -/
structure Assigns
    (row : Row) (index : Nat) (column : String) (caseInsensitive : Bool)
    (items : List Value) (truth : Value → Truth) : Prop where
  null : row.isNull column = truth .null
  element :
    ∀ position item lowered, items[position]? = some item → item.isNull = false →
      (lowered = caseInsensitive ∨ lowered = false ∧ isText item = false) →
        row.equals (subject lowered column) (elementName index position) = truth item
  shared :
    ∀ first ∈ items, ∀ second ∈ items, (first == second) = true → truth first = truth second

/-- Whether the parameter of an element, which stands with its position, has the name. -/
def hasName (index : Nat) (name : String) (element : Value × Nat) : Bool :=
  elementName index element.2 == name

/-- A row in which the elements have the given truth values. -/
def ofTruths (index : Nat) (items : List Value) (truth : Value → Truth) : Row where
  isNull _ := truth .null
  equals _ name :=
    match items.zipIdx.find? (hasName index name) with
    | some element => truth element.1
    | none => .unknown
  others _ := .unknown

/-- Every assignment that does not tell equal elements apart is that of a row. -/
theorem assigns_ofTruths
    {index : Nat} {items : List Value} {truth : Value → Truth}
    (shared :
      ∀ first ∈ items, ∀ second ∈ items, (first == second) = true →
        truth first = truth second)
    (column : String) (caseInsensitive : Bool) :
    (ofTruths index items truth).Assigns index column caseInsensitive items truth where
  null := rfl
  element := by
    intro position item lowered submitted _ _
    have candidate : (item, position) ∈ items.zipIdx :=
      List.mem_zipIdx_iff_getElem?.mpr submitted
    obtain ⟨element, found⟩ :
        ∃ element,
          items.zipIdx.find? (hasName index (elementName index position)) = some element := by
      rw [← Option.isSome_iff_exists, List.find?_isSome]
      exact ⟨_, candidate, beq_self_eq_true _⟩
    have sameName : hasName index (elementName index position) element = true :=
      List.find?_some found
    have samePosition : element.2 = position :=
      elementName_injective index (beq_iff_eq.mp sameName)
    have isElement := List.mem_zipIdx_iff_getElem?.mp (List.mem_of_find?_eq_some found)
    rw [samePosition, submitted] at isElement
    simp only [ofTruths, found]
    rw [Option.some.inj isElement]
  shared := shared

end Row

/-! ## Tests -/

namespace Test

/-- The equalities that a test asks for one of or, negated, for none of. -/
def equalities (row : Row) : Test → List Truth
  | .null column _ => [row.isNull column]
  | .comparison subject _ operand => [row.equalsOperand subject operand]
  | .membership subject _ operands => operands.map (row.equalsOperand subject)
  | test => [row.others test]

def value (row : Row) : Test → Truth
  | .null column negated =>
      if negated then (row.isNull column).not else row.isNull column
  | .comparison subject .equal operand => row.equalsOperand subject operand
  | .comparison subject .notEqual operand => (row.equalsOperand subject operand).not
  | .membership subject negated operands =>
      Truth.oneOrNone negated (operands.map (row.equalsOperand subject))
  | test => row.others test

/-- A test for equality or, negated, for inequality. -/
inductive IsEquality : Bool → Test → Prop where
  | null (column : String) (negated : Bool) : IsEquality negated (.null column negated)
  | equal (subject operand : String) : IsEquality false (.comparison subject .equal operand)
  | notEqual (subject operand : String) :
      IsEquality true (.comparison subject .notEqual operand)
  | membership (subject : String) (negated : Bool) (operands : List String) :
      IsEquality negated (.membership subject negated operands)

theorem isEquality_comparison
    {operator : Operator} (isEquality : operator = .equal ∨ operator = .notEqual)
    (subject operand : String) :
    IsEquality operator.isNegated (.comparison subject operator operand) := by
  rcases isEquality with rfl | rfl
  · exact .equal subject operand
  · exact .notEqual subject operand

theorem IsEquality.value_eq
    {negated : Bool} {test : Test} (isEquality : IsEquality negated test) (row : Row) :
    test.value row = Truth.oneOrNone negated (test.equalities row) := by
  cases isEquality with
  | null column =>
      cases negated with
      | false => exact (Truth.any_singleton _).symm
      | true => exact (Truth.all_singleton _).symm
  | equal subject operand => exact (Truth.any_singleton _).symm
  | notEqual subject operand => exact (Truth.all_singleton _).symm
  | membership subject _ operands => rfl

end Test

/-! ## Conditions -/

namespace Condition

def tests : Condition → List Test
  | .single test => [test]
  | .anyOf tests => tests
  | .allOf tests => tests

def value (row : Row) : Condition → Truth
  | .single test => test.value row
  | .anyOf tests => Truth.any (tests.map (Test.value row))
  | .allOf tests => Truth.all (tests.map (Test.value row))

theorem tests_ofBranches (negated : Bool) (tests : List Test) :
    (ofBranches negated tests).tests = tests := by
  cases negated <;> rfl

/-- Branches that are equalities or their negations ask for one of all equalities in them or for
none. -/
theorem value_ofBranches
    {negated : Bool} {tests : List Test} (areEqualities : ∀ test ∈ tests, test.IsEquality negated)
    (row : Row) :
    (ofBranches negated tests).value row =
      Truth.oneOrNone negated (tests.flatMap (Test.equalities row)) := by
  have values :
      tests.map (Test.value row) =
        tests.map fun test => Truth.oneOrNone negated (test.equalities row) :=
    List.map_congr_left fun test member => (areEqualities test member).value_eq row
  cases negated with
  | false =>
      rw [Truth.oneOrNone, if_neg Bool.false_ne_true, Truth.any_flatMap]
      exact congrArg Truth.any values
  | true =>
      -- No branch holds if none of the equalities in it does.
      have noneHolds :
          tests.map (Test.value row) =
            (tests.map fun test => Truth.any (test.equalities row)).map Truth.not := by
        rw [values, List.map_map]
        exact List.map_congr_left fun test _ => (Truth.not_any _).symm
      rw [Truth.oneOrNone, if_pos rfl, ← Truth.not_any, Truth.any_flatMap, Truth.not_any,
        ← noneHolds]
      rfl

end Condition

/-! ## Lists -/

section Forms

variable (dialect : Dialect) (index : Nat) (column : String) (operator : Operator)
  (caseInsensitive : Bool) (items : List Value)

/-- The test for the elements of a list that are bound. -/
inductive IsElementsTest : Test → Prop where
  | comparison {element : Nat × Value} :
      boundElements items = [element] →
        IsElementsTest
          (.comparison (subject (caseInsensitive && isText element.2) column) operator
            (elementPlaceholder dialect caseInsensitive index element))
  | membership :
      2 ≤ (boundElements items).length →
        IsElementsTest
          (.membership (subject caseInsensitive column) operator.isNegated
            ((boundElements items).map (elementPlaceholder dialect caseInsensitive index)))

/-- The forms that the condition of a list takes. -/
inductive IsListCondition : Condition → Prop where
  | nothing :
      boundElements items = [] → items.any Value.isNull = true →
        IsListCondition (.ofBranches operator.isNegated [.null column operator.isNegated])
  | enclosed {test : Test} :
      IsElementsTest dialect index column operator caseInsensitive items test →
        items.any Value.isNull = false →
          IsListCondition (.ofBranches operator.isNegated [test])
  | nothingOr {test : Test} :
      IsElementsTest dialect index column operator caseInsensitive items test →
        items.any Value.isNull = true →
          IsListCondition
            (.ofBranches operator.isNegated [.null column operator.isNegated, test])
  | single {test : Test} :
      IsElementsTest dialect index column operator caseInsensitive items test →
        items.any Value.isNull = false →
          IsListCondition (.single test)
  | orNothing {test : Test} :
      IsElementsTest dialect index column operator caseInsensitive items test →
        items.any Value.isNull = true →
          IsListCondition
            (.ofBranches operator.isNegated [test, .null column operator.isNegated])

end Forms

section Lists

variable {dialect : Dialect} {index : Nat} {column : String} {operator : Operator}
  {caseInsensitive : Bool} {items : List Value}

theorem two_le_length_of_ne
    {elements : List (Nat × Value)} (notEmpty : elements ≠ [])
    (notSingle : ∀ element, elements ≠ [element]) : 2 ≤ elements.length := by
  match elements with
  | [] => exact absurd rfl notEmpty
  | [element] => exact absurd rfl (notSingle element)
  | _ :: _ :: rest => exact Nat.le_add_left 2 rest.length

theorem isListCondition_ofList (nonempty : items ≠ []) :
    IsListCondition dialect index column operator caseInsensitive items
      (.ofList dialect index column operator caseInsensitive items) := by
  unfold Condition.ofList
  simp only
  cases hasNull : items.any Value.isNull with
  | false =>
      split
      · rename_i bound
        rw [any_isNull_of_boundElements_eq_nil nonempty bound] at hasNull
        cases hasNull
      · rename_i element bound
        exact .enclosed (.comparison bound) hasNull
      · rename_i notEmpty notSingle
        exact .single (.membership (two_le_length_of_ne notEmpty notSingle)) hasNull
  | true =>
      split
      · rename_i bound
        exact .nothing bound hasNull
      · rename_i element bound
        exact .nothingOr (.comparison bound) hasNull
      · rename_i notEmpty notSingle
        exact .orNothing (.membership (two_le_length_of_ne notEmpty notSingle)) hasNull

theorem IsElementsTest.isEquality
    {test : Test}
    (isElementsTest :
      IsElementsTest dialect index column operator caseInsensitive items test)
    (isEquality : operator = .equal ∨ operator = .notEqual) :
    test.IsEquality operator.isNegated := by
  cases isElementsTest with
  | comparison _ => exact Test.isEquality_comparison isEquality _ _
  | membership _ => exact .membership _ _ _

section Tests

variable {condition : Condition}
  (isListCondition :
    IsListCondition dialect index column operator caseInsensitive items condition)

include isListCondition

/-- The condition is one test, or its tests are joined by the connective of the operator. -/
theorem IsListCondition.single_or_branches :
    (∃ test, condition = .single test) ∨
      condition = .ofBranches operator.isNegated condition.tests := by
  cases isListCondition with
  | single _ _ => exact .inl ⟨_, rfl⟩
  | nothing _ _ | enclosed _ _ | nothingOr _ _ | orNothing _ _ =>
      rw [Condition.tests_ofBranches]
      exact .inr rfl

theorem IsListCondition.isEquality_of_mem
    (isEquality : operator = .equal ∨ operator = .notEqual) :
    ∀ test ∈ condition.tests, test.IsEquality operator.isNegated := by
  have isNull : (Test.null column operator.isNegated).IsEquality operator.isNegated :=
    .null column operator.isNegated
  cases isListCondition with
  | nothing _ _ =>
      rw [Condition.tests_ofBranches]
      exact List.forall_mem_singleton.mpr isNull
  | enclosed isTest _ =>
      rw [Condition.tests_ofBranches]
      exact List.forall_mem_singleton.mpr (isTest.isEquality isEquality)
  | nothingOr isTest _ =>
      rw [Condition.tests_ofBranches, List.forall_mem_cons, List.forall_mem_singleton]
      exact ⟨isNull, isTest.isEquality isEquality⟩
  | single isTest _ =>
      exact List.forall_mem_singleton.mpr (isTest.isEquality isEquality)
  | orNothing isTest _ =>
      rw [Condition.tests_ofBranches, List.forall_mem_cons, List.forall_mem_singleton]
      exact ⟨isTest.isEquality isEquality, isNull⟩

/-- The condition asks for one of all equalities in its tests or, negated, for none. -/
theorem IsListCondition.value_eq
    (isEquality : operator = .equal ∨ operator = .notEqual) (row : Row) :
    condition.value row =
      Truth.oneOrNone operator.isNegated (condition.tests.flatMap (Test.equalities row)) := by
  have areEqualities := isListCondition.isEquality_of_mem isEquality
  rcases isListCondition.single_or_branches with ⟨test, rfl⟩ | branches
  · rw [Condition.tests, List.flatMap_singleton]
    exact (areEqualities test List.mem_cons_self).value_eq row
  · calc
      condition.value row =
          (Condition.ofBranches operator.isNegated condition.tests).value row :=
        congrArg (Condition.value row) branches
      _ = _ := Condition.value_ofBranches areEqualities row

end Tests

/-! ## Elements -/

variable {row : Row} {truth : Value → Truth}

theorem equalsOperand_of_mem_boundElements
    (assigned : row.Assigns index column caseInsensitive items truth)
    {element : Nat × Value} (member : element ∈ boundElements items) {lowered : Bool}
    (isLowered : lowered = caseInsensitive ∨ lowered = false ∧ isText element.2 = false) :
    row.equalsOperand (subject lowered column)
        (elementPlaceholder dialect caseInsensitive index element) =
      truth element.2 := by
  obtain ⟨submitted, isBound⟩ := getElem?_of_mem_boundElements member
  simp only [Row.equalsOperand, placeholders_elementPlaceholder]
  exact assigned.element element.1 element.2 lowered submitted isBound isLowered

theorem IsElementsTest.mem_equalities
    {test : Test}
    (isElementsTest :
      IsElementsTest dialect index column operator caseInsensitive items test)
    (assigned : row.Assigns index column caseInsensitive items truth) (value : Truth) :
    value ∈ test.equalities row ↔
      ∃ element ∈ boundElements items, value = truth element.2 := by
  cases isElementsTest with
  | @comparison element bound =>
      -- The column of a lone element is only in lower case if the element is a text.
      have member : element ∈ boundElements items := bound ▸ List.mem_singleton_self element
      have isLowered :
          (caseInsensitive && isText element.2) = caseInsensitive ∨
            (caseInsensitive && isText element.2) = false ∧ isText element.2 = false := by
        cases isText element.2 <;> simp
      rw [Test.equalities, equalsOperand_of_mem_boundElements assigned member isLowered, bound]
      simp
  | membership _ =>
      have values :
          (boundElements items).map
              (row.equalsOperand (subject caseInsensitive column) ∘
                elementPlaceholder dialect caseInsensitive index) =
            (boundElements items).map fun element => truth element.2 :=
        List.map_congr_left fun element member =>
          equalsOperand_of_mem_boundElements assigned member (.inl rfl)
      rw [Test.equalities, List.map_map, values]
      simp only [List.mem_map, eq_comm]

/-- The equalities in the condition of a list are those of its elements. -/
theorem IsListCondition.mem_equalities
    {condition : Condition}
    (isListCondition :
      IsListCondition dialect index column operator caseInsensitive items condition)
    (assigned : row.Assigns index column caseInsensitive items truth) (value : Truth) :
    value ∈ condition.tests.flatMap (Test.equalities row) ↔ value ∈ items.map truth := by
  rw [mem_map_iff_null_or_bound assigned.shared]
  have isNull :
      value ∈ (Test.null column operator.isNegated).equalities row ↔ value = truth .null := by
    rw [Test.equalities, assigned.null, List.mem_singleton]
  cases isListCondition with
  | nothing bound hasNull =>
      simp [Condition.tests_ofBranches, isNull, bound, hasNull]
  | enclosed isTest noNull =>
      simp [Condition.tests_ofBranches, isTest.mem_equalities assigned, noNull]
  | nothingOr isTest hasNull =>
      simp [Condition.tests_ofBranches, isNull, isTest.mem_equalities assigned, hasNull]
  | single isTest noNull =>
      simp [Condition.tests, isTest.mem_equalities assigned, noNull]
  | orNothing isTest hasNull =>
      simp [Condition.tests_ofBranches, isNull, isTest.mem_equalities assigned, hasNull, or_comm]

/-- The condition of a list has the value of one of the elements being met or, negated, of none
being met. -/
theorem IsListCondition.value_eq_oneOrNone
    {condition : Condition}
    (isListCondition :
      IsListCondition dialect index column operator caseInsensitive items condition)
    (isEquality : operator = .equal ∨ operator = .notEqual)
    (assigned : row.Assigns index column caseInsensitive items truth) :
    condition.value row = Truth.oneOrNone operator.isNegated (items.map truth) := by
  rw [isListCondition.value_eq isEquality]
  exact Truth.oneOrNone_congr_members (isListCondition.mem_equalities assigned) _

end Lists

end FilterQuery.Sql
