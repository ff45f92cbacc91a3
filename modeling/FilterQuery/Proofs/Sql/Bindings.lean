import FilterQuery.Proofs.Sql.Conditions
import FilterQuery.Proofs.Sql.DistinctElements
import Mathlib.Data.List.Nodup

/-!
# The parameters of a filter

A filter binds a value for each placeholder in its condition, in the same order,
and for nothing else (`placeholders_ofFilter`).

* The elements of a list keep their positions when repeated ones are left out, so
  the names of their parameters differ (`nodup_bindingNames`);
* every name tells the index of the filter (`isNameOf_of_mem_bindingNames`).
-/

namespace FilterQuery.Sql

/-- The names of a filter's parameters. -/
def bindingNames (dialect : Dialect) (index : Nat) (filter : Filter) : List String :=
  (bindings dialect index filter).map Prod.fst

variable {dialect : Dialect} {index : Nat} {column : String}

/-! ## Positions -/

theorem le_position_of_mem_distinctFrom
    {position : Nat} {seen items : List Value} {element : Nat × Value}
    (member : element ∈ distinctFrom position seen items) :
    position ≤ element.1 := by
  obtain ⟨offset, isPosition, _⟩ := getElem?_of_mem_distinctFrom member
  exact isPosition ▸ Nat.le_add_right position offset

theorem ascending_distinctFrom (position : Nat) (seen items : List Value) :
    ((distinctFrom position seen items).map Prod.fst).Pairwise (· < ·) := by
  induction items generalizing position seen with
  | nil => exact List.Pairwise.nil
  | cons item rest inductionHypothesis =>
      simp only [distinctFrom]
      split
      · exact inductionHypothesis _ _
      · rw [List.map_cons, List.pairwise_cons]
        refine ⟨?_, inductionHypothesis _ _⟩
        intro other member
        obtain ⟨element, isLater, rfl⟩ := List.mem_map.mp member
        exact le_position_of_mem_distinctFrom isLater

/-- Elements that are bound stand at different positions. -/
theorem nodup_positions (items : List Value) :
    ((boundElements items).map Prod.fst).Nodup := by
  have isPart :
      ((boundElements items).map Prod.fst).Sublist
        ((distinctElements items).map Prod.fst) :=
    List.filter_sublist.map Prod.fst
  have ascending := (ascending_distinctFrom 0 [] items).sublist isPart
  exact ascending.imp Nat.ne_of_lt

theorem elementName_injective (index : Nat) :
    Function.Injective (elementName index) := by
  intro first second same
  have sameCharacters := congrArg String.toList same
  simp only [elementName, String.toList_append] at sameCharacters
  have sameDigits := List.append_cancel_left sameCharacters
  exact Text.Digits.toString_injective (String.toList_inj.mp sameDigits)

/-! ## Names -/

theorem bindingNames_inList
    {filter : Filter} {items : List Value}
    (isList : filter.kind = .inList items) :
    bindingNames dialect index filter =
      (boundElements items).map fun element => elementName index element.1 := by
  simp only [bindingNames, bindings, isList, List.map_map]
  rfl

/-- No name is bound twice for one filter. -/
theorem nodup_bindingNames (dialect : Dialect) (index : Nat) (filter : Filter) :
    (bindingNames dialect index filter).Nodup := by
  cases isKind : filter.kind with
  | inList items =>
      have asPositions :
          ((boundElements items).map fun element =>
              elementName index element.1) =
            ((boundElements items).map Prod.fst).map (elementName index) := by
        rw [List.map_map]
        rfl
      rw [bindingNames_inList isKind, asPositions]
      exact (nodup_positions items).map (elementName_injective index)
  | null | boolean _ => simp [bindingNames, bindings, isKind]
  | integer _ | float _ | string _ | like _ | regexp _ =>
      simp [bindingNames, bindings, isKind]

theorem isNameOf_of_mem_bindingNames
    {filter : Filter} {name : String}
    (member : name ∈ bindingNames dialect index filter) : IsNameOf index name := by
  cases isKind : filter.kind with
  | inList items =>
      rw [bindingNames_inList isKind] at member
      obtain ⟨element, _, rfl⟩ := List.mem_map.mp member
      exact .element element.1
  | null | boolean _ => simp [bindingNames, bindings, isKind] at member
  | integer _ | float _ | string _ | like _ | regexp _ =>
      have isParameter : name = parameterName index := by
        simpa [bindingNames, bindings, isKind] using member
      rw [isParameter]
      exact .parameter

/-! ## Placeholders of conditions -/

theorem placeholders_ofBranches (negated : Bool) (tests : List Test) :
    placeholders (Condition.ofBranches negated tests).text.toList =
      tests.flatMap fun test => placeholders test.text.toList := by
  rw [toList_text_ofBranches, placeholders_enclosed, placeholders_branchesText]

/-- The names in a test of a column are those in its operands. -/
theorem IsTest.placeholders_operands
    {test : Test} (isTest : IsTest index test) (isSubject : IsSubject test.subject) :
    placeholders test.text.toList =
      test.operands.flatMap fun operand => placeholders operand.toList := by
  rw [isTest.placeholders_text, placeholders_of_isSubject isSubject]
  rfl

theorem IsTest.placeholders_operand
    {test : Test} {operand : String} (isTest : IsTest index test)
    (isSubject : IsSubject test.subject) (only : test.operands = [operand]) :
    placeholders test.text.toList = placeholders operand.toList := by
  rw [isTest.placeholders_operands isSubject, only, List.flatMap_singleton]

theorem placeholders_null (isColumn : IsColumn column) (negated : Bool) :
    placeholders (Test.null column negated).text.toList = [] := by
  have isTest : IsTest 0 (.null column negated) := .null negated isColumn
  exact isTest.placeholders_operands (.column isColumn)

theorem placeholders_truth
    (isColumn : IsColumn column) (operator : Operator) (value : Bool) :
    placeholders
        (Test.comparison column operator
          (if value then "1" else "0")).text.toList = [] := by
  have isTest :
      IsTest 0 (.comparison column operator (if value then "1" else "0")) :=
    .truth operator value isColumn
  rw [isTest.placeholders_operand (.column isColumn) rfl]
  cases value <;> decide

theorem placeholders_comparison
    {subject operand : String} (operator : Operator)
    (isSubject : IsSubject subject) (isOperand : IsOperand index operand) :
    placeholders (Test.comparison subject operator operand).text.toList =
      placeholders operand.toList := by
  have isTest : IsTest index (.comparison subject operator operand) :=
    .comparison operator isSubject isOperand
  exact isTest.placeholders_operand isSubject rfl

theorem placeholders_like
    {subject operand : String} (negated : Bool) (isSubject : IsSubject subject)
    (isOperand : IsOperand index operand) :
    placeholders
        (Test.like subject negated operand dialect.likeEscape).text.toList =
      placeholders operand.toList := by
  have isTest :
      IsTest index (.like subject negated operand dialect.likeEscape) :=
    .like negated dialect isSubject isOperand
  exact isTest.placeholders_operand isSubject rfl

theorem placeholders_regexpTest
    {name : String} {negated caseInsensitive : Bool}
    (isColumn : IsColumn column) (isName : IsNameOf index name) :
    placeholders
        (dialect.regexpTest column negated name caseInsensitive).text.toList =
      [name] := by
  cases dialect with
  | mySql =>
      have isOperand :
          IsOperand index (textPlaceholder .mySql caseInsensitive name) :=
        isOperand_textPlaceholder isName
      have isTest :
          IsTest index
            (.regexp column negated (textPlaceholder .mySql caseInsensitive name)) :=
        .regexp negated isColumn isOperand
      have sameNames := isTest.placeholders_operand (.column isColumn) rfl
      exact sameNames.trans (placeholders_textPlaceholder isName)
  | sqlite =>
      have isTest : IsTest index (.regexp column negated (placeholder name)) :=
        .regexp negated isColumn (.plain isName)
      have sameNames := isTest.placeholders_operand (.column isColumn) rfl
      exact sameNames.trans (placeholders_plain isName)
  | doctrine =>
      have isTest :
          IsTest index
            (.comparison
              ("REGEXP(" ++ column ++ ", " ++ placeholder name ++ ")") .equal
              (if negated then "0" else "1")) :=
        .regexpCall negated isColumn isName
      have noNames : placeholders (if negated then "0" else "1").toList = [] := by
        cases negated <;> decide
      rw [Dialect.regexpTest, isTest.placeholders_text, Test.subject,
        placeholders_regexpCall isColumn isName, Test.operands,
        List.flatMap_singleton, noNames]
      rfl

/-- The names in a list test are those of the elements. -/
theorem placeholders_membership
    {subject : String} {negated caseInsensitive : Bool}
    {elements : List (Nat × Value)} (isSubject : IsSubject subject)
    (nonempty : elements ≠ []) :
    placeholders
        (Test.membership subject negated
          (elements.map
            (elementPlaceholder dialect caseInsensitive index))).text.toList =
      elements.map fun element => elementName index element.1 := by
  have isTest :
      IsTest index
        (.membership subject negated
          (elements.map (elementPlaceholder dialect caseInsensitive index))) := by
    refine .membership negated isSubject ?_ ?_
    · intro noOperands
      exact nonempty (List.map_eq_nil_iff.mp noOperands)
    · rw [List.forall_mem_map]
      intro element _
      exact isOperand_elementPlaceholder
  rw [isTest.placeholders_operands isSubject, Test.operands, List.flatMap_map,
    List.map_eq_flatMap]
  simp only [placeholders_elementPlaceholder]

/-- The condition of a list has the names of the elements that are bound. -/
theorem placeholders_ofList
    {operator : Operator} {caseInsensitive : Bool} {items : List Value}
    (isColumn : IsColumn column) :
    placeholders
        (Condition.ofList dialect index column operator caseInsensitive
          items).text.toList =
      (boundElements items).map fun element => elementName index element.1 := by
  unfold Condition.ofList
  simp only
  generalize isNullTests :
    (if items.any Value.isNull then [Test.null column operator.isNegated]
      else []) = nullTests
  have nameless :
      (nullTests.flatMap fun test => placeholders test.text.toList) = [] := by
    rw [List.flatMap_eq_nil_iff]
    intro test member
    rw [← isNullTests] at member
    split at member
    · rw [List.mem_singleton.mp member]
      exact placeholders_null isColumn _
    · cases member
  match boundElements items with
  | [] =>
      rw [placeholders_ofBranches, nameless]
      rfl
  | [element] =>
      rw [placeholders_ofBranches, List.flatMap_append, nameless,
        List.flatMap_singleton,
        placeholders_comparison operator (isSubject_subject isColumn)
          isOperand_elementPlaceholder,
        placeholders_elementPlaceholder]
      rfl
  | first :: second :: rest =>
      have named :
          placeholders
              (Test.membership (subject caseInsensitive column)
                operator.isNegated
                ((first :: second :: rest).map
                  (elementPlaceholder dialect caseInsensitive
                    index))).text.toList =
            (first :: second :: rest).map fun element =>
              elementName index element.1 :=
        placeholders_membership (isSubject_subject isColumn)
          (List.cons_ne_nil _ _)
      simp only
      split
      · exact named
      · rw [placeholders_ofBranches, List.flatMap_cons, nameless,
          List.append_nil]
        exact named

/-- The condition of a filter has the names of its parameters, in their order. -/
theorem placeholders_ofFilter
    {filter : Filter} (isColumn : IsColumn column) :
    placeholders (Condition.ofFilter dialect index column filter).text.toList =
      bindingNames dialect index filter := by
  have isName : IsNameOf index (parameterName index) := .parameter
  simp only [Condition.ofFilter, bindingNames, bindings]
  split
  · exact placeholders_null isColumn _
  · exact placeholders_truth isColumn _ _
  · rw [Condition.text,
      placeholders_comparison _ (.column isColumn) (.plain isName)]
    exact placeholders_plain isName
  · rw [Condition.text,
      placeholders_comparison _ (.column isColumn) (.plain isName)]
    exact placeholders_plain isName
  · rw [Condition.text,
      placeholders_comparison _ (isSubject_subject isColumn)
        (isOperand_textPlaceholder isName)]
    exact placeholders_textPlaceholder isName
  · rw [Condition.text,
      placeholders_like _ (isSubject_subject isColumn)
        (isOperand_textPlaceholder isName)]
    exact placeholders_textPlaceholder isName
  · exact placeholders_regexpTest isColumn isName
  · rw [placeholders_ofList isColumn, List.map_map]
    rfl

end FilterQuery.Sql
