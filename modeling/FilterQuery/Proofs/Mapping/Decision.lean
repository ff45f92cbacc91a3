import FilterQuery.Mapping.Validation
import FilterQuery.Proofs.Mapping.Construction

/-!
# What validation checks

* `Rule.Governs` and `Rule.Admits` say which filters a rule is about and what it
  demands of them; `checkFilter` decides the second;
* `checkAgainst` and `unmatchedFilters` go on as long as everything is admitted,
  and otherwise report the first rule of the first filter that is at fault;
* sorts and expressions are checked as a whole.
-/

namespace FilterQuery

namespace Rule

/-- The rule is about filters on the key and of the kind of the given one. -/
def Governs (rule : Rule) (filter : Filter) : Prop :=
  rule.key = filter.key ∧ rule.filterType = filter.filterType

instance (rule : Rule) (filter : Filter) : Decidable (rule.Governs filter) :=
  inferInstanceAs (Decidable (_ ∧ _))

theorem governs_eq_true_iff {rule : Rule} {filter : Filter} :
    rule.governs filter = true ↔ rule.Governs filter := by
  simp [governs, Governs]

/-- What the rule demands of a filter: an available operator, a value without
violations, and list elements without violations of the constraints that are
declared for their datatypes. -/
structure Admits
    (validator : Validator) (rule : Rule) (filter : Filter) : Prop where
  operator : filter.operator ∈ rule.availableOperators
  value :
    rule.constraints = [] ∨ validator filter.value rule.constraints = []
  elements :
    ∀ items, filter.kind = .inList items →
      ∀ item ∈ items, ∀ elementType constraints,
        item.elementType? = some elementType →
        rule.elementConstraints.get? elementType = some constraints →
        validator item constraints = []

end Rule

namespace Mapping

variable {mapping : Mapping}

/-! ## One filter and one rule -/

/-- The list elements satisfy the constraints of their datatypes. -/
def ElementsPass
    (mapping : Mapping) (rule : Rule) (items : List Value) : Prop :=
  ∀ item ∈ items, ∀ elementType constraints,
    item.elementType? = some elementType →
    rule.elementConstraints.get? elementType = some constraints →
    mapping.validator item constraints = []

theorem checkElements_eq_ok_iff
    {rule : Rule} {index : Nat} {filter : Filter} {position : Nat}
    {items : List Value} :
    mapping.checkElements rule index filter position items = .ok () ↔
      mapping.ElementsPass rule items := by
  induction items generalizing position with
  | nil => simp [checkElements, ElementsPass]
  | cons item rest inductionHypothesis =>
      have split :
          mapping.ElementsPass rule (item :: rest) ↔
            mapping.ElementsPass rule [item] ∧
              mapping.ElementsPass rule rest := by
        simp [ElementsPass]
      rw [split, ← @inductionHypothesis (position + 1)]
      simp only [checkElements]
      cases found : item.elementType?.bind rule.elementConstraints.get? with
      | none =>
          have unconstrained : mapping.ElementsPass rule [item] := by
            intro tested member elementType constraints isType declared
            rw [List.mem_singleton.mp member] at isType
            rw [isType, Option.bind_some, declared] at found
            cases found
          simp [unconstrained]
      | some constraints =>
          obtain ⟨elementType, isType, declared⟩ :=
            Option.bind_eq_some_iff.mp found
          have constrained :
              mapping.ElementsPass rule [item] ↔
                mapping.validator item constraints = [] := by
            constructor
            · intro passes
              exact
                passes item (List.mem_singleton.mpr rfl) elementType constraints
                  isType declared
            · intro satisfied tested member otherType others isOther otherDeclared
              rw [List.mem_singleton.mp member] at isOther ⊢
              cases isType.symm.trans isOther
              cases declared.symm.trans otherDeclared
              exact satisfied
          rw [constrained]
          cases violations : mapping.validator item constraints with
          | nil => simp [violations]
          | cons first others => simp [violations]

theorem exists_element_of_checkElements
    {rule : Rule} {index : Nat} {filter : Filter} {position : Nat}
    {items : List Value} {denial : Denial}
    (checked :
      mapping.checkElements rule index filter position items =
        .error denial) :
    ∃ failed first others,
      denial = .element index filter failed first others := by
  induction items generalizing position with
  | nil => cases checked
  | cons item rest inductionHypothesis =>
      simp only [checkElements] at checked
      split at checked
      · exact inductionHypothesis checked
      · split at checked
        · exact inductionHypothesis checked
        · cases checked
          exact ⟨_, _, _, rfl⟩

theorem valueViolations_eq_nil_iff {rule : Rule} {filter : Filter} :
    mapping.valueViolations rule filter = [] ↔
      rule.constraints = [] ∨
        mapping.validator filter.value rule.constraints = [] := by
  unfold valueViolations
  cases rule.constraints with
  | nil => simp
  | cons first others => simp

/-- A rule is satisfied exactly when it admits the filter. -/
theorem checkFilter_eq_ok_iff
    {rule : Rule} {index : Nat} {filter : Filter} :
    mapping.checkFilter rule index filter = .ok () ↔
      rule.Admits mapping.validator filter := by
  constructor
  · intro checked
    unfold checkFilter at checked
    split at checked
    · cases checked
    · rename_i available
      split at checked
      · cases checked
      · rename_i noViolations
        refine ⟨by simpa using available,
          valueViolations_eq_nil_iff.mp noViolations, ?_⟩
        intro items isList
        rw [isList] at checked
        exact checkElements_eq_ok_iff.mp checked
  · rintro ⟨operator, value, elements⟩
    have available : rule.availableOperators.contains filter.operator = true :=
      List.contains_iff_mem.mpr operator
    unfold checkFilter
    rw [available, valueViolations_eq_nil_iff.mpr value]
    simp only [Bool.not_true, Bool.false_eq_true, if_false]
    split
    · rename_i items isList
      exact checkElements_eq_ok_iff.mpr (elements items isList)
    · rfl

/-- What the denial of one filter says: the operator is reported when it is not
available, and a violation otherwise. -/
structure IsDenialOf
    (rule : Rule) (index : Nat) (filter : Filter) (denial : Denial) :
    Prop where
  code :
    denial.failure.code.text =
      if filter.operator ∈ rule.availableOperators then "Q2005" else "Q2001"
  parameter : denial.failure.parameter = some "filter"
  index : denial.failure.index = some index
  expression : denial.failure.expression = some filter.expression

theorem isDenialOf_of_checkFilter
    {rule : Rule} {index : Nat} {filter : Filter} {denial : Denial}
    (checked : mapping.checkFilter rule index filter = .error denial) :
    IsDenialOf rule index filter denial := by
  unfold checkFilter at checked
  split at checked
  · rename_i unavailable
    have absent : filter.operator ∉ rule.availableOperators := by
      simpa using unavailable
    have code : Code.disallowedOperator.text = "Q2001" := by decide
    cases checked
    exact ⟨code.trans (if_neg absent).symm, rfl, rfl, rfl⟩
  · rename_i available
    have present : filter.operator ∈ rule.availableOperators := by
      simpa using available
    have code : Code.constraintViolation.text = "Q2005" := by decide
    split at checked
    · cases checked
      exact ⟨code.trans (if_pos present).symm, rfl, rfl, rfl⟩
    · split at checked
      · obtain ⟨failed, first, others, rfl⟩ :=
          exists_element_of_checkElements checked
        exact ⟨code.trans (if_pos present).symm, rfl, rfl, rfl⟩
      · cases checked

end Mapping

end FilterQuery
