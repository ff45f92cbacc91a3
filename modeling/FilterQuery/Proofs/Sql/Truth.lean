import FilterQuery.Query.Basic
import FilterQuery.Sql.Clause

/-!
# Truth values

Conditions are true, false or unknown.  `Clause.value` is the value of a clause
when the values of its conditions are known, `Tree.value` that of a filter
expression when the values of the filters are known, and `Query.value` that of
all filters of a query.

The three ways to write exclusive or have the same value (`value_combine`).
-/

namespace FilterQuery

/-- The value of a condition. -/
inductive Truth where
  | yes
  | no
  | unknown
  deriving DecidableEq, Repr

namespace Truth

/-- Not true, or not false; what is unknown stays unknown. -/
def not : Truth → Truth
  | .yes => .no
  | .no => .yes
  | .unknown => .unknown

/-- False as soon as one side is. -/
def and : Truth → Truth → Truth
  | .no, _ => .no
  | _, .no => .no
  | .yes, .yes => .yes
  | _, _ => .unknown

/-- True as soon as one side is. -/
def or : Truth → Truth → Truth
  | .yes, _ => .yes
  | _, .yes => .yes
  | .no, .no => .no
  | _, _ => .unknown

/-- Whether the sides differ; unknown as soon as one side is. -/
def xor : Truth → Truth → Truth
  | .unknown, _ => .unknown
  | _, .unknown => .unknown
  | .yes, .yes => .no
  | .no, .no => .no
  | _, _ => .yes

/-- All of several values. -/
def all (values : List Truth) : Truth :=
  values.foldr and .yes

/-- One of several values. -/
def any (values : List Truth) : Truth :=
  values.foldr or .no

theorem and_yes (value : Truth) : value.and .yes = value := by
  cases value <;> rfl

theorem and_assoc (first second third : Truth) :
    (first.and second).and third = first.and (second.and third) := by
  cases first <;> cases second <;> cases third <;> rfl

theorem no_or (value : Truth) : Truth.no.or value = value := by
  cases value <;> rfl

theorem or_no (value : Truth) : value.or .no = value := by
  cases value <;> rfl

theorem or_assoc (first second third : Truth) :
    (first.or second).or third = first.or (second.or third) := by
  cases first <;> cases second <;> cases third <;> rfl

theorem not_or (left right : Truth) :
    (left.or right).not = left.not.and right.not := by
  cases left <;> cases right <;> rfl

theorem any_singleton (value : Truth) : any [value] = value := or_no value

theorem all_singleton (value : Truth) : all [value] = value := and_yes value

theorem any_append (first second : List Truth) :
    any (first ++ second) = (any first).or (any second) := by
  induction first with
  | nil => exact (no_or _).symm
  | cons value rest inductionHypothesis =>
      have step : any (value :: (rest ++ second)) = value.or (any (rest ++ second)) := rfl
      rw [List.cons_append, step, inductionHypothesis, ← or_assoc]
      rfl

/-- None of several values is true when each of them is false. -/
theorem not_any (values : List Truth) : (any values).not = all (values.map not) := by
  induction values with
  | nil => rfl
  | cons value rest inductionHypothesis =>
      have step : any (value :: rest) = value.or (any rest) := rfl
      rw [step, not_or, inductionHypothesis]
      rfl

theorem any_flatMap {α : Type} (values : α → List Truth) (items : List α) :
    any (items.flatMap values) = any (items.map fun item => any (values item)) := by
  induction items with
  | nil => rfl
  | cons item rest inductionHypothesis =>
      rw [List.flatMap_cons, any_append, inductionHypothesis]
      rfl

/-- Neither the order of values matters nor how often they occur. -/
theorem any_eq_of_members (values : List Truth) :
    any values =
      if .yes ∈ values then .yes else if .unknown ∈ values then .unknown else .no := by
  induction values with
  | nil => rfl
  | cons value rest inductionHypothesis =>
      have step : any (value :: rest) = value.or (any rest) := rfl
      rw [step, inductionHypothesis]
      by_cases hasYes : .yes ∈ rest <;> by_cases hasUnknown : .unknown ∈ rest <;>
        cases value <;> simp [or, hasYes, hasUnknown]

theorem any_congr_members
    {first second : List Truth} (same : ∀ value, value ∈ first ↔ value ∈ second) :
    any first = any second := by
  simp only [any_eq_of_members, same]

/-- One of several values or, negated, none of them. -/
def oneOrNone (negated : Bool) (values : List Truth) : Truth :=
  if negated then all (values.map not) else any values

theorem oneOrNone_congr_members
    {first second : List Truth} (same : ∀ value, value ∈ first ↔ value ∈ second)
    (negated : Bool) : oneOrNone negated first = oneOrNone negated second := by
  unfold oneOrNone
  rw [← not_any, ← not_any, any_congr_members same]

/-- Exclusive or comes down to the other operators. -/
theorem or_and_not (left right : Truth) :
    (left.and right.not).or (left.not.and right) = left.xor right := by
  cases left <;> cases right <;> rfl

end Truth

/-- What an operator does with the values of its sides. -/
def LogicalOperator.value : LogicalOperator → Truth → Truth → Truth
  | .and => Truth.and
  | .or => Truth.or
  | .xor => Truth.xor

/-- The value of an expression, given those of the filters. -/
def Expression.Tree.value (filters : Nat → Truth) : Expression.Tree → Truth
  | .leaf index => filters index
  | .node operator left right =>
      operator.value (left.value filters) (right.value filters)

/-- The value of a query: that of its expression, or whether all filters
hold. -/
def Query.value (query : Query) (filters : Nat → Truth) : Truth :=
  match query.expression with
  | some expression => expression.tree.value filters
  | none => Truth.all (query.filters.indexes.map filters)

namespace Sql.Clause

/-- The value of a clause, given those of the conditions. -/
def value (conditions : String → Truth) : Clause → Truth
  | .condition text => conditions text
  | .negation operand => (operand.value conditions).not
  | .operation operator left right =>
      operator.value (left.value conditions) (right.value conditions)
  | .xorCall left right =>
      (left.value conditions).xor (right.value conditions)

variable {dialect : Dialect} {conditions : String → Truth}

/-- However a dialect writes an operation, its value is that of the
operator. -/
theorem value_combine (operator : LogicalOperator) (left right : Clause) :
    (combine dialect operator left right).value conditions =
      operator.value (left.value conditions) (right.value conditions) := by
  cases operator with
  | and => cases dialect <;> rfl
  | or => cases dialect <;> rfl
  | xor =>
      cases dialect with
      | mySql => rfl
      | sqlite => rfl
      | doctrine => exact Truth.or_and_not _ _

/-- The clause of an expression has its value, when the conditions have the
values of the filters that they are for. -/
theorem value_of_ofTree
    {condition? : Nat → Option String} {filters : Nat → Truth}
    {tree : Expression.Tree} {clause : Clause}
    (built : ofTree dialect condition? tree = .ok clause)
    (same :
      ∀ index ∈ tree.leaves, ∀ text, condition? index = some text →
        conditions text = filters index) :
    clause.value conditions = tree.value filters := by
  induction tree generalizing clause with
  | leaf index =>
      simp only [ofTree] at built
      split at built
      · cases built
      · rename_i text found
        cases built
        exact same index (List.mem_singleton.mpr rfl) text found
  | node operator left right leftHypothesis rightHypothesis =>
      simp only [ofTree, bind, Except.bind] at built
      split at built
      · cases built
      · rename_i leftClause leftBuilt
        split at built
        · cases built
        · rename_i rightClause rightBuilt
          cases built
          have leftValue :=
            leftHypothesis leftBuilt fun index member =>
              same index (List.mem_append_left _ member)
          have rightValue :=
            rightHypothesis rightBuilt fun index member =>
              same index (List.mem_append_right _ member)
          rw [value_combine, leftValue, rightValue]
          rfl

end Sql.Clause

end FilterQuery
