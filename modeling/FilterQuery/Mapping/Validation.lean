import FilterQuery.Mapping.Basic
import FilterQuery.Query.Basic

/-!
# Validation

`Mapping.validate` decides whether a query keeps to a mapping, or gives the first
reason to deny it.

* Filters come first, in ascending order of index.  Every rule that governs a
  filter must allow it; filters that no rule governs are only reported once all
  the others have passed;
* then come the sorts, all disallowed ones together;
* then the filter expression.
-/

namespace FilterQuery

/-- Why a query is denied. -/
inductive Denial where
  | operator (index : Nat) (filter : Filter) (available : List Operator)
  | value (index : Nat) (filter : Filter) (first : String) (others : List String)
  | element
      (index : Nat) (filter : Filter) (position : Nat) (first : String)
      (others : List String)
  /-- The texts of the filters that no rule governs. -/
  | filters (unmatched : List String)
  /-- The texts of the sorts that are not allowed. -/
  | sorts (unmatched : List String)
  /-- The expression, and the texts of those that are allowed. -/
  | expression (denied : Expression) (allowed : List String)

namespace Denial

def ofFilter
    (code : Code) (index : Nat) (filter : Filter) (message : String) :
    Failure :=
  { code
    message := "'filter=" ++ filter.expression ++ "': " ++ message
    parameter := some "filter"
    index := some index
    expression := some filter.expression }

/-- The violations of a value, in words. -/
def violationsMessage (first : String) (others : List String) : String :=
  toString (others.length + 1) ++ " validation(s) failed. First error: " ++
    first

def failure : Denial → Failure
  | .operator index filter available =>
      ofFilter .disallowedOperator index filter
        ("Disallowed operator \"" ++ filter.operator.symbol ++
          "\"; allowed operators are: " ++
          quotedList (available.map Operator.symbol))
  | .value index filter first others =>
      ofFilter .constraintViolation index filter
        (violationsMessage first others)
  | .element index filter position first others =>
      ofFilter .constraintViolation index filter
        ("Element at index " ++ toString position ++ ": " ++
          violationsMessage first others)
  | .filters unmatched =>
      { code := .disallowedFilter
        message := toString unmatched.length ++
          " filter(s) is/are not allowed. These are: " ++ quotedList unmatched
        parameter := some "filter" }
  | .sorts unmatched =>
      { code := .disallowedSort
        message := toString unmatched.length ++
          " sort(s) is/are not allowed. These are: " ++ quotedList unmatched
        parameter := some "sort" }
  | .expression denied allowed =>
      { code := .disallowedFilterExpression
        message :=
          if allowed.isEmpty then
            "An allowed filter expression was not provided; " ++
              "denied filterExpression \"" ++ denied.normalized ++ "\""
          else
            "Denied filterExpression \"" ++ denied.normalized ++ "\" (raw: \"" ++
              denied.text ++
              "\"); does not match any allowed filter expressions: " ++
              quotedList allowed
        parameter := some "filterExpression"
        expression := some denied.text }

end Denial

namespace Mapping

/-! ## Filters -/

/-- Check the elements of a list from a position on, each by the constraints of
its datatype. -/
def checkElements
    (mapping : Mapping) (rule : Rule) (index : Nat) (filter : Filter)
    (position : Nat) : List Value → Except Denial Unit
  | [] => .ok ()
  | item :: rest =>
      let constraints :=
        item.elementType?.bind rule.elementConstraints.get?
      match constraints with
      | none => mapping.checkElements rule index filter (position + 1) rest
      | some constraints =>
          match mapping.validator item constraints with
          | [] => mapping.checkElements rule index filter (position + 1) rest
          | first :: others =>
              .error (.element index filter position first others)

/-- The violations of the constraints of a rule; without constraints there are
none. -/
def valueViolations (mapping : Mapping) (rule : Rule) (filter : Filter) :
    List String :=
  if rule.constraints.isEmpty then []
  else mapping.validator filter.value rule.constraints

/-- Check a filter against one rule that governs it: the operator, then the
value, then the elements of a list. -/
def checkFilter
    (mapping : Mapping) (rule : Rule) (index : Nat) (filter : Filter) :
    Except Denial Unit :=
  if !rule.availableOperators.contains filter.operator then
    .error (.operator index filter rule.availableOperators)
  else
    match mapping.valueViolations rule filter with
    | first :: others => .error (.value index filter first others)
    | [] =>
        match filter.kind with
        | .inList items => mapping.checkElements rule index filter 0 items
        | _ => .ok ()

/-- Check a filter against several rules that govern it. -/
def checkAgainst
    (mapping : Mapping) (index : Nat) (filter : Filter) :
    List Rule → Except Denial Unit
  | [] => .ok ()
  | rule :: rest =>
      match mapping.checkFilter rule index filter with
      | .error denial => .error denial
      | .ok () => mapping.checkAgainst index filter rest

def governing (mapping : Mapping) (filter : Filter) : List Rule :=
  mapping.rules.filter (·.governs filter)

/-- Check filters, and collect the texts of those that no rule governs. -/
def unmatchedFilters (mapping : Mapping) :
    List (Nat × Filter) → Except Denial (List String)
  | [] => .ok []
  | (index, filter) :: rest =>
      let rules := mapping.governing filter
      match mapping.checkAgainst index filter rules with
      | .error denial => .error denial
      | .ok () =>
          (mapping.unmatchedFilters rest).map fun others =>
            if rules.isEmpty then filter.expression :: others else others

def validateFilters (mapping : Mapping) (query : Query) :
    Except Denial Unit :=
  match mapping.unmatchedFilters query.filters.entries with
  | .error denial => .error denial
  | .ok [] => .ok ()
  | .ok unmatched => .error (.filters unmatched)

/-! ## Sorts and expressions -/

def validateSorts (mapping : Mapping) (query : Query) : Except Denial Unit :=
  let disallowed := query.sorts.values.filter (!mapping.allowsSort ·.key)
  if disallowed.isEmpty then .ok ()
  else .error (.sorts (disallowed.map SortClause.expression))

def validateExpression (mapping : Mapping) (query : Query) :
    Except Denial Unit :=
  match query.expression with
  | none => .ok ()
  | some given =>
      if mapping.expressions.any (·.permits given) then .ok ()
      else
        .error (.expression given (mapping.expressions.map ExpressionRule.text))

/-- Check that a query keeps to a mapping. -/
def validate (mapping : Mapping) (query : Query) : Except Denial Unit := do
  mapping.validateFilters query
  mapping.validateSorts query
  mapping.validateExpression query

end Mapping

end FilterQuery
