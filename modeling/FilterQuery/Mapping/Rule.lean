import FilterQuery.Collection.OrderedMap
import FilterQuery.Constraint.Check
import FilterQuery.Expression.Basic
import FilterQuery.Filter.Basic

/-!
# Allow rules

* A `Rule` allows filters of one kind on one key, perhaps only with certain
  operators, and restricts their values;
* an `ExpressionRule` allows one filter expression, or all of them.

`Rule.fault?` finds what is inconsistent in a rule.
-/

namespace FilterQuery

/-- The permission for filters of one kind on one key. -/
structure Rule where
  key : String
  filterType : FilterType
  /-- The declared operators; without a declaration every legal one. -/
  operators : Option (List Operator) := none
  constraints : List Constraint := []
  /-- The constraints of list elements, by datatype. -/
  elementConstraints : OrderedMap ElementType (List Constraint) := .empty

namespace Rule

def withOperators (rule : Rule) (operators : List Operator) : Rule :=
  { rule with operators := some operators }

def withConstraint (rule : Rule) (constraint : Constraint) : Rule :=
  { rule with constraints := rule.constraints ++ [constraint] }

/-- Add a constraint of the list elements of a datatype. -/
def withElementConstraint
    (rule : Rule) (elementType : ElementType) (constraint : Constraint) :
    Rule :=
  let present := (rule.elementConstraints.get? elementType).getD []
  { rule with
    elementConstraints :=
      rule.elementConstraints.insert elementType (present ++ [constraint]) }

/-- The operators that filters may use under the rule: the declared ones that
are legal for the kind, or every legal one. -/
def availableOperators (rule : Rule) : List Operator :=
  match rule.operators with
  | none => rule.filterType.legalOperators
  | some declared => declared.filter rule.filterType.accepts

def governs (rule : Rule) (filter : Filter) : Bool :=
  rule.key == filter.key && rule.filterType == filter.filterType

/-! ## Consistency -/

/-- Whose constraint is at fault. -/
inductive Subject where
  | value
  | elements (elementType : ElementType)
  deriving DecidableEq, Repr

/-- What is inconsistent in a rule. -/
inductive Fault where
  | noOperators
  | illegalOperator (operator : Operator)
  | elementsOfOtherKind
  | unavailableConstraint
      (subject : Subject) (name : String) (filterType : FilterType)
  | invalidConstraint
      (subject : Subject) (name : String)
      (fault : Constraint.DefinitionFault)
  deriving Repr

/-- What is wrong with the declared operators, if anything. -/
def operatorFault? (rule : Rule) : Option Fault :=
  match rule.operators with
  | none => none
  | some [] => some .noOperators
  | some declared =>
      (declared.find? (!rule.filterType.accepts ·)).map .illegalOperator

/-- What is wrong with a constraint of values of a kind, if anything. -/
def constraintFault?
    (subject : Subject) (filterType : FilterType) (constraint : Constraint) :
    Option Fault :=
  if constraint.isAvailableFor filterType then
    constraint.definitionFault?.map (.invalidConstraint subject constraint.name)
  else some (.unavailableConstraint subject constraint.name filterType)

/-- What is wrong with the constraints of list elements, if anything. -/
def elementFault? (rule : Rule) : Option Fault :=
  if rule.elementConstraints.isEmpty then none
  else if rule.filterType ≠ .inList then some .elementsOfOtherKind
  else
    rule.elementConstraints.entries.findSome? fun (elementType, constraints) =>
      constraints.findSome?
        (constraintFault? (.elements elementType) elementType.filterType)

/-- The first thing that is inconsistent in a rule, if anything is: operators
come first, then constraints, then those of list elements. -/
def fault? (rule : Rule) : Option Fault :=
  rule.operatorFault?
    |>.or (rule.constraints.findSome? (constraintFault? .value rule.filterType))
    |>.or rule.elementFault?

def label (rule : Rule) : String :=
  "Allowed filter \"" ++ rule.key ++ "\" (" ++ rule.filterType.name ++ ")"

/-- The rule or its list elements in words. -/
def Subject.label (rule : Rule) : Subject → String
  | .value => rule.label
  | .elements elementType => rule.label ++ ", " ++ elementType.name ++ " elements"

/-- What is inconsistent in a rule, in words. -/
def Fault.message (rule : Rule) : Fault → String
  | .noOperators => rule.label ++ " declares an empty operator list"
  | .illegalOperator operator =>
      rule.label ++ " declares operator \"" ++ operator.symbol ++ "\", which " ++
        rule.filterType.name ++
        " filters do not support; supported operators are: " ++
        quotedList (rule.filterType.legalOperators.map Operator.symbol)
  | .elementsOfOtherKind =>
      rule.label ++
        " declares element constraints, which only in filters support"
  | .unavailableConstraint subject name filterType =>
      subject.label rule ++ ": constraint \"" ++ name ++
        "\" is not available for " ++ filterType.name ++ " values"
  | .invalidConstraint subject name fault =>
      subject.label rule ++ ": constraint \"" ++ name ++ "\" is invalid: " ++
        fault.message

end Rule

/-- The permission for filter expressions. -/
inductive ExpressionRule where
  /-- Every expression. -/
  | any
  /-- Expressions with the same canonical text. -/
  | exactly (allowed : Expression)
  deriving DecidableEq, Repr

namespace ExpressionRule

/-- What allows every expression. -/
def wildcard : String := "*"

/-- Read a permission: the wildcard or an expression. -/
def parse (text : String) : Except Expression.Fault ExpressionRule :=
  if Text.trimBlanks text = wildcard then .ok .any
  else (Expression.parse text).map .exactly

def permits (rule : ExpressionRule) (expression : Expression) : Bool :=
  match rule with
  | .any => true
  | .exactly allowed => allowed.normalized == expression.normalized

/-- The wildcard or the canonical text of the permitted expression. -/
def text : ExpressionRule → String
  | .any => wildcard
  | .exactly allowed => allowed.normalized

/-- The failure of a permission that cannot be read. -/
def failure (text : String) (fault : Expression.Fault) : Failure :=
  let cause := fault.failure text
  { Failure.invalidRule ("Allowed filter expression \"" ++ text ++
      "\" is malformed: " ++ cause.message) with
    source := some cause.display }

end ExpressionRule

end FilterQuery
