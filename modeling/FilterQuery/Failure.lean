/-!
# Failures

Everything that can go wrong is reported as a `Failure`: a code, a message and
the circumstances that are known.

* Codes `Q1001` to `Q1005` stand for malformed input and `Q2001` to `Q2005` for
  input that the allow-list denies; both are the client's to correct;
* codes `Q7001` to `Q7006` stand for an inconsistent configuration and `Q9001`
  for a broken invariant; both are the server's.

The causes themselves are types of their own, beside the functions that fail;
each has a function to `Failure` that holds its wording.
-/

namespace FilterQuery

/-- The code of a failure. -/
inductive Code where
  | malformedParameter
  | malformedFilter
  | malformedFilterExpression
  | malformedSort
  | indexMismatch
  | disallowedOperator
  | disallowedFilter
  | disallowedSort
  | disallowedFilterExpression
  | constraintViolation
  | invalidConfiguration
  | missingRelation
  | invalidKey
  | invalidColumn
  | invalidRule
  | unreadableConfiguration
  | internal
  deriving DecidableEq, Repr

/-- Who has to act on a failure. -/
inductive Category where
  | badRequest
  | internal
  deriving DecidableEq, Repr

namespace Code

/-- Every code, in ascending order of number. -/
def all : List Code :=
  [.malformedParameter, .malformedFilter, .malformedFilterExpression,
    .malformedSort, .indexMismatch, .disallowedOperator, .disallowedFilter,
    .disallowedSort, .disallowedFilterExpression, .constraintViolation,
    .invalidConfiguration, .missingRelation, .invalidKey, .invalidColumn,
    .invalidRule, .unreadableConfiguration, .internal]

/-- The number of a code; its thousands give the kind of failure. -/
def number : Code → Nat
  | .malformedParameter => 1001
  | .malformedFilter => 1002
  | .malformedFilterExpression => 1003
  | .malformedSort => 1004
  | .indexMismatch => 1005
  | .disallowedOperator => 2001
  | .disallowedFilter => 2002
  | .disallowedSort => 2003
  | .disallowedFilterExpression => 2004
  | .constraintViolation => 2005
  | .invalidConfiguration => 7001
  | .missingRelation => 7002
  | .invalidKey => 7003
  | .invalidColumn => 7004
  | .invalidRule => 7005
  | .unreadableConfiguration => 7006
  | .internal => 9001

def text (code : Code) : String := "Q" ++ toString code.number

def ofText? (shown : String) : Option Code :=
  all.find? fun code => code.text == shown

def description : Code → String
  | .malformedParameter => "Malformed query parameter"
  | .malformedFilter => "Malformed filter"
  | .malformedFilterExpression => "Malformed filter expression"
  | .malformedSort => "Malformed sort"
  | .indexMismatch => "Filter and filter expression indexes differ"
  | .disallowedOperator => "Operator not allowed"
  | .disallowedFilter => "Filter not allowed"
  | .disallowedSort => "Sort not allowed"
  | .disallowedFilterExpression => "Filter expression not allowed"
  | .constraintViolation => "Filter value failed validation"
  | .invalidConfiguration => "Invalid configuration"
  | .missingRelation => "Missing relation"
  | .invalidKey => "Invalid relation key"
  | .invalidColumn => "Invalid relation column"
  | .invalidRule => "Invalid allow rule"
  | .unreadableConfiguration => "Configuration parse error"
  | .internal => "Internal error"

/-- Codes below three thousand are the client's to correct. -/
def category (code : Code) : Category :=
  if code.number < 3000 then .badRequest else .internal

/-- Whether the input was malformed. -/
def isMalformed (code : Code) : Bool :=
  code.number / 1000 == 1

/-- Whether the allow-list denied the input. -/
def isDenied (code : Code) : Bool :=
  code.number / 1000 == 2

end Code

/-- A failure with the circumstances that are known. -/
structure Failure where
  code : Code
  message : String
  /-- The query parameter. -/
  parameter : Option String := none
  /-- The index under which the entry was submitted. -/
  index : Option Nat := none
  /-- The text that failed. -/
  expression : Option String := none
  /-- The position in that text, in characters from zero. -/
  position : Option Nat := none
  /-- Advice. -/
  help : Option String := none
  /-- The text of the underlying failure. -/
  source : Option String := none
  deriving DecidableEq, Repr

namespace Failure

/-! ## Wordings used in more than one place -/

/-- A parameter of the wrong shape. -/
def malformedParameter (parameter message : String) : Failure :=
  { code := .malformedParameter, message, parameter := some parameter }

/-- A failed filter, with the reason. -/
def malformedFilter (index : Nat) (expression reason : String) : Failure :=
  { code := .malformedFilter
    message := s!"'filter[{index}]={expression}' is malformed: {reason}"
    parameter := some "filter"
    index := some index
    expression := some expression }

def malformedExpression (expression message : String) : Failure :=
  { code := .malformedFilterExpression
    message
    parameter := some "filterExpression"
    expression := some expression
    help := some
      "Use filter indexes joined by 'and', 'or' or 'xor', e.g. (0and1)or2" }

def malformedSort (index : Nat) (expression : String) : Failure :=
  { code := .malformedSort
    message := "Sort expression '" ++ expression ++ "' (in 'sort[" ++
      toString index ++ "]=" ++ expression ++
      "') does not match a supported pattern."
    parameter := some "sort"
    index := some index
    expression := some expression
    help := some "Use [+|-]key, e.g. sort[]=-createdAt" }

/-- Filters and filter expression name different indexes. -/
def indexMismatch (message : String) : Failure :=
  { code := .indexMismatch, message
    parameter := some "filterExpression" }

/-- An inconsistent allow rule. -/
def invalidRule (message : String) : Failure :=
  { code := .invalidRule, message }

def configuration (message : String) : Failure :=
  { code := .invalidConfiguration, message }

/-- A broken invariant. -/
def internal (message : String) : Failure :=
  { code := .internal
    message := "Internal error: " ++ message
    help := some ("This is likely a bug in questful - please report it at " ++
      "https://github.com/pegasusheavy/questful/issues") }

/-! ## Views -/

/-- Who has to act. -/
def category (failure : Failure) : Category := failure.code.category

/-- Whether the client has to act. -/
def isBadRequest (failure : Failure) : Bool :=
  failure.category == .badRequest

/-- Whether the server has to act. -/
def isInternal (failure : Failure) : Bool :=
  failure.category == .internal

def httpStatus (failure : Failure) : Nat :=
  match failure.category with
  | .badRequest => 400
  | .internal => 500

/-- One line: code and message. -/
def display (failure : Failure) : String :=
  "[" ++ failure.code.text ++ "] " ++ failure.message

/-- One known circumstance on a line of its own. -/
def circumstance (name : String) (value : Option String) : String :=
  match value with
  | none => ""
  | some shown => "  → " ++ name ++ ": " ++ shown ++ "\n"

/-- A mark under the failed position of the expression. -/
def caret (failure : Failure) : String :=
  match failure.expression, failure.position with
  | some _, some position =>
      String.ofList (List.replicate (16 + position) ' ') ++ "^\n"
  | _, _ => ""

/-- Several lines with everything that is known. -/
def report (failure : Failure) : String :=
  "Error [" ++ failure.code.text ++ "]: " ++ failure.message ++ "\n" ++
    circumstance "Parameter" failure.parameter ++
    circumstance "Index" (failure.index.map toString) ++
    circumstance "Expression" failure.expression ++
    failure.caret ++
    circumstance "Caused by" failure.source ++
    match failure.help with
    | none => ""
    | some advice => "\nHelp: " ++ advice ++ "\n"

end Failure

/-- Texts in double quotes, as a list in brackets. -/
def quotedList (items : List String) : String :=
  "[" ++ ", ".intercalate (items.map fun item => "\"" ++ item ++ "\"") ++ "]"

def indexList (indexes : List Nat) : String :=
  "[" ++ ", ".intercalate (indexes.map toString) ++ "]"

end FilterQuery
