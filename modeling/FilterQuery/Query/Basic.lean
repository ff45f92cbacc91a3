import FilterQuery.Entries
import FilterQuery.Expression.Basic
import FilterQuery.Filter.Basic
import FilterQuery.Query.Input
import FilterQuery.SortClause

/-!
# Queries

A query consists of filters, an optional filter expression and sort clauses.

* `Query.parse` reads the parameters `filter`, `filterExpression` and `sort`, in
  this order, and stops at the first fault;
* with a filter expression there must be filters, and both must name the same
  indexes.
-/

namespace FilterQuery

/-- What a request asks for. -/
structure Query where
  filters : Slots Filter := .empty
  expression : Option Expression := none
  sorts : Slots SortClause := .empty

namespace Query

/-- Why parameters form no query. -/
inductive Fault where
  /-- A list parameter is a single text. -/
  | notList (parameter : Entries.Parameter) (found : ParameterValue)
  /-- The filter expression is a list. -/
  | notText (found : ParameterValue)
  | filters (fault : Entries.Fault Filter.Fault)
  | expression (text : String) (fault : Expression.Fault)
  | sorts (fault : Entries.Fault SortClause.Fault)
  /-- There is an expression but no filter. -/
  | missingFilters
  /-- The expression and the filters name different indexes. -/
  | mismatch (text : String) (named submitted : List Nat)

def collectParameter {ε α : Type}
    (input : QueryInput) (parameter : Entries.Parameter)
    (parse : String → Except ε α) (fault : Entries.Fault ε → Fault) :
    Except Fault (Slots α) :=
  match input.get? parameter.name with
  | none => .ok .empty
  | some (.list entries) => (Entries.collect parse entries).mapError fault
  | some other => .error (.notList parameter other)

/-- The name of the parameter for filter expressions. -/
def expressionParameter : String := "filterExpression"

def readExpression (input : QueryInput) : Except Fault (Option Expression) :=
  match input.get? expressionParameter with
  | none => .ok none
  | some (.scalar text) =>
      (Expression.parseOptional (some text)).mapError (.expression text)
  | some other => .error (.notText other)

/-- The indexes of the first list that are not in the second. -/
def missingFrom (indexes others : List Nat) : List Nat :=
  indexes.filter (!others.contains ·)

/-- Whether the filters have exactly the indexes that the expression names. -/
def checkIndexes (filters : Slots Filter) (expression : Expression) :
    Except Fault Unit :=
  let named := expression.indexes
  let submitted := filters.indexes
  if filters.isEmpty then .error .missingFilters
  else if (missingFrom named submitted).isEmpty &&
      (missingFrom submitted named).isEmpty then .ok ()
  else .error (.mismatch expression.text named submitted)

/-- Read the parameters of a request. -/
def parse (input : QueryInput) : Except Fault Query := do
  let filters ← collectParameter input .filter Filter.parse .filters
  let expression ← readExpression input
  let sorts ← collectParameter input .sort SortClause.parse .sorts
  match expression with
  | none => .ok { filters, expression, sorts }
  | some given => do
      checkIndexes filters given
      .ok { filters, expression, sorts }

/-! ## Faults as failures -/

/-- What is wrong with the indexes, in words. -/
def mismatchMessage (text : String) (named submitted : List Nat) : String :=
  let unsubmitted := missingFrom named submitted
  let unnamed := missingFrom submitted named
  let first :=
    "Parameter 'filterExpression=" ++ text ++ "' contains indexes " ++
      indexList unsubmitted ++
      ", which are not represented in parameter 'filter' (indexes: " ++
      indexList submitted ++ ")"
  let second :=
    "Parameter 'filter' contains indexes " ++ indexList unnamed ++
      ", which are not represented in parameter 'filterExpression=" ++ text ++
      "' (indexes: " ++ indexList named ++ ")"
  "; ".intercalate
    ((if unsubmitted.isEmpty then [] else [first]) ++
      if unnamed.isEmpty then [] else [second])

def Fault.failure : Fault → Failure
  | .notList parameter found =>
      .malformedParameter parameter.name
        ("Parameter '" ++ parameter.name ++ "[]' must be an array. Found: " ++
          found.describe)
  | .notText found =>
      .malformedParameter expressionParameter
        ("Parameter 'filterExpression' must be a string. Found: " ++
          found.describe)
  | .filters fault =>
      fault.failure .filter fun index expression entryFault =>
        entryFault.failure index expression
  | .expression text fault => fault.failure text
  | .sorts fault =>
      fault.failure .sort fun index expression entryFault =>
        entryFault.failure index expression
  | .missingFilters =>
      .malformedParameter "filter"
        ("Parameter 'filter' is missing and is required when specifying " ++
          "parameter 'filterExpression'")
  | .mismatch text named submitted =>
      { Failure.indexMismatch (mismatchMessage text named submitted) with
        expression := some text }

/-! ## Views -/

/-- The filters on a key, with their indexes. -/
def filtersByKey (query : Query) (key : String) : List (Nat × Filter) :=
  query.filters.entries.filter fun entry => entry.2.key == key

/-- The filter on a key that has the lowest index. -/
def firstFilterByKey? (query : Query) (key : String) : Option Filter :=
  query.filters.values.find? fun filter => filter.key == key

/-- Whether nothing was asked for. -/
def isEmpty (query : Query) : Bool :=
  query.filters.isEmpty && query.sorts.isEmpty && query.expression.isNone

/-- Slots as a document, with the indexes for names. -/
def slotsSummary {α : Type} (summary : α → Json) (slots : Slots α) : Json :=
  .object (slots.entries.map fun entry =>
    (toString entry.1, summary entry.2))

def summary (query : Query) : Json :=
  .object
    [("filter", slotsSummary Filter.summary query.filters),
      ("filterExpression",
        (query.expression.map Expression.summary).getD .null),
      ("sort", slotsSummary SortClause.summary query.sorts)]

end Query

end FilterQuery
