import FilterQuery.Mapping.Validation
import FilterQuery.Sql.Clause
import FilterQuery.Sql.Condition

/-!
# Fragments of a statement

`Fragment.ofQuery` checks a query against a mapping, and turns it into a where
clause, the parameters that the clause uses, and the columns to order by.

* Each filter gives one condition, on the column of its key;
* the filter expression combines the conditions; without one all of them must hold,
  in ascending order of index;
* the order follows the indexes of the sorts.
-/

namespace FilterQuery.Sql

/-- A column to order by. -/
structure OrderBy where
  column : String
  order : SortOrder
  deriving DecidableEq, Repr

/-- A column to order by, written out. -/
def OrderBy.text (field : OrderBy) : String :=
  field.column ++ " " ++ field.order.sqlKeyword

/-- The parts of a statement that come from a query.  The where clause stands
without its keyword, in one pair of parentheses. -/
structure Fragment where
  whereClause : Option String := none
  parameters : OrderedMap String Value := .empty
  orderBy : List OrderBy := []

namespace Fragment

/-- The columns to order by, separated by commas. -/
def orderByText (fragment : Fragment) : Option String :=
  if fragment.orderBy.isEmpty then none
  else some (", ".intercalate (fragment.orderBy.map OrderBy.text))

def toJson (fragment : Fragment) : Json :=
  .object
    [("where", .ofText? fragment.whereClause),
      ("parameters",
        .object (fragment.parameters.entries.map fun entry =>
          (entry.1, entry.2.toJson))),
      ("orderBy",
        .array (fragment.orderBy.map fun field =>
          .object
            [("column", .text field.column),
              ("order", .text field.order.sqlKeyword)]))]

/-- Why there is no fragment for a query.  Only the first happens for mappings that
were built from declarations. -/
inductive Fault where
  | denied (denial : Denial)
  /-- The key of a rule is related to no column. -/
  | unrelatedRule (key : String)
  /-- The key of an allowed sort is related to no column. -/
  | unrelatedSort (key : String)
  /-- The expression names a filter that has no condition. -/
  | missingCondition (index : Nat)

def Fault.failure : Fault → Failure
  | .denied denial => denial.failure
  | .unrelatedRule key =>
      .internal ("No column is related to allowed key \"" ++ key ++ "\"")
  | .unrelatedSort key =>
      .internal ("No column is related to allowed sort \"" ++ key ++ "\"")
  | .missingCondition index =>
      .internal ("No condition exists for filter index " ++ toString index)

/-- Filters with the columns of the rules that govern them; a filter without a rule
is left out. -/
def resolveFilters (mapping : Mapping) :
    List (Nat × Filter) → Except Fault (List (Nat × String × Filter))
  | [] => .ok []
  | (index, filter) :: rest =>
      match mapping.firstRule? filter with
      | none => resolveFilters mapping rest
      | some rule =>
          match mapping.column? rule.key with
          | none => .error (.unrelatedRule rule.key)
          | some column =>
              (resolveFilters mapping rest).map ((index, column, filter) :: ·)

/-- The columns to order by; a sort that is not allowed is left out. -/
def resolveSorts (mapping : Mapping) :
    List SortClause → Except Fault (List OrderBy)
  | [] => .ok []
  | clause :: rest =>
      if mapping.allowsSort clause.key then
        match mapping.column? clause.key with
        | none => .error (.unrelatedSort clause.key)
        | some column =>
            (resolveSorts mapping rest).map (⟨column, clause.order⟩ :: ·)
      else resolveSorts mapping rest

/-- The conditions of filters, written out. -/
def conditionTexts
    (dialect : Dialect) (filters : List (Nat × String × Filter)) :
    List (Nat × String) :=
  filters.map fun (index, column, filter) =>
    (index, (Condition.ofFilter dialect index column filter).text)

def parametersOf
    (dialect : Dialect) (filters : List (Nat × String × Filter)) :
    OrderedMap String Value :=
  .ofList (filters.flatMap fun (index, _, filter) =>
    bindings dialect index filter)

/-- Combine conditions by an expression, or require all of them. -/
def combineConditions
    (dialect : Dialect) (conditions : List (Nat × String)) :
    Option Expression → Except Fault String
  | none => .ok (" AND ".intercalate (conditions.map Prod.snd))
  | some expression =>
      match Clause.ofTree dialect (Slots.lookup · conditions) expression.tree with
      | .error index => .error (.missingCondition index)
      | .ok clause => .ok clause.text

/-- The where clause; without conditions there is none. -/
def whereClauseOf
    (dialect : Dialect) (conditions : List (Nat × String))
    (expression : Option Expression) : Except Fault (Option String) :=
  if conditions.isEmpty then .ok none
  else (combineConditions dialect conditions expression).map enclose

/-- The fragment of a query, provided that it keeps to the mapping. -/
def ofQuery (dialect : Dialect) (mapping : Mapping) (query : Query) :
    Except Fault Fragment := do
  (mapping.validate query).mapError .denied
  let filters ← resolveFilters mapping query.filters.entries
  let whereClause ←
    whereClauseOf dialect (conditionTexts dialect filters) query.expression
  let orderBy ← resolveSorts mapping query.sorts.values
  return {
    whereClause
    parameters := parametersOf dialect filters
    orderBy }

end Fragment

end FilterQuery.Sql
