import FilterQuery.Expression.Operator
import FilterQuery.Filter.Operator

/-!
# Tests of a column

A test compares one column with nothing, with one operand, with a list of operands
or with a pattern.  Operands are written out already: placeholders, or the digits of
a truth value.
-/

namespace FilterQuery.Sql

/-- The word that denies a test. -/
def negation (negated : Bool) : String := if negated then "NOT " else ""

/-- A column, perhaps in lower case. -/
def subject (lowered : Bool) (column : String) : String :=
  if lowered then "LOWER(" ++ column ++ ")" else column

/-- The plain placeholder of a parameter. -/
def placeholder (name : String) : String := ":" ++ name

/-- A test of a column. -/
inductive Test where
  | null (column : String) (negated : Bool)
  | comparison (subject : String) (operator : Operator) (operand : String)
  | membership (subject : String) (negated : Bool) (operands : List String)
  | like (subject : String) (negated : Bool) (operand escape : String)
  | regexp (column : String) (negated : Bool) (operand : String)
  deriving DecidableEq, Repr

/-- A test, written out. -/
def Test.text : Test → String
  | .null column negated => column ++ " IS " ++ negation negated ++ "NULL"
  | .comparison subject operator operand =>
      subject ++ " " ++ operator.symbol ++ " " ++ operand
  | .membership subject negated operands =>
      subject ++ " " ++ negation negated ++ "IN (" ++
        ", ".intercalate operands ++ ")"
  | .like subject negated operand escape =>
      subject ++ " " ++ negation negated ++ "LIKE " ++ operand ++
        " ESCAPE " ++ escape
  | .regexp column negated operand =>
      column ++ " " ++ negation negated ++ "REGEXP " ++ operand

end FilterQuery.Sql
