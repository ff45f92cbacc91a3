import FilterQuery.Sql.Test
import FilterQuery.Value

/-!
# Dialects

Conditions have the same structure for every database; a dialect decides how the
parts are spelled that differ.

* Texts are compared with regard to letter case: MySQL and Doctrine mark the operand
  as binary, SQLite compares in this way by itself;
* SQLite and Doctrine know regular expressions as functions that are registered by
  the host, which read the flag for letter case from the pattern;
* only MySQL has an operator for exclusive or.
-/

namespace FilterQuery.Sql

/-- The languages that conditions can be written in. -/
inductive Dialect where
  | mySql
  | sqlite
  | doctrine
  deriving DecidableEq, Repr

/-- How exclusive or is written. -/
inductive XorStyle where
  /-- Between its operands. -/
  | operator
  /-- As a function of its operands. -/
  | function
  /-- By `AND`, `OR` and `NOT`. -/
  | expanded
  deriving DecidableEq, Repr

namespace Dialect

def all : List Dialect := [.mySql, .sqlite, .doctrine]

def name : Dialect → String
  | .mySql => "mysql"
  | .sqlite => "sqlite"
  | .doctrine => "doctrine"

def ofName? (shown : String) : Option Dialect :=
  all.find? fun dialect => dialect.name == shown

/-- The placeholder of a text whose letter case matters. -/
def stringPlaceholder (dialect : Dialect) (parameter : String) : String :=
  match dialect with
  | .mySql => "BINARY " ++ placeholder parameter
  | .sqlite => placeholder parameter
  | .doctrine => "BINARY(" ++ placeholder parameter ++ ")"

/-- The backslash as a literal.  In MySQL it is escaped by another one. -/
def likeEscape : Dialect → String
  | .mySql => "'\\\\'"
  | .sqlite | .doctrine => "'\\'"

/-- The test of a column by a regular expression. -/
def regexpTest
    (dialect : Dialect) (column : String) (negated : Bool) (parameter : String)
    (caseInsensitive : Bool) : Test :=
  match dialect with
  | .mySql =>
      .regexp column negated
        (if caseInsensitive then placeholder parameter
          else dialect.stringPlaceholder parameter)
  | .sqlite => .regexp column negated (placeholder parameter)
  | .doctrine =>
      .comparison ("REGEXP(" ++ column ++ ", " ++ placeholder parameter ++ ")")
        .equal (if negated then "0" else "1")

/-- The regular expression that is bound. -/
def regexpValue
    (dialect : Dialect) (pattern : String) (caseInsensitive : Bool) : String :=
  match dialect with
  | .mySql => pattern
  | .sqlite | .doctrine =>
      if caseInsensitive then "(?i)" ++ pattern else pattern

/-- The value that is bound for a truth value in a list. -/
def booleanElement (dialect : Dialect) (value : Bool) : Value :=
  match dialect with
  | .mySql | .sqlite => .integer (if value then 1 else 0)
  | .doctrine => .boolean value

/-- How exclusive or is written in a dialect. -/
def xorStyle : Dialect → XorStyle
  | .mySql => .operator
  | .sqlite => .function
  | .doctrine => .expanded

end Dialect

end FilterQuery.Sql
