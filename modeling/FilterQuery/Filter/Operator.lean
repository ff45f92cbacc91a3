/-!
# Comparison operators

A filter compares a key with a value by one of six operators.  Their symbols
are valid in filters and in conditions alike.
-/

namespace FilterQuery

/-- The comparison between a key and a value. -/
inductive Operator where
  | equal
  | notEqual
  | lessThan
  | lessThanOrEqual
  | greaterThan
  | greaterThanOrEqual
  deriving DecidableEq, Repr

namespace Operator

/-- Every operator, longest symbols first: a scan in this order never takes `=`
for the end of a longer symbol. -/
def all : List Operator :=
  [.lessThanOrEqual, .greaterThanOrEqual, .notEqual, .equal, .greaterThan,
    .lessThan]

def symbol : Operator → String
  | .equal => "="
  | .notEqual => "!="
  | .lessThan => "<"
  | .lessThanOrEqual => "<="
  | .greaterThan => ">"
  | .greaterThanOrEqual => ">="

def ofSymbol? (shown : String) : Option Operator :=
  all.find? fun operator => operator.symbol == shown

/-- Whether the operator denies equality. -/
def isNegated : Operator → Bool
  | .notEqual => true
  | _ => false

theorem ofSymbol?_symbol (operator : Operator) :
    ofSymbol? operator.symbol = some operator := by
  cases operator <;> decide

/-- Cut the longest symbol off the front of a text. -/
def takeSymbol? : List Char → Option (String × List Char)
  | '<' :: '=' :: rest => some ("<=", rest)
  | '>' :: '=' :: rest => some (">=", rest)
  | '!' :: '=' :: rest => some ("!=", rest)
  | '=' :: rest => some ("=", rest)
  | '>' :: rest => some (">", rest)
  | '<' :: rest => some ("<", rest)
  | _ => none

end Operator

end FilterQuery
