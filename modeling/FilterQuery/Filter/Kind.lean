import FilterQuery.Filter.Operator
import FilterQuery.Value

/-!
# Kinds of filters

The value of a filter decides its kind, and the kind decides which operators
the filter may use:

* nothing, like patterns, lists and regular expressions can be equal or not;
* a truth value can only be equal;
* integers, floating-point numbers and texts can be compared in every way.
-/

namespace FilterQuery

/-- The kind of a filter, without its content. -/
inductive FilterType where
  | null
  | boolean
  | integer
  | float
  | string
  | like
  | inList
  | regexp
  deriving DecidableEq, Repr

namespace FilterType

/-- Every kind. -/
def all : List FilterType :=
  [.null, .boolean, .integer, .float, .string, .like, .inList, .regexp]

def name : FilterType → String
  | .null => "null"
  | .boolean => "boolean"
  | .integer => "integer"
  | .float => "float"
  | .string => "string"
  | .like => "like"
  | .inList => "in"
  | .regexp => "regexp"

/-- The kind with the given name. -/
def ofName? (shown : String) : Option FilterType :=
  all.find? fun filterType => filterType.name == shown

/-- The operators that filters of a kind can use, in the order in which
messages list them. -/
def legalOperators : FilterType → List Operator
  | .boolean => [.equal]
  | .integer | .float | .string =>
      [.equal, .notEqual, .lessThanOrEqual, .greaterThanOrEqual, .greaterThan,
        .lessThan]
  | .null | .like | .inList | .regexp => [.equal, .notEqual]

/-- Whether filters of a kind can use an operator. -/
def accepts (filterType : FilterType) (operator : Operator) : Bool :=
  filterType.legalOperators.contains operator

/-- Whether letter case can be disregarded for filters of a kind. -/
def supportsCaseInsensitivity : FilterType → Bool
  | .string | .like | .inList | .regexp => true
  | .null | .boolean | .integer | .float => false

end FilterType

/-- The kind of filter whose constraints apply to list elements of a
datatype. -/
def ElementType.filterType : ElementType → FilterType
  | .null => .null
  | .boolean => .boolean
  | .double => .float
  | .integer => .integer
  | .string => .string

/-- A text to look for, and on which sides anything may surround it. -/
structure LikePattern where
  text : String
  wildcardLeft : Bool
  wildcardRight : Bool
  deriving DecidableEq, Repr

/-- The content of a filter's value. -/
inductive Kind where
  | null
  | boolean (value : Bool)
  | integer (value : Int64)
  | float (value : Float)
  | string (value : String)
  | like (pattern : LikePattern)
  | inList (items : List Value)
  | regexp (pattern : String)
  deriving Repr

namespace Kind

/-- The kind without its content. -/
def filterType : Kind → FilterType
  | .null => .null
  | .boolean _ => .boolean
  | .integer _ => .integer
  | .float _ => .float
  | .string _ => .string
  | .like _ => .like
  | .inList _ => .inList
  | .regexp _ => .regexp

/-- The content as a plain value; of like patterns and regular expressions, the
text. -/
def value : Kind → Value
  | .null => .null
  | .boolean value => .boolean value
  | .integer value => .integer value
  | .float value => .float value
  | .string value => .string value
  | .like pattern => .string pattern.text
  | .inList items => .list items
  | .regexp pattern => .string pattern

end Kind

end FilterQuery
