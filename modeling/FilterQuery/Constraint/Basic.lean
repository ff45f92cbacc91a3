import FilterQuery.Filter.Kind
import FilterQuery.Pattern.Basic

/-!
# Constraints

A constraint restricts the values of filters.

* Each kind of filter admits certain constraints only (`isAvailableFor`);
* a constraint with parameters must make sense in itself (`definitionFault?`);
* a constraint can be written as a document, unless it is a function.
-/

namespace FilterQuery

/-- The formats that a text can be required to have. -/
inductive TextFormat where
  | email
  | url
  | ip
  | uuid
  | date
  | dateTime
  | time
  deriving DecidableEq, Repr

/-- The relations that a value can be required to have to a limit.  Equality
does not tell `1` from `1.0`, identity does. -/
inductive Relation where
  | equalTo
  | notEqualTo
  | identicalTo
  | notIdenticalTo
  | lessThan
  | lessThanOrEqual
  | greaterThan
  | greaterThanOrEqual
  deriving DecidableEq, Repr

/-- A restriction of values.  Bounds are inclusive, and a missing bound does not
restrict. -/
inductive Constraint where
  | notBlank
  | blank
  | length (least most : Option Nat)
  | regex (pattern : String) (required : Bool)
  | textFormat (format : TextFormat)
  | range (least most : Option Float)
  | comparison (relation : Relation) (limit : Value)
  | isTrue
  | isFalse
  | isNull
  | count (least most : Option Nat)
  /-- A named function that gives a message for values it rejects. -/
  | callback (name : String) (check : Value → Option String)

namespace TextFormat

def all : List TextFormat :=
  [.email, .url, .ip, .uuid, .date, .dateTime, .time]

def name : TextFormat → String
  | .email => "email"
  | .url => "url"
  | .ip => "ip"
  | .uuid => "uuid"
  | .date => "date"
  | .dateTime => "date_time"
  | .time => "time"

def ofName? (shown : String) : Option TextFormat :=
  all.find? fun format => format.name == shown

end TextFormat

namespace Relation

def all : List Relation :=
  [.equalTo, .notEqualTo, .identicalTo, .notIdenticalTo, .lessThan,
    .lessThanOrEqual, .greaterThan, .greaterThanOrEqual]

def name : Relation → String
  | .equalTo => "equal_to"
  | .notEqualTo => "not_equal_to"
  | .identicalTo => "identical_to"
  | .notIdenticalTo => "not_identical_to"
  | .lessThan => "less_than"
  | .lessThanOrEqual => "less_than_or_equal"
  | .greaterThan => "greater_than"
  | .greaterThanOrEqual => "greater_than_or_equal"

def ofName? (shown : String) : Option Relation :=
  all.find? fun relation => relation.name == shown

end Relation

namespace Constraint

def name : Constraint → String
  | .notBlank => "not_blank"
  | .blank => "blank"
  | .length .. => "length"
  | .regex .. => "regex"
  | .textFormat format => format.name
  | .range .. => "range"
  | .comparison relation _ => relation.name
  | .isTrue => "is_true"
  | .isFalse => "is_false"
  | .isNull => "is_null"
  | .count .. => "count"
  | .callback name _ => name

/-- Whether filters of a kind can have a constraint. -/
def isAvailableFor (constraint : Constraint) (filterType : FilterType) :
    Bool :=
  match filterType, constraint with
  | .integer, .range .. | .integer, .comparison .. | .integer, .callback ..
  | .float, .range .. | .float, .comparison .. | .float, .callback .. => true
  | .string, .notBlank | .string, .blank | .string, .length ..
  | .string, .regex .. | .string, .textFormat _ | .string, .comparison ..
  | .string, .callback .. => true
  | .like, .notBlank | .like, .blank | .like, .length .. | .like, .regex ..
  | .like, .textFormat _ | .like, .comparison .. | .like, .callback .. => true
  | .regexp, .length .. | .regexp, .regex .. | .regexp, .comparison ..
  | .regexp, .callback .. => true
  | .boolean, .isTrue | .boolean, .isFalse | .boolean, .callback .. => true
  | .null, .isNull => true
  | .inList, .count .. => true
  | _, _ => false

/-! ## Definitions -/

/-- Bounds of ranges are written in full, whole numbers without a fraction. -/
def boundLayout : Decimal.Layout where
  tie := .up
  positional := none
  wholeEnding := ""
  exponentSign := ""
  undefined := "NaN"
  infinity := "inf"
  negativeInfinity := "-inf"

/-- Why a constraint makes no sense in itself. -/
inductive DefinitionFault where
  | invalidPattern (pattern : String) (fault : Pattern.Fault)
  | reversedCounts (least most : Nat)
  | reversedRange (least most : Float)
  deriving Repr

def DefinitionFault.message : DefinitionFault → String
  | .invalidPattern pattern fault =>
      "invalid pattern '" ++ pattern ++ "': " ++ fault.message
  | .reversedCounts least most =>
      "min (" ++ toString least ++ ") is greater than max (" ++
        toString most ++ ")"
  | .reversedRange least most =>
      "min (" ++ boundLayout.text least ++ ") is greater than max (" ++
        boundLayout.text most ++ ")"

/-- What is wrong with the parameters of a constraint, if anything. -/
def definitionFault? : Constraint → Option DefinitionFault
  | .regex pattern _ =>
      match Pattern.compile pattern with
      | .error fault => some (.invalidPattern pattern fault)
      | .ok _ => none
  | .length (some least) (some most) | .count (some least) (some most) =>
      if most < least then some (.reversedCounts least most) else none
  | .range (some least) (some most) =>
      if most < least then some (.reversedRange least most) else none
  | _ => none

/-! ## Documents -/

/-- An optional count as a document. -/
def countJson (bound : Option Nat) : Json :=
  (bound.map Json.ofNat).getD .null

/-- An optional number as a document. -/
def numberJson (bound : Option Float) : Json :=
  (bound.map Json.ofFloat).getD .null

/-- The constraint as a document; a function has none. -/
def toJson? (constraint : Constraint) : Option Json :=
  let tagged (members : List (String × Json)) : Option Json :=
    some (.object (("type", .text constraint.name) :: members))
  match constraint with
  | .length least most | .count least most =>
      tagged [("min", countJson least), ("max", countJson most)]
  | .range least most =>
      tagged [("min", numberJson least), ("max", numberJson most)]
  | .regex pattern required =>
      tagged [("pattern", .text pattern), ("matches", .boolean required)]
  | .comparison _ limit => tagged [("value", limit.toJson)]
  | .callback .. => none
  | _ => tagged []

end Constraint

end FilterQuery
