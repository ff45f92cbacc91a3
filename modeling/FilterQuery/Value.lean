import FilterQuery.Json

/-!
# Values

A value is what a filter compares with, what a constraint checks and what is
bound as a parameter: nothing, a truth value, a signed integer of 64 bits, a
floating-point number, a text, or a list of values.

* `==` compares values of one kind only; numbers are compared as numbers, so
  the undefined number differs from itself and both zeros are equal;
* `Value.number?` is the numeric view of integers and floating-point numbers;
* `Value.display` is the text in messages, `Value.toJson` the document.
-/

namespace FilterQuery

/-- The datatype of a single value. -/
inductive ElementType where
  | null
  | boolean
  | double
  | integer
  | string
  deriving DecidableEq, Repr

namespace ElementType

/-- Every datatype. -/
def all : List ElementType := [.null, .boolean, .double, .integer, .string]

def name : ElementType → String
  | .null => "null"
  | .boolean => "boolean"
  | .double => "double"
  | .integer => "integer"
  | .string => "string"

/-- The datatype with the given name. -/
def ofName? (shown : String) : Option ElementType :=
  all.find? fun datatype => datatype.name == shown

end ElementType

/-- The floating-point number nearest to an integer; of two that are equally near,
the one with the even significand. -/
def nearestFloat (value : Int64) : Float := .ofModel (.ofInt64 value)

/-- A value. -/
inductive Value where
  | null
  | boolean (value : Bool)
  | integer (value : Int64)
  | float (value : Float)
  | string (value : String)
  | list (items : List Value)
  deriving Repr

namespace Value

mutual

/-- Equality of kind and content; floating-point numbers are compared as
numbers. -/
def same : Value → Value → Bool
  | .null, .null => true
  | .boolean left, .boolean right => left == right
  | .integer left, .integer right => left == right
  | .float left, .float right => left == right
  | .string left, .string right => left == right
  | .list left, .list right => sameItems left right
  | _, _ => false

/-- Equality of lists, item by item. -/
def sameItems : List Value → List Value → Bool
  | [], [] => true
  | left :: lefts, right :: rights => same left right && sameItems lefts rights
  | _, _ => false

end

instance : BEq Value := ⟨same⟩

instance : Inhabited Value := ⟨.null⟩

def isNull : Value → Bool
  | .null => true
  | _ => false

/-- The datatype of a single value; a list has none. -/
def elementType? : Value → Option ElementType
  | .null => some .null
  | .boolean _ => some .boolean
  | .integer _ => some .integer
  | .float _ => some .double
  | .string _ => some .string
  | .list _ => none

/-- The nearest floating-point number of an integer or floating-point
number. -/
def number? : Value → Option Float
  | .integer value => some (nearestFloat value)
  | .float value => some value
  | _ => none

/-- The text of a text. -/
def string? : Value → Option String
  | .string value => some value
  | _ => none

/-- Numbers in messages have an exponent below a ten-thousandth and from ten to
the sixteenth on, and otherwise always a fraction; of two equally close
decimals the upper one is taken. -/
def messageLayout : Decimal.Layout where
  tie := .up
  positional := some (-4, 15)
  wholeEnding := ".0"
  exponentSign := ""
  undefined := "NaN"
  infinity := "inf"
  negativeInfinity := "-inf"

mutual

/-- The text of a value in messages: texts in double quotes, lists in
brackets. -/
def display : Value → String
  | .null => "null"
  | .boolean true => "true"
  | .boolean false => "false"
  | .integer value => toString value.toInt
  | .float value => messageLayout.text value
  | .string value => "\"" ++ value ++ "\""
  | .list items => "[" ++ displayItems items ++ "]"

/-- Items, separated by commas and blanks. -/
def displayItems : List Value → String
  | [] => ""
  | [item] => display item
  | item :: rest => display item ++ ", " ++ displayItems rest

end

mutual

def toJson : Value → Json
  | .null => .null
  | .boolean value => .boolean value
  | .integer value => .number (toString value.toInt)
  | .float value => Json.ofFloat value
  | .string value => .text value
  | .list items => .array (toJsonItems items)

def toJsonItems : List Value → List Json
  | [] => []
  | item :: rest => toJson item :: toJsonItems rest

end

end Value

end FilterQuery
