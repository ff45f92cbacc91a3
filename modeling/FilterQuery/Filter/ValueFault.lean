import FilterQuery.Failure
import FilterQuery.Filter.Kind

/-!
# Faults of values

Why the text after a filter's operator is no value, or no value for that
operator.
-/

namespace FilterQuery

/-- Why a text is no value of a filter. -/
inductive ValueFault where
  /-- The text has the shape of no kind of value. -/
  | unsupported (text : String)
  /-- The digits denote `2 ^ 63` or more. -/
  | integerOutOfRange (digits : String)
  /-- Between the quotes stands a quote that is not escaped, or a lone backslash
  at the end. -/
  | invalidString (inner : String)
  /-- The list has no element. -/
  | emptyList
  /-- The text is no element of a list. -/
  | illegalElement (token : String) (index : Nat)
  /-- The like pattern has no text to look for. -/
  | emptyLike
  /-- The regular expression does not compile. -/
  | invalidRegexp (pattern message : String)
  /-- The kind of value cannot be used with the operator. -/
  | unsupportedOperator (operator : Operator) (filterType : FilterType)
  deriving DecidableEq, Repr

namespace ValueFault

def message : ValueFault → String
  | .unsupported text =>
      "Filter value '" ++ text ++ "' does not match a supported pattern"
  | .integerOutOfRange digits => "Integer '" ++ digits ++ "' is out of range"
  | .invalidString inner =>
      "String literal \"" ++ inner ++
        "\" contains an unescaped double quote or ends with a lone backslash"
  | .emptyList => "Array is empty"
  | .illegalElement token index =>
      "Illegal token '" ++ token ++ "' at index " ++ toString index
  | .emptyLike => "Like pattern is empty"
  | .invalidRegexp pattern message =>
      "Invalid regular expression '" ++ pattern ++ "': " ++ message
  | .unsupportedOperator operator filterType =>
      "Operator \"" ++ operator.symbol ++ "\" is not supported for " ++
        filterType.name ++ " values; expected one of " ++
        quotedList (filterType.legalOperators.map Operator.symbol)

end ValueFault

end FilterQuery
