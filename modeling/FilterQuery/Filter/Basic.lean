import FilterQuery.Filter.Literal

/-!
# Filters

A filter is written `key operator value`, as in `age>=18`.

* `Filter.make` puts a filter together and refuses an operator that the kind of
  value cannot be used with;
* `Filter.parse` reads a filter: it cuts the text at the first operator, taking
  the longest symbol there, and drops blanks around key and value.  A missing
  value stands for nothing.
-/

namespace FilterQuery

/-- A comparison of a key with a value. -/
structure Filter where
  /-- The text as it was submitted. -/
  expression : String
  key : String
  operator : Operator
  kind : Kind
  caseInsensitive : Bool
  deriving Repr

namespace Filter

/-- The kind of the filter, without its content. -/
def filterType (filter : Filter) : FilterType := filter.kind.filterType

/-- The content of the filter, as a plain value. -/
def value (filter : Filter) : Value := filter.kind.value

/-- A filter from its parts.  Letter case is only disregarded for kinds that
have any. -/
def make
    (expression key : String) (operator : Operator) (kind : Kind)
    (caseInsensitive : Bool) : Except ValueFault Filter :=
  if kind.filterType.accepts operator then
    .ok
      { expression, key, operator, kind
        caseInsensitive :=
          caseInsensitive && kind.filterType.supportsCaseInsensitivity }
  else .error (.unsupportedOperator operator kind.filterType)

def summary (filter : Filter) : Json :=
  .object
    [("expression", .text filter.expression),
      ("key", .text filter.key),
      ("operator", .text filter.operator.symbol),
      ("value", filter.value.toJson),
      ("type", .text filter.filterType.name),
      ("modifiers",
        .array (if filter.caseInsensitive then [.text "i"] else []))]

/-! ## Reading -/

/-- Cut a text at the first place where an operator stands, taking the longest
symbol there. -/
def splitAtOperator? :
    List Char → Option (List Char × String × List Char)
  | [] => none
  | character :: rest =>
      match Operator.takeSymbol? (character :: rest) with
      | some (symbol, after) => some ([], symbol, after)
      | none =>
          (splitAtOperator? rest).map fun (before, symbol, after) =>
            (character :: before, symbol, after)

/-- Why a text is no filter. -/
inductive Fault where
  /-- There is no operator, or there is a line feed. -/
  | noOperator
  | missingKey
  /-- What stands between key and value is the symbol of no operator. -/
  | unknownSymbol (symbol : String)
  | value (fault : ValueFault)
  deriving DecidableEq, Repr

/-- The failure of a text that has the shape of no filter, naming the part that
is at fault. -/
def unsupportedFailure
    (index : Nat) (part expression : String) : Failure :=
  { code := .malformedFilter
    message := "Filter value '" ++ part ++ "' (in 'filter[" ++
      toString index ++ "]=" ++ expression ++
      "') does not match a supported pattern."
    parameter := some "filter"
    index := some index
    expression := some expression
    help := some ("Values are integers, floats, null, true, false, " ++
      "\"strings\", [lists], %\"like\"% patterns or /regexps/") }

/-- The failure that a fault of the given entry amounts to. -/
def Fault.failure (index : Nat) (expression : String) : Fault → Failure
  | .noOperator => unsupportedFailure index expression expression
  | .missingKey =>
      { code := .malformedFilter
        message := "Filter 'filter[" ++ toString index ++ "]=" ++
          expression ++ "' is missing key"
        parameter := some "filter"
        index := some index
        expression := some expression }
  | .unknownSymbol symbol =>
      .internal ("Operator scan matched '" ++ symbol ++ "' in 'filter[" ++
        toString index ++ "]=" ++ expression ++
        "', which is not an operator")
  | .value (.unsupported text) => unsupportedFailure index text expression
  | .value fault =>
      { Failure.malformedFilter index expression fault.message with
        source := some fault.message }

def parse (expression : String) : Except Fault Filter :=
  let characters := expression.toList
  match splitAtOperator? characters with
  | none => .error .noOperator
  | some (before, symbol, after) =>
      if !Literal.isOneLine characters then .error .noOperator
      else
        let key := String.ofList (Text.trim before)
        let given := String.ofList (Text.trim after)
        if key.isEmpty then .error .missingKey
        else
          match Operator.ofSymbol? symbol with
          | none => .error (.unknownSymbol symbol)
          | some operator =>
              let read := do
                let (kind, caseInsensitive) ←
                  Kind.ofLiteral (if given.isEmpty then "null" else given)
                make expression key operator kind caseInsensitive
              read.mapError .value

end Filter

end FilterQuery
