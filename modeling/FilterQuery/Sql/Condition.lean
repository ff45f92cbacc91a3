import FilterQuery.Filter.Basic
import FilterQuery.Sql.Dialect
import FilterQuery.Text.Lowercase

/-!
# Conditions

Each filter becomes one condition on its column, and binds its values as parameters.

* `Condition.ofFilter` is the condition, `bindings` are the bound values: no value
  gets into the text of a condition, apart from truth values;
* the parameter of a filter is named after its index, that of a list element also
  after its position in the submitted list;
* repeated elements of a list count once.  What is left becomes a list test, or a
  plain comparison if it is one value; nothing is tested apart.
-/

namespace FilterQuery.Sql

open FilterQuery.Text

/-- A condition on one column. -/
inductive Condition where
  | single (test : Test)
  | anyOf (tests : List Test)
  | allOf (tests : List Test)
  deriving DecidableEq, Repr

/-- A condition, written out. -/
def Condition.text : Condition → String
  | .single test => test.text
  | .anyOf tests => "(" ++ " OR ".intercalate (tests.map Test.text) ++ ")"
  | .allOf tests => "(" ++ " AND ".intercalate (tests.map Test.text) ++ ")"

/-! ## Parameters -/

def parameterName (index : Nat) : String := "filter_" ++ toString index

/-- The name of a list element's parameter. -/
def elementName (index position : Nat) : String :=
  parameterName index ++ "_" ++ toString position

/-- The first occurrences of the values, with their positions; values equal to
one of those seen before are left out. -/
def distinctFrom (position : Nat) (seen : List Value) :
    List Value → List (Nat × Value)
  | [] => []
  | item :: rest =>
      if seen.any (· == item) then distinctFrom (position + 1) seen rest
      else (position, item) :: distinctFrom (position + 1) (item :: seen) rest

/-- The first occurrences of the elements of a list, with their positions. -/
def distinctElements (items : List Value) : List (Nat × Value) :=
  distinctFrom 0 [] items

/-- The first occurrences of the elements that are bound: all but nothing. -/
def boundElements (items : List Value) : List (Nat × Value) :=
  (distinctElements items).filter (!·.2.isNull)

/-- A text, in lower case if letter case does not matter. -/
def foldCase (caseInsensitive : Bool) (text : String) : String :=
  if caseInsensitive then lowercase text else text

/-- Put a backslash before what has a meaning in a like pattern. -/
def escapeLike (characters : List Char) : List Char :=
  characters.flatMap fun character =>
    if character = '%' || character = '_' || character = '\\' then
      ['\\', character]
    else [character]

/-- A percent sign at an open end of a like pattern. -/
def wildcard (isOpen : Bool) : List Char := if isOpen then ['%'] else []

def likeValue (pattern : LikePattern) (caseInsensitive : Bool) : String :=
  String.ofList
    (wildcard pattern.wildcardLeft ++
      escapeLike (foldCase caseInsensitive pattern.text).toList ++
      wildcard pattern.wildcardRight)

/-- The value that is bound for a list element. -/
def elementValue (dialect : Dialect) (caseInsensitive : Bool) : Value → Value
  | .string text => .string (foldCase caseInsensitive text)
  | .boolean value => dialect.booleanElement value
  | other => other

/-- The parameters of a filter, with their values. -/
def bindings (dialect : Dialect) (index : Nat) (filter : Filter) :
    List (String × Value) :=
  let name := parameterName index
  let caseInsensitive := filter.caseInsensitive
  match filter.kind with
  | .null | .boolean _ => []
  | .integer value => [(name, .integer value)]
  | .float value => [(name, .float value)]
  | .string value => [(name, .string (foldCase caseInsensitive value))]
  | .like pattern => [(name, .string (likeValue pattern caseInsensitive))]
  | .regexp pattern =>
      [(name, .string (dialect.regexpValue pattern caseInsensitive))]
  | .inList items =>
      (boundElements items).map fun (position, item) =>
        (elementName index position, elementValue dialect caseInsensitive item)

/-! ## Texts -/

def textPlaceholder
    (dialect : Dialect) (caseInsensitive : Bool) (parameter : String) : String :=
  if caseInsensitive then placeholder parameter
  else dialect.stringPlaceholder parameter

def isText : Value → Bool
  | .string _ => true
  | _ => false

def elementPlaceholder
    (dialect : Dialect) (caseInsensitive : Bool) (index : Nat)
    (element : Nat × Value) : String :=
  let name := elementName index element.1
  if isText element.2 then textPlaceholder dialect caseInsensitive name
  else placeholder name

/-- Tests for several branches of one condition: a negated operator requires all
of them, any other one of them. -/
def Condition.ofBranches (negated : Bool) (tests : List Test) : Condition :=
  if negated then .allOf tests else .anyOf tests

def Condition.ofList
    (dialect : Dialect) (index : Nat) (column : String) (operator : Operator)
    (caseInsensitive : Bool) (items : List Value) : Condition :=
  let negated := operator.isNegated
  let nullTests :=
    if items.any Value.isNull then [Test.null column negated] else []
  match boundElements items with
  | [] => .ofBranches negated nullTests
  | [element] =>
      .ofBranches negated
        (nullTests ++
          [.comparison (subject (caseInsensitive && isText element.2) column)
            operator
            (elementPlaceholder dialect caseInsensitive index element)])
  | elements =>
      let list :=
        Test.membership (subject caseInsensitive column) negated
          (elements.map (elementPlaceholder dialect caseInsensitive index))
      if nullTests.isEmpty then .single list
      else .ofBranches negated (list :: nullTests)

def Condition.ofFilter
    (dialect : Dialect) (index : Nat) (column : String) (filter : Filter) :
    Condition :=
  let name := parameterName index
  let operator := filter.operator
  let caseInsensitive := filter.caseInsensitive
  match filter.kind with
  | .null => .single (.null column operator.isNegated)
  | .boolean value =>
      .single (.comparison column operator (if value then "1" else "0"))
  | .integer _ | .float _ =>
      .single (.comparison column operator (placeholder name))
  | .string _ =>
      .single
        (.comparison (subject caseInsensitive column) operator
          (textPlaceholder dialect caseInsensitive name))
  | .like _ =>
      .single
        (.like (subject caseInsensitive column) operator.isNegated
          (textPlaceholder dialect caseInsensitive name) dialect.likeEscape)
  | .regexp _ =>
      .single
        (dialect.regexpTest column operator.isNegated name caseInsensitive)
  | .inList items =>
      .ofList dialect index column operator caseInsensitive items

end FilterQuery.Sql
