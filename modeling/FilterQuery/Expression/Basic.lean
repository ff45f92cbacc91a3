import FilterQuery.Expression.Tree
import FilterQuery.Failure
import FilterQuery.Json
import FilterQuery.Text.Blank

/-!
# Filter expressions

A filter expression combines filters by their indexes, as in `(0or1)and2`.

* `Expression.parse` reads an expression, and refuses a blank one;
* `Expression.parseOptional` takes an absent or blank expression for none;
* `Expression.normalized` is its canonical text: two expressions with the same
  tree have the same canonical text.
-/

namespace FilterQuery

open FilterQuery.Expression in
/-- A filter expression: its text, its tokens and its structure. -/
structure Expression where
  text : String
  tokens : List Token
  tree : Tree
  deriving DecidableEq, Repr

namespace Expression

/-- Why a text is no filter expression. -/
inductive Fault where
  | blank
  | token (fault : TokenFault)
  | tree (fault : Tree.TreeFault)
  deriving DecidableEq, Repr

def TokenFault.message (text : String) : TokenFault → String
  | .unexpected found position =>
      "Malformed expression. Unexpected token '" ++ found.toString ++
        "' at position " ++ toString position ++ " in expression: " ++ text
  | .outOfRange digits position =>
      "Malformed expression. Index '" ++ digits ++ "' at position " ++
        toString position ++ " is out of range in expression: " ++ text
  | .unbalanced opened closed =>
      "Malformed expression. Mismatching number of starting and ending " ++
        "parentheses. " ++ toString opened ++ " and " ++ toString closed ++
        ", respectively, in: " ++ text
  | .endedUnexpectedly =>
      "Malformed expression. Ended unexpectedly: " ++ text

/-- Where the fault lies, if at one place. -/
def TokenFault.position : TokenFault → Option Nat
  | .unexpected _ position => some position
  | .outOfRange _ position => some position
  | .unbalanced .. => none
  | .endedUnexpectedly => none

/-- The failure that a fault of the given text amounts to. -/
def Fault.failure (text : String) : Fault → Failure
  | .blank =>
      .malformedExpression text "Malformed expression. Expression is empty"
  | .token fault =>
      { Failure.malformedExpression text (fault.message text) with
        position := fault.position }
  | .tree fault =>
      .internal ("Failed to build syntax tree for filter expression '" ++
        text ++ "': " ++ fault.message)

def parse (text : String) : Except Fault Expression :=
  if Text.isBlankText text then .error .blank
  else
    match tokenize text with
    | .error fault => .error (.token fault)
    | .ok tokens =>
        match Tree.ofTokens tokens with
        | .error fault => .error (.tree fault)
        | .ok tree => .ok ⟨text, tokens, tree⟩

/-- Read a filter expression, if there is one: a blank text is none. -/
def parseOptional (text : Option String) : Except Fault (Option Expression) :=
  match text with
  | none => .ok none
  | some given =>
      if Text.isBlankText given then .ok none
      else (parse given).map some

/-- The canonical text. -/
def normalized (expression : Expression) : String :=
  expression.tree.normalize

/-- The distinct filter indexes, ascending. -/
def indexes (expression : Expression) : List Nat :=
  expression.tree.indexes

def summary (expression : Expression) : Json :=
  .object
    [("expressionOriginal", .text expression.text),
      ("expressionNormalized", .text expression.normalized),
      ("indexes", .array (expression.indexes.map Json.ofNat))]

end Expression

end FilterQuery
