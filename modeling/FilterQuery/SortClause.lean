import FilterQuery.Failure
import FilterQuery.Json

/-!
# Sort clauses

A sort clause is written as a key, which a sign may precede: `-` sorts in descending
order, `+` or no sign in ascending order.  A key consists of words, made of
ASCII letters, digits and low lines, with points between them.
-/

namespace FilterQuery

/-- The direction of a sort. -/
inductive SortOrder where
  | ascending
  | descending
  deriving DecidableEq, Repr

/-- The keyword of a direction in a condition. -/
def SortOrder.sqlKeyword : SortOrder → String
  | .ascending => "ASC"
  | .descending => "DESC"

/-- A key to sort by. -/
structure SortClause where
  /-- The text as it was submitted. -/
  expression : String
  key : String
  order : SortOrder
  deriving DecidableEq, Repr

namespace SortClause

def isAscending (clause : SortClause) : Bool := clause.order == .ascending

def summary (clause : SortClause) : Json :=
  .object
    [("expression", .text clause.expression),
      ("key", .text clause.key),
      ("isAscending", .boolean clause.isAscending)]

/-- Whether a character may occur in a word of a key. -/
def isWordCharacter (character : Char) : Bool :=
  character.isAlphanum || character = '_'

/-- Whether a text consists of words with points between them; `inWord` says
whether the current word has begun. -/
def isDotted (inWord : Bool) : List Char → Bool
  | [] => inWord
  | character :: rest =>
      if isWordCharacter character then isDotted true rest
      else inWord && character = '.' && isDotted false rest

/-- The direction that the sign of a sort gives, and the text after it. -/
def splitSign : List Char → SortOrder × List Char
  | '-' :: rest => (.descending, rest)
  | '+' :: rest => (.ascending, rest)
  | rest => (.ascending, rest)

/-- Why a text is no sort clause. -/
inductive Fault where
  | malformed
  deriving DecidableEq, Repr

/-- The failure that a fault of the given entry amounts to. -/
def Fault.failure (index : Nat) (expression : String) : Fault → Failure
  | .malformed => .malformedSort index expression

def parse (expression : String) : Except Fault SortClause :=
  let (order, key) := splitSign expression.toList
  if isDotted false key then
    .ok { expression, key := String.ofList key, order }
  else .error .malformed

end SortClause

end FilterQuery
