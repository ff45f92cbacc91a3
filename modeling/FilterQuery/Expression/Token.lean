import FilterQuery.Expression.Operator
import FilterQuery.Text.Digits

/-!
# Tokens of filter expressions

A filter expression is written with parentheses, filter indexes and the
keywords of the logical operators, without blanks.

* After the start, an opening parenthesis or a keyword, an operand is due: an
  opening parenthesis or an index;
* after an index or a closing parenthesis, a keyword is due, or a closing
  parenthesis while one is open.

`tokenize` cuts a text into tokens, or says what is wrong with it and where.
Everything before the reported position consists of complete tokens, which are
ASCII, so the position counts characters and bytes alike.
-/

namespace FilterQuery.Expression

open FilterQuery.Text

/-- A token of a filter expression. -/
inductive Token where
  | openParen
  | closeParen
  | index (value : Nat)
  | operator (logical : LogicalOperator)
  deriving DecidableEq, Repr

/-- The text of a token; an index has no leading zeros. -/
def Token.text : Token → String
  | .openParen => "("
  | .closeParen => ")"
  | .index value => toString value
  | .operator logical => logical.keyword

/-- Why a text is no sequence of tokens. -/
inductive TokenFault where
  /-- The character at the position starts no token that is due there. -/
  | unexpected (found : Char) (position : Nat)
  /-- The index at the position is `2 ^ 64` or more. -/
  | outOfRange (digits : String) (position : Nat)
  /-- Not every parenthesis was closed. -/
  | unbalanced (opened closed : Nat)
  /-- The text ended where an operand was due. -/
  | endedUnexpectedly
  deriving DecidableEq, Repr

/-- What is due next. -/
inductive Expectation where
  | operand
  | operator
  deriving DecidableEq, Repr

/-- Whether a text may end, and with which fault it may not. -/
def finish
    (expectation : Expectation) (opened closed : Nat) :
    Except TokenFault (List Token) :=
  if opened ≠ closed then .error (.unbalanced opened closed)
  else if expectation = .operand then .error .endedUnexpectedly
  else .ok []

/-- Put a token in front of those that follow. -/
def prepend
    (token : Token) (rest : Except TokenFault (List Token)) :
    Except TokenFault (List Token) :=
  rest.map (token :: ·)

/-- Cut a text into tokens, from a position at which some parentheses have been
opened and closed. -/
def tokenizeFrom
    (expectation : Expectation) (opened closed position : Nat)
    (characters : List Char) : Except TokenFault (List Token) :=
  match characters with
  | [] => finish expectation opened closed
  | first :: rest =>
      match expectation with
      | .operand =>
          if first = '(' then
            prepend .openParen
              (tokenizeFrom .operand (opened + 1) closed (position + 1) rest)
          else if first.isDigit then
            let digits := first :: rest.takeWhile Char.isDigit
            if Digits.value digits < Digits.wordBound then
              prepend (.index (Digits.value digits))
                (tokenizeFrom .operator opened closed
                  (position + digits.length) (rest.dropWhile Char.isDigit))
            else
              .error (.outOfRange (String.ofList digits) position)
          else
            .error (.unexpected first position)
      | .operator =>
          if first = ')' ∧ closed < opened then
            prepend .closeParen
              (tokenizeFrom .operator opened (closed + 1) (position + 1) rest)
          else
            match _taken : LogicalOperator.take? (first :: rest) with
            | some (operator, after) =>
                prepend (.operator operator)
                  (tokenizeFrom .operand opened closed
                    (position + operator.keyword.length) after)
            | none => .error (.unexpected first position)
termination_by characters.length
decreasing_by
  · simp
  · simp only [List.length_cons]
    have := (List.dropWhile_sublist Char.isDigit (l := rest)).length_le
    omega
  · simp
  · have := LogicalOperator.length_of_take? _taken
    simp only [List.length_cons] at *
    omega

/-- Cut a filter expression into tokens. -/
def tokenize (text : String) : Except TokenFault (List Token) :=
  tokenizeFrom .operand 0 0 0 text.toList

end FilterQuery.Expression
