import FilterQuery.Expression.Tree
import FilterQuery.Sql.Dialect
import FilterQuery.Text.Blank

/-!
# Where clauses

A filter expression becomes a clause over the conditions of its filters.

* `Clause.ofTree` keeps the structure of the expression; where a dialect has no
  exclusive or, it is expanded;
* `Clause.text` puts operands into parentheses that are operations themselves, so
  that the text reads back whatever binds stronger;
* `enclose` takes off parentheses around the whole text, and puts on one pair.
-/

namespace FilterQuery.Sql

open FilterQuery.Expression

/-- An operation on conditions. -/
inductive Clause where
  | condition (text : String)
  | negation (operand : Clause)
  | operation (operator : LogicalOperator) (left right : Clause)
  /-- Exclusive or, as a function. -/
  | xorCall (left right : Clause)
  deriving DecidableEq, Repr

namespace Clause

/-- Put a text into parentheses where an operation is an operand. -/
def operandText (clause : Clause) (text : String) : String :=
  match clause with
  | .operation .. => "(" ++ text ++ ")"
  | _ => text

/-- A clause, written out. -/
def text : Clause → String
  | .condition text => text
  | .negation operand => "NOT (" ++ operand.text ++ ")"
  | .operation operator left right =>
      left.operandText left.text ++ " " ++ operator.sqlKeyword ++ " " ++
        right.operandText right.text
  | .xorCall left right =>
      "XOR(" ++ left.operandText left.text ++ ", " ++
        right.operandText right.text ++ ")"

/-- An operation, as a dialect writes it. -/
def combine
    (dialect : Dialect) (operator : LogicalOperator) (left right : Clause) :
    Clause :=
  match operator, dialect.xorStyle with
  | .xor, .function => .xorCall left right
  | .xor, .expanded =>
      .operation .or (.operation .and left (.negation right))
        (.operation .and (.negation left) right)
  | _, _ => .operation operator left right

/-- The clause of an expression over the conditions of its indexes, or the first
index that has no condition. -/
def ofTree (dialect : Dialect) (condition? : Nat → Option String) :
    Tree → Except Nat Clause
  | .leaf index =>
      match condition? index with
      | none => .error index
      | some text => .ok (.condition text)
  | .node operator left right => do
      let left ← ofTree dialect condition? left
      let right ← ofTree dialect condition? right
      return combine dialect operator left right

end Clause

/-! ## Parentheses -/

/-- What stands before the closing parenthesis at the end, provided that it closes
the parenthesis before the text and not one of those opened in it.  `depth` counts
the latter. -/
def upToClosing? (depth : Nat) : List Char → Option (List Char)
  | [] => none
  | character :: rest =>
      if character = '(' then
        (upToClosing? (depth + 1) rest).map (character :: ·)
      else if character = ')' then
        match depth with
        | 0 => if rest.isEmpty then some [] else none
        | outer + 1 => (upToClosing? outer rest).map (character :: ·)
      else (upToClosing? depth rest).map (character :: ·)

theorem length_upToClosing?
    {depth : Nat} {characters inner : List Char}
    (closed : upToClosing? depth characters = some inner) :
    inner.length < characters.length := by
  induction characters generalizing depth inner with
  | nil => simp [upToClosing?] at closed
  | cons character rest inductionHypothesis =>
      simp only [upToClosing?] at closed
      split at closed
      · obtain ⟨shorter, found, rfl⟩ := Option.map_eq_some_iff.mp closed
        simpa using inductionHypothesis found
      · split at closed
        · split at closed
          · split at closed <;> simp_all
          · obtain ⟨shorter, found, rfl⟩ := Option.map_eq_some_iff.mp closed
            simpa using inductionHypothesis found
        · obtain ⟨shorter, found, rfl⟩ := Option.map_eq_some_iff.mp closed
          simpa using inductionHypothesis found

/-- The text between two parentheses that enclose all of it. -/
def enclosed? : List Char → Option (List Char)
  | '(' :: rest => upToClosing? 0 rest
  | _ => none

theorem length_enclosed?
    {characters inner : List Char} (enclosed : enclosed? characters = some inner) :
    inner.length < characters.length := by
  unfold enclosed? at enclosed
  split at enclosed
  · exact Nat.lt_succ_of_lt (length_upToClosing? enclosed)
  · simp at enclosed

/-- Take off blanks at both ends and parentheses around the whole text, as long as
there are any. -/
def strip (characters : List Char) : List Char :=
  let trimmed := Text.trim characters
  match _found : enclosed? trimmed with
  | none => trimmed
  | some inner => strip inner
termination_by characters.length
decreasing_by
  exact Nat.lt_of_lt_of_le (length_enclosed? _found) (Text.length_trim_le characters)

/-- Put exactly one pair of parentheses around a text; there is nothing to enclose
in a blank one. -/
def enclose (text : String) : Option String :=
  match strip text.toList with
  | [] => none
  | inner => some ("(" ++ String.ofList inner ++ ")")

end FilterQuery.Sql
