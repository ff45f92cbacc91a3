import FilterQuery.Sql.Clause
import Mathlib.Data.List.MinMax

/-!
# Reading a where clause

A where clause is read like any condition of the language: first it is cut into
symbols, then the symbols are put together by the grammar.

* Given conditions are never looked into.  Where an operand is due, the longest
  condition that stands there is one symbol; a parenthesis or a fixed word is
  read only if no condition stands there.  The parenthesis after `NOT` belongs to
  it, and is never the start of a condition, since `NOT` stands before every
  operand in this way, also before one that is a condition in parentheses;
* in the grammar `NOT` binds tighter than `AND`, `AND` tighter than `XOR`, and
  `XOR` tighter than `OR`; `XOR(a, b)` is the operator of the same name as a
  function.
-/

namespace FilterQuery.Sql

/-- A part of a where clause. -/
inductive Symbol where
  | condition (text : String)
  | opening
  | closing
  | comma
  | not
  | operator (operator : LogicalOperator)
  /-- The name of the function with its opening parenthesis. -/
  | xorOpening
  deriving DecidableEq, Repr

/-! ## Cutting into symbols -/

/-- What is due at a place of the text. -/
inductive Due where
  | operand
  /-- An operand of `NOT`. -/
  | denied
  | operator
  deriving DecidableEq, Repr

/-- The longest of the conditions that the text starts with. -/
def longest? (conditions : List String) (characters : List Char) :
    Option String :=
  (conditions.filter fun condition =>
    condition ≠ "" ∧ condition.toList <+: characters).argmax
      String.length

/-- What stands between operands or after them, with what is due next and the
text after it.  Every symbol is spelled in one way only. -/
def operatorSymbol? : List Char → Option (Symbol × Due × List Char)
  | ')' :: rest => some (.closing, .operator, rest)
  | ',' :: ' ' :: rest => some (.comma, .operand, rest)
  | ' ' :: 'A' :: 'N' :: 'D' :: ' ' :: rest =>
      some (.operator .and, .operand, rest)
  | ' ' :: 'O' :: 'R' :: ' ' :: rest => some (.operator .or, .operand, rest)
  | ' ' :: 'X' :: 'O' :: 'R' :: ' ' :: rest =>
      some (.operator .xor, .operand, rest)
  | _ => none

/-- What stands before operands, other than conditions. -/
def fixedSymbol? : List Char → Option (Symbol × Due × List Char)
  | '(' :: rest => some (.opening, .operand, rest)
  | 'N' :: 'O' :: 'T' :: ' ' :: rest => some (.not, .denied, rest)
  | 'X' :: 'O' :: 'R' :: '(' :: rest => some (.xorOpening, .operand, rest)
  | _ => none

/-- The symbol at the start of an operand. -/
def operandSymbol? (conditions : List String) (characters : List Char) :
    Option (Symbol × Due × List Char) :=
  match longest? conditions characters with
  | some condition =>
      some (.condition condition, .operator,
        characters.drop condition.length)
  | none => fixedSymbol? characters

/-- The symbol at the start of a text. -/
def symbol? (conditions : List String) :
    Due → List Char → Option (Symbol × Due × List Char)
  | .operator, characters => operatorSymbol? characters
  | .denied, '(' :: rest => some (.opening, .operand, rest)
  | .denied, characters => operandSymbol? conditions characters
  | .operand, characters => operandSymbol? conditions characters

theorem length_of_operatorSymbol?
    {characters rest : List Char} {symbol : Symbol} {due : Due}
    (found : operatorSymbol? characters = some (symbol, due, rest)) :
    rest.length < characters.length := by
  unfold operatorSymbol? at found
  split at found
  all_goals cases found
  all_goals simp only [List.length_cons]
  all_goals omega

theorem length_of_fixedSymbol?
    {characters rest : List Char} {symbol : Symbol} {due : Due}
    (found : fixedSymbol? characters = some (symbol, due, rest)) :
    rest.length < characters.length := by
  unfold fixedSymbol? at found
  split at found
  all_goals cases found
  all_goals simp only [List.length_cons]
  all_goals omega

theorem length_of_operandSymbol?
    {conditions : List String} {characters rest : List Char} {symbol : Symbol}
    {due : Due}
    (found :
      operandSymbol? conditions characters = some (symbol, due, rest)) :
    rest.length < characters.length := by
  unfold operandSymbol? at found
  split at found
  · rename_i condition isLongest
    cases found
    have member := List.argmax_mem isLongest
    simp only [List.mem_filter, decide_eq_true_eq] at member
    obtain ⟨_, nonempty, starts⟩ := member
    have shorter := starts.length_le
    have positive : condition.length ≠ 0 := by
      intro isEmpty
      exact nonempty (String.length_eq_zero_iff.mp isEmpty)
    rw [String.length_toList] at shorter
    rw [List.length_drop]
    omega
  · exact length_of_fixedSymbol? found

theorem length_of_symbol?
    {conditions : List String} {characters rest : List Char} {symbol : Symbol}
    {due next : Due}
    (found : symbol? conditions due characters = some (symbol, next, rest)) :
    rest.length < characters.length := by
  unfold symbol? at found
  split at found
  · exact length_of_operatorSymbol? found
  · cases found
    exact Nat.lt_succ_self _
  · exact length_of_operandSymbol? found
  · exact length_of_operandSymbol? found

/-- Cut a text into symbols. -/
def symbolsFrom? (conditions : List String) (due : Due) (characters : List Char) :
    Option (List Symbol) :=
  if due = .operator ∧ characters = [] then some []
  else
    match _found : symbol? conditions due characters with
    | none => none
    | some (symbol, next, rest) =>
        (symbolsFrom? conditions next rest).map (symbol :: ·)
termination_by characters.length
decreasing_by exact length_of_symbol? _found

/-! ## Grammar -/

/-- How tight an operator binds. -/
def strength : LogicalOperator → Nat
  | .or => 0
  | .xor => 1
  | .and => 2

/-- The clauses that symbols can be put together to, by the strength of the
loosest operator outside of parentheses.  Operators of equal strength are grouped
to the left. -/
inductive Derives : Nat → List Symbol → Clause → Prop where
  | condition (text : String) :
      Derives 3 [.condition text] (.condition text)
  | parentheses {inner : List Symbol} {clause : Clause} :
      Derives 0 inner clause →
        Derives 3 (.opening :: (inner ++ [.closing])) clause
  | negation {operand : List Symbol} {clause : Clause} :
      Derives 3 operand clause → Derives 3 (.not :: operand) (.negation clause)
  | xorCall {first second : List Symbol} {left right : Clause} :
      Derives 0 first left → Derives 0 second right →
        Derives 3 (.xorOpening :: (first ++ .comma :: (second ++ [.closing])))
          (.xorCall left right)
  | operation {operator : LogicalOperator} {first second : List Symbol}
      {left right : Clause} :
      Derives (strength operator) first left →
        Derives (strength operator + 1) second right →
          Derives (strength operator) (first ++ .operator operator :: second)
            (.operation operator left right)
  | tighter {bound : Nat} {symbols : List Symbol} {clause : Clause} :
      Derives (bound + 1) symbols clause → Derives bound symbols clause

/-- The text is read as the clause. -/
def Reads (conditions : List String) (text : String) (clause : Clause) : Prop :=
  ∃ symbols,
    symbolsFrom? conditions .operand text.toList = some symbols ∧
      Derives 0 symbols clause

end FilterQuery.Sql
