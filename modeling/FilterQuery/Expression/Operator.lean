/-!
# Logical operators

Filters are combined with `and`, `or` and `xor`.  Keywords are written in lower
case in filter expressions and in upper case in conditions.
-/

namespace FilterQuery

/-- An operator between two filter expressions. -/
inductive LogicalOperator where
  | and
  | or
  | xor
  deriving DecidableEq, Repr

namespace LogicalOperator

/-- Every operator, tightest binding first. -/
def all : List LogicalOperator := [.and, .xor, .or]

def keyword : LogicalOperator → String
  | .and => "and"
  | .or => "or"
  | .xor => "xor"

def sqlKeyword : LogicalOperator → String
  | .and => "AND"
  | .or => "OR"
  | .xor => "XOR"

/-- Cut an operator's keyword off the front of a text. -/
def take? : List Char → Option (LogicalOperator × List Char)
  | 'a' :: 'n' :: 'd' :: rest => some (.and, rest)
  | 'x' :: 'o' :: 'r' :: rest => some (.xor, rest)
  | 'o' :: 'r' :: rest => some (.or, rest)
  | _ => none

theorem take?_eq_some_iff
    {characters rest : List Char} {operator : LogicalOperator} :
    take? characters = some (operator, rest) ↔
      characters = operator.keyword.toList ++ rest := by
  constructor
  · intro taken
    unfold take? at taken
    split at taken <;> simp_all <;> obtain ⟨rfl, rfl⟩ := taken <;> rfl
  · rintro rfl
    cases operator <;> simp [keyword, take?]

/-- A keyword takes at least two characters. -/
theorem length_of_take?
    {characters rest : List Char} {operator : LogicalOperator}
    (taken : take? characters = some (operator, rest)) :
    rest.length + 2 ≤ characters.length := by
  rw [take?_eq_some_iff.mp taken]
  cases operator <;> simp [keyword]

end LogicalOperator

end FilterQuery
