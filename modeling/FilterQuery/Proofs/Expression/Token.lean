import FilterQuery.Expression.Token
import FilterQuery.Proofs.Text.Digits

/-!
# How tokens are cut

One equation for each kind of token says how `tokenizeFrom` cuts it off the
front of a text.  Every index that is cut off is below `2 ^ 64`.
-/

namespace FilterQuery.Expression

open FilterQuery.Text

section Steps

variable {opened closed position : Nat} {rest : List Char}

theorem tokenizeFrom_openParen :
    tokenizeFrom .operand opened closed position ('(' :: rest) =
      prepend .openParen
        (tokenizeFrom .operand (opened + 1) closed (position + 1) rest) := by
  rw [tokenizeFrom]
  simp

theorem tokenizeFrom_closeParen (isOpen : closed < opened) :
    tokenizeFrom .operator opened closed position (')' :: rest) =
      prepend .closeParen
        (tokenizeFrom .operator opened (closed + 1) (position + 1) rest) := by
  rw [tokenizeFrom]
  simp [isOpen]

theorem tokenizeFrom_keyword (operator : LogicalOperator) :
    tokenizeFrom .operator opened closed position
        (operator.keyword.toList ++ rest) =
      prepend (.operator operator)
        (tokenizeFrom .operand opened closed
          (position + operator.keyword.length) rest) := by
  have taken :
      LogicalOperator.take? (operator.keyword.toList ++ rest) =
        some (operator, rest) :=
    LogicalOperator.take?_eq_some_iff.mpr rfl
  obtain ⟨first, others, spelled, isNoParen⟩ :
      ∃ first others,
        operator.keyword.toList ++ rest = first :: others ∧ first ≠ ')' := by
    cases operator <;> exact ⟨_, _, rfl, by decide⟩
  rw [spelled] at taken ⊢
  rw [tokenizeFrom]
  simp only [isNoParen, false_and, if_false]
  split
  · rename_i found after takenAfter
    rw [taken] at takenAfter
    cases takenAfter
    rfl
  · rename_i takenNothing
    rw [taken] at takenNothing
    cases takenNothing

theorem tokenizeFrom_digits
    {digits : List Char}
    (nonempty : digits ≠ [])
    (run : ∀ digit ∈ digits, digit.isDigit = true)
    (bounded : Digits.value digits < Digits.wordBound)
    (ends : ∀ next ∈ rest.head?, next.isDigit = false) :
    tokenizeFrom .operand opened closed position (digits ++ rest) =
      prepend (.index (Digits.value digits))
        (tokenizeFrom .operator opened closed (position + digits.length)
          rest) := by
  obtain ⟨first, others, rfl⟩ := List.exists_cons_of_ne_nil nonempty
  have isDigit : first.isDigit = true := run first (by simp)
  have isNoParen : first ≠ '(' := by
    rintro rfl
    exact absurd isDigit (by decide)
  have othersRun : ∀ digit ∈ others, digit.isDigit = true :=
    fun digit member => run digit (List.mem_cons_of_mem first member)
  have cut := Digits.takeWhile_isDigit_append othersRun ends
  rw [List.cons_append, tokenizeFrom]
  simp only [isNoParen, isDigit, cut.1, cut.2, bounded, if_true, if_false]

end Steps

theorem prepend_eq_ok_iff
    {token : Token} {result : Except TokenFault (List Token)}
    {tokens : List Token} :
    prepend token result = .ok tokens ↔
      ∃ rest, result = .ok rest ∧ tokens = token :: rest := by
  cases result with
  | error fault =>
      simp [prepend, Except.map]
  | ok rest =>
      simp [prepend, Except.map, eq_comm]

/-! ## Indexes -/

/-- Every index among the tokens is below the bound of indexes. -/
def IndexesBounded (tokens : List Token) : Prop :=
  ∀ value, Token.index value ∈ tokens → value < Digits.wordBound

theorem indexesBounded_append {first second : List Token} :
    IndexesBounded (first ++ second) ↔
      IndexesBounded first ∧ IndexesBounded second := by
  simp only [IndexesBounded, List.mem_append, or_imp, forall_and]

theorem indexesBounded_cons
    {token : Token} {tokens : List Token}
    (isBounded : ∀ value, token = .index value → value < Digits.wordBound)
    (bounded : IndexesBounded tokens) : IndexesBounded (token :: tokens) := by
  intro value member
  rcases List.mem_cons.mp member with isToken | later
  · exact isBounded value isToken.symm
  · exact bounded value later

theorem indexesBounded_of_tokenizeFrom
    {expectation : Expectation} {opened closed position : Nat}
    {characters : List Char} {tokens : List Token}
    (accepted :
      tokenizeFrom expectation opened closed position characters = .ok tokens) :
    IndexesBounded tokens := by
  fun_induction tokenizeFrom expectation opened closed position characters
    generalizing tokens with
  | case1 expectation opened closed position =>
      unfold finish at accepted
      split at accepted
      · cases accepted
      · split at accepted
        · cases accepted
        · cases accepted
          exact nofun
  | case2 opened closed position rest inductionHypothesis =>
      obtain ⟨others, cut, rfl⟩ := prepend_eq_ok_iff.mp accepted
      exact indexesBounded_cons nofun (inductionHypothesis cut)
  | case3 =>
      rename_i bounded inductionHypothesis
      obtain ⟨others, cut, rfl⟩ := prepend_eq_ok_iff.mp accepted
      refine indexesBounded_cons ?_ (inductionHypothesis cut)
      rintro value ⟨⟩
      exact bounded
  | case4 => cases accepted
  | case5 => cases accepted
  | case6 opened closed position first rest isClosing inductionHypothesis =>
      obtain ⟨others, cut, rfl⟩ := prepend_eq_ok_iff.mp accepted
      exact indexesBounded_cons nofun (inductionHypothesis cut)
  | case7 opened closed position first rest _ logical after _
      inductionHypothesis =>
      obtain ⟨others, cut, rfl⟩ := prepend_eq_ok_iff.mp accepted
      exact indexesBounded_cons nofun (inductionHypothesis cut)
  | case8 => cases accepted

end FilterQuery.Expression
