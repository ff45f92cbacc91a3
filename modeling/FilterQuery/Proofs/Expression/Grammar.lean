import FilterQuery.Proofs.Expression.Token

/-!
# The grammar of filter expressions

An expression is one term, or several with the keywords of operators between
them; a term is an index, or an expression in parentheses.

* `Spells` is the grammar, together with the tokens that a phrase consists of;
* `tokenize_eq_ok_iff`: `tokenize` accepts the expressions whose indexes are below
  the bound of indexes, and returns their tokens.

`tokenize` only counts parentheses.  To see that what it accepts is an expression,
the rest of a text is taken as what closes the parentheses that are still open
(`Closes`), each of them followed by the operations that go on after it.
-/

namespace FilterQuery.Expression

open FilterQuery.Text

/-- The parts that an expression is made of. -/
inductive Phrase where
  | expression
  | term
  deriving DecidableEq, Repr

/-- The characters form a phrase that consists of the tokens. -/
inductive Spells : Phrase → List Char → List Token → Prop
  | index {run : List Char} :
      run ≠ [] →
      (∀ digit ∈ run, digit.isDigit = true) →
      Spells .term run [.index (Digits.value run)]
  | parentheses {characters : List Char} {tokens : List Token} :
      Spells .expression characters tokens →
      Spells .term ('(' :: (characters ++ [')']))
        (.openParen :: (tokens ++ [.closeParen]))
  | term {characters : List Char} {tokens : List Token} :
      Spells .term characters tokens → Spells .expression characters tokens
  | operation (operator : LogicalOperator) {left right : List Char}
      {leftTokens rightTokens : List Token} :
      Spells .expression left leftTokens →
      Spells .term right rightTokens →
      Spells .expression (left ++ (operator.keyword.toList ++ right))
        (leftTokens ++ .operator operator :: rightTokens)

/-- Two expressions with an operator between them are an expression. -/
theorem Spells.append
    {left right : List Char} {leftTokens rightTokens : List Token}
    (leftSpells : Spells .expression left leftTokens) (operator : LogicalOperator)
    (rightSpells : Spells .expression right rightTokens) :
    Spells .expression (left ++ (operator.keyword.toList ++ right))
      (leftTokens ++ .operator operator :: rightTokens) := by
  generalize isExpression : Phrase.expression = phrase at rightSpells
  induction rightSpells with
  | index _ _ => cases isExpression
  | parentheses _ _ => cases isExpression
  | term isTerm _ => exact .operation operator leftSpells isTerm
  | @operation last first right firstTokens rightTokens _ isTerm firstHypothesis _ =>
      have whole := Spells.operation last (firstHypothesis rfl) isTerm
      simpa only [List.append_assoc, List.cons_append] using whole

/-! ## Whatever is accepted is an expression -/

/-- Operations that go on after an expression, whichever it is. -/
def Extends (more : List Char) (moreTokens : List Token) : Prop :=
  ∀ {characters : List Char} {tokens : List Token},
    Spells .expression characters tokens →
      Spells .expression (characters ++ more) (tokens ++ moreTokens)

theorem extends_nil : Extends [] [] := by
  intro characters tokens spells
  rwa [List.append_nil, List.append_nil]

theorem extends_operation
    (operator : LogicalOperator) {right : List Char} {rightTokens : List Token}
    (spells : Spells .expression right rightTokens) :
    Extends (operator.keyword.toList ++ right) (.operator operator :: rightTokens) :=
  fun leftSpells => leftSpells.append operator spells

/-- What follows an expression inside open parentheses: for each of them the
closing one, and the operations that go on after it. -/
inductive Closes : Nat → List Char → List Token → Prop
  | done : Closes 0 [] []
  | closing {depth : Nat} {more rest : List Char}
      {moreTokens restTokens : List Token} :
      Extends more moreTokens →
      Closes depth rest restTokens →
      Closes (depth + 1) (')' :: (more ++ rest))
        (.closeParen :: (moreTokens ++ restTokens))

/-- What completes a text, depending on what is due: an expression or operations,
and then what closes the parentheses around it. -/
inductive Completes : Expectation → Nat → List Char → List Token → Prop
  | operand {depth : Nat} {inner rest : List Char}
      {innerTokens restTokens : List Token} :
      Spells .expression inner innerTokens →
      Closes depth rest restTokens →
      Completes .operand depth (inner ++ rest) (innerTokens ++ restTokens)
  | operator {depth : Nat} {more rest : List Char}
      {moreTokens restTokens : List Token} :
      Extends more moreTokens →
      Closes depth rest restTokens →
      Completes .operator depth (more ++ rest) (moreTokens ++ restTokens)

namespace Completes

variable {depth : Nat} {characters : List Char} {tokens : List Token}

theorem done : Completes .operator 0 [] [] :=
  .operator extends_nil .done

/-- A term and what completes the text after it. -/
theorem ofTerm
    {term : List Char} {termTokens : List Token}
    (isTerm : Spells .term term termTokens)
    (completes : Completes .operator depth characters tokens) :
    Completes .operand depth (term ++ characters) (termTokens ++ tokens) := by
  cases completes with
  | operator goesOn closes =>
      have whole := Completes.operand (goesOn (.term isTerm)) closes
      rwa [List.append_assoc, List.append_assoc] at whole

/-- The closing parenthesis is found in what completes the text inside. -/
theorem openParen (completes : Completes .operand (depth + 1) characters tokens) :
    Completes .operand depth ('(' :: characters) (.openParen :: tokens) := by
  cases completes with
  | operand isInner closes =>
      cases closes with
      | closing goesOn closesOuter =>
          have whole :=
            ofTerm (.parentheses isInner) (.operator goesOn closesOuter)
          simpa only [List.cons_append, List.append_assoc, List.nil_append]
            using whole

theorem closeParen (completes : Completes .operator depth characters tokens) :
    Completes .operator (depth + 1) (')' :: characters)
      (.closeParen :: tokens) := by
  cases completes with
  | operator goesOn closes =>
      exact .operator extends_nil (.closing goesOn closes)

theorem keyword
    (operator : LogicalOperator)
    (completes : Completes .operand depth characters tokens) :
    Completes .operator depth (operator.keyword.toList ++ characters)
      (.operator operator :: tokens) := by
  cases completes with
  | operand isRight closes =>
      have whole :=
        Completes.operator (extends_operation operator isRight) closes
      rwa [List.append_assoc, List.cons_append] at whole

end Completes

/-- Whatever is accepted completes the text, from any state of the reader. -/
theorem completes_of_tokenizeFrom
    {expectation : Expectation} {opened closed position : Nat}
    {characters : List Char} {tokens : List Token}
    (ordered : closed ≤ opened)
    (accepted :
      tokenizeFrom expectation opened closed position characters = .ok tokens) :
    Completes expectation (opened - closed) characters tokens := by
  fun_induction tokenizeFrom expectation opened closed position characters
    generalizing tokens with
  | case1 expectation opened closed position =>
      unfold finish at accepted
      split at accepted
      · cases accepted
      · rename_i balanced
        split at accepted
        · cases accepted
        · rename_i notOperand
          cases expectation with
          | operand => exact absurd rfl notOperand
          | operator =>
              cases accepted
              rw [Decidable.not_not.mp balanced, Nat.sub_self]
              exact .done
  | case2 opened closed position rest inductionHypothesis =>
      obtain ⟨others, cut, rfl⟩ := prepend_eq_ok_iff.mp accepted
      have inner := inductionHypothesis (by omega) cut
      rw [Nat.sub_add_comm ordered] at inner
      exact inner.openParen
  | case3 opened closed position first rest _ isDigit digits bounded =>
      rename_i inductionHypothesis
      obtain ⟨others, cut, rfl⟩ := prepend_eq_ok_iff.mp accepted
      obtain ⟨whole, run, _⟩ := Digits.exists_longest_run rest isDigit
      rw [whole]
      exact .ofTerm (.index (List.cons_ne_nil _ _) run)
        (inductionHypothesis ordered cut)
  | case4 => cases accepted
  | case5 => cases accepted
  | case6 opened closed position first rest isClosing inductionHypothesis =>
      obtain ⟨others, cut, rfl⟩ := prepend_eq_ok_iff.mp accepted
      have outer := inductionHypothesis (by omega) cut
      have depth : opened - closed = opened - (closed + 1) + 1 := by omega
      rw [depth, isClosing.1]
      exact outer.closeParen
  | case7 opened closed position first rest _ logical after taken
      inductionHypothesis =>
      obtain ⟨others, cut, rfl⟩ := prepend_eq_ok_iff.mp accepted
      rw [LogicalOperator.take?_eq_some_iff.mp taken]
      exact (inductionHypothesis ordered cut).keyword logical
  | case8 => cases accepted

theorem spells_of_tokenize
    {text : String} {tokens : List Token} (accepted : tokenize text = .ok tokens) :
    Spells .expression text.toList tokens := by
  have completes :
      Completes .operand 0 text.toList tokens :=
    completes_of_tokenizeFrom (Nat.le_refl 0) accepted
  generalize text.toList = characters at completes
  cases completes with
  | operand spells closes =>
      cases closes
      rwa [List.append_nil, List.append_nil]

/-! ## Every expression is accepted -/

section Cutting

variable {opened closed position : Nat} {characters rest : List Char}
  {tokens following : List Token}

/-- What reads a rest of the text after an operand, however many more
parentheses have been opened and closed by then. -/
def ReadsAfter
    (opened closed : Nat) (rest : List Char) (following : List Token) : Prop :=
  ∀ pairs position,
    tokenizeFrom .operator (opened + pairs) (closed + pairs) position rest =
      .ok following

theorem readsAfter_nil (count : Nat) : ReadsAfter count count [] [] := by
  intro pairs position
  rw [tokenizeFrom]
  simp [finish]

/-- The characters are cut into the tokens wherever an operand is due. -/
def IsCut (characters : List Char) (tokens : List Token) : Prop :=
  ∀ ⦃opened closed position : Nat⦄ ⦃rest : List Char⦄ ⦃following : List Token⦄,
    closed ≤ opened →
    (∀ next ∈ rest.head?, next.isDigit = false) →
    ReadsAfter opened closed rest following →
    tokenizeFrom .operand opened closed position (characters ++ rest) =
      .ok (tokens ++ following)

theorem isCut_index
    {run : List Char} (nonempty : run ≠ [])
    (isRun : ∀ digit ∈ run, digit.isDigit = true)
    (bounded : Digits.value run < Digits.wordBound) :
    IsCut run [.index (Digits.value run)] := by
  intro opened closed position rest following _ ends readsAfter
  have after := readsAfter 0 (position + run.length)
  simp only [Nat.add_zero] at after
  rw [tokenizeFrom_digits nonempty isRun bounded ends, after]
  rfl

theorem isCut_parentheses (isCut : IsCut characters tokens) :
    IsCut ('(' :: (characters ++ [')'])) (.openParen :: (tokens ++ [.closeParen])) := by
  intro opened closed position rest following ordered ends readsAfter
  simp only [List.cons_append, List.append_assoc, List.nil_append]
  rw [tokenizeFrom_openParen]
  apply prepend_eq_ok_iff.mpr
  refine ⟨_, isCut (by omega) ?_ ?_, rfl⟩
  · rintro next ⟨⟩
    decide
  · intro pairs between
    rw [tokenizeFrom_closeParen (by omega)]
    apply prepend_eq_ok_iff.mpr
    have after := readsAfter (pairs + 1) (between + 1)
    refine ⟨following, ?_, rfl⟩
    rwa [show opened + 1 + pairs = opened + (pairs + 1) by omega,
      show closed + pairs + 1 = closed + (pairs + 1) by omega]

theorem isCut_operation
    (operator : LogicalOperator) {left right : List Char}
    {leftTokens rightTokens : List Token}
    (leftIsCut : IsCut left leftTokens) (rightIsCut : IsCut right rightTokens) :
    IsCut (left ++ (operator.keyword.toList ++ right))
      (leftTokens ++ .operator operator :: rightTokens) := by
  intro opened closed position rest following ordered ends readsAfter
  have noDigit :
      ∀ next ∈ (operator.keyword.toList ++ (right ++ rest)).head?,
        next.isDigit = false := by
    cases operator <;>
      · rintro next ⟨⟩
        decide
  simp only [List.append_assoc, List.cons_append]
  apply leftIsCut ordered noDigit
  intro pairs between
  rw [tokenizeFrom_keyword]
  apply prepend_eq_ok_iff.mpr
  refine ⟨_, rightIsCut (by omega) ends ?_, rfl⟩
  intro morePairs later
  have after := readsAfter (pairs + morePairs) later
  rwa [← Nat.add_assoc, ← Nat.add_assoc] at after

theorem Spells.isCut
    {phrase : Phrase} (spells : Spells phrase characters tokens)
    (bounded : IndexesBounded tokens) : IsCut characters tokens := by
  induction spells with
  | index nonempty isRun =>
      exact isCut_index nonempty isRun (bounded _ (List.mem_singleton.mpr rfl))
  | parentheses _ inductionHypothesis =>
      have inner : IndexesBounded _ :=
        fun value member =>
          bounded value (List.mem_cons_of_mem _ (List.mem_append_left _ member))
      exact isCut_parentheses (inductionHypothesis inner)
  | term _ inductionHypothesis => exact inductionHypothesis bounded
  | operation operator _ _ leftHypothesis rightHypothesis =>
      obtain ⟨leftBounded, restBounded⟩ := indexesBounded_append.mp bounded
      have rightBounded : IndexesBounded _ :=
        fun value member => restBounded value (List.mem_cons_of_mem _ member)
      exact
        isCut_operation operator (leftHypothesis leftBounded)
          (rightHypothesis rightBounded)

end Cutting

theorem tokenize_of_spells
    {text : String} {tokens : List Token}
    (spells : Spells .expression text.toList tokens)
    (bounded : IndexesBounded tokens) : tokenize text = .ok tokens := by
  have noDigit : ∀ next ∈ ([] : List Char).head?, next.isDigit = false := by
    rintro next ⟨⟩
  have cut :=
    @Spells.isCut _ _ _ spells bounded 0 0 0 [] [] (Nat.le_refl 0) noDigit
      (readsAfter_nil 0)
  rwa [List.append_nil, List.append_nil] at cut

/-- Exactly the expressions with bounded indexes are accepted. -/
theorem tokenize_eq_ok_iff {text : String} {tokens : List Token} :
    tokenize text = .ok tokens ↔
      Spells .expression text.toList tokens ∧ IndexesBounded tokens := by
  constructor
  · intro accepted
    exact ⟨spells_of_tokenize accepted, indexesBounded_of_tokenizeFrom accepted⟩
  · rintro ⟨spells, bounded⟩
    exact tokenize_of_spells spells bounded

end FilterQuery.Expression
