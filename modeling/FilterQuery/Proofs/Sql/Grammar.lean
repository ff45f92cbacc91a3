import FilterQuery.Proofs.Sql.Reading

/-!
# The grammar is unambiguous

Symbols are put together to one clause at most.  This is seen by reading them
from left to right with a stack of what waits for an operand: an operator takes
the operands of all tighter ones first.

* `settle` lets everything take its operand that binds tight enough;
* `run` reads symbols, and stops when something does not fit;
* `run_of_derives` says what `run` does with symbols that were derived, whatever
  waits for them; so it gives the clause of every derivation.
-/

namespace FilterQuery.Sql

/-- What waits for an operand. -/
inductive Waiting where
  | negation
  | operation (operator : LogicalOperator) (left : Clause)
  | opening
  /-- The function waits for its first argument. -/
  | firstArgument
  /-- The function waits for its second argument. -/
  | secondArgument (left : Clause)

/-- Operators below this strength have to wait. -/
def Waiting.bound : Waiting → Nat
  | .negation => 3
  | .operation operator _ => strength operator + 1
  | .opening | .firstArgument | .secondArgument _ => 0

/-- Nothing that waits takes an operand before an operator of the strength
does. -/
def IsReady (strength : Nat) : List Waiting → Prop
  | [] => True
  | last :: _ => last.bound ≤ strength

/-- Let everything take its operand that binds tighter than an operator of the
strength, or as tight. -/
def settle (strength : Nat) : List Waiting → Clause → List Waiting × Clause
  | last :: outer, operand =>
      if strength < last.bound then
        match last with
        | .negation => settle strength outer (.negation operand)
        | .operation operator left =>
            settle strength outer (.operation operator left operand)
        | _ => (last :: outer, operand)
      else (last :: outer, operand)
  | [], operand => ([], operand)

/-- Read symbols, given what waits and the operand that was read last. -/
def run : List Waiting → Option Clause → List Symbol → Option Clause
  | waiting, none, .condition text :: rest =>
      run waiting (some (.condition text)) rest
  | waiting, none, .opening :: rest => run (.opening :: waiting) none rest
  | waiting, none, .not :: rest => run (.negation :: waiting) none rest
  | waiting, none, .xorOpening :: rest =>
      run (.firstArgument :: waiting) none rest
  | waiting, some operand, .operator operator :: rest =>
      let (outer, left) := settle (strength operator) waiting operand
      run (.operation operator left :: outer) none rest
  | waiting, some operand, .closing :: rest =>
      match settle 0 waiting operand with
      | (.opening :: outer, inner) => run outer (some inner) rest
      | (.secondArgument left :: outer, right) =>
          run outer (some (.xorCall left right)) rest
      | _ => none
  | waiting, some operand, .comma :: rest =>
      match settle 0 waiting operand with
      | (.firstArgument :: outer, left) =>
          run (.secondArgument left :: outer) none rest
      | _ => none
  | waiting, some operand, [] =>
      match settle 0 waiting operand with
      | ([], clause) => some clause
      | _ => none
  | _, _, _ => none

section

variable {bound : Nat} {waiting : List Waiting} {clause : Clause}

theorem settle_of_isReady (ready : IsReady bound waiting) :
    settle bound waiting clause = (waiting, clause) := by
  cases waiting with
  | nil => rfl
  | cons last outer =>
      have waits : ¬bound < last.bound := Nat.not_lt.mpr ready
      simp only [settle, waits, if_false]

theorem IsReady.mono
    {stronger : Nat} (ready : IsReady bound waiting) (le : bound ≤ stronger) :
    IsReady stronger waiting := by
  cases waiting with
  | nil => trivial
  | cons last outer => exact Nat.le_trans ready le

theorem strength_lt (operator : LogicalOperator) : strength operator < 3 := by
  cases operator <;> decide

/-- Symbols that were derived leave an operand behind.  To whatever is settled
afterwards, it is the same as the clause that they were put together to. -/
theorem run_of_derives
    {symbols : List Symbol} (derives : Derives bound symbols clause)
    (ready : IsReady bound waiting) (rest : List Symbol) :
    ∃ others operand,
      run waiting none (symbols ++ rest) = run others (some operand) rest ∧
        ∀ weaker, weaker ≤ bound → weaker < 3 →
          settle weaker others operand = settle weaker waiting clause := by
  induction derives generalizing waiting rest with
  | condition text =>
      refine ⟨waiting, .condition text, ?_, fun _ _ _ => rfl⟩
      simp only [List.cons_append, List.nil_append, run]
  | @parentheses inner clause _ inductionHypothesis =>
      have readyInside : IsReady 0 (.opening :: waiting) := Nat.le_refl 0
      obtain ⟨others, operand, runs, settles⟩ :=
        inductionHypothesis readyInside (.closing :: rest)
      refine ⟨waiting, clause, ?_, fun _ _ _ => rfl⟩
      have settled : settle 0 others operand = (.opening :: waiting, clause) := by
        rw [settles 0 (Nat.le_refl 0) (by decide), settle_of_isReady readyInside]
      simp only [List.cons_append, List.append_assoc, List.nil_append, run]
      rw [runs]
      simp only [run, settled]
  | @negation symbols clause _ inductionHypothesis =>
      have readyInside : IsReady 3 (.negation :: waiting) := Nat.le_refl 3
      obtain ⟨others, operand, runs, settles⟩ :=
        inductionHypothesis readyInside rest
      refine ⟨others, operand, ?_, ?_⟩
      · simp only [List.cons_append, run]
        exact runs
      · intro weaker le below
        rw [settles weaker le below]
        simp only [settle, Waiting.bound, below, if_true]
  | @xorCall first second left right _ _ firstHypothesis secondHypothesis =>
      have readyFirst : IsReady 0 (.firstArgument :: waiting) := Nat.le_refl 0
      obtain ⟨firstOthers, firstOperand, firstRuns, firstSettles⟩ :=
        firstHypothesis readyFirst (.comma :: (second ++ .closing :: rest))
      have firstSettled :
          settle 0 firstOthers firstOperand =
            (.firstArgument :: waiting, left) := by
        rw [firstSettles 0 (Nat.le_refl 0) (by decide),
          settle_of_isReady readyFirst]
      have readySecond : IsReady 0 (.secondArgument left :: waiting) :=
        Nat.le_refl 0
      obtain ⟨secondOthers, secondOperand, secondRuns, secondSettles⟩ :=
        secondHypothesis readySecond (.closing :: rest)
      have secondSettled :
          settle 0 secondOthers secondOperand =
            (.secondArgument left :: waiting, right) := by
        rw [secondSettles 0 (Nat.le_refl 0) (by decide),
          settle_of_isReady readySecond]
      refine ⟨waiting, .xorCall left right, ?_, fun _ _ _ => rfl⟩
      simp only [List.cons_append, List.append_assoc, List.nil_append, run]
      rw [firstRuns]
      simp only [run, firstSettled]
      rw [secondRuns]
      simp only [run, secondSettled]
  | @operation operator first second left right _ _ firstHypothesis
      secondHypothesis =>
      obtain ⟨firstOthers, firstOperand, firstRuns, firstSettles⟩ :=
        firstHypothesis ready (.operator operator :: (second ++ rest))
      have firstSettled :
          settle (strength operator) firstOthers firstOperand =
            (waiting, left) := by
        rw [firstSettles _ (Nat.le_refl _) (strength_lt operator),
          settle_of_isReady ready]
      have readySecond :
          IsReady (strength operator + 1) (.operation operator left :: waiting) :=
        Nat.le_refl _
      obtain ⟨others, operand, secondRuns, secondSettles⟩ :=
        secondHypothesis readySecond rest
      refine ⟨others, operand, ?_, ?_⟩
      · simp only [List.cons_append, List.append_assoc]
        rw [firstRuns]
        simp only [run, firstSettled]
        exact secondRuns
      · intro weaker le below
        rw [secondSettles weaker (by omega) below]
        have taken : weaker < strength operator + 1 := by omega
        simp only [settle, Waiting.bound, taken, if_true]
  | tighter _ inductionHypothesis =>
      obtain ⟨others, operand, runs, settles⟩ :=
        inductionHypothesis (ready.mono (Nat.le_succ _)) rest
      exact
        ⟨others, operand, runs, fun weaker le below =>
          settles weaker (Nat.le_succ_of_le le) below⟩

theorem run_eq_some_of_derives
    {symbols : List Symbol} (derives : Derives 0 symbols clause) :
    run [] none symbols = some clause := by
  have readyOutside : IsReady 0 [] := trivial
  obtain ⟨others, operand, runs, settles⟩ :=
    run_of_derives derives readyOutside []
  have settled : settle 0 others operand = ([], clause) :=
    settles 0 (Nat.le_refl 0) (by decide)
  rw [List.append_nil] at runs
  rw [runs]
  simp only [run, settled]

end

/-- Symbols are put together to one clause at most. -/
theorem Derives.unique
    {symbols : List Symbol} {first second : Clause}
    (derivesFirst : Derives 0 symbols first)
    (derivesSecond : Derives 0 symbols second) : first = second := by
  have sameRun :=
    (run_eq_some_of_derives derivesFirst).symm.trans
      (run_eq_some_of_derives derivesSecond)
  exact Option.some.inj sameRun

/-- A text is read as one clause at most. -/
theorem Reads.unique
    {conditions : List String} {text : String} {first second : Clause}
    (readsFirst : Reads conditions text first)
    (readsSecond : Reads conditions text second) : first = second := by
  obtain ⟨firstSymbols, isFirst, derivesFirst⟩ := readsFirst
  obtain ⟨secondSymbols, isSecond, derivesSecond⟩ := readsSecond
  rw [isFirst] at isSecond
  cases isSecond
  exact derivesFirst.unique derivesSecond

end FilterQuery.Sql
