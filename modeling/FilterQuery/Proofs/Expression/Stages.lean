import FilterQuery.Proofs.Expression.Token
import FilterQuery.Proofs.Outcome
import FilterQuery.Proofs.Text.Ascii
import FilterQuery.Proofs.Text.Runs
import Mathlib.Data.Bool.AllAny

/-!
# Stages of reading an expression

Between two tokens, the reader only knows what is due next and how many parentheses have been opened
and closed.

* `Stage.Takes` says which tokens can be read at a stage, and `Reaches` at which stage the reader is
  after some characters;
* `Reaches.tokenizeFrom_append`: from there on, the text is read as from the stage;
* `Stage.Stops` says with which fault reading ends at a stage, and `Reaches.exists_stops` that every
  fault is found at a stage that the reader has come to;
* `Reaches.exists_completion`: every such stage leads to an accepted expression.
-/

namespace FilterQuery.Expression

open FilterQuery.Text

/-- What the reader knows between two tokens. -/
structure Stage where
  expectation : Expectation
  opened : Nat
  closed : Nat

namespace Stage

/-- Before the first token. -/
def start : Stage := ⟨.operand, 0, 0⟩

/-- Read a text from a stage on. -/
def read (stage : Stage) (position : Nat) (characters : List Char) :
    Except TokenFault (List Token) :=
  tokenizeFrom stage.expectation stage.opened stage.closed position characters

/-- A token that is due at a stage, how it is written, and the stage after it. -/
inductive Takes : Stage → Token → List Char → Stage → Prop
  | openParen {opened closed : Nat} :
      Takes ⟨.operand, opened, closed⟩ .openParen ['('] ⟨.operand, opened + 1, closed⟩
  | index {opened closed : Nat} {run : List Char} :
      run ≠ [] → (∀ digit ∈ run, digit.isDigit = true) → Digits.value run < Digits.wordBound →
      Takes ⟨.operand, opened, closed⟩ (.index (Digits.value run)) run
        ⟨.operator, opened, closed⟩
  | closeParen {opened closed : Nat} :
      closed < opened →
      Takes ⟨.operator, opened, closed⟩ .closeParen [')'] ⟨.operator, opened, closed + 1⟩
  | keyword {opened closed : Nat} (operator : LogicalOperator) :
      Takes ⟨.operator, opened, closed⟩ (.operator operator) operator.keyword.toList
        ⟨.operand, opened, closed⟩

/-- The fault with which reading ends at a stage. -/
inductive Stops : Stage → List Char → Nat → TokenFault → Prop
  | noOperand {opened closed position : Nat} {first : Char} {rest : List Char} :
      first ≠ '(' → first.isDigit = false →
      Stops ⟨.operand, opened, closed⟩ (first :: rest) position (.unexpected first position)
  | tooLarge {opened closed position : Nat} {characters run rest : List Char} :
      characters = run ++ rest → run ≠ [] → (∀ digit ∈ run, digit.isDigit = true) →
      Digits.Apart run rest → Digits.wordBound ≤ Digits.value run →
      Stops ⟨.operand, opened, closed⟩ characters position
        (.outOfRange (String.ofList run) position)
  | noOperator {opened closed position : Nat} {first : Char} {rest : List Char} :
      ¬(first = ')' ∧ closed < opened) → LogicalOperator.take? (first :: rest) = none →
      Stops ⟨.operator, opened, closed⟩ (first :: rest) position (.unexpected first position)
  | unbalanced {expectation : Expectation} {opened closed position : Nat} :
      opened ≠ closed →
      Stops ⟨expectation, opened, closed⟩ [] position (.unbalanced opened closed)
  | noOperandLeft {count position : Nat} :
      Stops ⟨.operand, count, count⟩ [] position .endedUnexpectedly

end Stage

/-- The stage that the reader comes to, and the tokens that it has read until then. -/
inductive Reaches : List Char → List Token → Stage → Prop
  | start : Reaches [] [] .start
  | next {before piece : List Char} {tokens : List Token} {token : Token} {stage after : Stage} :
      Reaches before tokens stage → stage.Takes token piece after →
      Reaches (before ++ piece) (tokens ++ [token]) after

/-! ## One token -/

namespace Stage

variable {stage next : Stage} {token : Token} {piece rest : List Char} {position : Nat}

theorem Takes.ne_nil (takes : stage.Takes token piece next) : piece ≠ [] := by
  cases takes with
  | openParen | closeParen => exact List.cons_ne_nil _ _
  | keyword operator => cases operator <;> exact List.cons_ne_nil _ _
  | index nonempty => exact nonempty

/-- What is due is cut off the front of the text. -/
theorem Takes.read_append
    (takes : stage.Takes token piece next) (apart : Digits.Apart piece rest) :
    stage.read position (piece ++ rest) =
      prepend token (next.read (position + piece.length) rest) := by
  cases takes with
  | openParen => exact tokenizeFrom_openParen
  | index nonempty isRun bounded =>
      exact tokenizeFrom_digits nonempty isRun bounded (apart.head_isDigit nonempty isRun)
  | closeParen isOpen => exact tokenizeFrom_closeParen isOpen
  | keyword operator => exact tokenizeFrom_keyword operator

/-- What completes an expression from a stage on. -/
def completion (stage : Stage) : List Char :=
  (if stage.expectation = .operand then ['0'] else []) ++
    List.replicate (stage.opened - stage.closed) ')'

theorem apart_closing (before : List Char) (missing : Nat) :
    Digits.Apart before (List.replicate missing ')') := by
  apply Digits.apart_of_head
  intro next isNext
  rw [List.eq_of_mem_replicate (List.mem_of_mem_head? isNext)]
  rfl

/-- The parentheses that are still open can be closed. -/
theorem exists_read_replicate (missing closed position : Nat) :
    ∃ tokens,
      read ⟨.operator, closed + missing, closed⟩ position (List.replicate missing ')') =
        .ok tokens := by
  induction missing generalizing closed position with
  | zero =>
      refine ⟨[], ?_⟩
      rw [List.replicate_zero, read, tokenizeFrom]
      simp [finish]
  | succ missing inductionHypothesis =>
      obtain ⟨tokens, isRead⟩ := inductionHypothesis (closed + 1) (position + 1)
      have takes :
          Takes ⟨.operator, closed + (missing + 1), closed⟩ .closeParen [')']
            ⟨.operator, closed + (missing + 1), closed + 1⟩ :=
        .closeParen (by omega)
      refine ⟨.closeParen :: tokens, ?_⟩
      rw [List.replicate_succ, ← List.singleton_append,
        takes.read_append (Digits.apart_of_getLast (by rintro last ⟨⟩; rfl))]
      rw [Nat.add_right_comm, Nat.add_assoc] at isRead
      exact prepend_eq_ok_iff.mpr ⟨tokens, isRead, rfl⟩

theorem exists_read_completion (ordered : stage.closed ≤ stage.opened) (position : Nat) :
    ∃ tokens, stage.read position stage.completion = .ok tokens := by
  obtain ⟨expectation, opened, closed⟩ := stage
  obtain ⟨missing, isSum⟩ := Nat.exists_eq_add_of_le ordered
  simp only at isSum
  subst isSum
  cases expectation with
  | operator =>
      simpa [completion] using exists_read_replicate missing closed position
  | operand =>
      obtain ⟨tokens, isRead⟩ := exists_read_replicate missing closed (position + 1)
      have takes :
          Takes ⟨.operand, closed + missing, closed⟩ (.index 0) ['0']
            ⟨.operator, closed + missing, closed⟩ :=
        .index (List.cons_ne_nil '0' []) (List.all_iff_forall_prop.mp (by decide)) (by decide)
      refine ⟨.index 0 :: tokens, ?_⟩
      rw [completion, if_pos rfl, Nat.add_sub_cancel_left, takes.read_append]
      · exact prepend_eq_ok_iff.mpr ⟨tokens, isRead, rfl⟩
      · exact apart_closing _ missing

/-- What a stage stops at is the fault of the text from there on. -/
theorem Stops.read_eq {fault : TokenFault} (stops : stage.Stops rest position fault) :
    stage.read position rest = .error fault := by
  cases stops with
  | noOperand noParen noDigit =>
      rw [read, tokenizeFrom]
      simp [noParen, noDigit]
  | tooLarge isRest nonempty isRun apart large =>
      subst isRest
      have ends := apart.head_isDigit nonempty isRun
      obtain ⟨first, others, rfl⟩ := List.exists_cons_of_ne_nil nonempty
      obtain ⟨isDigit, othersRun⟩ := List.forall_mem_cons.mp isRun
      have isNoParen : first ≠ '(' := by
        rintro rfl
        exact absurd isDigit (by decide)
      have cut := Digits.takeWhile_isDigit_append othersRun ends
      rw [read, List.cons_append, tokenizeFrom]
      simp only [isNoParen, isDigit, cut.1, Nat.not_lt.mpr large, if_true, if_false]
  | noOperator notClosing noKeyword =>
      rw [read, tokenizeFrom]
      simp only [notClosing, if_false]
      split
      · rename_i isKeyword
        rw [noKeyword] at isKeyword
        cases isKeyword
      · rfl
  | unbalanced different =>
      rw [read, tokenizeFrom]
      simp [finish, different]
  | noOperandLeft =>
      rw [read, tokenizeFrom]
      simp [finish]

/-- Where reading stops at a character, no token that is due starts with it. -/
theorem Stops.not_takes
    {found : Char} {after following : List Char}
    (stops : stage.Stops (found :: after) position (.unexpected found position))
    (starts : found :: after = piece ++ following) : ¬stage.Takes token piece next := by
  intro takes
  cases takes with
  | openParen =>
      cases stops with
      | noOperand noParen _ => exact noParen (List.cons.inj starts).1
  | index nonempty isRun _ =>
      obtain ⟨first, others, rfl⟩ := List.exists_cons_of_ne_nil nonempty
      cases stops with
      | noOperand _ noDigit =>
          rw [(List.cons.inj starts).1, isRun first List.mem_cons_self] at noDigit
          cases noDigit
  | closeParen isOpen =>
      cases stops with
      | noOperator notClosing _ => exact notClosing ⟨(List.cons.inj starts).1, isOpen⟩
  | keyword operator =>
      cases stops with
      | noOperator _ noKeyword =>
          rw [LogicalOperator.take?_eq_some_iff.mpr starts] at noKeyword
          cases noKeyword

end Stage

/-! ## Many tokens -/

namespace Reaches

variable {before rest : List Char} {tokens : List Token} {stage : Stage}

theorem closed_le_opened (reaches : Reaches before tokens stage) :
    stage.closed ≤ stage.opened := by
  induction reaches with
  | start => exact Nat.le_refl 0
  | next _ takes inductionHypothesis =>
      cases takes with
      | openParen => exact Nat.le_succ_of_le inductionHypothesis
      | index | keyword => exact inductionHypothesis
      | closeParen isOpen => exact isOpen

/-- The stage counts the parentheses in what was read. -/
theorem count_eq (reaches : Reaches before tokens stage) :
    before.count '(' = stage.opened ∧ before.count ')' = stage.closed := by
  induction reaches with
  | start => exact ⟨rfl, rfl⟩
  | @next before piece _ _ _ _ _ takes inductionHypothesis =>
      obtain ⟨opened, closed⟩ := inductionHypothesis
      rw [List.count_append, List.count_append, opened, closed]
      cases takes with
      | openParen | closeParen => exact ⟨rfl, rfl⟩
      | keyword operator => cases operator <;> exact ⟨rfl, rfl⟩
      | index _ isRun _ =>
          have noParen : ∀ paren : Char, paren.isDigit = false → paren ∉ piece := by
            intro paren noDigit member
            rw [isRun paren member] at noDigit
            cases noDigit
          rw [List.count_eq_zero_of_not_mem (noParen '(' rfl),
            List.count_eq_zero_of_not_mem (noParen ')' rfl)]
          exact ⟨rfl, rfl⟩

theorem isAscii (reaches : Reaches before tokens stage) : IsAscii before := by
  induction reaches with
  | start => exact nofun
  | next _ takes inductionHypothesis =>
      refine List.forall_mem_append.mpr ⟨inductionHypothesis, ?_⟩
      cases takes with
      | openParen | closeParen => exact List.all_iff_forall_prop.mp (by decide)
      | keyword operator => exact List.all_iff_forall_prop.mp (by cases operator <;> decide)
      | index _ isRun _ => exact fun digit member => lt_of_isDigit (isRun digit member)

/-- Where an operand is due, no number has just been read. -/
theorem getLast_isDigit
    (reaches : Reaches before tokens stage) (isOperand : stage.expectation = .operand) :
    ∀ last ∈ before.getLast?, last.isDigit = false := by
  cases reaches with
  | start => exact nofun
  | next _ takes =>
      cases takes with
      | openParen =>
          rw [List.getLast?_concat]
          rintro last ⟨⟩
          rfl
      | keyword operator =>
          cases operator <;>
            · rw [List.getLast?_append]
              rintro last ⟨⟩
              rfl
      | index | closeParen => cases isOperand

/-- A token is not read as the rest of the one before it. -/
theorem apart
    {piece : List Char} {token : Token} {after : Stage}
    (reaches : Reaches before tokens stage) (takes : stage.Takes token piece after)
    (rest : List Char) : Digits.Apart before (piece ++ rest) := by
  cases takes with
  | openParen | closeParen =>
      apply Digits.apart_of_head
      rintro next ⟨⟩
      rfl
  | keyword operator =>
      apply Digits.apart_of_head
      cases operator <;>
        · rintro next ⟨⟩
          rfl
  | index => exact Digits.apart_of_getLast (reaches.getLast_isDigit rfl)

/-- After a token, the text is read as from the stage that was come to. -/
theorem tokenizeFrom_append
    (reaches : Reaches before tokens stage) (apart : Digits.Apart before rest) :
    Stage.start.read 0 (before ++ rest) =
      (stage.read before.length rest).map (tokens ++ ·) := by
  induction reaches generalizing rest with
  | start =>
      simp only [List.nil_append, List.length_nil]
      cases Stage.start.read 0 rest <;> rfl
  | @next before piece tokens token stage after reaches takes inductionHypothesis =>
      have pieceApart := (Digits.apart_append_iff takes.ne_nil).mp apart
      rw [List.append_assoc, inductionHypothesis (reaches.apart takes rest),
        takes.read_append pieceApart, List.length_append, prepend]
      cases after.read (before.length + piece.length) rest with
      | error fault => rfl
      | ok following => simp [Except.map]

/-- From every stage that the reader comes to, the text can be completed. -/
theorem exists_completion (reaches : Reaches before tokens stage) :
    ∃ rest more,
      Digits.Apart before rest ∧
        tokenize (String.ofList (before ++ rest)) = .ok (tokens ++ more) := by
  obtain ⟨more, isRead⟩ :=
    Stage.exists_read_completion reaches.closed_le_opened before.length
  have apart : Digits.Apart before stage.completion := by
    unfold Stage.completion
    split
    · rename_i isOperand
      exact Digits.apart_of_getLast (reaches.getLast_isDigit isOperand)
    · exact Stage.apart_closing before _
  refine ⟨stage.completion, more, apart, ?_⟩
  rw [tokenize, String.toList_ofList]
  exact (reaches.tokenizeFrom_append apart).trans (by rw [isRead]; rfl)

/-- What is left of the text is read on from where a token was taken. -/
theorem exists_stops
    {expectation : Expectation} {opened closed position : Nat} {characters : List Char}
    {fault : TokenFault} (reaches : Reaches before tokens ⟨expectation, opened, closed⟩)
    (atPosition : before.length = position) (apart : Digits.Apart before characters)
    (failed : tokenizeFrom expectation opened closed position characters = .error fault) :
    ∃ done after doneTokens stage,
      before ++ characters = done ++ after ∧ Reaches done doneTokens stage ∧
        Digits.Apart done after ∧ stage.Stops after done.length fault := by
  fun_induction tokenizeFrom expectation opened closed position characters
    generalizing before tokens with
  | case1 expectation opened closed position =>
      refine ⟨before, [], tokens, _, rfl, reaches, apart, ?_⟩
      unfold finish at failed
      split at failed
      · rename_i different
        cases failed
        exact .unbalanced different
      · rename_i balanced
        obtain rfl := Decidable.not_not.mp balanced
        split at failed
        · rename_i isOperand
          subst isOperand
          cases failed
          exact .noOperandLeft
        · cases failed
  | case2 opened closed position rest inductionHypothesis =>
      have further :=
        inductionHypothesis (reaches.next .openParen) (by simp [atPosition])
          (Digits.apart_of_getLast (by rw [List.getLast?_concat]; rintro last ⟨⟩; rfl))
          (Outcome.map_eq_error_iff.mp failed)
      rwa [List.append_assoc] at further
  | case3 opened closed position first rest noParen isDigit digits bounded =>
      rename_i inductionHypothesis
      obtain ⟨whole, isRun, ends⟩ := Digits.exists_longest_run rest isDigit
      have further :=
        inductionHypothesis (reaches.next (.index (List.cons_ne_nil _ _) isRun bounded))
          (by rw [List.length_append, atPosition]) (Digits.apart_of_head ends)
          (Outcome.map_eq_error_iff.mp failed)
      rwa [List.append_assoc, ← whole] at further
  | case4 opened closed position first rest noParen isDigit digits =>
      rename_i notBounded
      obtain ⟨whole, isRun, ends⟩ := Digits.exists_longest_run rest isDigit
      refine ⟨before, _, tokens, _, rfl, reaches, apart, ?_⟩
      cases failed
      rw [atPosition]
      exact
        .tooLarge whole (List.cons_ne_nil _ _) isRun (Digits.apart_of_head ends)
          (Nat.not_lt.mp notBounded)
  | case5 opened closed position first rest noParen notDigit =>
      refine ⟨before, _, tokens, _, rfl, reaches, apart, ?_⟩
      cases failed
      rw [atPosition]
      exact .noOperand noParen (by simpa using notDigit)
  | case6 opened closed position first rest isClosing inductionHypothesis =>
      obtain ⟨rfl, isOpen⟩ := isClosing
      have further :=
        inductionHypothesis (reaches.next (.closeParen isOpen)) (by simp [atPosition])
          (Digits.apart_of_getLast (by rw [List.getLast?_concat]; rintro last ⟨⟩; rfl))
          (Outcome.map_eq_error_iff.mp failed)
      rwa [List.append_assoc] at further
  | case7 opened closed position first rest notClosing logical after taken inductionHypothesis =>
      rw [LogicalOperator.take?_eq_some_iff.mp taken]
      have reachesNext := reaches.next (.keyword logical)
      have further :=
        inductionHypothesis reachesNext
          (by rw [List.length_append, atPosition, String.length_toList])
          (Digits.apart_of_getLast (reachesNext.getLast_isDigit rfl))
          (Outcome.map_eq_error_iff.mp failed)
      rwa [List.append_assoc] at further
  | case8 opened closed position first rest notClosing noKeyword =>
      refine ⟨before, _, tokens, _, rfl, reaches, apart, ?_⟩
      cases failed
      rw [atPosition]
      exact .noOperator notClosing noKeyword

end Reaches

end FilterQuery.Expression
