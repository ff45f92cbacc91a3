import FilterQuery.Proofs.Expression.Stages
import Mathlib.Algebra.Group.Nat.Defs

/-!
# Where expressions are at fault

What is reported of a text that is no expression is true of it.

* `AreWritten` cuts a text into whole tokens, and `IsViable` says that an accepted expression starts
  with them;
* `isViable_iff_exists_reaches`: these are the starts that the reader comes through;
* `tokenize_locates_fault`: up to the reported position, the text is such a start, and nothing that
  may follow stands there.
-/

namespace FilterQuery.Expression

open FilterQuery.Text

/-! ## Starts of expressions -/

/-- How a token can be written; an index may have leading zeros. -/
inductive Token.IsWritten : Token → List Char → Prop
  | openParen : IsWritten .openParen ['(']
  | closeParen : IsWritten .closeParen [')']
  | index {run : List Char} :
      run ≠ [] → (∀ digit ∈ run, digit.isDigit = true) →
      IsWritten (.index (Digits.value run)) run
  | operator (logical : LogicalOperator) :
      IsWritten (.operator logical) logical.keyword.toList

/-- The text consists of the tokens, and no number in it is cut. -/
inductive AreWritten : List Token → List Char → Prop
  | nil : AreWritten [] []
  | concat {tokens : List Token} {token : Token} {before piece : List Char} :
      AreWritten tokens before → token.IsWritten piece → Digits.Apart before piece →
      AreWritten (tokens ++ [token]) (before ++ piece)

/-- A text of whole tokens that can be completed to an accepted expression. -/
structure IsViable (before : List Char) (tokens : List Token) : Prop where
  areWritten : AreWritten tokens before
  completable :
    ∃ rest more,
      Digits.Apart before rest ∧
        tokenize (String.ofList (before ++ rest)) = .ok (tokens ++ more)

section Viable

variable {before piece rest : List Char} {token : Token} {tokens more : List Token}
  {stage : Stage} {position : Nat}

theorem Stage.Takes.isWritten {next : Stage} (takes : stage.Takes token piece next) :
    token.IsWritten piece := by
  cases takes with
  | openParen => exact .openParen
  | index nonempty isRun _ => exact .index nonempty isRun
  | closeParen _ => exact .closeParen
  | keyword operator => exact .operator operator

theorem Token.IsWritten.ne_nil (written : token.IsWritten piece) : piece ≠ [] := by
  cases written with
  | openParen | closeParen => exact List.cons_ne_nil _ _
  | index nonempty _ => exact nonempty
  | operator logical => cases logical <;> exact List.cons_ne_nil _ _

theorem Reaches.areWritten (reaches : Reaches before tokens stage) :
    AreWritten tokens before := by
  induction reaches with
  | start => exact .nil
  | @next before piece tokens token stage after reaches takes inductionHypothesis =>
      have apart := reaches.apart takes []
      rw [List.append_nil] at apart
      exact .concat inductionHypothesis takes.isWritten apart

theorem take?_eq_none_of_isDigit {first : Char} (isDigit : first.isDigit = true) :
    LogicalOperator.take? (first :: rest) = none := by
  rw [Option.eq_none_iff_forall_ne_some]
  rintro ⟨operator, after⟩ taken
  have whole := LogicalOperator.take?_eq_some_iff.mp taken
  cases operator <;>
    · rw [(List.cons.inj whole).1] at isDigit
      cases isDigit

/-- What is read first was due. -/
theorem Token.IsWritten.exists_takes
    (written : token.IsWritten piece)
    (isRead : stage.read position (piece ++ rest) = .ok (token :: more)) :
    ∃ next, stage.Takes token piece next := by
  obtain ⟨expectation, opened, closed⟩ := stage
  have bounded := indexesBounded_of_tokenizeFrom isRead
  have notStopped :
      ∀ fault, ¬Stage.Stops ⟨expectation, opened, closed⟩ (piece ++ rest) position fault := by
    intro fault stops
    rw [stops.read_eq] at isRead
    cases isRead
  cases expectation with
  | operand =>
      cases written with
      | openParen => exact ⟨_, .openParen⟩
      | index nonempty isRun =>
          exact ⟨_, .index nonempty isRun (bounded _ List.mem_cons_self)⟩
      | closeParen => exact absurd (.noOperand (by decide) rfl) (notStopped _)
      | operator logical =>
          cases logical <;> exact absurd (.noOperand (by decide) rfl) (notStopped _)
  | operator =>
      cases written with
      | closeParen =>
          by_cases isOpen : closed < opened
          · exact ⟨_, .closeParen isOpen⟩
          · exact absurd (.noOperator (fun closing => isOpen closing.2) rfl) (notStopped _)
      | operator logical => exact ⟨_, .keyword logical⟩
      | openParen =>
          exact absurd (.noOperator (fun closing => by cases closing.1) rfl) (notStopped _)
      | index nonempty isRun =>
          obtain ⟨first, others, rfl⟩ := List.exists_cons_of_ne_nil nonempty
          have isDigit := isRun first List.mem_cons_self
          refine absurd (.noOperator ?_ (take?_eq_none_of_isDigit isDigit)) (notStopped _)
          rintro ⟨rfl, _⟩
          cases isDigit

/-- From a stage that was come to, what is read after a completed start is what completes it. -/
theorem Reaches.read_of_tokenize
    {following : List Token}
    (reaches : Reaches before tokens stage) (apart : Digits.Apart before rest)
    (accepted : tokenize (String.ofList (before ++ rest)) = .ok (tokens ++ following)) :
    stage.read before.length rest = .ok following := by
  rw [tokenize, String.toList_ofList] at accepted
  have isRead := (reaches.tokenizeFrom_append apart).symm.trans accepted
  obtain ⟨others, same, isAppended⟩ := Outcome.map_eq_ok_iff.mp isRead
  rw [same, List.append_cancel_left isAppended]

/-- The starts of accepted expressions are what the reader comes through. -/
theorem isViable_iff_exists_reaches :
    IsViable before tokens ↔ ∃ stage, Reaches before tokens stage := by
  constructor
  · rintro ⟨areWritten, rest, more, apart, accepted⟩
    induction areWritten generalizing rest more with
    | nil => exact ⟨_, .start⟩
    | @concat tokens token before piece _ written pieceApart inductionHypothesis =>
        obtain ⟨first, others, rfl⟩ := List.exists_cons_of_ne_nil written.ne_nil
        rw [List.append_assoc, List.append_assoc] at accepted
        have wholeApart : Digits.Apart before (first :: others ++ rest) := pieceApart
        obtain ⟨stage, reaches⟩ := inductionHypothesis _ _ wholeApart accepted
        obtain ⟨next, takes⟩ :=
          written.exists_takes (reaches.read_of_tokenize wholeApart accepted)
        exact ⟨next, reaches.next takes⟩
  · rintro ⟨stage, reaches⟩
    exact ⟨reaches.areWritten, reaches.exists_completion⟩

end Viable

/-! ## Faults -/

/-- The text was read up to the position, which is between two tokens and between two characters. -/
structure IsReadUpTo
    (text : String) (position : Nat) (before after : List Char) (tokens : List Token) : Prop where
  whole : text.toList = before ++ after
  isAscii : IsAscii before
  length_eq : before.length = position
  utf8ByteSize_eq : (String.ofList before).utf8ByteSize = position
  apart : Digits.Apart before after
  isViable : IsViable before tokens

section Faults

variable {text : String} {fault : TokenFault}

/-- A fault is found where a stage stops that the reader has come to. -/
theorem exists_stops_of_tokenize (failed : tokenize text = .error fault) :
    ∃ before after tokens stage position,
      IsReadUpTo text position before after tokens ∧ Reaches before tokens stage ∧
        stage.Stops after position fault := by
  obtain ⟨before, after, tokens, stage, whole, reaches, apart, stops⟩ :=
    Reaches.exists_stops .start rfl nofun failed
  exact
    ⟨before, after, tokens, stage, before.length,
      { whole, apart
        isAscii := reaches.isAscii
        length_eq := rfl
        utf8ByteSize_eq := utf8ByteSize_ofList reaches.isAscii
        isViable := isViable_iff_exists_reaches.mpr ⟨stage, reaches⟩ },
      reaches, stops⟩

/-- A text that was read to its end has the fault with which its stage stops. -/
theorem tokenize_of_stops_nil
    {tokens : List Token} {stage : Stage} (reaches : Reaches text.toList tokens stage)
    (stops : stage.Stops [] text.toList.length fault) : tokenize text = .error fault := by
  have apart : Digits.Apart text.toList [] := Digits.apart_of_head nofun
  have isRead := reaches.tokenizeFrom_append apart
  rw [List.append_nil, stops.read_eq] at isRead
  exact isRead

/-- What reading stops at starts no token that could follow. -/
theorem not_isViable_of_stops
    {before after piece following : List Char} {tokens : List Token} {token : Token}
    {stage : Stage} {found : Char} {position : Nat} (reaches : Reaches before tokens stage)
    (apart : Digits.Apart before (found :: after))
    (stops : stage.Stops (found :: after) position (.unexpected found position))
    (starts : found :: after = piece ++ following) (written : token.IsWritten piece) :
    ¬IsViable (before ++ piece) (tokens ++ [token]) := by
  rintro ⟨_, rest, more, _, accepted⟩
  rw [List.append_assoc, List.append_assoc] at accepted
  have pieceApart : Digits.Apart before (piece ++ rest) := by
    obtain ⟨first, others, rfl⟩ := List.exists_cons_of_ne_nil written.ne_nil
    rwa [starts] at apart
  obtain ⟨next, takes⟩ := written.exists_takes (reaches.read_of_tokenize pieceApart accepted)
  exact stops.not_takes starts takes

/-! ### At the end of the text -/

namespace Reaches

variable {before : List Char} {tokens : List Token} {stage : Stage}

/-- If all parentheses are closed, an operand is only due at the start or after a keyword. -/
theorem eq_nil_or_keyword
    {count : Nat} (reaches : Reaches before tokens ⟨.operand, count, count⟩) :
    before = [] ∨ ∃ operator : LogicalOperator, operator.keyword.toList <:+ before := by
  cases reaches with
  | start => exact .inl rfl
  | next reached takes =>
      cases takes with
      | openParen => exact absurd reached.closed_le_opened (Nat.not_succ_le_self _)
      | keyword operator => exact .inr ⟨operator, List.suffix_append _ _⟩

/-- Where an operator is due, a number or a closing parenthesis has just been read. -/
theorem exists_getLast?_eq
    (reaches : Reaches before tokens stage) (isOperator : stage.expectation = .operator) :
    ∃ last, before.getLast? = some last ∧ (last.isDigit = true ∨ last = ')') := by
  cases reaches with
  | start => cases isOperator
  | next _ takes =>
      cases takes with
      | openParen | keyword => cases isOperator
      | index nonempty isRun _ =>
          refine ⟨_, ?_, .inl (isRun _ (List.getLast_mem nonempty))⟩
          rw [List.getLast?_append_of_ne_nil _ nonempty, List.getLast?_eq_some_getLast nonempty]
      | closeParen => exact ⟨_, List.getLast?_concat, .inr rfl⟩

theorem expectation_eq_operand
    (reaches : Reaches before tokens stage)
    (ends : before = [] ∨ ∃ operator : LogicalOperator, operator.keyword.toList <:+ before) :
    stage.expectation = .operand := by
  cases expected : stage.expectation with
  | operand => rfl
  | operator =>
      obtain ⟨last, isLast, isEnd⟩ := reaches.exists_getLast?_eq expected
      rcases ends with rfl | ⟨operator, front, rfl⟩
      · cases isLast
      · have isLetter :
            ∀ letter ∈ operator.keyword.toList.getLast?, letter.isDigit = false ∧ letter ≠ ')' := by
          cases operator <;>
            · rintro letter ⟨⟩
              decide
        have nonempty : operator.keyword.toList ≠ [] := by cases operator <;> decide
        rw [List.getLast?_append_of_ne_nil _ nonempty] at isLast
        obtain ⟨noDigit, noParen⟩ := isLetter last isLast
        rw [noDigit] at isEnd
        exact absurd isEnd (by simp [noParen])

end Reaches

theorem tokenize_eq_unbalanced_iff {opened closed : Nat} :
    tokenize text = .error (.unbalanced opened closed) ↔
      (∃ tokens, IsViable text.toList tokens) ∧ text.toList.count '(' = opened ∧
        text.toList.count ')' = closed ∧ closed < opened := by
  constructor
  · intro failed
    obtain ⟨before, after, tokens, stage, position, isRead, reaches, stops⟩ :=
      exists_stops_of_tokenize failed
    cases stops with
    | unbalanced different =>
        have whole := isRead.whole
        rw [List.append_nil] at whole
        obtain ⟨openedCount, closedCount⟩ := reaches.count_eq
        rw [whole]
        exact
          ⟨⟨tokens, isRead.isViable⟩, openedCount, closedCount,
            Nat.lt_of_le_of_ne reaches.closed_le_opened (Ne.symm different)⟩
  · rintro ⟨⟨tokens, isViable⟩, openedCount, closedCount, isOpen⟩
    obtain ⟨⟨expectation, stageOpened, stageClosed⟩, reaches⟩ :=
      isViable_iff_exists_reaches.mp isViable
    obtain ⟨sameOpened, sameClosed⟩ := reaches.count_eq
    obtain rfl : stageOpened = opened := sameOpened.symm.trans openedCount
    obtain rfl : stageClosed = closed := sameClosed.symm.trans closedCount
    exact tokenize_of_stops_nil reaches (.unbalanced (Nat.ne_of_gt isOpen))

theorem tokenize_eq_endedUnexpectedly_iff :
    tokenize text = .error .endedUnexpectedly ↔
      (∃ tokens, IsViable text.toList tokens) ∧
        text.toList.count '(' = text.toList.count ')' ∧
        (text = "" ∨ ∃ operator : LogicalOperator, operator.keyword.toList <:+ text.toList) := by
  rw [← String.toList_eq_nil_iff]
  constructor
  · intro failed
    obtain ⟨before, after, tokens, stage, position, isRead, reaches, stops⟩ :=
      exists_stops_of_tokenize failed
    cases stops with
    | noOperandLeft =>
        have whole := isRead.whole
        rw [List.append_nil] at whole
        obtain ⟨openedCount, closedCount⟩ := reaches.count_eq
        rw [whole, openedCount, closedCount]
        exact ⟨⟨tokens, isRead.isViable⟩, rfl, reaches.eq_nil_or_keyword⟩
  · rintro ⟨⟨tokens, isViable⟩, balanced, ends⟩
    obtain ⟨⟨expectation, opened, closed⟩, reaches⟩ := isViable_iff_exists_reaches.mp isViable
    obtain ⟨sameOpened, sameClosed⟩ := reaches.count_eq
    obtain rfl : expectation = .operand := reaches.expectation_eq_operand ends
    obtain rfl : closed = opened := sameClosed.symm.trans (balanced.symm.trans sameOpened)
    exact tokenize_of_stops_nil reaches .noOperandLeft

end Faults

/-- What the faults of a text say about it. -/
structure LocatesFault (text : String) : Prop where
  /-- The text was read up to the character, and no token that could follow starts there. -/
  unexpected :
    ∀ found position,
      tokenize text = .error (.unexpected found position) →
        ∃ before after tokens,
          IsReadUpTo text position before (found :: after) tokens ∧
            ∀ token piece following,
              found :: after = piece ++ following → token.IsWritten piece →
                ¬IsViable (before ++ piece) (tokens ++ [token])
  /-- The text was read up to a number, all of whose digits are told, and which is too large. -/
  outOfRange :
    ∀ digits position,
      tokenize text = .error (.outOfRange digits position) →
        ∃ before after tokens,
          IsReadUpTo text position before (digits.toList ++ after) tokens ∧
            digits.toList ≠ [] ∧ (∀ digit ∈ digits.toList, digit.isDigit = true) ∧
            (∀ next ∈ after.head?, next.isDigit = false) ∧ 2 ^ 64 ≤ Digits.value digits.toList
  /-- The whole text was read, and the parentheses in it are as many as is told. -/
  unbalanced_iff :
    ∀ opened closed,
      tokenize text = .error (.unbalanced opened closed) ↔
        (∃ tokens, IsViable text.toList tokens) ∧ text.toList.count '(' = opened ∧
          text.toList.count ')' = closed ∧ closed < opened
  /-- The whole text was read, and an operand is missing at its end. -/
  endedUnexpectedly_iff :
    tokenize text = .error .endedUnexpectedly ↔
      (∃ tokens, IsViable text.toList tokens) ∧
        text.toList.count '(' = text.toList.count ')' ∧
        (text = "" ∨ ∃ operator : LogicalOperator, operator.keyword.toList <:+ text.toList)

/-- What is reported of a text is where it stops being the start of an accepted expression. -/
theorem tokenize_locates_fault (text : String) : LocatesFault text where
  unexpected := by
    intro found position failed
    obtain ⟨before, rest, tokens, stage, stopped, isRead, reaches, stops⟩ :=
      exists_stops_of_tokenize failed
    obtain ⟨after, rfl, rfl⟩ : ∃ after, rest = found :: after ∧ stopped = position := by
      cases stops with
      | noOperand | noOperator => exact ⟨_, rfl, rfl⟩
    exact
      ⟨before, after, tokens, isRead, fun token piece following =>
        not_isViable_of_stops reaches isRead.apart stops⟩
  outOfRange := by
    intro digits position failed
    obtain ⟨before, rest, tokens, stage, stopped, isRead, reaches, stops⟩ :=
      exists_stops_of_tokenize failed
    cases stops with
    | tooLarge isRest nonempty isRun apart large =>
        rw [String.toList_ofList]
        subst isRest
        exact
          ⟨before, _, tokens, isRead, nonempty, isRun, apart.head_isDigit nonempty isRun, large⟩
  unbalanced_iff := fun _ _ => tokenize_eq_unbalanced_iff
  endedUnexpectedly_iff := tokenize_eq_endedUnexpectedly_iff

end FilterQuery.Expression
