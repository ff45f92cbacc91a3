import FilterQuery.Proofs.Sql.Cutting
import FilterQuery.Proofs.Sql.Grammar
import FilterQuery.Proofs.Sql.Truth

/-!
# Combinations of conditions

A clause, and a list of conditions that must all hold, are written out as texts
that are read as they are meant.

* `Clause.symbols` and `conjunctionSymbols` are the symbols of the texts;
* their texts are pieces, they are cut into these symbols, and the symbols are put
  together to the clause again.
-/

namespace FilterQuery.Sql

/-- A derivation with a tighter bound serves for looser ones. -/
theorem Derives.weaken
    {bound weaker : Nat} {symbols : List Symbol} {clause : Clause}
    (derives : Derives bound symbols clause) (le : weaker ≤ bound) :
    Derives weaker symbols clause := by
  induction le with
  | refl => exact derives
  | step _ inductionHypothesis => exact inductionHypothesis derives.tighter

variable {entries : List (Nat × String)}

namespace Clause

/-- The conditions that a clause is made of. -/
def conditions : Clause → List String
  | .condition text => [text]
  | .negation operand => operand.conditions
  | .operation _ left right => left.conditions ++ right.conditions
  | .xorCall left right => left.conditions ++ right.conditions

/-- Put symbols into parentheses where an operation is an operand. -/
def operandSymbols (clause : Clause) (symbols : List Symbol) : List Symbol :=
  match clause with
  | .operation .. => .opening :: (symbols ++ [.closing])
  | _ => symbols

/-- The symbols of a clause. -/
def symbols : Clause → List Symbol
  | .condition text => [.condition text]
  | .negation operand => .not :: .opening :: (operand.symbols ++ [.closing])
  | .operation operator left right =>
      left.operandSymbols left.symbols ++
        .operator operator :: right.operandSymbols right.symbols
  | .xorCall left right =>
      .xorOpening ::
        (left.operandSymbols left.symbols ++
          .comma :: (right.operandSymbols right.symbols ++ [.closing]))

/-- The clause is made of conditions of the family. -/
def IsOver (clause : Clause) (entries : List (Nat × String)) : Prop :=
  ∀ text ∈ clause.conditions, text ∈ textsOf entries

/-- The operands of an operation are made of conditions of the family, too. -/
theorem isOver_operands
    {left right : Clause}
    (isOver :
      ∀ text ∈ left.conditions ++ right.conditions, text ∈ textsOf entries) :
    left.IsOver entries ∧ right.IsOver entries :=
  List.forall_mem_append.mp isOver

/-! ## Texts -/

/-- The text of a clause as an operand. -/
def operand (clause : Clause) : String := clause.operandText clause.text

theorem toList_text_negation (inner : Clause) :
    (negation inner).text.toList =
      "NOT ".toList ++ '(' :: (inner.text.toList ++ [')']) := by
  simp [text]

theorem toList_text_operation
    (operator : LogicalOperator) (left right : Clause) :
    (operation operator left right).text.toList =
      left.operand.toList ++
        ((" " ++ operator.sqlKeyword ++ " ").toList ++ right.operand.toList) := by
  simp [text, operand]

theorem toList_text_xorCall (left right : Clause) :
    (xorCall left right).text.toList =
      "XOR(".toList ++
        (left.operand.toList ++
          (", ".toList ++ (right.operand.toList ++ [')']))) := by
  simp [text, operand]

theorem toList_operand_operation
    (operator : LogicalOperator) (left right : Clause) :
    (operation operator left right).operand.toList =
      '(' :: ((operation operator left right).text.toList ++ [')']) := by
  simp [operand, operandText]

theorem length_text_le (clause : Clause) :
    clause.text.toList.length ≤ clause.operand.toList.length := by
  cases clause with
  | operation operator left right =>
      rw [toList_operand_operation]
      simp only [List.length_cons, List.length_append]
      omega
  | condition text => exact Nat.le_refl _
  | negation inner => exact Nat.le_refl _
  | xorCall left right => exact Nat.le_refl _

theorem count_text_le (clause : Clause) :
    clause.text.toList.count ' ' ≤ clause.operand.toList.count ' ' := by
  cases clause with
  | operation operator left right =>
      rw [toList_operand_operation, List.count_cons, List.count_append]
      omega
  | condition text => exact Nat.le_refl _
  | negation inner => exact Nat.le_refl _
  | xorCall left right => exact Nat.le_refl _

theorem isPiece_operand
    {allowed : String → Prop} {clause : Clause}
    (piece : IsPiece allowed clause.text.toList) :
    IsPiece allowed clause.operand.toList := by
  cases clause with
  | operation operator left right =>
      rw [toList_operand_operation]
      exact piece.enclosed
  | condition text => exact piece
  | negation inner => exact piece
  | xorCall left right => exact piece

/-- The text of a clause is a piece, and has the names of its conditions. -/
theorem isPiece_text
    (family : IsFamily entries) {clause : Clause} (isOver : clause.IsOver entries)
    {most : Nat} (le : clause.text.toList.length ≤ most) :
    IsPiece (IsNameWithin entries most) clause.text.toList := by
  induction clause with
  | condition text =>
      obtain ⟨entry, member, rfl⟩ :=
        List.mem_map.mp (isOver text (List.mem_singleton.mpr rfl))
      exact family.isPiece_within member le
  | negation inner inductionHypothesis =>
      rw [toList_text_negation] at le ⊢
      simp only [List.length_cons, List.length_append] at le
      have innerPiece := inductionHypothesis isOver (by omega)
      have word : isFixed "NOT".toList = true := by decide
      have separates : isSeparator " ".toList = true := by decide
      exact
        IsPiece.append (isPiece_of_isFixed word) innerPiece.enclosed separates
  | operation operator left right leftHypothesis rightHypothesis =>
      have leftLe := length_text_le left
      have rightLe := length_text_le right
      rw [toList_text_operation] at le ⊢
      simp only [List.length_append] at le
      obtain ⟨leftIsOver, rightIsOver⟩ := isOver_operands isOver
      have leftPiece := leftHypothesis leftIsOver (by omega)
      have rightPiece := rightHypothesis rightIsOver (by omega)
      exact
        IsPiece.append (isPiece_operand leftPiece) (isPiece_operand rightPiece)
          (isSeparator_operator operator)
  | xorCall left right leftHypothesis rightHypothesis =>
      have leftLe := length_text_le left
      have rightLe := length_text_le right
      rw [toList_text_xorCall] at le ⊢
      simp only [List.length_append] at le
      obtain ⟨leftIsOver, rightIsOver⟩ := isOver_operands isOver
      have leftPiece := leftHypothesis leftIsOver (by omega)
      have rightPiece := rightHypothesis rightIsOver (by omega)
      have separates : isSeparator ", ".toList = true := by decide
      have arguments :=
        IsPiece.append (isPiece_operand leftPiece) (isPiece_operand rightPiece)
          separates
      have word : isFixed "XOR".toList = true := by decide
      have call := IsPiece.call (isPiece_of_isFixed word) arguments
      simpa using call

theorem blanks_le_count
    (family : IsFamily entries) {clause : Clause}
    (isOver : clause.IsOver entries) : 2 ≤ clause.text.toList.count ' ' := by
  induction clause with
  | condition text =>
      obtain ⟨entry, member, rfl⟩ :=
        List.mem_map.mp (isOver text (List.mem_singleton.mpr rfl))
      exact family.blanks_le_count member
  | negation inner inductionHypothesis =>
      have inside := inductionHypothesis isOver
      rw [toList_text_negation, List.count_append, List.count_cons,
        List.count_append]
      omega
  | operation operator left right leftHypothesis _ =>
      have inLeft := leftHypothesis (isOver_operands isOver).1
      have leftLe := count_text_le left
      rw [toList_text_operation, List.count_append]
      omega
  | xorCall left right leftHypothesis _ =>
      have inLeft := leftHypothesis (isOver_operands isOver).1
      have leftLe := count_text_le left
      rw [toList_text_xorCall, List.count_append, List.count_append]
      omega

/-- Two operands have four blanks together. -/
theorem operands_blanks_le
    (family : IsFamily entries) {left right : Clause}
    (leftIsOver : left.IsOver entries) (rightIsOver : right.IsOver entries) :
    4 ≤ left.operand.toList.count ' ' + right.operand.toList.count ' ' := by
  have inLeft := blanks_le_count family leftIsOver
  have inRight := blanks_le_count family rightIsOver
  have leftLe := count_text_le left
  have rightLe := count_text_le right
  omega

theorem operation_blanks_le
    (family : IsFamily entries) {operator : LogicalOperator} {left right : Clause}
    (leftIsOver : left.IsOver entries) (rightIsOver : right.IsOver entries) :
    4 ≤ (operation operator left right).text.toList.count ' ' := by
  have inOperands := operands_blanks_le family leftIsOver rightIsOver
  rw [toList_text_operation, List.count_append, List.count_append]
  omega

theorem xorCall_blanks_le
    (family : IsFamily entries) {left right : Clause}
    (leftIsOver : left.IsOver entries) (rightIsOver : right.IsOver entries) :
    4 ≤ (xorCall left right).text.toList.count ' ' := by
  have inOperands := operands_blanks_le family leftIsOver rightIsOver
  rw [toList_text_xorCall, List.count_append, List.count_append,
    List.count_append, List.count_append]
  omega

/-! ## Symbols -/

theorem cuts_operand
    (family : IsFamily entries) {clause : Clause} (isOver : clause.IsOver entries)
    (cuts : Cuts (textsOf entries) clause.text.toList clause.symbols) :
    Cuts (textsOf entries) clause.operand.toList
      (clause.operandSymbols clause.symbols) := by
  cases clause with
  | operation operator left right =>
      obtain ⟨leftIsOver, rightIsOver⟩ := isOver_operands isOver
      rw [toList_operand_operation]
      exact
        cuts_enclosed family (isPiece_text family isOver (Nat.le_refl _))
          (operation_blanks_le family leftIsOver rightIsOver) cuts
  | condition text => exact cuts
  | negation inner => exact cuts
  | xorCall left right => exact cuts

/-- The text of a clause is cut into its symbols. -/
theorem cuts_text
    (family : IsFamily entries) {clause : Clause}
    (isOver : clause.IsOver entries) :
    Cuts (textsOf entries) clause.text.toList clause.symbols := by
  induction clause with
  | condition text =>
      obtain ⟨entry, member, rfl⟩ :=
        List.mem_map.mp (isOver text (List.mem_singleton.mpr rfl))
      exact cuts_condition family member
  | negation inner inductionHypothesis =>
      rw [toList_text_negation]
      exact cuts_negation family (inductionHypothesis isOver)
  | operation operator left right leftHypothesis rightHypothesis =>
      obtain ⟨leftIsOver, rightIsOver⟩ := isOver_operands isOver
      rw [toList_text_operation]
      exact
        cuts_operation operator
          (cuts_operand family leftIsOver (leftHypothesis leftIsOver))
          (cuts_operand family rightIsOver (rightHypothesis rightIsOver))
  | xorCall left right leftHypothesis rightHypothesis =>
      obtain ⟨leftIsOver, rightIsOver⟩ := isOver_operands isOver
      rw [toList_text_xorCall]
      exact
        cuts_xorCall family
          (cuts_operand family leftIsOver (leftHypothesis leftIsOver))
          (cuts_operand family rightIsOver (rightHypothesis rightIsOver))

/-- The symbols of a clause are put together to it, and as an operand they bind
tighter than any operator. -/
theorem derives_symbols (clause : Clause) :
    Derives 0 clause.symbols clause ∧
      Derives 3 (clause.operandSymbols clause.symbols) clause := by
  induction clause with
  | condition text =>
      exact ⟨(Derives.condition text).weaken (by decide), .condition text⟩
  | negation inner inductionHypothesis =>
      have whole := Derives.negation (Derives.parentheses inductionHypothesis.1)
      exact ⟨whole.weaken (by decide), whole⟩
  | operation operator left right leftHypothesis rightHypothesis =>
      have tight := strength_lt operator
      have whole :
          Derives (strength operator) (operation operator left right).symbols
            (operation operator left right) :=
        Derives.operation (leftHypothesis.2.weaken (Nat.le_of_lt tight))
          (rightHypothesis.2.weaken tight)
      have loose := whole.weaken (Nat.zero_le _)
      exact ⟨loose, .parentheses loose⟩
  | xorCall left right leftHypothesis rightHypothesis =>
      have whole :=
        Derives.xorCall (leftHypothesis.2.weaken (by decide))
          (rightHypothesis.2.weaken (by decide))
      exact ⟨whole.weaken (by decide), whole⟩

end Clause

/-! ## All of several conditions -/

/-- The symbols of several conditions that must all hold. -/
def conjunctionSymbols : List String → List Symbol
  | [] => []
  | [text] => [.condition text]
  | text :: rest =>
      .condition text :: .operator .and :: conjunctionSymbols rest

/-- The clause that several conditions have to hold besides another one. -/
def conjunction (left : Clause) (rest : List String) : Clause :=
  rest.foldl (fun clause text => .operation .and clause (.condition text)) left

theorem conjunctionSymbols_cons
    {text : String} {rest : List String} (nonempty : rest ≠ []) :
    conjunctionSymbols (text :: rest) =
      [.condition text] ++ .operator .and :: conjunctionSymbols rest := by
  cases rest with
  | nil => exact absurd rfl nonempty
  | cons second others => rfl

theorem derives_conjunction
    {symbols : List Symbol} {left : Clause} {rest : List String}
    (derives : Derives 2 symbols left) (nonempty : rest ≠ []) :
    Derives 2 (symbols ++ .operator .and :: conjunctionSymbols rest)
      (conjunction left rest) := by
  induction rest generalizing symbols left with
  | nil => exact absurd rfl nonempty
  | cons text others inductionHypothesis =>
      have leftDerives : Derives (strength .and) symbols left := derives
      have withFirst :
          Derives 2 (symbols ++ .operator .and :: [.condition text])
            (.operation .and left (.condition text)) :=
        Derives.operation leftDerives (.condition text)
      by_cases isLast : others = []
      · rw [isLast]
        exact withFirst
      · have whole := inductionHypothesis withFirst isLast
        have step :
            conjunction left (text :: others) =
              conjunction (.operation .and left (.condition text)) others := rfl
        rw [conjunctionSymbols_cons isLast, step]
        simpa using whole

theorem value_conjunction
    {conditions : String → Truth} {left : Clause} {rest : List String} :
    (conjunction left rest).value conditions =
      (left.value conditions).and (Truth.all (rest.map conditions)) := by
  induction rest generalizing left with
  | nil => exact (Truth.and_yes _).symm
  | cons text others inductionHypothesis =>
      have step :
          conjunction left (text :: others) =
            conjunction (.operation .and left (.condition text)) others := rfl
      rw [step, inductionHypothesis]
      exact Truth.and_assoc _ _ _

/-- Conditions that must all hold are cut into their symbols. -/
theorem cuts_conjunction
    (family : IsFamily entries) {texts : List String} (nonempty : texts ≠ [])
    (isOver : ∀ text ∈ texts, text ∈ textsOf entries) :
    Cuts (textsOf entries) (" AND ".intercalate texts).toList
      (conjunctionSymbols texts) := by
  induction texts with
  | nil => exact absurd rfl nonempty
  | cons text rest inductionHypothesis =>
      obtain ⟨textIsOver, restIsOver⟩ := List.forall_mem_cons.mp isOver
      obtain ⟨entry, member, rfl⟩ := List.mem_map.mp textIsOver
      by_cases isLast : rest = []
      · rw [isLast, String.intercalate_singleton]
        exact cuts_condition family member
      · rw [String.intercalate_cons_of_ne_nil isLast, String.toList_append,
          String.toList_append, List.append_assoc,
          conjunctionSymbols_cons isLast]
        exact
          cuts_operation .and (cuts_condition family member)
            (inductionHypothesis isLast restIsOver)

end FilterQuery.Sql
