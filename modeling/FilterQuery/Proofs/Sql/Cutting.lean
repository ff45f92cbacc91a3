import FilterQuery.Proofs.Query.Parsing
import FilterQuery.Proofs.Sql.Conditions
import FilterQuery.Proofs.Sql.Reading

/-!
# Where clauses are cut at the right places

`IsFamily` describes the conditions of one query.  `Cuts` says that a text is cut
into certain symbols wherever it stands as an operand, and each way to combine
texts has a lemma for it.

A condition is never cut in two, since none goes on after another one.  A
parenthesis around a combination is never taken for the start of a condition,
since no condition is made of others (`IsFamily.ne_enclosed`).
-/

namespace FilterQuery.Sql

/-- The conditions of a query, under the indexes of their filters. -/
structure IsFamily (entries : List (Nat × String)) : Prop where
  conditions :
    ∀ entry ∈ entries,
      ∃ condition, IsCondition entry.1 condition ∧ entry.2 = condition.text
  ascending : (entries.map Prod.fst).Pairwise (· < ·)

/-- The name stands in a condition of at most the given length. -/
def IsNameWithin
    (entries : List (Nat × String)) (most : Nat) (name : String) : Prop :=
  ∃ entry ∈ entries,
    entry.2.toList.length ≤ most ∧ name ∈ placeholders entry.2.toList

variable {entries : List (Nat × String)}

/-- The texts of the conditions. -/
def textsOf (entries : List (Nat × String)) : List String :=
  entries.map Prod.snd

namespace IsFamily

/-- Conditions of different texts have different indexes. -/
theorem text_eq_of_index_eq
    (family : IsFamily entries) {first second : Nat × String}
    (isFirst : first ∈ entries) (isSecond : second ∈ entries)
    (same : first.1 = second.1) : first.2 = second.2 := by
  have firstFound := Slots.lookup_of_mem family.ascending isFirst
  have secondFound := Slots.lookup_of_mem family.ascending isSecond
  rw [same, secondFound] at firstFound
  exact (Option.some.inj firstFound).symm

theorem isPiece
    (family : IsFamily entries) {entry : Nat × String} (member : entry ∈ entries) :
    IsPiece (IsNameOf entry.1) entry.2.toList := by
  obtain ⟨condition, isCondition, isText⟩ := family.conditions entry member
  rw [isText]
  exact isCondition.isPiece_text

theorem isPiece_within
    (family : IsFamily entries) {entry : Nat × String} (member : entry ∈ entries)
    {most : Nat} (le : entry.2.toList.length ≤ most) :
    IsPiece (IsNameWithin entries most) entry.2.toList where
  balanced := (family.isPiece member).balanced
  solid := (family.isPiece member).solid
  names := fun _ isName => ⟨entry, member, le, isName⟩

theorem blanks_le_count
    (family : IsFamily entries) {entry : Nat × String} (member : entry ∈ entries) :
    2 ≤ entry.2.toList.count ' ' := by
  obtain ⟨condition, isCondition, isText⟩ := family.conditions entry member
  rw [isText]
  exact isCondition.blanks_le_count

/-- No condition goes on where another one ends. -/
theorem ne_append
    (family : IsFamily entries) {first second : Nat × String}
    (isFirst : first ∈ entries) (isSecond : second ∈ entries)
    {next : Char} (endsName : isNameCharacter next = false) (rest : List Char) :
    second.2.toList ≠ first.2.toList ++ next :: rest := by
  intro same
  by_cases sameIndex : first.1 = second.1
  · rw [family.text_eq_of_index_eq isFirst isSecond sameIndex] at same
    have lengths := congrArg List.length same
    rw [List.length_append, List.length_cons] at lengths
    omega
  · obtain ⟨firstCondition, isFirstCondition, firstText⟩ :=
      family.conditions first isFirst
    obtain ⟨secondCondition, isSecondCondition, secondText⟩ :=
      family.conditions second isSecond
    rw [firstText, secondText] at same
    exact
      isFirstCondition.text_ne_append isSecondCondition sameIndex endsName rest
        same

/-- No condition is a combination of others in parentheses.  It would only have
the names of its own filter, so no condition in it could have any; but without
names it has too few blanks. -/
theorem ne_enclosed
    (family : IsFamily entries) {inner : List Char}
    (piece : IsPiece (IsNameWithin entries inner.length) inner)
    (blanks : 4 ≤ inner.count ' ')
    {entry : Nat × String} (member : entry ∈ entries) :
    entry.2.toList ≠ '(' :: (inner ++ [')']) := by
  intro same
  obtain ⟨condition, isCondition, isText⟩ := family.conditions entry member
  have nameless : placeholders entry.2.toList = [] := by
    rw [List.eq_nil_iff_forall_not_mem]
    intro name isName
    have isOwn : IsNameOf entry.1 name := (family.isPiece member).names name isName
    rw [same, placeholders_enclosed] at isName
    obtain ⟨found, isFound, shorter, foundName⟩ := piece.names name isName
    have isFoundName : IsNameOf found.1 name :=
      (family.isPiece isFound).names name foundName
    have sameText :=
      family.text_eq_of_index_eq isFound member (isFoundName.index_eq isOwn)
    rw [sameText, same] at shorter
    simp only [List.length_cons, List.length_append] at shorter
    omega
  rw [isText] at same nameless
  obtain ⟨conditionInner, isEnclosed⟩ :=
    isCondition.isEnclosed_of_openParen same
  have few := isEnclosed.blanks nameless
  rw [same, List.count_cons, List.count_append] at few
  omega

end IsFamily

/-! ## The condition at a place -/

theorem longest?_eq_some
    {conditions : List String} {condition : String} {characters : List Char}
    (member : condition ∈ conditions) (nonempty : condition ≠ "")
    (starts : condition.toList <+: characters)
    (longest :
      ∀ other ∈ conditions, other.toList <+: characters →
        other.length ≤ condition.length) :
    longest? conditions characters = some condition := by
  have isCandidate :
      condition ∈
        conditions.filter fun condition =>
          condition ≠ "" ∧ condition.toList <+: characters := by
    simp only [List.mem_filter, decide_eq_true_eq]
    exact ⟨member, nonempty, starts⟩
  cases found : longest? conditions characters with
  | none =>
      have isEmpty := List.argmax_eq_none.mp found
      rw [isEmpty] at isCandidate
      cases isCandidate
  | some other =>
      have isOther := List.argmax_mem found
      simp only [List.mem_filter, decide_eq_true_eq] at isOther
      obtain ⟨isMember, _, otherStarts⟩ := isOther
      have notLonger := longest other isMember otherStarts
      have notShorter := List.le_of_mem_argmax isCandidate found
      have sameLength : other.toList.length = condition.toList.length := by
        rw [String.length_toList, String.length_toList]
        omega
      have sameText : other.toList = condition.toList :=
        (List.prefix_of_prefix_length_le otherStarts starts
          (Nat.le_of_eq sameLength)).eq_of_length sameLength
      rw [String.toList_inj.mp sameText]

theorem longest?_eq_none
    {conditions : List String} {characters : List Char}
    (none : ∀ other ∈ conditions, ¬other.toList <+: characters) :
    longest? conditions characters = Option.none := by
  unfold longest?
  rw [List.argmax_eq_none, List.filter_eq_nil_iff]
  intro other member passes
  simp only [decide_eq_true_eq] at passes
  exact none other member passes.2

section Steps

variable {conditions : List String} {due next : Due} {symbol : Symbol}
  {characters rest : List Char}

/-- A symbol is cut off. -/
theorem symbolsFrom?_of_symbol?
    (found : symbol? conditions due characters = some (symbol, next, rest)) :
    symbolsFrom? conditions due characters =
      (symbolsFrom? conditions next rest).map (symbol :: ·) := by
  have notAtEnd : ¬(due = .operator ∧ characters = []) := by
    rintro ⟨rfl, rfl⟩
    cases found
  rw [symbolsFrom?, if_neg notAtEnd]
  split
  · rename_i noSymbol
    rw [found] at noSymbol
    cases noSymbol
  · rename_i isSymbol
    rw [found] at isSymbol
    cases isSymbol
    rfl

theorem symbolsFrom?_nil : symbolsFrom? conditions .operator [] = some [] := by
  rw [symbolsFrom?, if_pos ⟨rfl, rfl⟩]

theorem symbolsFrom?_closing :
    symbolsFrom? conditions .operator (')' :: rest) =
      (symbolsFrom? conditions .operator rest).map (.closing :: ·) :=
  symbolsFrom?_of_symbol? rfl

theorem symbolsFrom?_comma :
    symbolsFrom? conditions .operator (',' :: ' ' :: rest) =
      (symbolsFrom? conditions .operand rest).map (.comma :: ·) :=
  symbolsFrom?_of_symbol? rfl

theorem symbolsFrom?_operator (operator : LogicalOperator) :
    symbolsFrom? conditions .operator
        ((" " ++ operator.sqlKeyword ++ " ").toList ++ rest) =
      (symbolsFrom? conditions .operand rest).map (.operator operator :: ·) := by
  cases operator <;> exact symbolsFrom?_of_symbol? rfl

/-- Where no condition stands, a parenthesis or a fixed word is cut off. -/
theorem symbolsFrom?_of_fixedSymbol?
    (none : ∀ other ∈ conditions, ¬other.toList <+: characters)
    (found : fixedSymbol? characters = some (symbol, next, rest)) :
    symbolsFrom? conditions .operand characters =
      (symbolsFrom? conditions next rest).map (symbol :: ·) := by
  apply symbolsFrom?_of_symbol?
  rw [symbol?, operandSymbol?, longest?_eq_none none]
  exact found

theorem symbolsFrom?_denied :
    symbolsFrom? conditions .denied ('(' :: rest) =
      (symbolsFrom? conditions .operand rest).map (.opening :: ·) :=
  symbolsFrom?_of_symbol? rfl

end Steps

/-! ## Texts that stand as operands -/

/-- Wherever the text is due as an operand, it is cut into the symbols, as long as
no name runs on into what follows. -/
def Cuts
    (conditions : List String) (characters : List Char)
    (symbols : List Symbol) : Prop :=
  ∀ ⦃rest : List Char⦄ ⦃tail : List Symbol⦄,
    EndsNames rest →
    symbolsFrom? conditions .operator rest = some tail →
    symbolsFrom? conditions .operand (characters ++ rest) =
      some (symbols ++ tail)

section Combinations

variable {first second : List Char} {firstSymbols secondSymbols : List Symbol}

/-- A condition is one symbol. -/
theorem cuts_condition
    (family : IsFamily entries) {entry : Nat × String} (member : entry ∈ entries) :
    Cuts (textsOf entries) entry.2.toList [.condition entry.2] := by
  intro rest tail ends reads
  have nonempty : entry.2 ≠ "" := by
    intro isEmpty
    exact (family.isPiece member).solid.ne_nil (by rw [isEmpty]; rfl)
  have longest :
      ∀ other ∈ textsOf entries, other.toList <+: entry.2.toList ++ rest →
        other.length ≤ entry.2.length := by
    intro other isText starts
    obtain ⟨found, isFound, rfl⟩ := List.mem_map.mp isText
    apply Nat.le_of_not_lt
    intro longer
    rw [← String.length_toList, ← String.length_toList] at longer
    obtain ⟨more, whole⟩ :=
      List.prefix_of_prefix_length_le (List.prefix_append _ rest) starts
        (Nat.le_of_lt longer)
    cases more with
    | nil =>
        rw [← whole, List.append_nil] at longer
        exact Nat.lt_irrefl _ longer
    | cons next others =>
        rw [← whole, List.prefix_append_right_inj] at starts
        obtain ⟨after, isRest⟩ := starts
        have endsName : isNameCharacter next = false := by
          apply ends next
          rw [← isRest]
          rfl
        exact family.ne_append member isFound endsName others whole.symm
  have found :
      symbol? (textsOf entries) .operand (entry.2.toList ++ rest) =
        some (.condition entry.2, .operator, rest) := by
    have isLongest :
        longest? (textsOf entries) (entry.2.toList ++ rest) = some entry.2 :=
      longest?_eq_some (List.mem_map_of_mem member) nonempty
        (List.prefix_append _ rest) longest
    rw [symbol?, operandSymbol?, isLongest]
    simp only [List.drop_left' String.length_toList]
  rw [symbolsFrom?_of_symbol? found, reads]
  rfl

/-- Where a parenthesis stands around a combination, there is no condition. -/
theorem not_prefix_enclosed
    (family : IsFamily entries)
    (piece : IsPiece (IsNameWithin entries first.length) first)
    (blanks : 4 ≤ first.count ' ') (rest : List Char) :
    ∀ other ∈ textsOf entries, ¬other.toList <+: '(' :: (first ++ ')' :: rest) := by
  intro other isText starts
  obtain ⟨found, isFound, rfl⟩ := List.mem_map.mp isText
  obtain ⟨condition, isCondition, conditionText⟩ := family.conditions found isFound
  obtain ⟨after, whole⟩ := starts
  obtain ⟨start, others, isStart, _⟩ := (family.isPiece isFound).solid.first
  have opens : found.2.toList = '(' :: others := by
    rw [isStart] at whole ⊢
    rw [(List.cons.inj whole).1]
  rw [conditionText] at opens whole
  obtain ⟨inner, isEnclosed⟩ := isCondition.isEnclosed_of_openParen opens
  rw [isEnclosed.whole, List.cons_append, List.append_assoc] at whole
  have sameInner : inner = first :=
    isEnclosed.balanced.eq_of_append_closing piece.balanced
      (List.cons.inj whole).2
  have enclosed : found.2.toList = '(' :: (first ++ [')']) := by
    rw [conditionText, isEnclosed.whole, sameInner]
  exact family.ne_enclosed piece blanks isFound enclosed

/-- A combination in parentheses. -/
theorem cuts_enclosed
    (family : IsFamily entries)
    (piece : IsPiece (IsNameWithin entries first.length) first)
    (blanks : 4 ≤ first.count ' ')
    (cuts : Cuts (textsOf entries) first firstSymbols) :
    Cuts (textsOf entries) ('(' :: (first ++ [')']))
      (.opening :: (firstSymbols ++ [.closing])) := by
  intro rest tail ends reads
  have closes :
      symbolsFrom? (textsOf entries) .operator (')' :: rest) =
        some (.closing :: tail) := by
    rw [symbolsFrom?_closing, reads]
    rfl
  have inside := cuts (endsNames_closing rest) closes
  have shape :
      '(' :: (first ++ [')']) ++ rest = '(' :: (first ++ ')' :: rest) := by
    simp
  rw [shape,
    symbolsFrom?_of_fixedSymbol? (not_prefix_enclosed family piece blanks rest)
      rfl,
    inside]
  simp

theorem isSeparator_operator (operator : LogicalOperator) :
    isSeparator (" " ++ operator.sqlKeyword ++ " ").toList = true := by
  cases operator <;> decide

/-- Two operands with an operator between them. -/
theorem cuts_operation
    {conditions : List String} (operator : LogicalOperator)
    (firstCuts : Cuts conditions first firstSymbols)
    (secondCuts : Cuts conditions second secondSymbols) :
    Cuts conditions
      (first ++ ((" " ++ operator.sqlKeyword ++ " ").toList ++ second))
      (firstSymbols ++ .operator operator :: secondSymbols) := by
  intro rest tail ends reads
  have secondReads := secondCuts ends reads
  have between :
      symbolsFrom? conditions .operator
          ((" " ++ operator.sqlKeyword ++ " ").toList ++ (second ++ rest)) =
        some (.operator operator :: (secondSymbols ++ tail)) := by
    rw [symbolsFrom?_operator, secondReads]
    rfl
  have endsFirst :
      EndsNames
        ((" " ++ operator.sqlKeyword ++ " ").toList ++ (second ++ rest)) :=
    endsNames_of_isSeparator (isSeparator_operator operator)
  have whole := firstCuts endsFirst between
  simpa using whole

/-- Exclusive or as a function. -/
theorem cuts_xorCall
    (family : IsFamily entries)
    (firstCuts : Cuts (textsOf entries) first firstSymbols)
    (secondCuts : Cuts (textsOf entries) second secondSymbols) :
    Cuts (textsOf entries)
      ("XOR(".toList ++ (first ++ (", ".toList ++ (second ++ [')']))))
      (.xorOpening ::
        (firstSymbols ++ .comma :: (secondSymbols ++ [.closing]))) := by
  intro rest tail ends reads
  have closes :
      symbolsFrom? (textsOf entries) .operator (')' :: rest) =
        some (.closing :: tail) := by
    rw [symbolsFrom?_closing, reads]
    rfl
  have secondReads := secondCuts (endsNames_closing rest) closes
  have between :
      symbolsFrom? (textsOf entries) .operator
          (',' :: ' ' :: (second ++ ')' :: rest)) =
        some (.comma :: (secondSymbols ++ .closing :: tail)) := by
    rw [symbolsFrom?_comma, secondReads]
    rfl
  have endsFirst : EndsNames (',' :: ' ' :: (second ++ ')' :: rest)) :=
    endsNames_cons (by decide) _
  have firstReads := firstCuts endsFirst between
  have shape :
      "XOR(".toList ++ (first ++ (", ".toList ++ (second ++ [')']))) ++ rest =
        "XOR(".toList ++ (first ++ ',' :: ' ' :: (second ++ ')' :: rest)) := by
    simp
  have none :
      ∀ other ∈ textsOf entries,
        ¬other.toList <+:
          "XOR(".toList ++ (first ++ ',' :: ' ' :: (second ++ ')' :: rest)) := by
    rintro other isText ⟨after, whole⟩
    obtain ⟨found, isFound, rfl⟩ := List.mem_map.mp isText
    obtain ⟨condition, isCondition, conditionText⟩ :=
      family.conditions found isFound
    rw [conditionText] at whole
    exact isCondition.text_append_ne_xor after _ whole
  have opens :
      fixedSymbol?
          ("XOR(".toList ++ (first ++ ',' :: ' ' :: (second ++ ')' :: rest))) =
        some (.xorOpening, .operand,
          first ++ ',' :: ' ' :: (second ++ ')' :: rest)) := rfl
  rw [shape, symbolsFrom?_of_fixedSymbol? none opens, firstReads]
  simp

/-- A negation. -/
theorem cuts_negation
    (family : IsFamily entries)
    (cuts : Cuts (textsOf entries) first firstSymbols) :
    Cuts (textsOf entries) ("NOT ".toList ++ '(' :: (first ++ [')']))
      (.not :: .opening :: (firstSymbols ++ [.closing])) := by
  intro rest tail ends reads
  have closes :
      symbolsFrom? (textsOf entries) .operator (')' :: rest) =
        some (.closing :: tail) := by
    rw [symbolsFrom?_closing, reads]
    rfl
  have inside := cuts (endsNames_closing rest) closes
  have shape :
      "NOT ".toList ++ '(' :: (first ++ [')']) ++ rest =
        "NOT ".toList ++ '(' :: (first ++ ')' :: rest) := by
    simp
  have none :
      ∀ other ∈ textsOf entries,
        ¬other.toList <+: "NOT ".toList ++ '(' :: (first ++ ')' :: rest) := by
    rintro other isText ⟨after, whole⟩
    obtain ⟨found, isFound, rfl⟩ := List.mem_map.mp isText
    obtain ⟨condition, isCondition, conditionText⟩ :=
      family.conditions found isFound
    rw [conditionText] at whole
    exact isCondition.text_append_ne_not after _ whole
  have denies :
      fixedSymbol? ("NOT ".toList ++ '(' :: (first ++ ')' :: rest)) =
        some (.not, .denied, '(' :: (first ++ ')' :: rest)) := rfl
  rw [shape, symbolsFrom?_of_fixedSymbol? none denies, symbolsFrom?_denied,
    inside]
  simp

end Combinations

end FilterQuery.Sql
