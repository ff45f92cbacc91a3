import FilterQuery.Filter.Basic
import FilterQuery.Proofs.Outcome

/-!
# The operator of a filter

A filter is cut at the symbol of its first operator.

* `Splits` says where that is, and `Splits.unique` that there is only one such place;
* `splitAtOperator?_eq_some_iff`: this is what the scan finds, so every symbol that it finds is
  known;
* `failure_of_parse`: what cannot be read is the fault of the entry.
-/

namespace FilterQuery

/-- What is cut off the front is the symbol of an operator. -/
theorem Operator.exists_of_takeSymbol?
    {characters after : List Char} {symbol : String}
    (taken : takeSymbol? characters = some (symbol, after)) :
    ∃ operator : Operator,
      symbol = operator.symbol ∧ characters = symbol.toList ++ after := by
  unfold takeSymbol? at taken
  split at taken
  · cases taken
    exact ⟨.lessThanOrEqual, rfl, rfl⟩
  · cases taken
    exact ⟨.greaterThanOrEqual, rfl, rfl⟩
  · cases taken
    exact ⟨.notEqual, rfl, rfl⟩
  · cases taken
    exact ⟨.equal, rfl, rfl⟩
  · cases taken
    exact ⟨.greaterThan, rfl, rfl⟩
  · cases taken
    exact ⟨.lessThan, rfl, rfl⟩
  · cases taken

namespace Filter

/-- The text is cut at its first operator, with the longest symbol there. -/
structure Splits
    (characters before : List Char) (operator : Operator) (after : List Char) : Prop where
  whole : characters = before ++ (operator.symbol.toList ++ after)
  noSymbol : ∀ character ∈ before, character ∉ ['=', '<', '>']
  notDenied : operator = .equal → before.getLast? ≠ some '!'
  longest : operator = .lessThan ∨ operator = .greaterThan → after.head? ≠ some '='

section Splitting

variable {characters before after rest : List Char} {operator : Operator}

/-- A symbol is taken unless it is the start of a longer one. -/
theorem takeSymbol?_append
    (longest : operator = .lessThan ∨ operator = .greaterThan → rest.head? ≠ some '=') :
    Operator.takeSymbol? (operator.symbol.toList ++ rest) = some (operator.symbol, rest) := by
  cases rest with
  | nil => cases operator <;> rfl
  | cons next others =>
      cases operator with
      | equal | notEqual | lessThanOrEqual | greaterThanOrEqual => rfl
      | lessThan =>
          have notEqual : next ≠ '=' := fun same => longest (.inl rfl) (congrArg some same)
          simp [Operator.symbol, Operator.takeSymbol?, notEqual]
      | greaterThan =>
          have notEqual : next ≠ '=' := fun same => longest (.inr rfl) (congrArg some same)
          simp [Operator.symbol, Operator.takeSymbol?, notEqual]

theorem longest_of_takeSymbol?
    (taken : Operator.takeSymbol? characters = some (operator.symbol, after)) :
    operator = .lessThan ∨ operator = .greaterThan → after.head? ≠ some '=' := by
  intro isShort isEqual
  obtain ⟨others, rfl⟩ := List.head?_eq_some_iff.mp isEqual
  obtain ⟨_, _, whole⟩ := Operator.exists_of_takeSymbol? taken
  rw [whole] at taken
  rcases isShort with rfl | rfl
  · have isLonger : "<=" = "<" := (Prod.mk.inj (Option.some.inj taken)).1
    exact absurd isLonger (by decide)
  · have isLonger : ">=" = ">" := (Prod.mk.inj (Option.some.inj taken)).1
    exact absurd isLonger (by decide)

/-- No symbol starts here exactly if there is no character of one, except for a mark of denial
without an equals sign. -/
theorem takeSymbol?_eq_none_iff {character : Char} :
    Operator.takeSymbol? (character :: rest) = none ↔
      character ∉ ['=', '<', '>'] ∧ (character = '!' → rest.head? ≠ some '=') := by
  constructor
  · intro notTaken
    refine ⟨?_, ?_⟩
    · intro isSymbol
      simp only [List.mem_cons, List.not_mem_nil, or_false] at isSymbol
      rcases isSymbol with rfl | rfl | rfl
      · cases notTaken
      · unfold Operator.takeSymbol? at notTaken
        split at notTaken <;> simp_all
      · unfold Operator.takeSymbol? at notTaken
        split at notTaken <;> simp_all
    · rintro rfl isEqual
      obtain ⟨others, rfl⟩ := List.head?_eq_some_iff.mp isEqual
      cases notTaken
  · rintro ⟨noSymbol, notDenied⟩
    rw [Option.eq_none_iff_forall_ne_some]
    rintro ⟨symbol, after⟩ taken
    obtain ⟨operator, rfl, whole⟩ := Operator.exists_of_takeSymbol? taken
    cases operator with
    | notEqual =>
        obtain ⟨isMark, isEqual⟩ := List.cons.inj whole
        exact notDenied isMark (by rw [isEqual]; rfl)
    | equal | lessThan | lessThanOrEqual | greaterThan | greaterThanOrEqual =>
        rw [(List.cons.inj whole).1] at noSymbol
        exact noSymbol (by decide)

/-- Where no symbol starts, the text is cut further on. -/
theorem Splits.cons
    {character : Char} (splits : Splits rest before operator after)
    (notTaken : Operator.takeSymbol? (character :: rest) = none) :
    Splits (character :: rest) (character :: before) operator after := by
  obtain ⟨noSymbol, notDenied⟩ := takeSymbol?_eq_none_iff.mp notTaken
  obtain ⟨rfl, restNoSymbol, restNotDenied, longest⟩ := splits
  refine ⟨rfl, List.forall_mem_cons.mpr ⟨noSymbol, restNoSymbol⟩, ?_, longest⟩
  rintro rfl
  cases before with
  | nil =>
      intro isLast
      exact notDenied (Option.some.inj isLast) rfl
  | cons next others =>
      rw [List.getLast?_cons_cons]
      exact restNotDenied rfl

/-- A text is cut at the first operator in it, and there is only one way to cut it so. -/
theorem splitAtOperator?_eq_some_iff {symbol : String} :
    splitAtOperator? characters = some (before, symbol, after) ↔
      ∃ operator : Operator, symbol = operator.symbol ∧ Splits characters before operator after := by
  constructor
  · intro split
    induction characters generalizing before with
    | nil => cases split
    | cons character rest inductionHypothesis =>
        simp only [splitAtOperator?] at split
        cases taken : Operator.takeSymbol? (character :: rest) with
        | some found =>
            obtain ⟨found, following⟩ := found
            rw [taken] at split
            cases split
            obtain ⟨operator, rfl, whole⟩ := Operator.exists_of_takeSymbol? taken
            exact ⟨operator, rfl, whole, nofun, nofun, longest_of_takeSymbol? taken⟩
        | none =>
            rw [taken] at split
            obtain ⟨cut, splitRest, same⟩ := Option.map_eq_some_iff.mp split
            cases same
            obtain ⟨operator, isSymbol, splits⟩ := inductionHypothesis splitRest
            exact ⟨operator, isSymbol, splits.cons taken⟩
  · rintro ⟨operator, rfl, rfl, noSymbol, notDenied, longest⟩
    induction before with
    | nil =>
        have taken := takeSymbol?_append longest
        obtain ⟨first, others, whole⟩ :
            ∃ first others, operator.symbol.toList ++ after = first :: others := by
          cases operator <;> exact ⟨_, _, rfl⟩
        rw [List.nil_append]
        rw [whole] at taken ⊢
        simp only [splitAtOperator?, taken]
    | cons character others inductionHypothesis =>
        obtain ⟨characterNoSymbol, othersNoSymbol⟩ := List.forall_mem_cons.mp noSymbol
        have notTaken :
            Operator.takeSymbol? (character :: (others ++ (operator.symbol.toList ++ after))) =
              none := by
          refine takeSymbol?_eq_none_iff.mpr ⟨characterNoSymbol, ?_⟩
          rintro rfl isEqual
          cases others with
          | nil =>
              cases operator <;> cases isEqual
              exact notDenied rfl rfl
          | cons next later =>
              rw [Option.some.inj isEqual] at othersNoSymbol
              exact othersNoSymbol '=' List.mem_cons_self (by decide)
        have othersNotDenied : operator = .equal → others.getLast? ≠ some '!' := by
          intro isEqual
          cases others with
          | nil => exact nofun
          | cons next later => simpa only [List.getLast?_cons_cons] using notDenied isEqual
        simp only [List.cons_append, splitAtOperator?, notTaken,
          inductionHypothesis othersNoSymbol othersNotDenied, Option.map_some]

/-- A text is cut at its first operator in one way only. -/
theorem Splits.unique
    {otherBefore otherAfter : List Char} {otherOperator : Operator}
    (splits : Splits characters before operator after)
    (other : Splits characters otherBefore otherOperator otherAfter) :
    otherBefore = before ∧ otherOperator = operator ∧ otherAfter = after := by
  have first := splitAtOperator?_eq_some_iff.mpr ⟨operator, rfl, splits⟩
  have second := splitAtOperator?_eq_some_iff.mpr ⟨otherOperator, rfl, other⟩
  rw [first] at second
  obtain ⟨rfl, sameRest⟩ := Prod.mk.inj (Option.some.inj second)
  obtain ⟨sameSymbol, rfl⟩ := Prod.mk.inj sameRest
  have sameOperator := congrArg Operator.ofSymbol? sameSymbol
  rw [Operator.ofSymbol?_symbol, Operator.ofSymbol?_symbol] at sameOperator
  exact ⟨rfl, (Option.some.inj sameOperator).symm, rfl⟩

end Splitting

/-- The scan for the operator finds known symbols only. -/
theorem parse_ne_unknownSymbol (expression symbol : String) :
    parse expression ≠ .error (.unknownSymbol symbol) := by
  intro read
  unfold parse at read
  simp only at read
  split at read
  · cases read
  · rename_i before found after split
    obtain ⟨operator, isSymbol, _⟩ := splitAtOperator?_eq_some_iff.mp split
    rw [isSymbol, Operator.ofSymbol?_symbol] at read
    split at read
    · cases read
    · split at read
      · cases read
      · obtain ⟨_, _, same⟩ := Outcome.mapError_eq_error_iff.mp read
        cases same

/-- A filter that cannot be read is malformed, and the failure names its entry. -/
theorem failure_of_parse
    {expression : String} {fault : Fault} (failed : parse expression = .error fault) (index : Nat) :
    (fault.failure index expression).code = .malformedFilter ∧
      (fault.failure index expression).index = some index ∧
      (fault.failure index expression).expression = some expression := by
  cases fault with
  | noOperator => exact ⟨rfl, rfl, rfl⟩
  | missingKey => exact ⟨rfl, rfl, rfl⟩
  | unknownSymbol symbol => exact absurd failed (parse_ne_unknownSymbol expression symbol)
  | value cause => cases cause <;> exact ⟨rfl, rfl, rfl⟩

end Filter

end FilterQuery
