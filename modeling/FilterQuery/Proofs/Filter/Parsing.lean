import FilterQuery.Proofs.Filter.Lists
import FilterQuery.Proofs.Filter.Operator
import FilterQuery.Proofs.Filter.Reading
import FilterQuery.Proofs.Filter.Shapes

/-!
# The parts of filters

A filter is read from one line that is cut at its first operator.

* `Filter.IsReading` says what filter such a cut gives, and `Filter.parse_eq_ok_iff` that parsing
  returns this filter and no other one;
* `Kind.IsWellFormed` holds of every value that was read from a literal;
* `Filter.parse_cuts_first`: the text decides the cut, what is cut is well formed, and any other
  text is the fault of its entry.
-/

namespace FilterQuery

open FilterQuery.Text FilterQuery.Literal

/-! ## Values -/

namespace Kind

/-- What can be relied on for a value that was read from a literal. -/
def IsWellFormed : Kind → Prop
  | .integer value => 0 ≤ value
  | .like pattern =>
      pattern.text ≠ "" ∧ (pattern.wildcardLeft || pattern.wildcardRight) = true
  | .inList items => items ≠ [] ∧ ∀ item ∈ items, item.elementType?.isSome = true
  | .null | .boolean _ | .float _ | .string _ | .regexp _ => True

/-- A like pattern that was read has something to look for, and keeps its wildcards. -/
theorem isWellFormed_of_likePattern
    {shape : LikeShape} {pattern : LikePattern}
    (wildcard : (shape.wildcardLeft || shape.wildcardRight) = true)
    (read : likePattern shape = .ok pattern) : (like pattern).IsWellFormed := by
  unfold likePattern at read
  split at read
  · cases read
  split at read
  · cases read
  · rename_i notEmpty
    cases read
    exact ⟨by simpa using notEmpty, wildcard⟩

theorem IsRead.isWellFormed
    {characters : List Char} {kind : Kind} {modified : Bool}
    (read : IsRead characters kind modified) : kind.IsWellFormed := by
  cases read with
  | integer _ isInteger =>
      obtain ⟨_, _, exactly⟩ := integer?_eq_some_iff.mp isInteger
      rw [IsWellFormed, Int64.le_iff_toInt_le, exactly]
      exact Int.natCast_nonneg _
  | inList _ areElements =>
      refine ⟨elements_ne_nil areElements, ?_⟩
      unfold elements at areElements
      split at areElements
      · cases areElements
      · exact elementType?_of_mem_elementsFrom areElements
  | like isShape isPattern =>
      exact isWellFormed_of_likePattern (like?_eq_some_iff.mp isShape).1 isPattern
  | float | null | boolean | string | regexp => trivial

end Kind

/-! ## Filters -/

namespace Filter

/-- The literal of a value, which may be missing. -/
def literalOf (after : List Char) : String :=
  if trim after = [] then "null" else String.ofList (trim after)

/-- The filter that is read from a text, if it is cut after the given characters and before the
other ones. -/
structure IsReading
    (expression : String) (before after : List Char) (filter : Filter) : Prop where
  oneLine : '\n' ∉ expression.toList
  splits : Splits expression.toList before filter.operator after
  submitted : filter.expression = expression
  key : filter.key = String.ofList (trim before)
  keyNotEmpty : filter.key ≠ ""
  literal : Kind.ofLiteral (literalOf after) = .ok (filter.kind, filter.caseInsensitive)
  legal : filter.operator ∈ filter.filterType.legalOperators

section Reading

variable {expression : String} {before after : List Char} {filter : Filter}

/-- A filter is made of a literal with its modifier, if the operator is legal. -/
theorem make_eq_ok_iff
    {key : String} {operator : Operator} {kind : Kind} {modified : Bool}
    (read : Kind.ofLiteral (literalOf after) = .ok (kind, modified)) :
    make expression key operator kind modified = .ok filter ↔
      operator ∈ kind.filterType.legalOperators ∧
        filter = { expression, key, operator, kind, caseInsensitive := modified } := by
  have kept : (modified && kind.filterType.supportsCaseInsensitivity) = modified := by
    cases modified with
    | false => rfl
    | true => exact (Kind.isRead_of_ofLiteral read).modified_imp_supports rfl
  simp only [make, kept, FilterType.accepts, List.contains_iff_mem]
  by_cases legal : operator ∈ kind.filterType.legalOperators
  · simp [legal, eq_comm]
  · simp [legal]

/-- The filter of a text is read from the cut at its first operator. -/
theorem parse_eq_ok_iff :
    parse expression = .ok filter ↔ ∃ before after, IsReading expression before after filter := by
  constructor
  · intro read
    unfold parse at read
    simp only at read
    split at read
    · cases read
    rename_i before symbol after isCut
    obtain ⟨operator, rfl, splits⟩ := splitAtOperator?_eq_some_iff.mp isCut
    split at read
    · cases read
    rename_i oneLine
    split at read
    · cases read
    rename_i keyNotEmpty
    rw [Operator.ofSymbol?_symbol] at read
    obtain ⟨⟨kind, modified⟩, isLiteral, made⟩ :=
      Outcome.bind_eq_ok_iff.mp (Outcome.mapError_eq_ok_iff.mp read)
    have literal : Kind.ofLiteral (literalOf after) = .ok (kind, modified) := by
      simpa [literalOf] using isLiteral
    obtain ⟨legal, rfl⟩ := (make_eq_ok_iff literal).mp made
    exact
      ⟨before, after, isOneLine_iff.mp (by simpa using oneLine), splits, rfl, rfl,
        by simpa using keyNotEmpty, literal, legal⟩
  · rintro ⟨before, after, oneLine, splits, submitted, key, keyNotEmpty, literal, legal⟩
    have isCut := splitAtOperator?_eq_some_iff.mpr ⟨filter.operator, rfl, splits⟩
    have made :
        make expression filter.key filter.operator filter.kind filter.caseInsensitive =
          .ok filter :=
      (make_eq_ok_iff literal).mpr ⟨legal, by rw [← submitted]⟩
    have notEmpty : (String.ofList (trim before)).isEmpty = false := by
      simpa [key] using keyNotEmpty
    have isLiteral :
        Kind.ofLiteral
            (if (String.ofList (trim after)).isEmpty then "null" else String.ofList (trim after)) =
          .ok (filter.kind, filter.caseInsensitive) := by
      simpa [literalOf] using literal
    simp only [parse, isCut, isOneLine_iff.mpr oneLine, notEmpty, Operator.ofSymbol?_symbol,
      isLiteral, Bool.not_true, Bool.false_eq_true, if_false]
    rw [← key]
    exact congrArg (Except.mapError Fault.value) made

/-- A filter that was read has no empty list. -/
theorem items_ne_nil_of_parse
    {items : List Value} (read : parse expression = .ok filter)
    (isList : filter.kind = .inList items) : items ≠ [] := by
  obtain ⟨before, after, reading⟩ := parse_eq_ok_iff.mp read
  have wellFormed := (Kind.isRead_of_ofLiteral reading.literal).isWellFormed
  rw [isList] at wellFormed
  exact wellFormed.1

end Reading

/-- A filter is read from a text exactly if it is read from the only cut at the first operator in
the text.  Its value is well formed, and letter case is disregarded only where there is any.  Every
other text is malformed, and the failure names the entry. -/
theorem parse_cuts_first (index : Nat) (expression : String) :
    (∀ filter,
      parse expression = .ok filter ↔
        ∃ before after, IsReading expression before after filter) ∧
      (∀ before after filter,
        IsReading expression before after filter →
          (∀ otherBefore operator otherAfter,
            Splits expression.toList otherBefore operator otherAfter →
              otherBefore = before ∧ operator = filter.operator ∧ otherAfter = after) ∧
          filter.kind.IsWellFormed ∧
          (filter.caseInsensitive = true →
            filter.filterType ∈ [.string, .like, .inList, .regexp])) ∧
      ((¬∃ before after filter, IsReading expression before after filter) →
        ∃ failure,
          (parse expression).mapError (Fault.failure index expression) = .error failure ∧
            failure.code.text = "Q1002" ∧ failure.index = some index ∧
            failure.expression = some expression) := by
  refine ⟨fun filter => parse_eq_ok_iff, ?_, ?_⟩
  · intro before after filter reading
    have read := Kind.isRead_of_ofLiteral reading.literal
    refine ⟨?_, read.isWellFormed, ?_⟩
    · intro otherBefore operator otherAfter other
      exact reading.splits.unique other
    · intro isModified
      have supports := read.modified_imp_supports isModified
      unfold filterType
      revert supports
      cases filter.kind.filterType <;> decide
  · intro noReading
    cases read : parse expression with
    | ok filter =>
        obtain ⟨before, after, reading⟩ := parse_eq_ok_iff.mp read
        exact absurd ⟨before, after, filter, reading⟩ noReading
    | error fault =>
        obtain ⟨isMalformed, namesIndex, namesExpression⟩ := failure_of_parse read index
        exact
          ⟨_, Outcome.mapError_error, congrArg Code.text isMalformed, namesIndex,
            namesExpression⟩

end Filter

end FilterQuery
