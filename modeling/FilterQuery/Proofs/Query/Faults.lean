import FilterQuery.Proofs.Query.Parsing

/-!
# Faults of queries are the client's

Whatever is wrong with the parameters of a request is reported as malformed
input.  The code says which parameter is at fault; the failures that stand for a
broken invariant do not occur.
-/

namespace FilterQuery

/-- Codes of malformed input are those that are shown as `Q1001` to `Q1005`. -/
theorem Code.isMalformed_iff_mem_text {code : Code} :
    code.isMalformed = true ↔
      code.text ∈ ["Q1001", "Q1002", "Q1003", "Q1004", "Q1005"] := by
  cases code <;> decide

/-- Codes of denied input are those that are shown as `Q2001` to `Q2005`. -/
theorem Code.isDenied_iff_mem_text {code : Code} :
    code.isDenied = true ↔
      code.text ∈ ["Q2001", "Q2002", "Q2003", "Q2004", "Q2005"] := by
  cases code <;> decide

/-! ## Entries -/

/-- Entries of a list parameter fail with the code of the parameter, as long as
single entries do. -/
theorem Entries.code_of_collectInto
    {ε α : Type} {parse : String → Except ε α} {slots : Slots α}
    {entries : List (String × String)} {fault : Fault ε}
    {parameter : Parameter} {entryFailure : Nat → String → ε → Failure}
    (entryCode :
      ∀ index expression cause,
        parse expression = .error cause →
        (entryFailure index expression cause).code = parameter.code)
    (collected : collectInto parse slots entries = .error fault) :
    (fault.failure parameter entryFailure).code = parameter.code := by
  induction entries generalizing slots with
  | nil => cases collected
  | cons entry rest inductionHypothesis =>
      obtain ⟨raw, expression⟩ := entry
      simp only [collectInto] at collected
      split at collected
      · cases collected
        rfl
      · split at collected
        · cases collected
          rfl
        · split at collected
          · rename_i cause failed
            cases collected
            exact entryCode _ expression cause failed
          · exact inductionHypothesis collected

/-- A filter that cannot be read is malformed. -/
theorem Filter.code_of_parse
    {index : Nat} {expression : String} {fault : Filter.Fault}
    (failed : Filter.parse expression = .error fault) :
    (fault.failure index expression).code = .malformedFilter :=
  (Filter.failure_of_parse failed index).1

/-- A filter expression that cannot be read is malformed. -/
theorem Expression.code_of_parseOptional
    {text : String} {fault : Expression.Fault}
    (failed : Expression.parseOptional (some text) = .error fault) :
    (fault.failure text).code = .malformedFilterExpression := by
  simp only [Expression.parseOptional] at failed
  split at failed
  · cases failed
  · have parseFailed : Expression.parse text = .error fault :=
      Outcome.map_eq_error_iff.mp failed
    cases fault with
    | blank => rfl
    | token cause => rfl
    | tree cause =>
        exact absurd parseFailed (Expression.parse_ne_treeFault text cause)

namespace Query

/-! ## Parameters -/

theorem isMalformed_malformedParameter :
    Code.malformedParameter.isMalformed = true := by
  decide

theorem isMalformed_indexMismatch : Code.indexMismatch.isMalformed = true := by
  decide

/-- A list parameter fails by its shape or by an entry. -/
theorem isMalformed_of_collectParameter
    {ε α : Type} {input : QueryInput} {parameter : Entries.Parameter}
    {parse : String → Except ε α} {asFault : Entries.Fault ε → Fault}
    {entryFailure : Nat → String → ε → Failure} {fault : Fault}
    (sameFailure :
      ∀ cause, (asFault cause).failure = cause.failure parameter entryFailure)
    (entryCode :
      ∀ index expression cause,
        parse expression = .error cause →
        (entryFailure index expression cause).code = parameter.code)
    (failed : collectParameter input parameter parse asFault = .error fault) :
    fault.failure.code.isMalformed = true := by
  unfold collectParameter at failed
  split at failed
  · cases failed
  · obtain ⟨cause, collected, same⟩ := Outcome.mapError_eq_error_iff.mp failed
    have code : (cause.failure parameter entryFailure).code = parameter.code :=
      Entries.code_of_collectInto entryCode collected
    rw [← same, sameFailure, code]
    cases parameter <;> decide
  · cases failed
    exact isMalformed_malformedParameter

theorem isMalformed_of_readExpression
    {input : QueryInput} {fault : Fault}
    (failed : readExpression input = .error fault) :
    fault.failure.code.isMalformed = true := by
  unfold readExpression at failed
  split at failed
  · cases failed
  · obtain ⟨cause, parseFailed, same⟩ :=
      Outcome.mapError_eq_error_iff.mp failed
    have code := Expression.code_of_parseOptional parseFailed
    rw [← same, Fault.failure, code]
    decide
  · cases failed
    exact isMalformed_malformedParameter

theorem isMalformed_of_checkIndexes
    {filters : Slots Filter} {expression : Expression} {fault : Fault}
    (failed : checkIndexes filters expression = .error fault) :
    fault.failure.code.isMalformed = true := by
  simp only [checkIndexes] at failed
  split at failed
  · cases failed
    exact isMalformed_malformedParameter
  · split at failed
    · cases failed
    · cases failed
      exact isMalformed_indexMismatch

/-- Parameters that form no query are malformed. -/
theorem isMalformed_of_parse
    {input : QueryInput} {fault : Fault} (failed : parse input = .error fault) :
    fault.failure.code.isMalformed = true := by
  unfold parse at failed
  rcases Outcome.bind_eq_error_iff.mp failed with filters | ⟨_, _, failed⟩
  · exact
      isMalformed_of_collectParameter (fun _ => rfl)
        (fun _ _ _ => Filter.code_of_parse) filters
  rcases Outcome.bind_eq_error_iff.mp failed with expression | ⟨_, _, failed⟩
  · exact isMalformed_of_readExpression expression
  rcases Outcome.bind_eq_error_iff.mp failed with sorts | ⟨_, _, failed⟩
  · refine isMalformed_of_collectParameter (fun _ => rfl) ?_ sorts
    intro index expression cause _
    cases cause
    rfl
  split at failed
  · cases failed
  · rcases Outcome.bind_eq_error_iff.mp failed with indexes | ⟨_, _, failed⟩
    · exact isMalformed_of_checkIndexes indexes
    · cases failed

end Query

end FilterQuery
