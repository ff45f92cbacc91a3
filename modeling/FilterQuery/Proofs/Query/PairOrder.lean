import FilterQuery.Proofs.Query.Accumulation
import FilterQuery.Proofs.Query.Collection

/-!
# The order of independent pairs does not matter

Entries are kept in the order of the pairs, repeated texts are dropped, and indexes are checked
one by one against those that are taken.  For pairs that do not meet, all of this comes to the
same query in any order, or to a failure in any order (`pair_order_irrelevant`).

* the lists of filters and of sorts have the same entries, and entries without repetitions can
  be collected in any order (`Entries.collect_eq_ok_of_perm`);
* the filter expression depends on a single pair.
-/

namespace FilterQuery.Query

open FilterQuery.QueryInput

/-- The pairs do not meet: filters and sorts are entries with texts in brackets, which do not
repeat keys or texts, and there is at most one filter expression. -/
structure AreIndependent (pairs : List (String × String)) : Prop where
  indexed : ∀ parameter : Entries.Parameter, AllIndexed parameter.name pairs
  keys : ∀ parameter : Entries.Parameter,
    ((itemsOf parameter.name pairs).map Prod.fst).Nodup
  texts : ∀ parameter : Entries.Parameter,
    ((itemsOf parameter.name pairs).map Prod.snd).Nodup
  expression : (pairs.filter (isAbout expressionParameter)).length ≤ 1

instance {property : Entries.Parameter → Prop} [DecidablePred property] :
    Decidable (∀ parameter, property parameter) :=
  decidable_of_iff (property .filter ∧ property .sort)
    ⟨fun both parameter => parameter.casesOn both.1 both.2,
      fun every => ⟨every .filter, every .sort⟩⟩

instance (pairs : List (String × String)) : Decidable (AreIndependent pairs) :=
  decidable_of_iff
    ((∀ parameter : Entries.Parameter, AllIndexed parameter.name pairs) ∧
      (∀ parameter : Entries.Parameter,
        ((itemsOf parameter.name pairs).map Prod.fst).Nodup ∧
          ((itemsOf parameter.name pairs).map Prod.snd).Nodup) ∧
      (pairs.filter (isAbout expressionParameter)).length ≤ 1)
    ⟨fun ⟨indexed, items, expression⟩ =>
        ⟨indexed, fun parameter => (items parameter).1, fun parameter => (items parameter).2,
          expression⟩,
      fun ⟨indexed, keys, texts, expression⟩ =>
        ⟨indexed, fun parameter => ⟨keys parameter, texts parameter⟩, expression⟩⟩

section Perm

variable {first second : List (String × String)}

theorem AreIndependent.perm
    (permuted : first.Perm second) (independent : AreIndependent first) :
    AreIndependent second := by
  have sameItems :
      ∀ parameter : Entries.Parameter,
        (itemsOf parameter.name first).Perm (itemsOf parameter.name second) :=
    fun parameter => permuted.filterMap _
  refine ⟨?_, ?_, ?_, ?_⟩
  · intro parameter pair member
    exact independent.indexed parameter pair (permuted.mem_iff.mpr member)
  · intro parameter
    exact ((sameItems parameter).map _).nodup_iff.mp (independent.keys parameter)
  · intro parameter
    exact ((sameItems parameter).map _).nodup_iff.mp (independent.texts parameter)
  · rw [← (permuted.filter _).length_eq]
    exact independent.expression

theorem readExpression_of_perm
    (permuted : first.Perm second) (independent : AreIndependent first) :
    readExpression (.ofPairs first) = readExpression (.ofPairs second) := by
  have samePairs :
      first.filter (isAbout expressionParameter) =
        second.filter (isAbout expressionParameter) := by
    -- Permuted lists with at most one member are the same.
    have permutedToo := permuted.filter (isAbout expressionParameter)
    have atMostOne := independent.expression
    cases only : first.filter (isAbout expressionParameter) with
    | nil =>
        rw [only] at permutedToo
        exact permutedToo.nil_eq
    | cons pair others =>
        rw [only, List.length_cons] at atMostOne
        have noOthers : others = [] := List.length_eq_zero_iff.mp (by omega)
        rw [only, noOthers] at permutedToo
        rw [noOthers, List.perm_singleton.mp permutedToo.symm]
  rw [readExpression, readExpression, get?_ofPairs_filter first, samePairs,
    ← get?_ofPairs_filter second]

/-- A list parameter that can be collected can be collected from the permuted pairs too. -/
theorem collectParameter_of_perm
    {ε α : Type} {parameter : Entries.Parameter} {parse : String → Except ε α}
    {fault : Entries.Fault ε → Fault} {slots : Slots α}
    (permuted : first.Perm second) (independent : AreIndependent first)
    (collected : collectParameter (.ofPairs first) parameter parse fault = .ok slots) :
    collectParameter (.ofPairs second) parameter parse fault = .ok slots := by
  have independentToo := independent.perm permuted
  have sameItems :
      (itemsOf parameter.name first).Perm (itemsOf parameter.name second) :=
    permuted.filterMap _
  rw [collectParameter, get?_ofPairs_of_allIndexed (independent.indexed parameter),
    listOf?] at collected
  rw [collectParameter, get?_ofPairs_of_allIndexed (independentToo.indexed parameter),
    listOf?]
  by_cases isEmpty : itemsOf parameter.name first = []
  · rw [if_pos isEmpty] at collected
    rw [isEmpty] at sameItems
    rw [if_pos sameItems.nil_eq.symm]
    exact collected
  · have isEmptyToo : itemsOf parameter.name second ≠ [] := by
      intro noItems
      rw [noItems] at sameItems
      exact isEmpty sameItems.eq_nil
    rw [if_neg isEmpty] at collected
    rw [if_neg isEmptyToo]
    have isFirst := OrderedMap.entries_ofList (independent.keys parameter)
    have isSecond := OrderedMap.entries_ofList (independentToo.keys parameter)
    have done := Outcome.mapError_eq_ok_iff.mp collected
    apply Outcome.mapError_eq_ok_iff.mpr
    apply Entries.collect_eq_ok_of_perm _ _ done
    · rw [isFirst, isSecond]
      exact sameItems
    · rw [isFirst]
      exact independent.texts parameter

/-- A query that independent pairs form is the query of the permuted pairs. -/
theorem parse_eq_ok_of_perm
    (permuted : first.Perm second) (independent : AreIndependent first) {query : Query}
    (parsed : parse (.ofPairs first) = .ok query) :
    parse (.ofPairs second) = .ok query := by
  obtain ⟨filters, expression, sorts, checked⟩ := parse_eq_ok_iff.mp parsed
  rw [readExpression_of_perm permuted independent] at expression
  exact
    parse_eq_ok_iff.mpr
      ⟨collectParameter_of_perm permuted independent filters, expression,
        collectParameter_of_perm permuted independent sorts, checked⟩

/-- Independent pairs fail in every order, or form the same query in every order. -/
theorem pair_order_irrelevant
    (permuted : first.Perm second) (independent : AreIndependent first) :
    (∃ firstFault secondFault,
      parse (.ofPairs first) = .error firstFault ∧
        parse (.ofPairs second) = .error secondFault) ∨
      ∃ query,
        parse (.ofPairs first) = .ok query ∧ parse (.ofPairs second) = .ok query := by
  cases firstOutcome : parse (.ofPairs first) with
  | ok query =>
      right
      exact ⟨query, rfl, parse_eq_ok_of_perm permuted independent firstOutcome⟩
  | error firstFault =>
      left
      cases secondOutcome : parse (.ofPairs second) with
      | error secondFault => exact ⟨firstFault, secondFault, rfl, rfl⟩
      | ok query =>
          have parsed :=
            parse_eq_ok_of_perm permuted.symm (independent.perm permuted) secondOutcome
          rw [firstOutcome] at parsed
          cases parsed

end Perm

/-- Filters, sorts and a filter expression, mixed up with another parameter. -/
def mixedPairs : List (String × String) :=
  [("sort[1]", "-age"), ("filter[12]", "age>18"), ("page", "3"), ("filterExpression", "7or12"),
    ("filter[007]", "name=\"Ann\""), ("page", "4"), ("sort[0]", "name")]

/-- Two keys that denote the same index. -/
def meetingPairs : List (String × String) :=
  [("filter[7]", "age>18"), ("filter[007]", "age<40")]

theorem pair_order_irrelevant_mixed :
    AreIndependent mixedPairs ∧
      AreIndependent meetingPairs ∧
      (∃ query,
        parse (.ofPairs mixedPairs) = .ok query ∧
          parse (.ofPairs mixedPairs.reverse) = .ok query ∧
          query.filters.indexes = [7, 12] ∧
          query.sorts.indexes = [0, 1]) ∧
      ∃ firstFault secondFault,
        parse (.ofPairs meetingPairs) = .error firstFault ∧
          parse (.ofPairs meetingPairs.reverse) = .error secondFault := by
  have mixed : AreIndependent mixedPairs := by
    decide +kernel
  have meeting : AreIndependent meetingPairs := by
    decide +kernel
  have parses :
      ((parse (.ofPairs mixedPairs)).toOption.map fun query =>
        (query.filters.indexes, query.sorts.indexes)) = some ([7, 12], [0, 1]) := by
    decide +kernel
  have fails : (parse (.ofPairs meetingPairs)).toOption.isNone = true := by
    decide +kernel
  obtain ⟨query, computed, indexes⟩ := Option.map_eq_some_iff.mp parses
  have parsed := Outcome.eq_ok_of_toOption computed
  obtain ⟨fault, failed⟩ := Outcome.exists_eq_error_of_isNone fails
  refine ⟨mixed, meeting, ?_, ?_⟩
  · rcases pair_order_irrelevant (List.reverse_perm mixedPairs).symm mixed with
      ⟨other, _, otherFails, _⟩ | ⟨other, otherParsed, reversed⟩
    · rw [parsed] at otherFails
      cases otherFails
    · rw [parsed] at otherParsed
      cases otherParsed
      exact ⟨query, parsed, reversed, Prod.mk.inj indexes⟩
  · rcases pair_order_irrelevant (List.reverse_perm meetingPairs).symm meeting with
      bothFail | ⟨other, otherParsed, _⟩
    · exact bothFail
    · rw [failed] at otherParsed
      cases otherParsed

end FilterQuery.Query
