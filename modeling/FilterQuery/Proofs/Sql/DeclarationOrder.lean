import FilterQuery.Proofs.Mapping.DeclarationOrder
import FilterQuery.Proofs.Sql.Resolution

/-!
# Statements and the order of declarations

Only the first rule that governs a filter is asked for a column.  All of those rules have the
key of the filter, so the column is the same whichever rule comes first: mappings that agree
give the same fragments.
-/

namespace FilterQuery.Sql.Fragment

section Agrees

variable {first second : Mapping}

theorem firstRule?_eq_none_of_not_isGoverned
    {mapping : Mapping} {filter : Filter} (ungoverned : ¬mapping.IsGoverned filter) :
    mapping.firstRule? filter = none := by
  rw [Mapping.firstRule?, List.find?_eq_none]
  intro rule isRule governs
  exact ungoverned ⟨rule, isRule, Rule.governs_eq_true_iff.mp governs⟩

theorem resolveFilters_eq_of_agrees
    (agrees : first.Agrees second) (entries : List (Nat × Filter)) :
    resolveFilters first entries = resolveFilters second entries := by
  induction entries with
  | nil => rfl
  | cons entry rest inductionHypothesis =>
      obtain ⟨index, filter⟩ := entry
      by_cases governed : first.IsGoverned filter
      · obtain ⟨rule, _, isFirst, sameKey⟩ := exists_firstRule_of_isGoverned governed
        obtain ⟨otherRule, _, isOtherFirst, otherSameKey⟩ :=
          exists_firstRule_of_isGoverned (agrees.isGoverned_iff.mp governed)
        simp only [resolveFilters, isFirst, isOtherFirst, sameKey, otherSameKey,
          agrees.column?, inductionHypothesis]
      · have otherUngoverned : ¬second.IsGoverned filter :=
          mt agrees.isGoverned_iff.mpr governed
        simp only [resolveFilters, firstRule?_eq_none_of_not_isGoverned governed,
          firstRule?_eq_none_of_not_isGoverned otherUngoverned, inductionHypothesis]

theorem resolveSorts_eq_of_agrees
    (agrees : first.Agrees second) (sorts : List SortClause) :
    resolveSorts first sorts = resolveSorts second sorts := by
  have sameAllowed : ∀ key, first.allowsSort key = second.allowsSort key := by
    intro key
    rw [Bool.eq_iff_iff, Mapping.allowsSort, Mapping.allowsSort, List.contains_iff_mem,
      List.contains_iff_mem, agrees.mem_sorts_iff]
  induction sorts with
  | nil => rfl
  | cons clause rest inductionHypothesis =>
      simp only [resolveSorts, sameAllowed, agrees.column?, inductionHypothesis]

/-- Mappings that agree give the same fragment of a query that they accept. -/
theorem ofQuery_eq_of_agrees
    (agrees : first.Agrees second) (dialect : Dialect) {query : Query}
    (valid : first.validate query = .ok ()) :
    ofQuery dialect first query = ofQuery dialect second query := by
  have otherValid : second.validate query = .ok () := agrees.validate_eq_ok_iff.mp valid
  simp only [ofQuery, valid, otherValid, resolveFilters_eq_of_agrees agrees,
    resolveSorts_eq_of_agrees agrees]

end Agrees

open Declaration (Step ofSteps IsOrderFree)

/-- The order of declarations does not matter.  Two orders of the same declarations can be built
or cannot, both; their mappings accept the same queries; and a query that they accept has the
same fragment by both. -/
theorem declaration_order_irrelevant
    {first second : List Step} (permuted : first.Perm second)
    (orderFree : IsOrderFree first) :
    ((∃ mapping, (ofSteps first).build = .ok mapping) ↔
        ∃ mapping, (ofSteps second).build = .ok mapping) ∧
      ∀ {firstMapping secondMapping : Mapping},
        (ofSteps first).build = .ok firstMapping →
        (ofSteps second).build = .ok secondMapping →
        ∀ {input : QueryInput} {query : Query},
          Query.parse input = .ok query →
            (firstMapping.validate query = .ok () ↔
                secondMapping.validate query = .ok ()) ∧
              (firstMapping.validate query = .ok () →
                ∀ dialect, ∃ fragment,
                  ofQuery dialect firstMapping query = .ok fragment ∧
                    ofQuery dialect secondMapping query = .ok fragment) := by
  have reorders := Declaration.reorders_of_perm permuted orderFree
  constructor
  · rw [Declaration.exists_build_eq_ok_iff, Declaration.exists_build_eq_ok_iff]
    exact reorders.consistent_iff
  · intro firstMapping secondMapping firstBuilt secondBuilt input query parsed
    have agrees := Mapping.agrees_of_build reorders firstBuilt secondBuilt
    refine ⟨agrees.validate_eq_ok_iff, ?_⟩
    intro valid dialect
    obtain ⟨fragment, done⟩ :=
      exists_ofQuery_eq_ok (Declaration.passed_of_build firstBuilt)
        (Query.parsed_of_parse parsed) valid dialect
    refine ⟨fragment, done, ?_⟩
    rw [← ofQuery_eq_of_agrees agrees dialect valid]
    exact done

/-- Two rules are about the same filters, and demand different things. -/
def overlappingSteps : List Step :=
  [.allowSort "name",
    .allowFilter
      { key := "name"
        filterType := .string
        operators := some [.equal, .notEqual] },
    .allowExpression "0or1",
    .relate "name" "users.name",
    .allowFilter
      { key := "name"
        filterType := .string
        constraints := [.length (some 2) none] },
    .columnPattern "^[a-z.]+$",
    .relate "age" "users.age"]

def overlappingInput : QueryInput :=
  .ofPairs
    [("filter[]", "name=\"ada\""), ("filter[]", "name!=\"bob\"/i"),
      ("filterExpression", "0or1"), ("sort[]", "-name")]

theorem declaration_order_irrelevant_overlapping :
    IsOrderFree overlappingSteps ∧
      ∃ firstMapping secondMapping query,
        (ofSteps overlappingSteps).build = .ok firstMapping ∧
          (ofSteps overlappingSteps.reverse).build = .ok secondMapping ∧
          Query.parse overlappingInput = .ok query ∧
          secondMapping.validate query = .ok () ∧
          ∀ dialect, ∃ fragment,
            ofQuery dialect firstMapping query = .ok fragment ∧
              ofQuery dialect secondMapping query = .ok fragment := by
  have permuted : overlappingSteps.Perm overlappingSteps.reverse :=
    (List.reverse_perm _).symm
  have orderFree : IsOrderFree overlappingSteps :=
    { keysDistinct := by decide
      keyPattern := by decide
      columnPattern := by decide
      validator := by decide }
  have builds : (ofSteps overlappingSteps).build.toOption.isSome = true := by
    decide +kernel
  have parses : (Query.parse overlappingInput).toOption.isSome = true := by
    decide +kernel
  have accepts :
      ((ofSteps overlappingSteps).build.toOption.bind fun mapping =>
          (Query.parse overlappingInput).toOption.bind fun query =>
            (mapping.validate query).toOption) =
        some () := by
    decide +kernel
  obtain ⟨firstMapping, firstBuilt⟩ := Outcome.exists_eq_ok_of_isSome builds
  obtain ⟨query, parsed⟩ := Outcome.exists_eq_ok_of_isSome parses
  obtain ⟨sameOutcome, sameFragments⟩ :=
    declaration_order_irrelevant permuted orderFree
  obtain ⟨secondMapping, secondBuilt⟩ := sameOutcome.mp ⟨firstMapping, firstBuilt⟩
  obtain ⟨sameDecision, sameFragment⟩ := sameFragments firstBuilt secondBuilt parsed
  rw [firstBuilt, parsed] at accepts
  have valid : firstMapping.validate query = .ok () :=
    Outcome.eq_ok_of_toOption accepts
  exact
    ⟨orderFree, firstMapping, secondMapping, query, firstBuilt, secondBuilt, parsed,
      sameDecision.mp valid, sameFragment valid⟩

end FilterQuery.Sql.Fragment
