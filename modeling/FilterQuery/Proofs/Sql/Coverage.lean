import FilterQuery.Proofs.Sql.ClientFaults
import Mathlib.Data.List.Forall2

/-!
# Fragments cover their queries

Writing a fragment repeats the look-ups of the allow-list, and leaves out what it does not
find.  After the allow-list has accepted a query, nothing is left out any more.

* `forall₂_conditionTexts`: there is one condition for each filter, in the same order;
* `forall₂_resolveSorts`: there is one column for each sort, in the same order;
* `ofQuery_covers_query`: a fragment fails with the denial of the allow-list and with nothing
  else, and otherwise it covers the query.
-/

namespace FilterQuery.Sql.Fragment

variable {declaration : Declaration} {mapping : Mapping} {query : Query} {dialect : Dialect}

/-! ## Filters -/

/-- The condition stands under the index of the filter, and tests the column of the first rule
that governs it. -/
def IsConditionOf
    (dialect : Dialect) (mapping : Mapping) (entry : Nat × Filter)
    (condition : Nat × String) : Prop :=
  ∃ rule column,
    mapping.firstRule? entry.2 = some rule ∧
      rule.key = entry.2.key ∧
      mapping.column? rule.key = some column ∧
      condition =
        (entry.1, (Condition.ofFilter dialect entry.1 column entry.2).text)

theorem forall₂_conditionTexts
    {entries : List (Nat × Filter)} {resolved : List (Nat × String × Filter)}
    (governed : ∀ entry ∈ entries, mapping.IsGoverned entry.2)
    (resolves : resolveFilters mapping entries = .ok resolved) :
    List.Forall₂ (IsConditionOf dialect mapping) entries
      (conditionTexts dialect resolved) := by
  induction entries generalizing resolved with
  | nil =>
      cases resolves
      exact .nil
  | cons entry rest inductionHypothesis =>
      obtain ⟨index, filter⟩ := entry
      obtain ⟨filterGoverned, restGoverned⟩ := List.forall_mem_cons.mp governed
      obtain ⟨rule, _, isFirst, sameKey⟩ :=
        exists_firstRule_of_isGoverned filterGoverned
      simp only [resolveFilters, isFirst] at resolves
      split at resolves
      · cases resolves
      · rename_i column related
        obtain ⟨others, restResolves, rfl⟩ := Outcome.map_eq_ok_iff.mp resolves
        have isCondition :
            IsConditionOf dialect mapping (index, filter)
              (index, (Condition.ofFilter dialect index column filter).text) :=
          ⟨rule, column, isFirst, sameKey, related, rfl⟩
        exact .cons isCondition (inductionHypothesis restGoverned restResolves)

/-! ## Sorts -/

/-- The field is the column that is related to the key of the sort, in its direction. -/
def IsFieldOf (mapping : Mapping) (entry : Nat × SortClause) (field : OrderBy) : Prop :=
  mapping.allowsSort entry.2.key = true ∧
    mapping.column? entry.2.key = some field.column ∧
    field.order = entry.2.order

theorem forall₂_resolveSorts
    {entries : List (Nat × SortClause)} {fields : List OrderBy}
    (allowed : ∀ entry ∈ entries, mapping.allowsSort entry.2.key = true)
    (resolves : resolveSorts mapping (entries.map Prod.snd) = .ok fields) :
    List.Forall₂ (IsFieldOf mapping) entries fields := by
  induction entries generalizing fields with
  | nil =>
      cases resolves
      exact .nil
  | cons entry rest inductionHypothesis =>
      obtain ⟨entryAllowed, restAllowed⟩ := List.forall_mem_cons.mp allowed
      simp only [List.map_cons, resolveSorts, entryAllowed, if_true] at resolves
      split at resolves
      · cases resolves
      · rename_i column related
        obtain ⟨others, restResolves, rfl⟩ := Outcome.map_eq_ok_iff.mp resolves
        have isField : IsFieldOf mapping entry ⟨column, entry.2.order⟩ :=
          ⟨entryAllowed, related, rfl⟩
        exact .cons isField (inductionHypothesis restAllowed restResolves)

/-! ## Fragments -/

/-- Every filter has its condition in the where clause and its values among the parameters, and
every sort has its column, in ascending order of index; there is nothing else. -/
structure Covers
    (fragment : Fragment) (dialect : Dialect) (mapping : Mapping) (query : Query) :
    Prop where
  filters :
    ∃ resolved,
      resolveFilters mapping query.filters.entries = .ok resolved ∧
        List.Forall₂ (IsConditionOf dialect mapping) query.filters.entries
          (conditionTexts dialect resolved) ∧
        whereClauseOf dialect (conditionTexts dialect resolved) query.expression =
          .ok fragment.whereClause ∧
        fragment.parameters = parametersOf dialect resolved
  sorts : List.Forall₂ (IsFieldOf mapping) query.sorts.entries fragment.orderBy
  ascending : query.sorts.indexes.Pairwise (· < ·)

/-- What an accepted query comes to covers it. -/
theorem covers_of_ofQuery
    (passed : Declaration.Passed declaration mapping) (parsed : query.Parsed)
    (valid : mapping.validate query = .ok ()) {fragment : Fragment}
    (done : ofQuery dialect mapping query = .ok fragment) :
    fragment.Covers dialect mapping query := by
  have accepted : mapping.Accepts query :=
    (Mapping.accepts_iff_of_passed passed parsed).mp valid
  have governed :
      ∀ entry ∈ query.filters.entries, mapping.IsGoverned entry.2 :=
    fun entry member =>
      (accepted.filters entry.2 (List.mem_map_of_mem member)).1
  have allowed :
      ∀ entry ∈ query.sorts.entries, mapping.allowsSort entry.2.key = true := by
    intro entry member
    have isAllowed : entry.2.key ∈ mapping.sorts :=
      accepted.sorts entry.2 (List.mem_map_of_mem member)
    exact List.contains_iff_mem.mpr isAllowed
  obtain ⟨resolution⟩ := nonempty_resolution passed parsed valid
  obtain ⟨whereClause, combined⟩ :=
    resolution.exists_whereClauseOf_eq_ok parsed dialect
  have same : fragment = resolution.fragment dialect whereClause := by
    rw [resolution.ofQuery_eq_ok valid combined] at done
    exact (Except.ok.inj done).symm
  subst same
  exact
    { filters :=
        ⟨resolution.filters, resolution.filtersResolve,
          forall₂_conditionTexts governed resolution.filtersResolve, combined, rfl⟩
      sorts := forall₂_resolveSorts allowed resolution.fieldsResolve
      ascending := query.sorts.ascending }

theorem ofQuery_eq_error_iff
    (passed : Declaration.Passed declaration mapping) (parsed : query.Parsed)
    {fault : Fault} :
    ofQuery dialect mapping query = .error fault ↔
      ∃ denial, mapping.validate query = .error denial ∧ fault = .denied denial := by
  constructor
  · intro failed
    exact exists_denial_of_ofQuery passed parsed failed
  · rintro ⟨denial, denied, rfl⟩
    simp only [ofQuery, denied, Outcome.mapError_error, bind, Except.bind]

theorem exists_ofQuery_eq_ok_iff
    (passed : Declaration.Passed declaration mapping) (parsed : query.Parsed) :
    (∃ fragment, ofQuery dialect mapping query = .ok fragment) ↔
      mapping.validate query = .ok () := by
  constructor
  · rintro ⟨fragment, done⟩
    cases outcome : mapping.validate query with
    | ok _ => rfl
    | error denial =>
        have failed : ofQuery dialect mapping query = .error (.denied denial) :=
          (ofQuery_eq_error_iff passed parsed).mpr ⟨denial, outcome, rfl⟩
        rw [done] at failed
        cases failed
  · intro valid
    exact exists_ofQuery_eq_ok passed parsed valid dialect

/-- There is no fragment exactly when the allow-list denies the query, and then the failure is
that of the denial.  Otherwise the fragment covers the query. -/
theorem ofQuery_covers_query
    (built : declaration.build = .ok mapping)
    {input : QueryInput} (parsed : Query.parse input = .ok query) (dialect : Dialect) :
    (∀ fault,
      ofQuery dialect mapping query = .error fault ↔
        ∃ denial,
          mapping.validate query = .error denial ∧
            fault = .denied denial ∧
            fault.failure = denial.failure) ∧
      ((∃ fragment, ofQuery dialect mapping query = .ok fragment) ↔
        mapping.validate query = .ok ()) ∧
      ∀ fragment,
        ofQuery dialect mapping query = .ok fragment →
          fragment.Covers dialect mapping query := by
  have passed := Declaration.passed_of_build built
  have known := Query.parsed_of_parse parsed
  refine ⟨?_, exists_ofQuery_eq_ok_iff passed known, ?_⟩
  · intro fault
    rw [ofQuery_eq_error_iff passed known]
    constructor
    · rintro ⟨denial, denied, rfl⟩
      exact ⟨denial, denied, rfl, rfl⟩
    · rintro ⟨denial, denied, same, _⟩
      exact ⟨denial, denied, same⟩
  · intro fragment done
    have valid := (exists_ofQuery_eq_ok_iff passed known).mp ⟨fragment, done⟩
    exact covers_of_ofQuery passed known valid done

/-- A declaration with two rules for one key, and keys that may be sorted by. -/
def rosterDeclaration : Declaration :=
  (Declaration.relate {} "age" "users.age")
    |>.relate "city" "users.city"
    |>.allowFilter { key := "age", filterType := .integer }
    |>.allowFilter
      { key := "age"
        filterType := .integer
        operators := some [.greaterThan, .lessThan] }
    |>.allowFilter { key := "city", filterType := .inList }
    |>.allowSort "age"
    |>.allowSort "city"

/-- Filters and sorts that are not submitted in the order of their indexes. -/
def rosterInput : QueryInput :=
  .ofPairs
    [("filter[3]", "age>18"), ("filter[1]", "city=[\"Rome\",null]"),
      ("sort[7]", "-age"), ("sort[2]", "city")]

/-- The second rule does not allow the operator. -/
def refusedInput : QueryInput := .ofPairs [("filter[]", "age=18")]

theorem ofQuery_covers_query_roster :
    ∃ mapping query refused fragment,
      rosterDeclaration.build = .ok mapping ∧
        Query.parse rosterInput = .ok query ∧
        ofQuery .mySql mapping query = .ok fragment ∧
        fragment.Covers .mySql mapping query ∧
        query.filters.indexes = [1, 3] ∧
        fragment.whereClause =
          some
            "((users.city IS NULL OR users.city = BINARY :filter_1_0) AND users.age > :filter_3)" ∧
        (fragment.parameters.entries ==
          [("filter_1_0", .string "Rome"), ("filter_3", .integer 18)]) = true ∧
        fragment.orderBy =
          [⟨"users.city", .ascending⟩, ⟨"users.age", .descending⟩] ∧
        Query.parse refusedInput = .ok refused ∧
        ∃ fault denial,
          ofQuery .mySql mapping refused = .error fault ∧
            mapping.validate refused = .error denial ∧
            fault.failure = denial.failure := by
  have accepted :
      (rosterDeclaration.build.toOption.bind fun mapping =>
        (Query.parse rosterInput).toOption.bind fun query =>
          (ofQuery .mySql mapping query).toOption.bind fun fragment =>
            some
              (query.filters.indexes, fragment.whereClause,
                fragment.parameters.entries ==
                  [("filter_1_0", .string "Rome"), ("filter_3", .integer 18)],
                fragment.orderBy)) =
        some
          ([1, 3],
            some
              "((users.city IS NULL OR users.city = BINARY :filter_1_0) AND users.age > :filter_3)",
            true, [⟨"users.city", .ascending⟩, ⟨"users.age", .descending⟩]) := by
    decide +kernel
  have parses : (Query.parse refusedInput).toOption.isSome = true := by
    decide +kernel
  have refuses :
      (rosterDeclaration.build.toOption.bind fun mapping =>
          (Query.parse refusedInput).toOption.bind fun query =>
            (ofQuery .mySql mapping query).toOption).isNone = true := by
    decide +kernel
  obtain ⟨mapping, builds, accepted⟩ := Option.bind_eq_some_iff.mp accepted
  obtain ⟨query, isParsed, accepted⟩ := Option.bind_eq_some_iff.mp accepted
  obtain ⟨fragment, writes, accepted⟩ := Option.bind_eq_some_iff.mp accepted
  simp only [Option.some.injEq, Prod.mk.injEq] at accepted
  obtain ⟨indexes, whereClause, parameters, orderBy⟩ := accepted
  obtain ⟨refused, refusedParsed⟩ := Outcome.exists_eq_ok_of_isSome parses
  have built := Outcome.eq_ok_of_toOption builds
  have parsed := Outcome.eq_ok_of_toOption isParsed
  have done := Outcome.eq_ok_of_toOption writes
  rw [built, refusedParsed] at refuses
  obtain ⟨fault, failed⟩ := Outcome.exists_eq_error_of_isNone refuses
  have covers := (ofQuery_covers_query built parsed .mySql).2.2 fragment done
  obtain ⟨denial, denied, _, sameFailure⟩ :=
    ((ofQuery_covers_query built refusedParsed .mySql).1 fault).mp failed
  exact
    ⟨mapping, query, refused, fragment, built, parsed, done, covers, indexes, whereClause,
      parameters, orderBy, refusedParsed, fault, denial, failed, denied, sameFailure⟩

end FilterQuery.Sql.Fragment
