import FilterQuery.Proofs.Sql.WhereClause

/-!
# A where clause means what the query asks for

When the conditions of a query have the values of its filters, the where clause
evaluates to the value of the query, and to no other one.  This holds whichever
way a dialect writes exclusive or.

* `Evaluates` reads a text and evaluates it;
* `Fragment.Resolution.isFamily` collects what is known of the conditions, given
  that columns keep to the default pattern.
-/

namespace FilterQuery.Sql

/-- The text, read with the conditions as parts, evaluates to the value. -/
def Evaluates
    (texts : List String) (conditions : String → Truth) (text : String)
    (value : Truth) : Prop :=
  ∃ clause, Reads texts text clause ∧ clause.value conditions = value

/-- There is one way only to read a text, so one value. -/
theorem Reads.evaluates_iff
    {texts : List String} {text : String} {clause : Clause}
    (reads : Reads texts text clause) {conditions : String → Truth}
    {value : Truth} :
    Evaluates texts conditions text value ↔ value = clause.value conditions := by
  constructor
  · rintro ⟨other, readsOther, isValue⟩
    rw [← isValue, reads.unique readsOther]
  · intro isValue
    exact ⟨clause, reads, isValue.symm⟩

namespace Fragment

/-- The conditions of a query. -/
def queryConditions
    (dialect : Dialect) (mapping : Mapping) (query : Query) : List String :=
  query.filters.entries.map (conditionText dialect mapping)

/-- The conditions have the values of the filters that they are for. -/
def HaveValues
    (dialect : Dialect) (mapping : Mapping) (query : Query)
    (conditions : String → Truth) (filters : Nat → Truth) : Prop :=
  ∀ entry ∈ query.filters.entries,
    conditions (conditionText dialect mapping entry) = filters entry.1

/-- There is a where clause, and it evaluates to the value. -/
def EvaluatesTo
    (fragment : Fragment) (dialect : Dialect) (mapping : Mapping) (query : Query)
    (conditions : String → Truth) (value : Truth) : Prop :=
  ∃ text,
    fragment.whereClause = some text ∧
      Evaluates (queryConditions dialect mapping query) conditions text value

variable {declaration : Declaration} {mapping : Mapping} {query : Query}

namespace Resolution

variable (resolution : Resolution mapping query)

theorem textsOf_conditions {dialect : Dialect} :
    textsOf (resolution.conditions dialect) =
      queryConditions dialect mapping query := by
  rw [resolution.conditions_eq, textsOf, List.map_map]
  rfl

/-- The conditions of a query that was read and accepted. -/
theorem isFamily
    (passed : Declaration.Passed declaration mapping)
    (isDefault :
      declaration.columnPattern.getD Declaration.defaultColumnPattern =
        Declaration.defaultColumnPattern)
    (parsed : query.Parsed) (dialect : Dialect) :
    IsFamily (resolution.conditions dialect) where
  conditions := by
    intro entry member
    obtain ⟨⟨index, column, filter⟩, isFilter, rfl⟩ := List.mem_map.mp member
    have isEntry : (index, filter) ∈ query.filters.entries := by
      rw [← resolution.sameFilters]
      exact List.mem_map_of_mem isFilter
    obtain ⟨text, isRead⟩ := parsed.filtersRead (index, filter) isEntry
    have isColumn : IsColumn column :=
      passed.isColumn isDefault (resolution.columns _ isFilter)
    refine ⟨_, isCondition_ofFilter isColumn ?_, rfl⟩
    intro items isList
    exact Filter.items_ne_nil_of_parse isRead isList
  ascending := by
    rw [resolution.keys_conditions]
    exact query.filters.ascending

end Resolution

/-- The fragment of one dialect. -/
theorem exists_evaluatesTo
    (built : declaration.build = .ok mapping)
    (isDefault :
      declaration.columnPattern.getD Declaration.defaultColumnPattern =
        Declaration.defaultColumnPattern)
    (parsed : query.Parsed) (valid : mapping.validate query = .ok ())
    (dialect : Dialect) :
    ∃ fragment,
      ofQuery dialect mapping query = .ok fragment ∧
        (fragment.whereClause = none ↔ query.filters.entries = []) ∧
        ∀ conditions filters,
          HaveValues dialect mapping query conditions filters →
            ∀ value,
              fragment.EvaluatesTo dialect mapping query conditions value ↔
                query.filters.entries ≠ [] ∧ value = query.value filters := by
  have passed := Declaration.passed_of_build built
  obtain ⟨resolution⟩ := nonempty_resolution passed parsed valid
  have family := resolution.isFamily passed isDefault parsed dialect
  have conditionsAre :
      resolution.conditions dialect =
        query.filters.entries.map fun entry =>
          (entry.1, conditionText dialect mapping entry) :=
    resolution.conditions_eq
  rw [resolution.ofQuery_eq valid]
  by_cases isEmpty : query.filters.entries = []
  · have noConditions : resolution.conditions dialect = [] := by
      rw [conditionsAre, isEmpty]
      rfl
    refine ⟨_, by rw [noConditions]; rfl, ?_, ?_⟩
    · simp [isEmpty]
    · rintro conditions filters same value
      constructor
      · rintro ⟨text, noText, _⟩
        cases noText
      · rintro ⟨nonempty, _⟩
        exact absurd isEmpty nonempty
  · have nonempty : resolution.conditions dialect ≠ [] := by
      rw [conditionsAre]
      intro noEntries
      exact isEmpty (List.map_eq_nil_iff.mp noEntries)
    obtain ⟨text, clause, isClause, reads, values⟩ :=
      exists_reads_whereClauseOf family nonempty resolution.keys_conditions
        parsed dialect
    rw [resolution.textsOf_conditions] at reads
    refine ⟨_, by rw [isClause]; rfl, ?_, ?_⟩
    · simp [isEmpty]
    · intro conditions filters same value
      have clauseValue : clause.value conditions = query.value filters := by
        apply values
        rw [conditionsAre, List.forall_mem_map]
        exact same
      rw [← clauseValue, ← reads.evaluates_iff]
      constructor
      · rintro ⟨other, isText, evaluates⟩
        cases isText
        exact ⟨isEmpty, evaluates⟩
      · rintro ⟨_, evaluates⟩
        exact ⟨text, rfl, evaluates⟩

/-- A query that was read and accepted has a fragment in each dialect, with a
where clause unless there are no filters.  With conditions that have the values
of the filters, the where clause evaluates to the value of the query, and to
nothing else.  So the where clauses of two dialects evaluate to the same. -/
theorem whereClause_means_query
    (built : declaration.build = .ok mapping)
    (isDefault :
      declaration.columnPattern.getD Declaration.defaultColumnPattern =
        Declaration.defaultColumnPattern)
    {input : QueryInput} (parsed : Query.parse input = .ok query)
    (valid : mapping.validate query = .ok ()) :
    (∀ dialect,
      ∃ fragment,
        ofQuery dialect mapping query = .ok fragment ∧
          (fragment.whereClause = none ↔ query.filters.entries = []) ∧
          ∀ conditions filters,
            HaveValues dialect mapping query conditions filters →
              ∀ value,
                fragment.EvaluatesTo dialect mapping query conditions value ↔
                  query.filters.entries ≠ [] ∧ value = query.value filters) ∧
      ∀ first second firstFragment secondFragment firstConditions
          secondConditions filters,
        ofQuery first mapping query = .ok firstFragment →
        ofQuery second mapping query = .ok secondFragment →
        HaveValues first mapping query firstConditions filters →
        HaveValues second mapping query secondConditions filters →
          ∀ value,
            firstFragment.EvaluatesTo first mapping query firstConditions value ↔
              secondFragment.EvaluatesTo second mapping query secondConditions
                value := by
  have one :=
    exists_evaluatesTo built isDefault (Query.parsed_of_parse parsed) valid
  refine ⟨one, ?_⟩
  intro first second firstFragment secondFragment firstConditions
    secondConditions filters firstDone secondDone firstValues secondValues value
  obtain ⟨_, isFirst, _, firstIff⟩ := one first
  obtain ⟨_, isSecond, _, secondIff⟩ := one second
  rw [firstDone] at isFirst
  rw [secondDone] at isSecond
  cases isFirst
  cases isSecond
  rw [firstIff _ _ firstValues, secondIff _ _ secondValues]

/-- A declaration that allows that filters on two keys exclude each other. -/
def citiesDeclaration : Declaration :=
  (Declaration.relate {} "age" "users.age")
    |>.relate "city" "users.city"
    |>.allowFilter { key := "age", filterType := .integer }
    |>.allowFilter { key := "city", filterType := .inList }
    |>.allowExpression "0xor1"

/-- Two filters of which only one may hold. -/
def citiesInput : QueryInput :=
  .ofPairs
    [("filter[]", "age>18"), ("filter[]", "city=[null]"),
      ("filterExpression", "0xor1")]

/-- Exclusive or is expanded, and one condition stands in its own parentheses. -/
theorem whereClause_means_query_cities :
    ∃ mapping query fragment,
      citiesDeclaration.build = .ok mapping ∧
        Query.parse citiesInput = .ok query ∧
        mapping.validate query = .ok () ∧
        ofQuery .doctrine mapping query = .ok fragment ∧
        fragment.whereClause =
          some ("((users.age > :filter_0 AND NOT ((users.city IS NULL))) OR " ++
            "(NOT (users.age > :filter_0) AND (users.city IS NULL)))") ∧
        ∀ conditions filters,
          HaveValues .doctrine mapping query conditions filters →
            fragment.EvaluatesTo .doctrine mapping query conditions
              ((filters 0).xor (filters 1)) := by
  have computed :
      (citiesDeclaration.build.toOption.bind fun mapping =>
        (Query.parse citiesInput).toOption.bind fun query =>
          (mapping.validate query).toOption.bind fun _ =>
            (ofQuery .doctrine mapping query).toOption.bind fun fragment =>
              some (fragment.whereClause, query.expression.map Expression.tree)) =
        some
          (some ("((users.age > :filter_0 AND NOT ((users.city IS NULL))) OR " ++
              "(NOT (users.age > :filter_0) AND (users.city IS NULL)))"),
            some (.node .xor (.leaf 0) (.leaf 1))) := by
    decide +kernel
  obtain ⟨mapping, builds, computed⟩ := Option.bind_eq_some_iff.mp computed
  obtain ⟨query, parses, computed⟩ := Option.bind_eq_some_iff.mp computed
  obtain ⟨_, accepts, computed⟩ := Option.bind_eq_some_iff.mp computed
  obtain ⟨fragment, writes, computed⟩ := Option.bind_eq_some_iff.mp computed
  obtain ⟨isText, isTree⟩ := Prod.mk.inj (Option.some.inj computed)
  have parsed := Outcome.eq_ok_of_toOption parses
  have valid := Outcome.eq_ok_of_toOption accepts
  have done := Outcome.eq_ok_of_toOption writes
  obtain ⟨other, isOther, isNone, evaluates⟩ :=
    (whereClause_means_query (Outcome.eq_ok_of_toOption builds) rfl parsed
      valid).1 .doctrine
  rw [done] at isOther
  cases isOther
  refine
    ⟨mapping, query, fragment, Outcome.eq_ok_of_toOption builds, parsed, valid,
      done, isText, ?_⟩
  intro conditions filters same
  rw [evaluates conditions filters same]
  constructor
  · intro isEmpty
    rw [isNone.mpr isEmpty] at isText
    cases isText
  · obtain ⟨expression, isGiven, sameTree⟩ := Option.map_eq_some_iff.mp isTree
    rw [Query.value, isGiven]
    simp only [sameTree]
    rfl

end Fragment

end FilterQuery.Sql
