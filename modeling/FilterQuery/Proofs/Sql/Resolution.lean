import FilterQuery.Proofs.Mapping.AllowList
import FilterQuery.Sql.Fragment

/-!
# What follows for an accepted query

Once the allow-list has accepted a query, nothing else can fail: every filter and
every sort has a column, and every leaf of the expression has a condition.

* `resolveFilters` keeps all filters, and adds the columns of their keys;
* `resolveSorts` finds the columns of all sorts;
* `Clause.ofTree` finds a condition for each leaf;
* `Fragment.conditionText` is the condition of a filter, on the column of its
  key.
-/

namespace FilterQuery.Sql

namespace Clause

open FilterQuery.Expression

variable {dialect : Dialect} {condition? : Nat → Option String}

/-- A tree becomes a clause when there is a condition for each leaf. -/
theorem exists_ofTree_eq_ok
    {tree : Tree}
    (conditions :
      ∀ index ∈ tree.leaves, ∃ text, condition? index = some text) :
    ∃ clause, ofTree dialect condition? tree = .ok clause := by
  induction tree with
  | leaf index =>
      obtain ⟨text, found⟩ := conditions index (List.mem_singleton.mpr rfl)
      exact ⟨.condition text, by simp only [ofTree, found]⟩
  | node operator left right leftHypothesis rightHypothesis =>
      obtain ⟨leftClause, leftDone⟩ :=
        leftHypothesis fun index member =>
          conditions index (List.mem_append_left _ member)
      obtain ⟨rightClause, rightDone⟩ :=
        rightHypothesis fun index member =>
          conditions index (List.mem_append_right _ member)
      refine ⟨combine dialect operator leftClause rightClause, ?_⟩
      simp only [ofTree, leftDone, rightDone]
      rfl

end Clause

namespace Fragment

variable {declaration : Declaration} {mapping : Mapping}

/-- With an expression, the combined text is that of a clause. -/
theorem combineConditions_some_eq_ok_iff
    {dialect : Dialect} {conditions : List (Nat × String)}
    {expression : Expression} {text : String} :
    combineConditions dialect conditions (some expression) = .ok text ↔
      ∃ clause,
        Clause.ofTree dialect (Slots.lookup · conditions) expression.tree =
            .ok clause ∧
          clause.text = text := by
  rw [combineConditions]
  cases Clause.ofTree dialect (Slots.lookup · conditions) expression.tree with
  | error index => simp
  | ok clause => simp

/-- A filter without its column. -/
def unresolved (resolved : Nat × String × Filter) : Nat × Filter :=
  (resolved.1, resolved.2.2)

/-- The first rule that governs a filter has its key. -/
theorem exists_firstRule_of_isGoverned
    {filter : Filter} (governed : mapping.IsGoverned filter) :
    ∃ rule ∈ mapping.rules,
      mapping.firstRule? filter = some rule ∧ rule.key = filter.key := by
  obtain ⟨rule, member, governs⟩ := governed
  have someRule : (mapping.firstRule? filter).isSome = true := by
    rw [Mapping.firstRule?, List.find?_isSome]
    exact ⟨rule, member, Rule.governs_eq_true_iff.mpr governs⟩
  obtain ⟨first, isFirst⟩ := Option.isSome_iff_exists.mp someRule
  have found : mapping.rules.find? (·.governs filter) = some first := isFirst
  have passes := List.find?_some found
  have firstGoverns : first.Governs filter := Rule.governs_eq_true_iff.mp passes
  exact ⟨first, List.mem_of_find?_eq_some found, isFirst, firstGoverns.1⟩

/-- Filters that are governed all find the columns of their keys. -/
theorem exists_resolveFilters_eq_ok
    (passed : Declaration.Passed declaration mapping)
    {entries : List (Nat × Filter)}
    (governed : ∀ entry ∈ entries, mapping.IsGoverned entry.2) :
    ∃ resolved,
      resolveFilters mapping entries = .ok resolved ∧
        resolved.map unresolved = entries ∧
        ∀ entry ∈ resolved,
          mapping.column? entry.2.2.key = some entry.2.1 := by
  induction entries with
  | nil => exact ⟨[], rfl, rfl, nofun⟩
  | cons entry rest inductionHypothesis =>
      obtain ⟨index, filter⟩ := entry
      obtain ⟨filterGoverned, restGoverned⟩ := List.forall_mem_cons.mp governed
      obtain ⟨rule, isRule, isFirst, sameKey⟩ :=
        exists_firstRule_of_isGoverned filterGoverned
      obtain ⟨column, related⟩ := passed.exists_column_of_rule isRule
      obtain ⟨resolved, resolves, same, columns⟩ :=
        inductionHypothesis restGoverned
      refine ⟨(index, column, filter) :: resolved, ?_, ?_, ?_⟩
      · simp only [resolveFilters, isFirst, related, resolves]
        rfl
      · rw [List.map_cons, same]
        rfl
      · rw [List.forall_mem_cons]
        exact ⟨sameKey ▸ related, columns⟩

/-- Sorts that are allowed all find the columns of their keys. -/
theorem exists_resolveSorts_eq_ok
    (passed : Declaration.Passed declaration mapping)
    {sorts : List SortClause}
    (allowed : ∀ sort ∈ sorts, sort.key ∈ mapping.sorts) :
    ∃ fields, resolveSorts mapping sorts = .ok fields := by
  induction sorts with
  | nil => exact ⟨[], rfl⟩
  | cons sort rest inductionHypothesis =>
      obtain ⟨sortAllowed, restAllowed⟩ := List.forall_mem_cons.mp allowed
      have isAllowed : mapping.allowsSort sort.key = true :=
        List.contains_iff_mem.mpr sortAllowed
      obtain ⟨column, related⟩ := passed.exists_column_of_sort isAllowed
      obtain ⟨fields, resolves⟩ := inductionHypothesis restAllowed
      refine ⟨⟨column, sort.order⟩ :: fields, ?_⟩
      simp only [resolveSorts, isAllowed, if_true, related, resolves]
      rfl

/-- The conditions have the indexes of their filters. -/
theorem keys_conditionTexts
    {dialect : Dialect} {resolved : List (Nat × String × Filter)} :
    (conditionTexts dialect resolved).map Prod.fst =
      (resolved.map unresolved).map Prod.fst := by
  simp only [conditionTexts, List.map_map]
  rfl

/-- The condition of a filter, on the column of its key. -/
def conditionText
    (dialect : Dialect) (mapping : Mapping) (entry : Nat × Filter) : String :=
  let column := (mapping.column? entry.2.key).getD ""
  (Condition.ofFilter dialect entry.1 column entry.2).text

/-- What there is for a query that was accepted: the filters with the columns of
their keys, and the columns to order by. -/
structure Resolution (mapping : Mapping) (query : Query) where
  filters : List (Nat × String × Filter)
  fields : List OrderBy
  filtersResolve :
    resolveFilters mapping query.filters.entries = .ok filters
  fieldsResolve : resolveSorts mapping query.sorts.values = .ok fields
  sameFilters : filters.map unresolved = query.filters.entries
  columns :
    ∀ entry ∈ filters, mapping.column? entry.2.2.key = some entry.2.1

/-- A query that was parsed and accepted can be resolved. -/
theorem nonempty_resolution
    (passed : Declaration.Passed declaration mapping)
    {query : Query} (parsed : query.Parsed)
    (valid : mapping.validate query = .ok ()) :
    Nonempty (Resolution mapping query) := by
  have accepted : mapping.Accepts query :=
    (Mapping.accepts_iff_of_passed passed parsed).mp valid
  have governed :
      ∀ entry ∈ query.filters.entries, mapping.IsGoverned entry.2 :=
    fun entry member =>
      (accepted.filters entry.2 (List.mem_map_of_mem member)).1
  obtain ⟨filters, filtersResolve, sameFilters, columns⟩ :=
    exists_resolveFilters_eq_ok passed governed
  obtain ⟨fields, fieldsResolve⟩ :=
    exists_resolveSorts_eq_ok passed accepted.sorts
  exact
    ⟨⟨filters, fields, filtersResolve, fieldsResolve, sameFilters, columns⟩⟩

namespace Resolution

variable {query : Query} (resolution : Resolution mapping query)

/-- The conditions of the filters. -/
def conditions (dialect : Dialect) : List (Nat × String) :=
  conditionTexts dialect resolution.filters

theorem keys_conditions {dialect : Dialect} :
    (resolution.conditions dialect).map Prod.fst = query.filters.indexes := by
  rw [conditions, keys_conditionTexts, resolution.sameFilters]
  rfl

theorem conditions_eq {dialect : Dialect} :
    resolution.conditions dialect =
      query.filters.entries.map fun entry =>
        (entry.1, conditionText dialect mapping entry) := by
  rw [← resolution.sameFilters, List.map_map]
  apply List.map_congr_left
  intro entry member
  simp only [Function.comp_apply, unresolved, conditionText,
    resolution.columns entry member, Option.getD_some]

/-- There is a condition for each leaf of the expression. -/
theorem exists_condition_of_mem_leaves
    (parsed : query.Parsed) {dialect : Dialect} {expression : Expression}
    (isGiven : query.expression = some expression) :
    ∀ index ∈ expression.tree.leaves,
      ∃ text,
        Slots.lookup index (resolution.conditions dialect) = some text := by
  intro index member
  rw [Slots.exists_lookup_iff_mem_keys, resolution.keys_conditions]
  exact ((parsed.expressionAgrees expression isGiven).2 index).mp member

/-- The fragment of an accepted query comes down to its where clause. -/
theorem ofQuery_eq
    (valid : mapping.validate query = .ok ()) (dialect : Dialect) :
    ofQuery dialect mapping query =
      (whereClauseOf dialect (resolution.conditions dialect)
          query.expression).map fun whereClause =>
        { whereClause
          parameters := parametersOf dialect resolution.filters
          orderBy := resolution.fields } := by
  simp only [ofQuery, valid, resolution.filtersResolve,
    resolution.fieldsResolve, conditions, Outcome.mapError_ok, bind, Except.bind]
  cases whereClauseOf dialect (conditionTexts dialect resolution.filters)
    query.expression with
  | error fault => rfl
  | ok text => rfl

/-- The fragment with a where clause. -/
def fragment (dialect : Dialect) (whereClause : Option String) : Fragment where
  whereClause := whereClause
  parameters := parametersOf dialect resolution.filters
  orderBy := resolution.fields

theorem ofQuery_eq_ok
    (valid : mapping.validate query = .ok ()) {dialect : Dialect}
    {whereClause : Option String}
    (done :
      whereClauseOf dialect (resolution.conditions dialect) query.expression =
        .ok whereClause) :
    ofQuery dialect mapping query =
      .ok (resolution.fragment dialect whereClause) := by
  rw [resolution.ofQuery_eq valid, done]
  rfl

/-- There is always a where clause, or there are no filters. -/
theorem exists_whereClauseOf_eq_ok
    (parsed : query.Parsed) (dialect : Dialect) :
    ∃ whereClause,
      whereClauseOf dialect (resolution.conditions dialect)
        query.expression = .ok whereClause := by
  unfold whereClauseOf
  split
  · exact ⟨none, rfl⟩
  · cases isGiven : query.expression with
    | none => exact ⟨_, rfl⟩
    | some expression =>
        obtain ⟨clause, combined⟩ :
            ∃ clause,
              Clause.ofTree dialect
                (Slots.lookup · (resolution.conditions dialect))
                expression.tree = .ok clause :=
          Clause.exists_ofTree_eq_ok
            (resolution.exists_condition_of_mem_leaves parsed isGiven)
        have isText := combineConditions_some_eq_ok_iff.mpr ⟨clause, combined, rfl⟩
        exact ⟨enclose clause.text, Outcome.map_eq_ok_iff.mpr ⟨_, isText, rfl⟩⟩

end Resolution

/-- An accepted query has a fragment. -/
theorem exists_ofQuery_eq_ok
    (passed : Declaration.Passed declaration mapping)
    {query : Query} (parsed : query.Parsed)
    (valid : mapping.validate query = .ok ()) (dialect : Dialect) :
    ∃ fragment, ofQuery dialect mapping query = .ok fragment := by
  obtain ⟨resolution⟩ := nonempty_resolution passed parsed valid
  obtain ⟨whereClause, done⟩ :=
    resolution.exists_whereClauseOf_eq_ok parsed dialect
  exact ⟨_, resolution.ofQuery_eq_ok valid done⟩

end Fragment

end FilterQuery.Sql
