import FilterQuery.Proofs.Expression.RoundTrip
import FilterQuery.Proofs.Filter.Operator
import FilterQuery.Proofs.Query.Entries
import FilterQuery.Query.Basic

/-!
# What a parsed query guarantees

The filters and the expression of a parsed query were read from texts, and the
expression names exactly the indexes of the filters; so there is a filter for
each of its leaves.
-/

namespace FilterQuery

namespace Slots

variable {α : Type}

theorem exists_lookup_iff_mem_keys
    {index : Nat} {entries : List (Nat × α)} :
    (∃ value, lookup index entries = some value) ↔
      index ∈ entries.map Prod.fst := by
  induction entries with
  | nil => simp [lookup]
  | cons entry rest inductionHypothesis =>
      obtain ⟨present, value⟩ := entry
      by_cases same : present = index
      · simp [lookup, same]
      · simp only [lookup, same, if_false, inductionHypothesis, List.map_cons,
          List.mem_cons]
        grind

theorem mem_of_lookup
    {index : Nat} {value : α} {entries : List (Nat × α)}
    (found : lookup index entries = some value) :
    (index, value) ∈ entries := by
  induction entries with
  | nil => cases found
  | cons entry rest inductionHypothesis =>
      obtain ⟨present, held⟩ := entry
      simp only [lookup] at found
      split at found
      · rename_i same
        cases found
        rw [same]
        exact List.mem_cons_self
      · exact List.mem_cons_of_mem _ (inductionHypothesis found)

/-- Each index has one entry only. -/
theorem lookup_of_mem
    {index : Nat} {value : α} {entries : List (Nat × α)}
    (ascending : (entries.map Prod.fst).Pairwise (· < ·))
    (member : (index, value) ∈ entries) :
    lookup index entries = some value := by
  induction entries with
  | nil => cases member
  | cons entry rest inductionHypothesis =>
      obtain ⟨present, held⟩ := entry
      rw [List.map_cons, List.pairwise_cons] at ascending
      rcases List.mem_cons.mp member with same | later
      · cases same
        simp [lookup]
      · have below : present < index :=
          ascending.1 index (List.mem_map_of_mem later)
        simp only [lookup, Nat.ne_of_lt below, if_false]
        exact inductionHypothesis ascending.2 later

end Slots

namespace Query

/-- Nothing is missing from a list when all its members are in the other. -/
theorem isEmpty_missingFrom_iff {indexes others : List Nat} :
    (missingFrom indexes others).isEmpty = true ↔
      ∀ index ∈ indexes, index ∈ others := by
  simp [missingFrom, List.isEmpty_iff, List.filter_eq_nil_iff]

/-- Filters and expression agree when there are filters and both name the same
indexes. -/
theorem checkIndexes_eq_ok_iff
    {filters : Slots Filter} {expression : Expression} :
    checkIndexes filters expression = .ok () ↔
      filters.isEmpty = false ∧
        ∀ index, index ∈ expression.tree.leaves ↔ index ∈ filters.indexes := by
  have sameIndexes :
      (∀ index, index ∈ expression.tree.leaves ↔ index ∈ filters.indexes) ↔
        (∀ index ∈ expression.indexes, index ∈ filters.indexes) ∧
          ∀ index ∈ filters.indexes, index ∈ expression.indexes := by
    simp only [Expression.indexes, Expression.Tree.mem_indexes]
    constructor
    · intro same
      exact ⟨fun index => (same index).mp, fun index => (same index).mpr⟩
    · rintro ⟨named, submitted⟩ index
      exact ⟨named index, submitted index⟩
  rw [sameIndexes, ← isEmpty_missingFrom_iff, ← isEmpty_missingFrom_iff]
  simp only [checkIndexes]
  cases filters.isEmpty with
  | true => simp
  | false =>
      simp only [Bool.false_eq_true, if_false, true_and]
      split
      · rename_i both
        simpa using both
      · rename_i missing
        simpa using missing

/-- What is known of a query that was parsed. -/
structure Parsed (query : Query) : Prop where
  filtersRead :
    ∀ entry ∈ query.filters.entries,
      ∃ text, Filter.parse text = .ok entry.2
  expressionRead :
    ∀ expression, query.expression = some expression →
      ∃ text, Expression.parse text = .ok expression
  expressionAgrees :
    ∀ expression, query.expression = some expression →
      query.filters.isEmpty = false ∧
        ∀ index,
          index ∈ expression.tree.leaves ↔ index ∈ query.filters.indexes

theorem exists_parse_of_readExpression
    {input : QueryInput} {expression : Expression}
    (read : readExpression input = .ok (some expression)) :
    ∃ text, Expression.parse text = .ok expression := by
  unfold readExpression at read
  split at read
  · cases read
  · rename_i text _
    have parsed := Outcome.mapError_eq_ok_iff.mp read
    simp only [Expression.parseOptional] at parsed
    split at parsed
    · cases parsed
    · obtain ⟨found, parses, same⟩ := Outcome.map_eq_ok_iff.mp parsed
      cases same
      exact ⟨text, parses⟩
  · cases read

theorem exists_parse_of_collectParameter
    {ε α : Type} {input : QueryInput} {parameter : Entries.Parameter}
    {read : String → Except ε α} {asFault : Entries.Fault ε → Fault}
    {slots : Slots α}
    (collected : collectParameter input parameter read asFault = .ok slots)
    {entry : Nat × α} (member : entry ∈ slots.entries) :
    ∃ text, read text = .ok entry.2 := by
  unfold collectParameter at collected
  split at collected
  · cases collected
    cases member
  · obtain ⟨_, text, _, _, isRead⟩ :=
      Entries.isReadFrom_of_collect (Outcome.mapError_eq_ok_iff.mp collected)
        member
    exact ⟨text, isRead⟩
  · cases collected

/-- Parameters form a query when each of them can be read, and the expression, if there
is one, agrees with the filters. -/
theorem parse_eq_ok_iff {input : QueryInput} {query : Query} :
    parse input = .ok query ↔
      collectParameter input .filter Filter.parse .filters =
          .ok query.filters ∧
        readExpression input = .ok query.expression ∧
        collectParameter input .sort SortClause.parse .sorts =
          .ok query.sorts ∧
        ∀ expression,
          query.expression = some expression →
            checkIndexes query.filters expression = .ok () := by
  constructor
  · intro parsed
    unfold parse at parsed
    obtain ⟨filters, collected, parsed⟩ := Outcome.bind_eq_ok_iff.mp parsed
    obtain ⟨expression, read, parsed⟩ := Outcome.bind_eq_ok_iff.mp parsed
    obtain ⟨sorts, sorted, parsed⟩ := Outcome.bind_eq_ok_iff.mp parsed
    cases expression with
    | none =>
        cases parsed
        exact ⟨collected, read, sorted, nofun⟩
    | some given =>
        obtain ⟨_, checked, parsed⟩ := Outcome.bind_eq_ok_iff.mp parsed
        cases parsed
        refine ⟨collected, read, sorted, ?_⟩
        intro expression same
        cases same
        exact checked
  · rintro ⟨collected, read, sorted, checked⟩
    obtain ⟨filters, expression, sorts⟩ := query
    simp only at collected read sorted checked
    unfold parse
    rw [collected, read, sorted]
    cases expression with
    | none => rfl
    | some given =>
        simp only [bind, Except.bind, checked given rfl]

theorem parsed_of_parse
    {input : QueryInput} {query : Query} (parsed : parse input = .ok query) :
    Parsed query := by
  obtain ⟨collected, read, _, checked⟩ := parse_eq_ok_iff.mp parsed
  refine ⟨?_, ?_, ?_⟩
  · exact fun _ member => exists_parse_of_collectParameter collected member
  · intro expression isGiven
    rw [isGiven] at read
    exact exists_parse_of_readExpression read
  · intro expression isGiven
    exact checkIndexes_eq_ok_iff.mp (checked expression isGiven)

end Query

end FilterQuery
