import FilterQuery.Proofs.Sql.Bindings
import FilterQuery.Proofs.Sql.WhereClause

/-!
# Placeholders and parameters of a fragment

The placeholders of a where clause are the names of the parameters that are bound
(`Fragment.placeholders_match_parameters`).

* Neither operators nor parentheses add names to those of the conditions or join
  names to longer ones;
* the filters of a query have different indexes, so their parameters have
  different names and no value replaces another one.
-/

namespace FilterQuery.Sql

/-! ## Names in clauses -/

namespace Clause

theorem placeholders_operand (clause : Clause) :
    placeholders clause.operand.toList = placeholders clause.text.toList := by
  cases clause with
  | operation operator left right =>
      rw [toList_operand_operation, placeholders_enclosed]
  | condition text => rfl
  | negation inner => rfl
  | xorCall left right => rfl

/-- The names in a clause are those in its conditions. -/
theorem placeholders_text (clause : Clause) :
    placeholders clause.text.toList =
      clause.conditions.flatMap fun text => placeholders text.toList := by
  induction clause with
  | condition text => exact (List.flatMap_singleton _ _).symm
  | negation inner inductionHypothesis =>
      rw [toList_text_negation, placeholders_append_of_not_mem (by decide),
        placeholders_enclosed, inductionHypothesis]
      rfl
  | operation operator left right leftHypothesis rightHypothesis =>
      rw [toList_text_operation,
        placeholders_append_isSeparator (isSeparator_operator operator),
        placeholders_operand, placeholders_operand, leftHypothesis,
        rightHypothesis, conditions, List.flatMap_append]
  | xorCall left right leftHypothesis rightHypothesis =>
      have separates : isSeparator ", ".toList = true := by decide
      rw [toList_text_xorCall, placeholders_append_of_not_mem (by decide),
        placeholders_append_isSeparator separates,
        placeholders_append (endsNames_closing []), placeholders_operand,
        placeholders_operand, leftHypothesis, rightHypothesis, conditions,
        List.flatMap_append]
      exact congrArg _ (List.append_nil _)

end Clause

/-! ## Names in enclosed texts -/

theorem isNameCharacter_of_isWrapping
    {character : Char} (isWrapping : isWrapping character = true) :
    isNameCharacter character = false ∧ character ≠ ':' := by
  have notColumn : ¬IsColumnCharacter character := by
    intro isColumn
    have others := ne_of_isColumnCharacter isColumn
    simp [Sql.isWrapping, isBlank_of_isColumnCharacter isColumn, others.2.1,
      others.2.2.1] at isWrapping
  constructor
  · rw [Bool.eq_false_iff]
    intro isName
    exact notColumn (isColumnCharacter_of_isNameCharacter isName)
  · rintro rfl
    exact absurd isWrapping (by decide)

theorem not_mem_colon_of_isWrapping
    {characters : List Char} (wrapping : characters.all isWrapping = true) :
    ':' ∉ characters := by
  intro member
  have isWrapping := List.all_eq_true.mp wrapping ':' member
  exact (isNameCharacter_of_isWrapping isWrapping).2 rfl

/-- What is taken off around a text has no names. -/
theorem placeholders_of_wrapsTo
    {characters inner : List Char} (wraps : WrapsTo characters inner) :
    placeholders inner = placeholders characters := by
  obtain ⟨before, after, rfl, isBefore, isAfter⟩ := wraps
  have ends : EndsNames after := by
    intro next isNext
    have member : next ∈ after := List.mem_of_head? isNext
    have isWrapping := List.all_eq_true.mp isAfter next member
    exact (isNameCharacter_of_isWrapping isWrapping).1
  rw [placeholders_append_of_not_mem (not_mem_colon_of_isWrapping isBefore),
    placeholders_append ends,
    placeholders_of_not_mem (not_mem_colon_of_isWrapping isAfter),
    List.append_nil]

/-- The names in a text that may be missing. -/
def placeholders? (text : Option String) : List String :=
  text.elim [] fun text => placeholders text.toList

theorem placeholders?_enclose (text : String) :
    placeholders? (enclose text) = placeholders text.toList := by
  have stripped : placeholders (strip text.toList) = placeholders text.toList :=
    placeholders_of_wrapsTo (wrapsTo_strip text.toList)
  rw [← stripped]
  unfold enclose
  split
  · rename_i isEmpty
    rw [isEmpty]
    rfl
  · rw [placeholders?, Option.elim_some, toList_enclosed, placeholders_enclosed,
      String.toList_ofList]

namespace Fragment

/-! ## Names in where clauses -/

/-- The where clause has exactly the names of the conditions. -/
theorem mem_placeholders_whereClauseOf
    {dialect : Dialect} {entries : List (Nat × String)}
    {expression : Option Expression} {whereClause : Option String}
    (ascending : (entries.map Prod.fst).Pairwise (· < ·))
    (agrees :
      ∀ given, expression = some given →
        ∀ index, index ∈ given.tree.leaves ↔ index ∈ entries.map Prod.fst)
    (done : whereClauseOf dialect entries expression = .ok whereClause)
    {name : String} :
    name ∈ placeholders? whereClause ↔
      ∃ entry ∈ entries, name ∈ placeholders entry.2.toList := by
  unfold whereClauseOf at done
  split at done
  · rename_i isEmpty
    cases done
    rw [List.isEmpty_iff.mp isEmpty]
    simp [placeholders?]
  · obtain ⟨text, combined, rfl⟩ := Outcome.map_eq_ok_iff.mp done
    rw [placeholders?_enclose]
    cases expression with
    | none =>
        cases combined
        rw [placeholders_intercalate (by decide), List.flatMap_map,
          List.mem_flatMap]
    | some given =>
        obtain ⟨clause, built, rfl⟩ := combineConditions_some_eq_ok_iff.mp combined
        rw [Clause.placeholders_text, List.mem_flatMap]
        constructor
        · rintro ⟨condition, member, isNamed⟩
          obtain ⟨index, _, found⟩ :=
            (Clause.mem_conditions_ofTree built).mp member
          exact ⟨(index, condition), Slots.mem_of_lookup found, isNamed⟩
        · rintro ⟨⟨index, condition⟩, member, isNamed⟩
          have isLeaf : index ∈ given.tree.leaves :=
            (agrees given rfl index).mpr (List.mem_map_of_mem member)
          have found := Slots.lookup_of_mem ascending member
          exact
            ⟨condition,
              (Clause.mem_conditions_ofTree built).mpr ⟨index, isLeaf, found⟩,
              isNamed⟩

/-! ## Names of parameters -/

/-- What is written as parameters while the conditions of a query are built, one
after the other. -/
def queryBindings (dialect : Dialect) (query : Query) : List (String × Value) :=
  query.filters.entries.flatMap fun entry => bindings dialect entry.1 entry.2

/-- The names in a where clause. -/
def placeholders (fragment : Fragment) : List String :=
  placeholders? fragment.whereClause

variable {dialect : Dialect} {query : Query}

theorem map_fst_queryBindings :
    (queryBindings dialect query).map Prod.fst =
      query.filters.entries.flatMap fun entry =>
        bindingNames dialect entry.1 entry.2 :=
  List.map_flatMap

/-- No parameter is written twice. -/
theorem nodup_queryBindings (dialect : Dialect) (query : Query) :
    ((queryBindings dialect query).map Prod.fst).Nodup := by
  rw [map_fst_queryBindings, List.nodup_flatMap]
  constructor
  · intro entry _
    exact nodup_bindingNames dialect entry.1 entry.2
  · have ascending := List.pairwise_map.mp query.filters.ascending
    apply ascending.imp
    intro first second below name isFirst isSecond
    have sameIndex : first.1 = second.1 :=
      (isNameOf_of_mem_bindingNames isFirst).index_eq
        (isNameOf_of_mem_bindingNames isSecond)
    omega

namespace Resolution

variable {mapping : Mapping} (resolution : Resolution mapping query)

theorem entries_parametersOf :
    (parametersOf dialect resolution.filters).entries =
      queryBindings dialect query := by
  have written :
      parametersOf dialect resolution.filters =
        .ofList (queryBindings dialect query) := by
    rw [queryBindings, ← resolution.sameFilters, List.flatMap_map]
    rfl
  rw [written]
  exact OrderedMap.entries_ofList (nodup_queryBindings dialect query)

variable {declaration : Declaration}

/-- The condition of a filter has the names of its parameters. -/
theorem placeholders_conditionText
    (resolution : Resolution mapping query)
    (passed : Declaration.Passed declaration mapping)
    (isDefault :
      declaration.columnPattern.getD Declaration.defaultColumnPattern =
        Declaration.defaultColumnPattern)
    {entry : Nat × Filter} (member : entry ∈ query.filters.entries) :
    Sql.placeholders (conditionText dialect mapping entry).toList =
      bindingNames dialect entry.1 entry.2 := by
  rw [← resolution.sameFilters] at member
  obtain ⟨⟨index, column, filter⟩, isFilter, rfl⟩ := List.mem_map.mp member
  have related : mapping.column? filter.key = some column :=
    resolution.columns _ isFilter
  have isColumn : IsColumn column := passed.isColumn isDefault related
  simp only [conditionText, unresolved, related, Option.getD_some]
  exact placeholders_ofFilter isColumn

/-- The where clause has the names that are written. -/
theorem mem_placeholders_iff
    (passed : Declaration.Passed declaration mapping)
    (isDefault :
      declaration.columnPattern.getD Declaration.defaultColumnPattern =
        Declaration.defaultColumnPattern)
    (parsed : query.Parsed) {whereClause : Option String}
    (done :
      whereClauseOf dialect (resolution.conditions dialect) query.expression =
        .ok whereClause)
    {name : String} :
    name ∈ placeholders? whereClause ↔
      name ∈ (queryBindings dialect query).map Prod.fst := by
  have sameKeys :
      (resolution.conditions dialect).map Prod.fst = query.filters.indexes :=
    resolution.keys_conditions
  have ascending :
      ((resolution.conditions dialect).map Prod.fst).Pairwise (· < ·) := by
    rw [sameKeys]
    exact query.filters.ascending
  have agrees :
      ∀ given, query.expression = some given →
        ∀ index,
          index ∈ given.tree.leaves ↔
            index ∈ (resolution.conditions dialect).map Prod.fst := by
    rw [sameKeys]
    exact fun given isGiven => (parsed.expressionAgrees given isGiven).2
  rw [mem_placeholders_whereClauseOf ascending agrees done,
    resolution.conditions_eq, map_fst_queryBindings, List.mem_flatMap]
  constructor
  · rintro ⟨condition, member, isNamed⟩
    obtain ⟨entry, isEntry, rfl⟩ := List.mem_map.mp member
    rw [resolution.placeholders_conditionText passed isDefault isEntry] at isNamed
    exact ⟨entry, isEntry, isNamed⟩
  · rintro ⟨entry, isEntry, isNamed⟩
    refine ⟨_, List.mem_map_of_mem isEntry, ?_⟩
    rw [resolution.placeholders_conditionText passed isDefault isEntry]
    exact isNamed

end Resolution

variable {declaration : Declaration} {mapping : Mapping}

/-- A query that was read and accepted has a fragment in each dialect.  The where
clause has the names of the parameters and no other ones, and no parameter is
written twice: all that is written is kept. -/
theorem placeholders_match_parameters
    (built : declaration.build = .ok mapping)
    (isDefault :
      declaration.columnPattern.getD Declaration.defaultColumnPattern =
        Declaration.defaultColumnPattern)
    {input : QueryInput} (parsed : Query.parse input = .ok query)
    (valid : mapping.validate query = .ok ()) (dialect : Dialect) :
    ∃ fragment,
      ofQuery dialect mapping query = .ok fragment ∧
        (∀ name,
          name ∈ fragment.placeholders ↔ name ∈ fragment.parameters.keys) ∧
        ((queryBindings dialect query).map Prod.fst).Nodup ∧
        fragment.parameters.entries = queryBindings dialect query := by
  have passed := Declaration.passed_of_build built
  have known := Query.parsed_of_parse parsed
  obtain ⟨resolution⟩ := nonempty_resolution passed known valid
  obtain ⟨whereClause, done⟩ :=
    resolution.exists_whereClauseOf_eq_ok known dialect
  refine
    ⟨resolution.fragment dialect whereClause, resolution.ofQuery_eq_ok valid done,
      ?_, nodup_queryBindings dialect query, resolution.entries_parametersOf⟩
  intro name
  rw [OrderedMap.keys, Resolution.fragment, resolution.entries_parametersOf]
  exact resolution.mem_placeholders_iff passed isDefault known done

/-- A declaration that allows to look for several cities. -/
def residentsDeclaration : Declaration :=
  (Declaration.relate {} "age" "users.age")
    |>.relate "city" "users.city"
    |>.allowFilter { key := "age", filterType := .integer }
    |>.allowFilter { key := "city", filterType := .inList }

/-- A list with a repeated element, and one that asks for nothing. -/
def residentsInput : QueryInput :=
  .ofPairs
    [("filter[]", "age>18"),
      ("filter[]", "city!=[\"Rome\",null,\"Rome\",\"Oslo\"]")]

/-- Repeated elements and nothing have no parameters, and the other elements keep
their positions. -/
theorem placeholders_match_parameters_residents :
    ∃ mapping query fragment,
      residentsDeclaration.build = .ok mapping ∧
        Query.parse residentsInput = .ok query ∧
        mapping.validate query = .ok () ∧
        ofQuery .mySql mapping query = .ok fragment ∧
        fragment.parameters.keys = ["filter_0", "filter_1_0", "filter_1_3"] ∧
        ∀ name,
          name ∈ fragment.placeholders ↔
            name ∈ ["filter_0", "filter_1_0", "filter_1_3"] := by
  have computed :
      (residentsDeclaration.build.toOption.bind fun mapping =>
        (Query.parse residentsInput).toOption.bind fun query =>
          (mapping.validate query).toOption.bind fun _ =>
            (ofQuery .mySql mapping query).toOption.bind fun fragment =>
              some fragment.parameters.keys) =
        some ["filter_0", "filter_1_0", "filter_1_3"] := by
    decide +kernel
  obtain ⟨mapping, builds, computed⟩ := Option.bind_eq_some_iff.mp computed
  obtain ⟨query, parses, computed⟩ := Option.bind_eq_some_iff.mp computed
  obtain ⟨_, accepts, computed⟩ := Option.bind_eq_some_iff.mp computed
  obtain ⟨fragment, writes, computed⟩ := Option.bind_eq_some_iff.mp computed
  have keys := Option.some.inj computed
  have built := Outcome.eq_ok_of_toOption builds
  have parsed := Outcome.eq_ok_of_toOption parses
  have valid := Outcome.eq_ok_of_toOption accepts
  have done := Outcome.eq_ok_of_toOption writes
  obtain ⟨other, isOther, sameNames, _, _⟩ :=
    placeholders_match_parameters built rfl parsed valid .mySql
  rw [done] at isOther
  cases isOther
  rw [keys] at sameNames
  exact ⟨mapping, query, fragment, built, parsed, valid, done, keys, sameNames⟩

end Fragment

end FilterQuery.Sql
