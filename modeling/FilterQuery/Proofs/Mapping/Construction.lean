import FilterQuery.Mapping.Basic
import FilterQuery.Proofs.Collection.OrderedMap
import FilterQuery.Proofs.Outcome

/-!
# What a built mapping guarantees

`Declaration.build` succeeds exactly when each of its checks does.  A mapping
that was built relates the key of every rule and of every sort to a column, its
columns match the declared pattern, and its expressions were read from texts.
-/

namespace FilterQuery

namespace Declaration

/-! ## Single checks -/

theorem checkRelations_eq_ok_iff
    {keyPattern columnPattern : Pattern} {relations : List (String × String)} :
    checkRelations keyPattern columnPattern relations = .ok () ↔
      ∀ relation ∈ relations,
        keyPattern.isMatch relation.1 = true ∧
          columnPattern.isMatch relation.2 = true := by
  induction relations with
  | nil => simp [checkRelations]
  | cons relation rest inductionHypothesis =>
      obtain ⟨key, column⟩ := relation
      rw [List.forall_mem_cons, ← inductionHypothesis]
      by_cases keyMatches : keyPattern.isMatch key = true
      · by_cases columnMatches : columnPattern.isMatch column = true
        · simp [checkRelations, keyMatches, columnMatches]
        · simp [checkRelations, keyMatches, columnMatches]
      · simp [checkRelations, keyMatches]

theorem checkRules_eq_ok_iff
    {relations : OrderedMap String String} {rules : List Rule} :
    checkRules relations rules = .ok () ↔
      ∀ rule ∈ rules,
        relations.contains rule.key = true ∧ rule.fault? = none := by
  induction rules with
  | nil => simp [checkRules]
  | cons rule rest inductionHypothesis =>
      rw [List.forall_mem_cons, ← inductionHypothesis]
      by_cases related : relations.contains rule.key = true
      · cases isFault : rule.fault? with
        | none => simp [checkRules, related, isFault]
        | some fault => simp [checkRules, related, isFault]
      · simp [checkRules, related]

theorem checkSorts_eq_ok_iff
    {relations : OrderedMap String String} {sorts : List String} :
    checkSorts relations sorts = .ok () ↔
      ∀ key ∈ sorts, relations.contains key = true := by
  induction sorts with
  | nil => simp [checkSorts]
  | cons key rest inductionHypothesis =>
      rw [List.forall_mem_cons, ← inductionHypothesis]
      by_cases related : relations.contains key = true
      · simp [checkSorts, related]
      · simp [checkSorts, related]

/-- Declared expressions can be read when each of them can be, and their order is kept. -/
theorem readExpressions_eq_ok_iff
    {texts : List String} {rules : List ExpressionRule} :
    readExpressions texts = .ok rules ↔
      texts.map ExpressionRule.parse = rules.map .ok := by
  induction texts generalizing rules with
  | nil => cases rules <;> simp [readExpressions]
  | cons text rest inductionHypothesis =>
      cases parsed : ExpressionRule.parse text with
      | error fault => cases rules <;> simp [readExpressions, parsed]
      | ok first =>
          simp only [readExpressions, parsed, Outcome.map_eq_ok_iff,
            inductionHypothesis, List.map_cons]
          constructor
          · rintro ⟨others, sameRest, rfl⟩
            rw [sameRest, List.map_cons]
          · intro same
            obtain ⟨rule, others, rfl, sameFirst, sameRest⟩ :=
              List.map_eq_cons_iff.mp same.symm
            cases sameFirst
            exact ⟨others, sameRest.symm, rfl⟩

/-- The rules of declared expressions are those that their texts stand for. -/
theorem mem_iff_exists_parse_of_readExpressions
    {texts : List String} {rules : List ExpressionRule}
    (read : readExpressions texts = .ok rules) {rule : ExpressionRule} :
    rule ∈ rules ↔ ∃ text ∈ texts, ExpressionRule.parse text = .ok rule := by
  have sameOutcomes := readExpressions_eq_ok_iff.mp read
  calc
    rule ∈ rules ↔
        (.ok rule : Except Expression.Fault ExpressionRule) ∈ rules.map .ok := by
      simp
    _ ↔ .ok rule ∈ texts.map ExpressionRule.parse := by rw [sameOutcomes]
    _ ↔ ∃ text ∈ texts, ExpressionRule.parse text = .ok rule := List.mem_map

theorem exists_readExpressions_eq_ok_iff {texts : List String} :
    (∃ rules, readExpressions texts = .ok rules) ↔
      ∀ text ∈ texts, ∃ rule, ExpressionRule.parse text = .ok rule := by
  constructor
  · rintro ⟨rules, read⟩ text member
    have sameOutcomes := readExpressions_eq_ok_iff.mp read
    have isOutcome :
        ExpressionRule.parse text ∈ rules.map .ok := by
      rw [← sameOutcomes]
      exact List.mem_map_of_mem member
    obtain ⟨rule, _, parsed⟩ := List.mem_map.mp isOutcome
    exact ⟨rule, parsed.symm⟩
  · intro allParsed
    induction texts with
    | nil => exact ⟨[], rfl⟩
    | cons text rest inductionHypothesis =>
        obtain ⟨textParsed, restParsed⟩ := List.forall_mem_cons.mp allParsed
        obtain ⟨rule, parsed⟩ := textParsed
        obtain ⟨others, read⟩ := inductionHypothesis restParsed
        refine ⟨rule :: others, ?_⟩
        simp only [readExpressions, parsed, read]
        rfl

/-! ## The whole mapping -/

/-- What declarations have to fulfil so that there is a mapping. -/
structure Consistent (declaration : Declaration) : Prop where
  keysMatch :
    ∃ pattern,
      compilePattern .key (declaration.keyPattern.getD defaultKeyPattern) =
          .ok pattern ∧
        ∀ relation ∈ declaration.relations.entries,
          pattern.isMatch relation.1 = true
  columnsMatch :
    ∃ pattern,
      compilePattern .column
          (declaration.columnPattern.getD defaultColumnPattern) =
          .ok pattern ∧
        ∀ relation ∈ declaration.relations.entries,
          pattern.isMatch relation.2 = true
  rulesSound :
    ∀ rule ∈ declaration.rules,
      declaration.relations.contains rule.key = true ∧ rule.fault? = none
  sortsRelated :
    ∀ key ∈ declaration.sorts, declaration.relations.contains key = true
  expressionsRead :
    ∀ text ∈ declaration.expressions,
      ∃ rule, ExpressionRule.parse text = .ok rule

/-- The mapping of the declarations, with the expressions as they were read. -/
def mappingWith
    (declaration : Declaration) (expressions : List ExpressionRule) :
    Mapping where
  relations := declaration.relations
  rules := declaration.rules
  sorts := declaration.sorts
  expressions := expressions
  validator := declaration.validator.getD .standard

theorem build_eq_ok_iff {declaration : Declaration} {mapping : Mapping} :
    declaration.build = .ok mapping ↔
      declaration.Consistent ∧
        ∃ expressions,
          readExpressions declaration.expressions = .ok expressions ∧
            mapping = declaration.mappingWith expressions := by
  constructor
  · intro built
    unfold build at built
    obtain ⟨keyPattern, keyCompiled, built⟩ := Outcome.bind_eq_ok_iff.mp built
    obtain ⟨columnPattern, columnCompiled, built⟩ :=
      Outcome.bind_eq_ok_iff.mp built
    obtain ⟨_, relations, built⟩ := Outcome.bind_eq_ok_iff.mp built
    obtain ⟨_, rules, built⟩ := Outcome.bind_eq_ok_iff.mp built
    obtain ⟨_, sorts, built⟩ := Outcome.bind_eq_ok_iff.mp built
    obtain ⟨expressions, read, built⟩ := Outcome.bind_eq_ok_iff.mp built
    have allMatch := checkRelations_eq_ok_iff.mp relations
    cases built
    refine ⟨?_, expressions, read, rfl⟩
    exact
      { keysMatch :=
          ⟨keyPattern, keyCompiled, fun relation member =>
            (allMatch relation member).1⟩
        columnsMatch :=
          ⟨columnPattern, columnCompiled, fun relation member =>
            (allMatch relation member).2⟩
        rulesSound := checkRules_eq_ok_iff.mp rules
        sortsRelated := checkSorts_eq_ok_iff.mp sorts
        expressionsRead := exists_readExpressions_eq_ok_iff.mp ⟨_, read⟩ }
  · rintro ⟨consistent, expressions, read, rfl⟩
    obtain ⟨keyPattern, keyCompiled, keysMatch⟩ := consistent.keysMatch
    obtain ⟨columnPattern, columnCompiled, columnsMatch⟩ :=
      consistent.columnsMatch
    have relations :
        checkRelations keyPattern columnPattern declaration.relations.entries =
          .ok () :=
      checkRelations_eq_ok_iff.mpr fun relation member =>
        ⟨keysMatch relation member, columnsMatch relation member⟩
    have rules := checkRules_eq_ok_iff.mpr consistent.rulesSound
    have sorts := checkSorts_eq_ok_iff.mpr consistent.sortsRelated
    simp only [build, keyCompiled, columnCompiled, relations, rules, sorts,
      read, bind, Except.bind]
    rfl

/-- Declarations can be built exactly when they are consistent. -/
theorem exists_build_eq_ok_iff {declaration : Declaration} :
    (∃ mapping, declaration.build = .ok mapping) ↔ declaration.Consistent := by
  constructor
  · rintro ⟨mapping, built⟩
    exact (build_eq_ok_iff.mp built).1
  · intro consistent
    obtain ⟨expressions, read⟩ :=
      exists_readExpressions_eq_ok_iff.mpr consistent.expressionsRead
    exact ⟨_, build_eq_ok_iff.mpr ⟨consistent, expressions, read, rfl⟩⟩

/-- The checks that a built mapping has passed. -/
structure Passed (declaration : Declaration) (mapping : Mapping) : Prop where
  relations : mapping.relations = declaration.relations
  columnsMatch :
    ∃ pattern,
      compilePattern .column
          (declaration.columnPattern.getD defaultColumnPattern) =
          .ok pattern ∧
        ∀ relation ∈ mapping.relations.entries,
          pattern.isMatch relation.2 = true
  rulesRelated :
    ∀ rule ∈ mapping.rules, mapping.relations.contains rule.key = true
  sortsRelated : ∀ key ∈ mapping.sorts, mapping.relations.contains key = true
  expressionsRead :
    ∀ rule ∈ mapping.expressions,
      ∃ text ∈ declaration.expressions, ExpressionRule.parse text = .ok rule

theorem passed_of_build
    {declaration : Declaration} {mapping : Mapping}
    (built : declaration.build = .ok mapping) : Passed declaration mapping := by
  obtain ⟨consistent, expressions, read, rfl⟩ := build_eq_ok_iff.mp built
  exact
    { relations := rfl
      columnsMatch := consistent.columnsMatch
      rulesRelated := fun rule member =>
        (consistent.rulesSound rule member).1
      sortsRelated := consistent.sortsRelated
      expressionsRead := fun _ =>
        (mem_iff_exists_parse_of_readExpressions read).mp }

namespace Passed

variable {declaration : Declaration} {mapping : Mapping}

/-- The key of a rule has a column. -/
theorem exists_column_of_rule
    (passed : Passed declaration mapping)
    {rule : Rule} (member : rule ∈ mapping.rules) :
    ∃ column, mapping.column? rule.key = some column :=
  Option.isSome_iff_exists.mp (passed.rulesRelated rule member)

/-- A key that may be sorted by has a column. -/
theorem exists_column_of_sort
    (passed : Passed declaration mapping)
    {key : String} (allowed : mapping.allowsSort key = true) :
    ∃ column, mapping.column? key = some column :=
  Option.isSome_iff_exists.mp
    (passed.sortsRelated key (List.contains_iff_mem.mp allowed))

/-- An expression that is allowed was read from a text. -/
theorem exists_parse_of_exactly
    (passed : Passed declaration mapping)
    {allowed : Expression}
    (member : ExpressionRule.exactly allowed ∈ mapping.expressions) :
    ∃ text, Expression.parse text = .ok allowed := by
  obtain ⟨text, _, parsed⟩ := passed.expressionsRead _ member
  unfold ExpressionRule.parse at parsed
  split at parsed
  · cases parsed
  · obtain ⟨expression, read, same⟩ := Outcome.map_eq_ok_iff.mp parsed
    cases same
    exact ⟨text, read⟩

end Passed

end Declaration

end FilterQuery
