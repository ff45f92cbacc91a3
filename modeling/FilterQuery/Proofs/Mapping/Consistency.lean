import FilterQuery.Proofs.Mapping.Construction

/-!
# Which declarations give a mapping

The checks of a declaration are spread over its constraints, its rules and the declaration
itself.  What they come to is said here without them.

* `Constraint.Suits`: a kind of filter can have the constraint, and its parameters make sense;
* `Rule.Sound`: operators and constraints suit the kind of the rule;
* `Declaration.Sound`: everything is related, and patterns and expressions can be read;
* `Declaration.build_iff_sound`: the sound declarations are those that give a mapping, and the
  others fail with a code of the configuration.
-/

namespace FilterQuery

/-- Codes of the configuration are the server's to correct. -/
theorem Code.shown_of_bounds
    {code : Code} (bounds : 7001 ≤ code.number ∧ code.number ≤ 7005) :
    code.text ∈ ["Q7001", "Q7002", "Q7003", "Q7004", "Q7005"] ∧
      code.category = .internal := by
  revert bounds
  cases code <;> decide

/-! ## Constraints -/

namespace Constraint

/-- The parameters make sense: a pattern can be compiled, and bounds are not reversed. -/
def WellDefined : Constraint → Prop
  | .regex pattern _ => ∃ compiled, Pattern.compile pattern = .ok compiled
  | .length least most | .count least most =>
      ∀ low high, least = some low → most = some high → low ≤ high
  | .range least most =>
      ∀ low high, least = some low → most = some high → ¬ high < low
  | _ => True

/-- The constraint can stand where values are of the kind. -/
structure Suits (constraint : Constraint) (filterType : FilterType) : Prop where
  available : constraint.isAvailableFor filterType = true
  wellDefined : constraint.WellDefined

theorem definitionFault?_regex_eq_none_iff {pattern : String} {required : Bool} :
    (Constraint.regex pattern required).definitionFault? = none ↔
      (Constraint.regex pattern required).WellDefined := by
  simp only [definitionFault?, WellDefined]
  cases outcome : Pattern.compile pattern with
  | ok compiled => simp
  | error fault => simp

theorem definitionFault?_eq_none_iff {constraint : Constraint} :
    constraint.definitionFault? = none ↔ constraint.WellDefined := by
  cases constraint with
  | regex pattern required => exact definitionFault?_regex_eq_none_iff
  | length least most =>
      cases least <;> cases most <;> simp [definitionFault?, WellDefined]
  | count least most =>
      cases least <;> cases most <;> simp [definitionFault?, WellDefined]
  | range least most =>
      cases least <;> cases most <;> simp [definitionFault?, WellDefined]
  | _ => simp [definitionFault?, WellDefined]

end Constraint

/-! ## Rules -/

namespace Rule

/-- What the declaration of a rule says about values fits its kind. -/
structure Sound (rule : Rule) : Prop where
  operators :
    ∀ declared,
      rule.operators = some declared →
        declared ≠ [] ∧ ∀ operator ∈ declared, operator ∈ rule.filterType.legalOperators
  constraints : ∀ constraint ∈ rule.constraints, constraint.Suits rule.filterType
  elementsOfLists : rule.elementConstraints.entries ≠ [] → rule.filterType = .inList
  elementConstraints :
    ∀ elementType constraints,
      (elementType, constraints) ∈ rule.elementConstraints.entries →
        ∀ constraint ∈ constraints, constraint.Suits elementType.filterType

theorem constraintFault?_eq_none_iff
    {subject : Subject} {filterType : FilterType} {constraint : Constraint} :
    constraintFault? subject filterType constraint = none ↔
      constraint.Suits filterType := by
  rw [constraintFault?]
  by_cases available : constraint.isAvailableFor filterType = true
  · rw [if_pos available, Option.map_eq_none_iff,
      Constraint.definitionFault?_eq_none_iff]
    exact ⟨fun wellDefined => ⟨available, wellDefined⟩, fun suits => suits.wellDefined⟩
  · rw [if_neg available]
    apply iff_of_false nofun
    intro suits
    exact available suits.available

theorem operatorFault?_eq_none_iff {rule : Rule} :
    rule.operatorFault? = none ↔
      ∀ declared,
        rule.operators = some declared →
          declared ≠ [] ∧
            ∀ operator ∈ declared, operator ∈ rule.filterType.legalOperators := by
  rw [operatorFault?]
  cases rule.operators with
  | none => simp
  | some declared =>
      cases declared with
      | nil => simp
      | cons operator rest =>
          simp [FilterType.accepts]

theorem elementFault?_eq_none_iff {rule : Rule} :
    rule.elementFault? = none ↔
      (rule.elementConstraints.entries ≠ [] → rule.filterType = .inList) ∧
        ∀ elementType constraints,
          (elementType, constraints) ∈ rule.elementConstraints.entries →
            ∀ constraint ∈ constraints, constraint.Suits elementType.filterType := by
  rw [elementFault?, OrderedMap.isEmpty]
  by_cases isEmpty : rule.elementConstraints.entries = []
  · simp [isEmpty]
  · by_cases ofLists : rule.filterType = .inList
    · simp [isEmpty, ofLists, List.findSome?_eq_none_iff, constraintFault?_eq_none_iff]
    · simp [isEmpty, ofLists]

theorem fault?_eq_none_iff {rule : Rule} : rule.fault? = none ↔ rule.Sound := by
  rw [fault?, Option.or_eq_none_iff, Option.or_eq_none_iff, operatorFault?_eq_none_iff,
    elementFault?_eq_none_iff, List.findSome?_eq_none_iff]
  simp only [constraintFault?_eq_none_iff]
  constructor
  · rintro ⟨⟨operators, constraints⟩, elementsOfLists, elementConstraints⟩
    exact ⟨operators, constraints, elementsOfLists, elementConstraints⟩
  · rintro ⟨operators, constraints, elementsOfLists, elementConstraints⟩
    exact ⟨⟨operators, constraints⟩, elementsOfLists, elementConstraints⟩

end Rule

/-! ## Expressions -/

/-- What allows expressions is the wildcard, perhaps between blanks, or an expression. -/
theorem ExpressionRule.exists_parse_eq_ok_iff {text : String} :
    (∃ rule, ExpressionRule.parse text = .ok rule) ↔
      Text.trimBlanks text = "*" ∨ ∃ expression, Expression.parse text = .ok expression := by
  rw [ExpressionRule.parse, wildcard]
  by_cases isWildcard : Text.trimBlanks text = "*"
  · simp [isWildcard]
  · rw [if_neg isWildcard]
    simp only [Outcome.map_eq_ok_iff, isWildcard, false_or]
    constructor
    · rintro ⟨_, expression, parsed, _⟩
      exact ⟨expression, parsed⟩
    · rintro ⟨expression, parsed⟩
      exact ⟨.exactly expression, expression, parsed, rfl⟩

namespace Declaration

/-! ## Declarations -/

/-- The text compiles as a pattern that disregards letter case, and all the names match it. -/
def CompilesAndMatches (text : String) (names : List String) : Prop :=
  ∃ pattern,
    Pattern.compile text { caseInsensitive := true } = .ok pattern ∧
      ∀ name ∈ names, pattern.isMatch name = true

/-- Declarations that fit together. -/
structure Sound (declaration : Declaration) : Prop where
  keys :
    CompilesAndMatches (declaration.keyPattern.getD defaultKeyPattern)
      declaration.relations.keys
  columns :
    CompilesAndMatches (declaration.columnPattern.getD defaultColumnPattern)
      declaration.relations.values
  rules :
    ∀ rule ∈ declaration.rules, rule.key ∈ declaration.relations.keys ∧ rule.Sound
  sorts : ∀ key ∈ declaration.sorts, key ∈ declaration.relations.keys
  expressions :
    ∀ text ∈ declaration.expressions,
      Text.trimBlanks text = "*" ∨ ∃ expression, Expression.parse text = .ok expression

theorem compilesAndMatches_iff
    {role : Role} {text : String} {relations : List (String × String)}
    {part : String × String → String} :
    (∃ pattern,
      compilePattern role text = .ok pattern ∧
        ∀ relation ∈ relations, pattern.isMatch (part relation) = true) ↔
      CompilesAndMatches text (relations.map part) := by
  simp only [compilePattern, Outcome.mapError_eq_ok_iff, CompilesAndMatches,
    List.forall_mem_map]

/-- The checks of a declaration together say that it is sound. -/
theorem consistent_iff_sound {declaration : Declaration} :
    declaration.Consistent ↔ declaration.Sound := by
  constructor
  · intro consistent
    exact
      { keys := compilesAndMatches_iff.mp consistent.keysMatch
        columns := compilesAndMatches_iff.mp consistent.columnsMatch
        rules := by
          intro rule member
          obtain ⟨related, noFault⟩ := consistent.rulesSound rule member
          exact
            ⟨OrderedMap.contains_iff_mem_keys.mp related,
              Rule.fault?_eq_none_iff.mp noFault⟩
        sorts := fun key member =>
          OrderedMap.contains_iff_mem_keys.mp (consistent.sortsRelated key member)
        expressions := fun text member =>
          ExpressionRule.exists_parse_eq_ok_iff.mp
            (consistent.expressionsRead text member) }
  · intro sound
    exact
      { keysMatch := compilesAndMatches_iff.mpr sound.keys
        columnsMatch := compilesAndMatches_iff.mpr sound.columns
        rulesSound := by
          intro rule member
          obtain ⟨related, ruleSound⟩ := sound.rules rule member
          exact
            ⟨OrderedMap.contains_iff_mem_keys.mpr related,
              Rule.fault?_eq_none_iff.mpr ruleSound⟩
        sortsRelated := fun key member =>
          OrderedMap.contains_iff_mem_keys.mpr (sound.sorts key member)
        expressionsRead := fun text member =>
          ExpressionRule.exists_parse_eq_ok_iff.mpr (sound.expressions text member) }

/-- The mapping has what was declared, with the expressions that the texts stand for. -/
structure IsKeptBy (declaration : Declaration) (mapping : Mapping) : Prop where
  relations : mapping.relations = declaration.relations
  rules : mapping.rules = declaration.rules
  sorts : mapping.sorts = declaration.sorts
  expressions :
    mapping.expressions.map .ok = declaration.expressions.map ExpressionRule.parse
  validator : mapping.validator = declaration.validator.getD .standard

theorem isKeptBy_of_build
    {declaration : Declaration} {mapping : Mapping}
    (built : declaration.build = .ok mapping) : declaration.IsKeptBy mapping := by
  obtain ⟨_, expressions, read, rfl⟩ := build_eq_ok_iff.mp built
  have sameOutcomes := readExpressions_eq_ok_iff.mp read
  exact ⟨rfl, rfl, rfl, sameOutcomes.symm, rfl⟩

/-- What can be wrong with a declaration has a code of the configuration. -/
theorem Fault.number_bounds (fault : Fault) :
    7001 ≤ fault.failure.code.number ∧ fault.failure.code.number ≤ 7005 := by
  cases fault with
  | badPattern => simp [Fault.failure, Failure.configuration, Code.number]
  | invalidKey => simp [Fault.failure, Code.number]
  | invalidColumn => simp [Fault.failure, Code.number]
  | missingRelation => simp [Fault.failure, Code.number]
  | badRule => simp [Fault.failure, Failure.invalidRule, Code.number]
  | badExpression =>
      simp [Fault.failure, ExpressionRule.failure, Failure.invalidRule, Code.number]

/-- There is a mapping exactly when the declaration is sound, and it keeps what was declared.
Otherwise the configuration is to blame, and not a client. -/
theorem build_iff_sound (declaration : Declaration) :
    ((∃ mapping, declaration.build = .ok mapping) ↔ declaration.Sound) ∧
      (∀ mapping, declaration.build = .ok mapping → declaration.IsKeptBy mapping) ∧
      ∀ fault,
        declaration.build = .error fault →
          fault.failure.code.text ∈ ["Q7001", "Q7002", "Q7003", "Q7004", "Q7005"] ∧
            fault.failure.isBadRequest = false := by
  refine ⟨?_, ?_, ?_⟩
  · rw [exists_build_eq_ok_iff, consistent_iff_sound]
  · intro mapping built
    exact isKeptBy_of_build built
  · intro fault _
    obtain ⟨shown, isInternal⟩ := Code.shown_of_bounds fault.number_bounds
    refine ⟨shown, ?_⟩
    rw [Failure.isBadRequest, Failure.category, isInternal]
    rfl

/-- A declaration with constraints of values and of list elements, and with expressions. -/
def profileDeclaration : Declaration :=
  (Declaration.relate {} "name" "users.name")
    |>.relate "tags" "users.tags"
    |>.allowFilter
      { key := "name"
        filterType := .string
        operators := some [.equal, .notEqual]
        constraints := [.length (some 1) (some 40), .regex "^[a-z]+$" false] }
    |>.allowFilter
      (Rule.withElementConstraint
        { key := "tags", filterType := .inList, constraints := [.count none (some 3)] }
        .string .notBlank)
    |>.allowSort "name"
    |>.allowExpression " * "
    |>.allowExpression "0or1"

/-- The same with a pattern that cannot be compiled. -/
def brokenDeclaration : Declaration :=
  profileDeclaration.allowFilter
    { key := "name", filterType := .like, constraints := [.regex "(" false] }

theorem build_iff_sound_profile :
    profileDeclaration.Sound ∧
      (∃ mapping,
        profileDeclaration.build = .ok mapping ∧ profileDeclaration.IsKeptBy mapping) ∧
      ¬ brokenDeclaration.Sound ∧
      ∃ fault,
        brokenDeclaration.build = .error fault ∧
          fault.failure.code.text ∈ ["Q7001", "Q7002", "Q7003", "Q7004", "Q7005"] ∧
            fault.failure.isBadRequest = false := by
  have builds : profileDeclaration.build.toOption.isSome = true := by
    decide +kernel
  have breaks : brokenDeclaration.build.toOption.isNone = true := by
    decide +kernel
  obtain ⟨mapping, built⟩ := Outcome.exists_eq_ok_of_isSome builds
  obtain ⟨fault, failed⟩ := Outcome.exists_eq_error_of_isNone breaks
  obtain ⟨sound_iff, keeps, _⟩ := build_iff_sound profileDeclaration
  obtain ⟨broken_iff, _, blames⟩ := build_iff_sound brokenDeclaration
  have notBuilt : ¬ ∃ mapping, brokenDeclaration.build = .ok mapping := by
    rintro ⟨other, otherBuilt⟩
    rw [failed] at otherBuilt
    cases otherBuilt
  exact
    ⟨sound_iff.mp ⟨mapping, built⟩, ⟨mapping, built, keeps mapping built⟩,
      fun sound => notBuilt (broken_iff.mpr sound), fault, failed, blames fault failed⟩

end Declaration

end FilterQuery
