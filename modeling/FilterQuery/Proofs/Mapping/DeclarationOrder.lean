import FilterQuery.Proofs.Mapping.AllowList
import Mathlib.Data.List.Induction

/-!
# The order of declarations

Declarations are collected one `Step` at a time.  What is collected is read off the steps of
each sort, so other orders of the same steps only reorder the lists of a declaration.

* `reorders_of_perm`: as long as no key is related twice and nothing that there is one of is
  declared twice, two orders of the same steps declare the same;
* `Reorders.consistent_iff`: both can be built or none;
* `agrees_of_build`: the two mappings relate the same keys to the same columns and allow the
  same, and `Agrees.validate_eq_ok_iff` says that they accept the same queries.
-/

namespace FilterQuery

namespace Declaration

/-! ## Steps -/

/-- A single declaration. -/
inductive Step where
  | relate (key column : String)
  | allowFilter (rule : Rule)
  | allowSort (key : String)
  | allowExpression (text : String)
  | keyPattern (pattern : String)
  | columnPattern (pattern : String)
  | validator (custom : Validator)

namespace Step

def relation? : Step → Option (String × String)
  | .relate key column => some (key, column)
  | _ => none

def rule? : Step → Option Rule
  | .allowFilter rule => some rule
  | _ => none

def sort? : Step → Option String
  | .allowSort key => some key
  | _ => none

def expression? : Step → Option String
  | .allowExpression text => some text
  | _ => none

def keyPattern? : Step → Option String
  | .keyPattern pattern => some pattern
  | _ => none

def columnPattern? : Step → Option String
  | .columnPattern pattern => some pattern
  | _ => none

def validator? : Step → Option Validator
  | .validator custom => some custom
  | _ => none

end Step

/-- Declare one thing more. -/
def add (declaration : Declaration) : Step → Declaration
  | .relate key column => declaration.relate key column
  | .allowFilter rule => declaration.allowFilter rule
  | .allowSort key => declaration.allowSort key
  | .allowExpression text => declaration.allowExpression text
  | .keyPattern pattern => declaration.withKeyPattern pattern
  | .columnPattern pattern => declaration.withColumnPattern pattern
  | .validator custom => declaration.withValidator custom

/-- Declare one thing after the other. -/
def ofSteps (steps : List Step) : Declaration := steps.foldl add {}

/-- Each part of a declaration comes from the steps that are about it; of two patterns or
validators the last one counts. -/
theorem ofSteps_eq (steps : List Step) :
    ofSteps steps =
      { relations := .ofList (steps.filterMap Step.relation?)
        rules := steps.filterMap Step.rule?
        sorts := steps.filterMap Step.sort?
        expressions := steps.filterMap Step.expression?
        keyPattern := (steps.filterMap Step.keyPattern?).getLast?
        columnPattern := (steps.filterMap Step.columnPattern?).getLast?
        validator := (steps.filterMap Step.validator?).getLast? } := by
  induction steps using List.reverseRecOn with
  | nil => rfl
  | append_singleton earlier step inductionHypothesis =>
      have addedLast : ofSteps (earlier ++ [step]) = (ofSteps earlier).add step := by
        simp only [ofSteps, List.foldl_append, List.foldl_cons, List.foldl_nil]
      rw [addedLast, inductionHypothesis]
      simp only [List.filterMap_append]
      cases step <;>
        simp [List.filterMap_cons, add, relate, allowFilter, allowSort, allowExpression,
          withKeyPattern, withColumnPattern, withValidator, Step.relation?, Step.rule?,
          Step.sort?, Step.expression?, Step.keyPattern?, Step.columnPattern?,
          Step.validator?, OrderedMap.ofList]

/-- No key is related twice, and there is at most one pattern of keys, one pattern of columns
and one validator. -/
structure IsOrderFree (steps : List Step) : Prop where
  keysDistinct : ((steps.filterMap Step.relation?).map Prod.fst).Nodup
  keyPattern : (steps.filterMap Step.keyPattern?).length ≤ 1
  columnPattern : (steps.filterMap Step.columnPattern?).length ≤ 1
  validator : (steps.filterMap Step.validator?).length ≤ 1

/-! ## Reordered declarations -/

/-- The declarations differ in nothing but the order of their parts. -/
structure Reorders (first second : Declaration) : Prop where
  relations : first.relations.entries.Perm second.relations.entries
  rules : first.rules.Perm second.rules
  sorts : first.sorts.Perm second.sorts
  expressions : first.expressions.Perm second.expressions
  keyPattern : first.keyPattern = second.keyPattern
  columnPattern : first.columnPattern = second.columnPattern
  validator : first.validator = second.validator

theorem getLast?_eq_of_perm
    {α : Type} {first second : List α} (permuted : first.Perm second)
    (atMostOne : first.length ≤ 1) : first.getLast? = second.getLast? := by
  match first, atMostOne with
  | [], _ => rw [List.nil_perm.mp permuted]
  | [_], _ => rw [List.singleton_perm.mp permuted]

theorem reorders_of_perm
    {first second : List Step} (permuted : first.Perm second)
    (orderFree : IsOrderFree first) :
    (ofSteps first).Reorders (ofSteps second) := by
  have relations := permuted.filterMap Step.relation?
  have secondDistinct : ((second.filterMap Step.relation?).map Prod.fst).Nodup :=
    (relations.map Prod.fst).nodup_iff.mp orderFree.keysDistinct
  rw [ofSteps_eq, ofSteps_eq]
  exact
    { relations := by
        simp only [OrderedMap.entries_ofList orderFree.keysDistinct,
          OrderedMap.entries_ofList secondDistinct]
        exact relations
      rules := permuted.filterMap _
      sorts := permuted.filterMap _
      expressions := permuted.filterMap _
      keyPattern := getLast?_eq_of_perm (permuted.filterMap _) orderFree.keyPattern
      columnPattern :=
        getLast?_eq_of_perm (permuted.filterMap _) orderFree.columnPattern
      validator := getLast?_eq_of_perm (permuted.filterMap _) orderFree.validator }

namespace Reorders

variable {first second : Declaration}

theorem symm (reorders : first.Reorders second) : second.Reorders first where
  relations := reorders.relations.symm
  rules := reorders.rules.symm
  sorts := reorders.sorts.symm
  expressions := reorders.expressions.symm
  keyPattern := reorders.keyPattern.symm
  columnPattern := reorders.columnPattern.symm
  validator := reorders.validator.symm

/-- The same keys have the same columns. -/
theorem get?_relations (reorders : first.Reorders second) (key : String) :
    first.relations.get? key = second.relations.get? key :=
  OrderedMap.get?_eq_of_perm reorders.relations key

theorem consistent
    (reorders : first.Reorders second) (consistent : first.Consistent) :
    second.Consistent := by
  have sameKeys :
      ∀ key, second.relations.contains key = first.relations.contains key :=
    fun key => congrArg Option.isSome (reorders.get?_relations key).symm
  obtain ⟨keyPattern, keyCompiled, keysMatch⟩ := consistent.keysMatch
  obtain ⟨columnPattern, columnCompiled, columnsMatch⟩ := consistent.columnsMatch
  exact
    { keysMatch :=
        ⟨keyPattern, reorders.keyPattern ▸ keyCompiled, fun relation member =>
          keysMatch relation (reorders.relations.mem_iff.mpr member)⟩
      columnsMatch :=
        ⟨columnPattern, reorders.columnPattern ▸ columnCompiled,
          fun relation member =>
            columnsMatch relation (reorders.relations.mem_iff.mpr member)⟩
      rulesSound := fun rule member => by
        rw [sameKeys]
        exact consistent.rulesSound rule (reorders.rules.mem_iff.mpr member)
      sortsRelated := fun key member => by
        rw [sameKeys]
        exact consistent.sortsRelated key (reorders.sorts.mem_iff.mpr member)
      expressionsRead := fun text member =>
        consistent.expressionsRead text (reorders.expressions.mem_iff.mpr member) }

theorem consistent_iff (reorders : first.Reorders second) :
    first.Consistent ↔ second.Consistent :=
  ⟨reorders.consistent, reorders.symm.consistent⟩

end Reorders

end Declaration

/-! ## Mappings that agree -/

namespace Mapping

/-- The mappings hold the same, perhaps in another order. -/
structure Agrees (first second : Mapping) : Prop where
  column? : ∀ key, first.column? key = second.column? key
  mem_rules_iff : ∀ rule, rule ∈ first.rules ↔ rule ∈ second.rules
  mem_sorts_iff : ∀ key, key ∈ first.sorts ↔ key ∈ second.sorts
  mem_expressions_iff : ∀ rule, rule ∈ first.expressions ↔ rule ∈ second.expressions
  validator : first.validator = second.validator

/-- Reordered declarations give mappings that agree. -/
theorem agrees_of_build
    {firstDeclared secondDeclared : Declaration} {first second : Mapping}
    (reorders : firstDeclared.Reorders secondDeclared)
    (firstBuilt : firstDeclared.build = .ok first)
    (secondBuilt : secondDeclared.build = .ok second) : first.Agrees second := by
  obtain ⟨_, firstExpressions, firstRead, rfl⟩ :=
    Declaration.build_eq_ok_iff.mp firstBuilt
  obtain ⟨_, secondExpressions, secondRead, rfl⟩ :=
    Declaration.build_eq_ok_iff.mp secondBuilt
  have sameExpressions :
      ∀ rule, rule ∈ firstExpressions ↔ rule ∈ secondExpressions := by
    intro rule
    rw [Declaration.mem_iff_exists_parse_of_readExpressions firstRead,
      Declaration.mem_iff_exists_parse_of_readExpressions secondRead]
    simp only [reorders.expressions.mem_iff]
  exact
    { column? := reorders.get?_relations
      mem_rules_iff := fun _ => reorders.rules.mem_iff
      mem_sorts_iff := fun _ => reorders.sorts.mem_iff
      mem_expressions_iff := sameExpressions
      validator := congrArg (·.getD .standard) reorders.validator }

namespace Agrees

variable {first second : Mapping}

theorem isGoverned_iff (agrees : first.Agrees second) {filter : Filter} :
    first.IsGoverned filter ↔ second.IsGoverned filter := by
  simp only [IsGoverned, agrees.mem_rules_iff]

theorem fails_iff (agrees : first.Agrees second) {filter : Filter} :
    first.Fails filter ↔ second.Fails filter := by
  simp only [Fails, agrees.mem_rules_iff, agrees.validator]

/-- Mappings that agree accept the same queries: every rule that governs a filter counts,
whichever comes first. -/
theorem validate_eq_ok_iff (agrees : first.Agrees second) {query : Query} :
    first.validate query = .ok () ↔ second.validate query = .ok () := by
  simp only [Mapping.validate_eq_ok_iff, validateFilters_eq_ok_iff,
    validateSorts_eq_ok_iff, validateExpression_eq_ok_iff_permits, agrees.fails_iff,
    agrees.isGoverned_iff, agrees.mem_sorts_iff, agrees.mem_expressions_iff]

end Agrees

end Mapping

end FilterQuery
