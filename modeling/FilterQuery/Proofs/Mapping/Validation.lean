import FilterQuery.Proofs.Mapping.Decision
import FilterQuery.Proofs.Query.Parsing

/-!
# The decision of the allow-list

A query is accepted exactly when all rules that govern its filters admit them,
no filter is without such a rule, all sorts are allowed, and the expression is
allowed by its tree.  A denial names the first of these conditions that fails.
-/

namespace FilterQuery.Mapping

variable {mapping : Mapping}

/-! ## Filters -/

/-- Some rule governs the filter. -/
def IsGoverned (mapping : Mapping) (filter : Filter) : Prop :=
  ∃ rule ∈ mapping.rules, rule.Governs filter

instance (mapping : Mapping) (filter : Filter) :
    Decidable (mapping.IsGoverned filter) :=
  inferInstanceAs (Decidable (∃ rule ∈ mapping.rules, rule.Governs filter))

/-- Some rule that governs the filter does not admit it. -/
def Fails (mapping : Mapping) (filter : Filter) : Prop :=
  ∃ rule ∈ mapping.rules,
    rule.Governs filter ∧ ¬rule.Admits mapping.validator filter

/-- The texts of the filters that no rule governs. -/
def unmatchedTexts
    (mapping : Mapping) (filters : List Filter) : List String :=
  (filters.filter fun filter => ¬mapping.IsGoverned filter).map
    Filter.expression

theorem mem_governing_iff {rule : Rule} {filter : Filter} :
    rule ∈ mapping.governing filter ↔
      rule ∈ mapping.rules ∧ rule.Governs filter := by
  rw [governing, List.mem_filter, Rule.governs_eq_true_iff]

theorem isEmpty_governing_iff {filter : Filter} :
    (mapping.governing filter).isEmpty = true ↔
      ¬mapping.IsGoverned filter := by
  rw [List.isEmpty_iff, List.eq_nil_iff_forall_not_mem]
  simp only [mem_governing_iff, IsGoverned, not_exists, not_and]

theorem checkAgainst_eq_ok_iff
    {index : Nat} {filter : Filter} {rules : List Rule} :
    mapping.checkAgainst index filter rules = .ok () ↔
      ∀ rule ∈ rules, rule.Admits mapping.validator filter := by
  induction rules with
  | nil => simp [checkAgainst]
  | cons rule rest inductionHypothesis =>
      rw [List.forall_mem_cons, ← inductionHypothesis,
        ← @checkFilter_eq_ok_iff mapping rule index filter, checkAgainst]
      cases mapping.checkFilter rule index filter with
      | error denial => simp
      | ok passed => simp

theorem checkGoverning_eq_ok_iff {index : Nat} {filter : Filter} :
    mapping.checkAgainst index filter (mapping.governing filter) = .ok () ↔
      ¬mapping.Fails filter := by
  rw [checkAgainst_eq_ok_iff]
  simp only [mem_governing_iff, Fails, not_exists, not_and, and_imp,
    Classical.not_not]

/-- A filter is denied by a rule that does not admit it. -/
theorem exists_rule_of_checkAgainst
    {index : Nat} {filter : Filter} {rules : List Rule} {denial : Denial}
    (checked : mapping.checkAgainst index filter rules = .error denial) :
    ∃ rule ∈ rules,
      ¬rule.Admits mapping.validator filter ∧
        IsDenialOf rule index filter denial := by
  induction rules with
  | nil => cases checked
  | cons rule rest inductionHypothesis =>
      simp only [checkAgainst] at checked
      split at checked
      · rename_i first failed
        cases checked
        refine ⟨rule, List.mem_cons_self, ?_, isDenialOf_of_checkFilter failed⟩
        intro admits
        rw [checkFilter_eq_ok_iff.mpr admits] at failed
        cases failed
      · obtain ⟨found, member, refuses⟩ := inductionHypothesis checked
        exact ⟨found, List.mem_cons_of_mem _ member, refuses⟩

theorem unmatchedTexts_cons (filter : Filter) (filters : List Filter) :
    mapping.unmatchedTexts (filter :: filters) =
      if (mapping.governing filter).isEmpty then
        filter.expression :: mapping.unmatchedTexts filters
      else mapping.unmatchedTexts filters := by
  by_cases governed : mapping.IsGoverned filter
  · have nonempty : ¬(mapping.governing filter).isEmpty = true :=
      mt isEmpty_governing_iff.mp (not_not_intro governed)
    rw [if_neg nonempty, unmatchedTexts, List.filter_cons_of_neg (by simpa using governed),
      unmatchedTexts]
  · have isEmpty : (mapping.governing filter).isEmpty = true :=
      isEmpty_governing_iff.mpr governed
    rw [if_pos isEmpty, unmatchedTexts, List.filter_cons_of_pos (by simpa using governed),
      List.map_cons, unmatchedTexts]

/-- Filters pass exactly when none of them fails a rule; then those that no rule
governs are collected. -/
theorem unmatchedFilters_eq_ok_iff
    {entries : List (Nat × Filter)} {texts : List String} :
    mapping.unmatchedFilters entries = .ok texts ↔
      (∀ entry ∈ entries, ¬mapping.Fails entry.2) ∧
        texts = mapping.unmatchedTexts (entries.map Prod.snd) := by
  induction entries generalizing texts with
  | nil =>
      simp [unmatchedFilters, unmatchedTexts, eq_comm]
  | cons entry rest inductionHypothesis =>
      obtain ⟨index, filter⟩ := entry
      rw [List.forall_mem_cons, ← @checkGoverning_eq_ok_iff mapping index filter]
      simp only [unmatchedFilters]
      cases checked :
          mapping.checkAgainst index filter (mapping.governing filter) with
      | error denial => simp
      | ok passed =>
          simp only [Outcome.map_eq_ok_iff, inductionHypothesis, true_and, List.map_cons,
            unmatchedTexts_cons]
          constructor
          · rintro ⟨_, ⟨pass, rfl⟩, rfl⟩
            exact ⟨pass, rfl⟩
          · rintro ⟨pass, rfl⟩
            exact ⟨_, ⟨pass, rfl⟩, rfl⟩

/-- The first filter that fails a rule is denied. -/
theorem exists_first_of_unmatchedFilters
    {entries : List (Nat × Filter)} {denial : Denial}
    (checked : mapping.unmatchedFilters entries = .error denial) :
    ∃ before index filter after,
      entries = before ++ (index, filter) :: after ∧
        (∀ entry ∈ before, ¬mapping.Fails entry.2) ∧
        ∃ rule ∈ mapping.rules,
          rule.Governs filter ∧
            ¬rule.Admits mapping.validator filter ∧
            IsDenialOf rule index filter denial := by
  induction entries with
  | nil => cases checked
  | cons entry rest inductionHypothesis =>
      obtain ⟨index, filter⟩ := entry
      simp only [unmatchedFilters] at checked
      split at checked
      · rename_i found failed
        cases checked
        obtain ⟨rule, member, refuses, isDenial⟩ :=
          exists_rule_of_checkAgainst failed
        obtain ⟨isRule, governs⟩ := mem_governing_iff.mp member
        exact
          ⟨[], index, filter, rest, rfl, by simp, rule, isRule, governs,
            refuses, isDenial⟩
      · rename_i passed
        obtain ⟨before, failedIndex, failed, after, whole, passes, refused⟩ :=
          inductionHypothesis (Outcome.map_eq_error_iff.mp checked)
        refine
          ⟨(index, filter) :: before, failedIndex, failed, after,
            congrArg _ whole, ?_, refused⟩
        rw [List.forall_mem_cons]
        exact ⟨checkGoverning_eq_ok_iff.mp passed, passes⟩

theorem validateFilters_eq_ok_iff {query : Query} :
    mapping.validateFilters query = .ok () ↔
      ∀ filter ∈ query.filters.values,
        ¬mapping.Fails filter ∧ mapping.IsGoverned filter := by
  have noText :
      ([] : List String) = mapping.unmatchedTexts query.filters.values ↔
        ∀ filter ∈ query.filters.values, mapping.IsGoverned filter := by
    rw [eq_comm]
    simp [unmatchedTexts, List.filter_eq_nil_iff]
  have checked :
      mapping.validateFilters query = .ok () ↔
        mapping.unmatchedFilters query.filters.entries = .ok [] := by
    unfold validateFilters
    split
    · rename_i outcome
      simp [outcome]
    · rename_i outcome
      simp [outcome]
    · rename_i texts nonempty outcome
      simp [outcome]
      exact nonempty
  rw [checked, unmatchedFilters_eq_ok_iff]
  unfold Slots.values at noText ⊢
  rw [noText]
  simp only [List.forall_mem_map, forall_and]

/-! ## Sorts and expressions -/

/-- The texts of the sorts that are not allowed. -/
def disallowedTexts
    (mapping : Mapping) (sorts : List SortClause) : List String :=
  (sorts.filter fun sort => sort.key ∉ mapping.sorts).map
    SortClause.expression

theorem validateSorts_eq {query : Query} :
    mapping.validateSorts query =
      if mapping.disallowedTexts query.sorts.values = [] then .ok ()
      else .error (.sorts (mapping.disallowedTexts query.sorts.values)) := by
  have sameFilter :
      query.sorts.values.filter (!mapping.allowsSort ·.key) =
        query.sorts.values.filter fun sort => sort.key ∉ mapping.sorts := by
    apply List.filter_congr
    intro sort _
    simp [allowsSort]
  simp only [validateSorts, disallowedTexts, sameFilter, List.isEmpty_iff,
    List.map_eq_nil_iff]

theorem disallowedTexts_eq_nil_iff {sorts : List SortClause} :
    mapping.disallowedTexts sorts = [] ↔
      ∀ sort ∈ sorts, sort.key ∈ mapping.sorts := by
  simp [disallowedTexts, List.filter_eq_nil_iff]

theorem validateExpression_eq_ok_iff_permits {query : Query} :
    mapping.validateExpression query = .ok () ↔
      ∀ given, query.expression = some given →
        ∃ rule ∈ mapping.expressions, rule.permits given = true := by
  unfold validateExpression
  cases query.expression with
  | none => simp
  | some given => simp

/-- The expression is allowed: there is none, all are allowed, or one of those
that are has the same tree. -/
def AllowsExpression
    (mapping : Mapping) (expression : Option Expression) : Prop :=
  expression = none ∨ ExpressionRule.any ∈ mapping.expressions ∨
    ∃ given allowed,
      expression = some given ∧
        ExpressionRule.exactly allowed ∈ mapping.expressions ∧
        allowed.tree = given.tree

/-- Comparing canonical texts amounts to comparing trees, because all
expressions involved were read. -/
theorem validateExpression_eq_ok_iff
    {declaration : Declaration} {query : Query}
    (passed : Declaration.Passed declaration mapping) (parsed : query.Parsed) :
    mapping.validateExpression query = .ok () ↔
      mapping.AllowsExpression query.expression := by
  unfold validateExpression AllowsExpression
  cases isGiven : query.expression with
  | none => simp
  | some given =>
      obtain ⟨text, read⟩ := parsed.expressionRead given isGiven
      have sameText :
          ∀ allowed, ExpressionRule.exactly allowed ∈ mapping.expressions →
            (allowed.normalized = given.normalized ↔
              allowed.tree = given.tree) := by
        intro allowed member
        obtain ⟨allowedText, allowedRead⟩ :=
          passed.exists_parse_of_exactly member
        exact Expression.normalized_eq_iff allowedRead read
      have permitted :
          mapping.expressions.any (·.permits given) = true ↔
            ExpressionRule.any ∈ mapping.expressions ∨
              ∃ allowed,
                ExpressionRule.exactly allowed ∈ mapping.expressions ∧
                  allowed.tree = given.tree := by
        rw [List.any_eq_true]
        constructor
        · rintro ⟨rule, member, permits⟩
          cases rule with
          | any => exact .inl member
          | exactly allowed =>
              have same : allowed.normalized = given.normalized := by
                simpa [ExpressionRule.permits] using permits
              exact .inr ⟨allowed, member, (sameText allowed member).mp same⟩
        · rintro (member | ⟨allowed, member, sameTree⟩)
          · exact ⟨.any, member, rfl⟩
          · refine ⟨.exactly allowed, member, ?_⟩
            simpa [ExpressionRule.permits] using
              (sameText allowed member).mpr sameTree
      have allows :
          (some given = none ∨ ExpressionRule.any ∈ mapping.expressions ∨
              ∃ found allowed,
                some given = some found ∧
                  ExpressionRule.exactly allowed ∈ mapping.expressions ∧
                  allowed.tree = found.tree) ↔
            mapping.expressions.any (·.permits given) = true := by
        rw [permitted]
        simp
      rw [allows]
      simp only
      split
      · rename_i permits
        exact iff_of_true rfl permits
      · rename_i denies
        exact iff_of_false nofun denies

end FilterQuery.Mapping
