import FilterQuery.Proofs.Mapping.Validation

/-!
# The allow-list decides exactly

`validate_decides` puts the single checks together: `Accepts` is the condition
under which a query is accepted, and `Decides` says which denial is given when it
does not hold.
-/

namespace FilterQuery.Mapping

/-- What a mapping demands of a query. -/
structure Accepts (mapping : Mapping) (query : Query) : Prop where
  filters :
    ∀ filter ∈ query.filters.values,
      (∃ rule ∈ mapping.rules, rule.Governs filter) ∧
        ∀ rule ∈ mapping.rules,
          rule.Governs filter → rule.Admits mapping.validator filter
  sorts : ∀ sort ∈ query.sorts.values, sort.key ∈ mapping.sorts
  expression : mapping.AllowsExpression query.expression

/-- How the denial of a query is decided.  The filter of lowest index that fails
a rule comes first, even when other filters match no rule; then come all
filters that match no rule, then all sorts that are not allowed, each in the
order of their indexes, and the expression comes last. -/
structure Decides
    (mapping : Mapping) (query : Query) (denial : Denial) : Prop where
  failing :
    ∀ index filter,
      (index, filter) ∈ query.filters.entries →
      mapping.Fails filter →
      (∀ earlier ∈ query.filters.entries,
        earlier.1 < index → ¬mapping.Fails earlier.2) →
      ∃ rule ∈ mapping.rules,
        rule.Governs filter ∧
          ¬rule.Admits mapping.validator filter ∧
          IsDenialOf rule index filter denial
  unmatched :
    (∀ filter ∈ query.filters.values, ¬mapping.Fails filter) →
    mapping.unmatchedTexts query.filters.values ≠ [] →
    denial.failure.code.text = "Q2002" ∧
      denial = .filters (mapping.unmatchedTexts query.filters.values)
  sorts :
    (∀ filter ∈ query.filters.values, ¬mapping.Fails filter) →
    mapping.unmatchedTexts query.filters.values = [] →
    mapping.disallowedTexts query.sorts.values ≠ [] →
    denial.failure.code.text = "Q2003" ∧
      denial = .sorts (mapping.disallowedTexts query.sorts.values)
  expression :
    (∀ filter ∈ query.filters.values, ¬mapping.Fails filter) →
    mapping.unmatchedTexts query.filters.values = [] →
    mapping.disallowedTexts query.sorts.values = [] →
    denial.failure.code.text = "Q2004"

variable {mapping : Mapping} {query : Query}

theorem validate_eq_ok_iff :
    mapping.validate query = .ok () ↔
      mapping.validateFilters query = .ok () ∧
        mapping.validateSorts query = .ok () ∧
        mapping.validateExpression query = .ok () := by
  constructor
  · intro valid
    obtain ⟨_, filters, valid⟩ := Outcome.bind_eq_ok_iff.mp valid
    obtain ⟨_, sorts, expression⟩ := Outcome.bind_eq_ok_iff.mp valid
    exact ⟨filters, sorts, expression⟩
  · rintro ⟨filters, sorts, expression⟩
    apply Outcome.bind_eq_ok_iff.mpr
    refine ⟨(), filters, ?_⟩
    apply Outcome.bind_eq_ok_iff.mpr
    exact ⟨(), sorts, expression⟩

theorem validateSorts_eq_ok_iff :
    mapping.validateSorts query = .ok () ↔
      ∀ sort ∈ query.sorts.values, sort.key ∈ mapping.sorts := by
  rw [validateSorts_eq, ← disallowedTexts_eq_nil_iff]
  split
  · rename_i none
    exact iff_of_true rfl none
  · rename_i some
    exact iff_of_false nofun some

theorem accepts_iff_of_passed
    {declaration : Declaration}
    (passed : Declaration.Passed declaration mapping) (parsed : query.Parsed) :
    mapping.validate query = .ok () ↔ mapping.Accepts query := by
  rw [validate_eq_ok_iff, validateFilters_eq_ok_iff, validateSorts_eq_ok_iff,
    validateExpression_eq_ok_iff passed parsed]
  constructor
  · rintro ⟨filters, sorts, expression⟩
    refine ⟨fun filter member => ⟨(filters filter member).2, ?_⟩, sorts,
      expression⟩
    intro rule isRule governs
    exact Classical.byContradiction fun refuses =>
      (filters filter member).1 ⟨rule, isRule, governs, refuses⟩
  · rintro ⟨filters, sorts, expression⟩
    refine ⟨fun filter member => ⟨?_, (filters filter member).1⟩, sorts,
      expression⟩
    rintro ⟨rule, isRule, governs, refuses⟩
    exact refuses ((filters filter member).2 rule isRule governs)

/-- Entries before one that is reached are exactly those with lower indexes. -/
theorem mem_before_iff_lt
    {entries before after : List (Nat × Filter)} {index : Nat} {filter : Filter}
    (ascending : (entries.map Prod.fst).Pairwise (· < ·))
    (whole : entries = before ++ (index, filter) :: after)
    {entry : Nat × Filter} (member : entry ∈ entries) :
    entry ∈ before ↔ entry.1 < index := by
  subst whole
  rw [List.map_append, List.pairwise_append, List.map_cons,
    List.pairwise_cons] at ascending
  obtain ⟨_, ⟨later, _⟩, earlier⟩ := ascending
  constructor
  · intro isBefore
    exact
      earlier entry.1 (List.mem_map_of_mem isBefore) index List.mem_cons_self
  · intro below
    rcases List.mem_append.mp member with isBefore | others
    · exact isBefore
    · rcases List.mem_cons.mp others with same | isAfter
      · rw [same] at below
        exact absurd below (Nat.lt_irrefl index)
      · have above := later entry.1 (List.mem_map_of_mem isAfter)
        omega

theorem values_eq (slots : Slots Filter) :
    slots.values = slots.entries.map Prod.snd := rfl

/-- The first filter that is refused is the one of lowest index that fails. -/
theorem decides_of_unmatchedFilters
    {denial : Denial}
    (checked : mapping.unmatchedFilters query.filters.entries = .error denial) :
    mapping.Decides query denial := by
  obtain ⟨before, first, failed, after, whole, passes, refused⟩ :=
    exists_first_of_unmatchedFilters checked
  have firstMember : (first, failed) ∈ query.filters.entries := by
    rw [whole]
    exact List.mem_append_right _ List.mem_cons_self
  have firstFails : mapping.Fails failed := by
    obtain ⟨rule, isRule, governs, refuses, _⟩ := refused
    exact ⟨rule, isRule, governs, refuses⟩
  have notAllPass : ¬∀ filter ∈ query.filters.values, ¬mapping.Fails filter :=
    fun allPass => allPass failed (List.mem_map_of_mem firstMember) firstFails
  refine ⟨?_, fun allPass => absurd allPass notAllPass,
    fun allPass => absurd allPass notAllPass,
    fun allPass => absurd allPass notAllPass⟩
  intro index filter member fails lowest
  have notBefore : ¬index < first := fun below =>
    passes (index, filter)
      ((mem_before_iff_lt query.filters.ascending whole member).mpr below) fails
  have notAfter : ¬first < index := fun above =>
    lowest (first, failed) firstMember above firstFails
  have sameIndex : index = first := by omega
  subst sameIndex
  have found := Slots.lookup_of_mem query.filters.ascending member
  rw [Slots.lookup_of_mem query.filters.ascending firstMember] at found
  cases found
  exact refused

theorem decides_of_validateFilters
    {denial : Denial}
    (checked : mapping.validateFilters query = .error denial) :
    mapping.Decides query denial := by
  unfold validateFilters at checked
  split at checked
  · rename_i failed refused
    cases checked
    exact decides_of_unmatchedFilters refused
  · cases checked
  · rename_i texts nonempty collected
    cases checked
    obtain ⟨passes, same⟩ := unmatchedFilters_eq_ok_iff.mp collected
    rw [← values_eq] at same
    subst same
    have code : Code.disallowedFilter.text = "Q2002" := by decide
    refine ⟨?_, fun _ _ => ⟨code, rfl⟩,
      fun _ isEmpty => absurd isEmpty nonempty,
      fun _ isEmpty => absurd isEmpty nonempty⟩
    intro index filter member fails
    exact absurd fails (passes (index, filter) member)

/-- Once all filters pass, the sorts and then the expression decide. -/
theorem decides_of_filters
    {denial : Denial}
    (passes : mapping.validateFilters query = .ok ())
    (checked :
      mapping.validateSorts query = .error denial ∨
        mapping.validateSorts query = .ok () ∧
          mapping.validateExpression query = .error denial) :
    mapping.Decides query denial := by
  have filters := validateFilters_eq_ok_iff.mp passes
  have noneFails :
      ∀ index filter, (index, filter) ∈ query.filters.entries →
        ¬mapping.Fails filter := fun index filter member =>
    (filters filter (List.mem_map_of_mem member)).1
  have allMatched : mapping.unmatchedTexts query.filters.values = [] := by
    simpa [unmatchedTexts, List.filter_eq_nil_iff] using
      fun filter member => (filters filter member).2
  rcases checked with refused | ⟨sorts, refused⟩
  · rw [validateSorts_eq] at refused
    split at refused
    · cases refused
    · rename_i nonempty
      have code : Code.disallowedSort.text = "Q2003" := by decide
      cases refused
      exact
        ⟨fun index filter member fails =>
            absurd fails (noneFails index filter member),
          fun _ unmatched => absurd allMatched unmatched,
          fun _ _ _ => ⟨code, rfl⟩,
          fun _ _ isEmpty => absurd isEmpty nonempty⟩
  · have allAllowed : mapping.disallowedTexts query.sorts.values = [] :=
      disallowedTexts_eq_nil_iff.mpr (validateSorts_eq_ok_iff.mp sorts)
    have text : Code.disallowedFilterExpression.text = "Q2004" := by decide
    have code : denial.failure.code.text = "Q2004" := by
      unfold validateExpression at refused
      split at refused
      · cases refused
      · split at refused
        · cases refused
        · cases refused
          exact text
    exact
      ⟨fun index filter member fails =>
          absurd fails (noneFails index filter member),
        fun _ unmatched => absurd allMatched unmatched,
        fun _ _ disallowed => absurd allAllowed disallowed,
        fun _ _ _ => code⟩

theorem decides_of_validate
    {denial : Denial} (denied : mapping.validate query = .error denial) :
    mapping.Decides query denial := by
  rcases Outcome.bind_eq_error_iff.mp denied with filters | ⟨_, passes, rest⟩
  · exact decides_of_validateFilters filters
  · apply decides_of_filters passes
    rcases Outcome.bind_eq_error_iff.mp rest with sorts | ⟨_, allowed, last⟩
    · exact .inl sorts
    · exact .inr ⟨allowed, last⟩

/-- A declaration that allows some comparisons of a key with integers. -/
def agesDeclaration : Declaration :=
  (Declaration.relate {} "age" "users.age")
    |>.allowFilter
      { key := "age"
        filterType := .integer
        operators := some [.equal, .greaterThan] }
    |>.allowSort "age"
    |>.allowExpression "0and1"

/-- Two filters, the second one with an operator that is not allowed. -/
def agesInput : QueryInput :=
  .ofPairs
    [("filter[]", "age>18"), ("filter[]", "age<99"),
      ("filterExpression", "1or0"), ("sort[]", "-age")]

end FilterQuery.Mapping
