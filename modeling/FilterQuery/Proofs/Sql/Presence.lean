import FilterQuery.Proofs.Sql.Coverage
import FilterQuery.Proofs.Sql.WhereClause

/-!
# When there is a where clause

Only blanks and parentheses are taken off around a where clause, and every condition has more
than these, whatever its column is called.  So there is no where clause exactly when there are
no filters (`Covers.whereClause_eq_none_iff`).
-/

namespace FilterQuery.Sql

/-! ## Texts with content -/

/-- There is more in the text than blanks and parentheses. -/
def HasContent (characters : List Char) : Prop :=
  ∃ character ∈ characters, isWrapping character = false

theorem HasContent.of_isInfix
    {part whole : List Char} (isPart : part <:+: whole) (hasContent : HasContent part) :
    HasContent whole := by
  obtain ⟨character, member, isContent⟩ := hasContent
  exact ⟨character, isPart.subset member, isContent⟩

theorem exists_enclose_eq_some
    {text : String} (hasContent : HasContent text.toList) :
    ∃ enclosed, enclose text = some enclosed := by
  obtain ⟨character, member, isContent⟩ := hasContent
  obtain ⟨before, after, whole, isBefore, isAfter⟩ := wrapsTo_strip text.toList
  have inside : character ∈ strip text.toList := by
    rw [whole, List.mem_append, List.mem_append] at member
    rcases member with isInBefore | isInside | isInAfter
    · have isTaken := List.all_eq_true.mp isBefore character isInBefore
      rw [isContent] at isTaken
      cases isTaken
    · exact isInside
    · have isTaken := List.all_eq_true.mp isAfter character isInAfter
      rw [isContent] at isTaken
      cases isTaken
  unfold enclose
  split
  · rename_i isEmpty
    rw [isEmpty] at inside
    cases inside
  · exact ⟨_, rfl⟩

/-! ## Conditions have content -/

/-- The words and symbols of a test are content. -/
theorem Test.hasContent_text (test : Test) : HasContent test.text.toList := by
  cases test with
  | null column negated => exact ⟨'N', by simp [Test.text], by decide⟩
  | comparison subject operator operand =>
      cases operator with
      | equal | notEqual | lessThanOrEqual | greaterThanOrEqual =>
          exact ⟨'=', by simp [Test.text, Operator.symbol], by decide⟩
      | lessThan => exact ⟨'<', by simp [Test.text, Operator.symbol], by decide⟩
      | greaterThan => exact ⟨'>', by simp [Test.text, Operator.symbol], by decide⟩
  | membership subject negated operands =>
      exact ⟨'N', by simp [Test.text], by decide⟩
  | like subject negated operand escape =>
      exact ⟨'L', by simp [Test.text], by decide⟩
  | regexp column negated operand =>
      exact ⟨'R', by simp [Test.text], by decide⟩

theorem hasContent_ofBranches
    (negated : Bool) {tests : List Test} (nonempty : tests ≠ []) :
    HasContent (Condition.ofBranches negated tests).text.toList := by
  obtain ⟨test, rest, rfl⟩ := List.exists_cons_of_ne_nil nonempty
  have isPart :
      test.text.toList <:+: (branchesText negated (test :: rest)).toList :=
    isInfix_intercalate (List.mem_map_of_mem List.mem_cons_self)
  have isInside :
      (branchesText negated (test :: rest)).toList <:+:
        (Condition.ofBranches negated (test :: rest)).text.toList := by
    rw [toList_text_ofBranches]
    exact ⟨['('], [')'], rfl⟩
  exact test.hasContent_text.of_isInfix (isPart.trans isInside)

section Conditions

variable {dialect : Dialect} {index : Nat} {column : String}

theorem hasContent_ofList
    {operator : Operator} {caseInsensitive : Bool} {items : List Value}
    (nonempty : items ≠ []) :
    HasContent
      (Condition.ofList dialect index column operator caseInsensitive
        items).text.toList := by
  unfold Condition.ofList
  simp only
  generalize isNullTests :
    (if items.any Value.isNull then [Test.null column operator.isNegated]
      else []) = nullTests
  cases bound : boundElements items with
  | nil =>
      have isNull := any_isNull_of_boundElements_eq_nil nonempty bound
      rw [isNull, if_pos rfl] at isNullTests
      rw [← isNullTests]
      exact hasContent_ofBranches _ (List.cons_ne_nil _ _)
  | cons element rest =>
      cases rest with
      | nil =>
          apply hasContent_ofBranches
          exact List.append_ne_nil_of_right_ne_nil nullTests (List.cons_ne_nil _ _)
      | cons second others =>
          simp only
          split
          · exact Test.hasContent_text _
          · exact hasContent_ofBranches _ (List.cons_ne_nil _ _)

theorem hasContent_ofFilter
    {filter : Filter} (nonempty : ∀ items, filter.kind = .inList items → items ≠ []) :
    HasContent (Condition.ofFilter dialect index column filter).text.toList := by
  simp only [Condition.ofFilter]
  cases isKind : filter.kind with
  | inList items => exact hasContent_ofList (nonempty items isKind)
  | null | boolean _ | integer _ | float _ | string _ | like _ | regexp _ =>
      exact Test.hasContent_text _

end Conditions

/-- A clause is a condition, or it has words of its own. -/
theorem Clause.hasContent_text
    {clause : Clause}
    (conditions : ∀ text ∈ clause.conditions, HasContent text.toList) :
    HasContent clause.text.toList := by
  cases clause with
  | condition text => exact conditions text List.mem_cons_self
  | negation operand =>
      exact ⟨'N', by simp [Clause.text], by decide⟩
  | operation operator left right =>
      cases operator with
      | and => exact ⟨'A', by simp [Clause.text, LogicalOperator.sqlKeyword], by decide⟩
      | or | xor =>
          exact ⟨'O', by simp [Clause.text, LogicalOperator.sqlKeyword], by decide⟩
  | xorCall left right => exact ⟨'X', by simp [Clause.text], by decide⟩

/-! ## Where clauses -/

namespace Fragment

variable {declaration : Declaration} {mapping : Mapping} {query : Query} {dialect : Dialect}

theorem whereClauseOf_eq_none_iff
    {conditions : List (Nat × String)} {expression : Option Expression}
    {whereClause : Option String}
    (content : ∀ condition ∈ conditions, HasContent condition.2.toList)
    (done : whereClauseOf dialect conditions expression = .ok whereClause) :
    whereClause = none ↔ conditions = [] := by
  unfold whereClauseOf at done
  by_cases isEmpty : conditions = []
  · subst isEmpty
    cases done
    exact iff_of_true rfl rfl
  have notEmpty : conditions.isEmpty = false :=
    List.isEmpty_eq_false_iff.mpr isEmpty
  rw [notEmpty, if_neg Bool.false_ne_true] at done
  obtain ⟨text, combined, rfl⟩ := Outcome.map_eq_ok_iff.mp done
  have hasContent : HasContent text.toList := by
    cases expression with
    | none =>
        cases combined
        obtain ⟨condition, rest, rfl⟩ := List.exists_cons_of_ne_nil isEmpty
        have isPart :
            condition.2.toList <:+:
              (" AND ".intercalate ((condition :: rest).map Prod.snd)).toList :=
          isInfix_intercalate (List.mem_map_of_mem List.mem_cons_self)
        exact (content condition List.mem_cons_self).of_isInfix isPart
    | some given =>
        obtain ⟨clause, isBuilt, rfl⟩ := combineConditions_some_eq_ok_iff.mp combined
        apply Clause.hasContent_text
        intro condition member
        obtain ⟨index, _, found⟩ :=
          (Clause.mem_conditions_ofTree isBuilt).mp member
        exact content (index, condition) (Slots.mem_of_lookup found)
  obtain ⟨enclosed, isSome⟩ := exists_enclose_eq_some hasContent
  rw [isSome]
  exact iff_of_false nofun isEmpty

/-- There is no where clause exactly when there are no filters. -/
theorem Covers.whereClause_eq_none_iff
    {fragment : Fragment} (covers : fragment.Covers dialect mapping query)
    (parsed : query.Parsed) :
    fragment.whereClause = none ↔ query.filters.entries = [] := by
  obtain ⟨resolved, _, conditions, done, _⟩ := covers.filters
  have content :
      ∀ condition ∈ conditionTexts dialect resolved,
        HasContent condition.2.toList := by
    intro condition member
    obtain ⟨position, inBounds, rfl⟩ := List.getElem_of_mem member
    have inFilters : position < query.filters.entries.length := by
      rw [conditions.length_eq]
      exact inBounds
    obtain ⟨rule, column, _, _, _, isCondition⟩ :=
      conditions.get inFilters inBounds
    obtain ⟨text, isRead⟩ :=
      parsed.filtersRead _ (List.getElem_mem inFilters)
    simp only [List.get_eq_getElem] at isCondition
    rw [isCondition]
    exact hasContent_ofFilter fun items => Filter.items_ne_nil_of_parse isRead
  rw [whereClauseOf_eq_none_iff content done, ← List.length_eq_zero_iff,
    ← conditions.length_eq, List.length_eq_zero_iff]

end Fragment

end FilterQuery.Sql
